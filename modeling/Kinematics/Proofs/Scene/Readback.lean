import Kinematics.Proofs.Entity.PoseFrame
import Kinematics.Proofs.Frame.Climbing
import Kinematics.Proofs.Scene.Members
import Kinematics.Proofs.Scene.Motion
import Kinematics.Proofs.Scene.Relocation

/-!
# Reading a pose back

A loaded entity is asked for its pose in the frame that it refers to.  Graphs only grow, so
whatever happens to them in the meantime, the name still stands for the same frame and the
search still follows the edge that the load has made.  The answer then undoes the inverse of the
payload, which is the pose that the entity has by then.
-/

namespace Kinematics

namespace GraphStore

variable {α : Type} {graph : FrameGraph α} {id : GraphId}

theorem extends_create {store : GraphStore α}
    (kept : id.index < store.graphs.length ∧ graph.Extends (store.graph id))
    (other : FrameGraph α) :
    id.index < (store.create other).1.graphs.length ∧
      graph.Extends ((store.create other).1.graph id) := by
  obtain ⟨known, extension⟩ := kept
  rw [graph_create_of_lt known]
  refine ⟨?_, extension⟩
  simp only [create, List.length_append]
  omega

/-- Placing a frame and creating a graph extend every graph there is. -/
theorem kept_extends [Scalar α] (graph : FrameGraph α) (id : GraphId) :
    Kept fun after : GraphStore α =>
      id.index < after.graphs.length ∧ graph.Extends (after.graph id) where
  place := by
    intro store place frame tieBreak kept
    cases place with
    | none => exact extends_create kept _
    | some other =>
        obtain ⟨known, extension⟩ := kept
        rw [Binding.placeFrame_some, length_set]
        refine ⟨known, ?_⟩
        rcases store.graph_set other id _ with same | ⟨rfl, attached⟩
        · rwa [same]
        · rw [attached]
          obtain ⟨anchor, gains⟩ := (store.graph other).exists_gainsLeaf_attach frame.name
            (.ofPose frame.pose) frame.reference tieBreak
          exact extension.trans gains.extension
  create := fun kept => extends_create kept _
  createRoot := fun _ kept => extends_create kept _

end GraphStore

namespace Member

variable {α : Type} [Scalar α]

/-- The name of the frame that a loaded member is placed relative to. -/
def reference? : Member α → Option String
  | link entity => some entity.poseFrame
  | light entity => some entity.poseFrame
  | joint entity => some entity.parent
  | axis _ | binding _ | model _ => none

/-- One thing that happens after a member has been loaded: to another member, to a graph, or to
the member itself. -/
inductive Happening (α : Type) where
  | create (kind : MemberKind)
  | load (other : Member α) (source : MemberSource α)
  | addVertex (graph : GraphId) (name : String) (payload : Transform α)
  | addEdge (graph : GraphId) (source target : VertexId) (direction : Direction)
  | addEdgePair (graph : GraphId) (reference child : VertexId)
  | move (pose : Pose α)
  | tell (detail : Detail α)

/-- The graphs and the member afterwards. -/
def happen (state : GraphStore α × Member α) : Happening α → GraphStore α × Member α
  | .create kind => ((Member.new state.1 kind).1, state.2)
  | .load other source => ((other.load source state.1).store, state.2)
  | .addVertex id name payload =>
    (state.1.set id ((state.1.graph id).addVertex name payload).1, state.2)
  | .addEdge id source target direction =>
    match (state.1.graph id).addEdge source target direction with
    | .ok (graph, _) => (state.1.set id graph, state.2)
    | .error _ => state
  | .addEdgePair id reference child =>
    match (state.1.graph id).addEdgePair reference child with
    | .ok (graph, _) => (state.1.set id graph, state.2)
    | .error _ => state
  | .move pose => state.2.setPose state.1 pose
  | .tell detail => (state.1, state.2.tell detail)

/-- The frame of the member has its pose, and climbs to the first frame with a name. -/
structure Moored (state : GraphStore α × Member α) (frame : Binding) (above : VertexId)
    (name reference : String) : Prop where
  attached : frame.attached
  known : frame.graph.index < state.1.graphs.length
  own : state.2.frame? = some frame
  pose : ∃ pose, state.2.pose? = some pose ∧
    (state.1.graph frame.graph).vertex? frame.vertex = some ⟨name, Transform.ofPose pose⟩
  within : (state.1.graph frame.graph).EdgesWithin
  climbs : (state.1.graph frame.graph).ClimbsTo frame.vertex above
  first : (state.1.graph frame.graph).vertices.findIdx? (·.name == reference) = some above.index

namespace Moored

variable {state : GraphStore α × Member α} {frame : Binding} {above : VertexId}
  {name reference : String} (moored : Moored state frame above name reference)

include moored

theorem extended {store : GraphStore α} (known : frame.graph.index < store.graphs.length)
    (extension : (state.1.graph frame.graph).Extends (store.graph frame.graph)) :
    Moored (store, state.2) frame above name reference := by
  obtain ⟨pose, isPose, isVertex⟩ := moored.pose
  exact ⟨moored.attached, known, moored.own, ⟨pose, isPose, extension.vertex?_eq isVertex⟩,
    extension.within moored.within, moored.climbs.extended extension,
    extension.findIdx?_eq moored.first⟩

/-- A graph of the store is replaced by one that extends it. -/
theorem set {id : GraphId} {graph : FrameGraph α}
    (extension : (state.1.graph id).Extends graph) :
    Moored (state.1.set id graph, state.2) frame above name reference := by
  apply moored.extended
  · rw [GraphStore.length_set]
    exact moored.known
  · rcases state.1.graph_set id frame.graph graph with same | ⟨rfl, replaced⟩
    · rw [same]
      exact .refl _
    · rwa [replaced]

theorem move (pose : Pose α) :
    Moored (state.2.setPose state.1 pose) frame above name reference := by
  obtain ⟨before, isBefore, isVertex⟩ := moored.pose
  have isStore : (state.2.setPose state.1 pose).1 = frame.setPose state.1 pose := by
    rw [store_setPose, moored.own]
    rfl
  have differ := state.1.differAt_setPose frame pose
  refine ⟨moored.attached, ?_, ?_, ⟨pose, pose?_setPose_of_some isBefore .., ?_⟩, ?_, ?_, ?_⟩
  · rw [isStore, (state.1.changesOnly_setPose frame pose).count]
    exact moored.known
  · rw [frame?_setPose]
    exact moored.own
  · rw [isStore]
    exact GraphStore.vertex?_setPose isVertex pose
  · rw [isStore]
    exact moored.within.of_le differ.edges differ.length_vertices.ge
  · rw [isStore]
    exact moored.climbs.of_edges_eq differ.edges
  · rw [isStore, ← FrameGraph.findIdx?_names, differ.names_eq, FrameGraph.findIdx?_names]
    exact moored.first

theorem tell (detail : Detail α) :
    Moored (state.1, state.2.tell detail) frame above name reference := by
  obtain ⟨sameFrame, samePose⟩ := coincides_tell state.2 detail
  obtain ⟨pose, isPose, isVertex⟩ := moored.pose
  exact ⟨moored.attached, moored.known, sameFrame.trans moored.own,
    ⟨pose, samePose.trans isPose, isVertex⟩, moored.within, moored.climbs, moored.first⟩

/-- Nothing that happens tears the member off. -/
theorem happen (happening : Happening α) :
    Moored (Member.happen state happening) frame above name reference := by
  have kept := GraphStore.kept_extends (state.1.graph frame.graph) frame.graph
  cases happening with
  | create kind =>
      obtain ⟨known, extension⟩ := kept.new ⟨moored.known, .refl _⟩ kind
      exact moored.extended known extension
  | load other source =>
      obtain ⟨known, extension⟩ := kept.load ⟨moored.known, .refl _⟩ other source
      exact moored.extended known extension
  | addVertex id name payload => exact moored.set (.addVertex ..)
  | addEdge id source target direction =>
      cases added : (state.1.graph id).addEdge source target direction with
      | ok result =>
          simp only [Member.happen, added]
          exact moored.set (.addEdge added)
      | error problem =>
          simp only [Member.happen, added]
          exact moored
  | addEdgePair id upper child =>
      cases added : (state.1.graph id).addEdgePair upper child with
      | ok result =>
          simp only [Member.happen, added]
          exact moored.set (.addEdgePair added)
      | error problem =>
          simp only [Member.happen, added]
          exact moored
  | move pose => exact moored.move pose
  | tell detail => exact moored.tell detail

theorem foldl_happen (happenings : List (Happening α)) :
    Moored (happenings.foldl Member.happen state) frame above name reference := by
  induction happenings generalizing state with
  | nil => exact moored
  | cons happening rest induction => exact induction (moored.happen happening)

/-- The pose in the reference undoes the inverse of the payload. -/
theorem poseInFrame_eq (distinct : name ≠ reference) :
    ∃ pose, state.2.pose? = some pose ∧
      frame.poseInFrame state.1 reference =
        .ok (Transform.identity * (Transform.ofPose pose).rigidInverse).rigidInverse.toPose := by
  obtain ⟨pose, isPose, isVertex⟩ := moored.pose
  refine ⟨pose, isPose, ?_⟩
  unfold Binding.poseInFrame
  rw [if_pos moored.attached]
  simp only [isVertex, distinct, if_false, FrameGraph.resolveName_firstInserted,
    moored.first]
  exact congrArg _ (moored.climbs.poseBetween_eq moored.within isVertex)

end Moored

section Load

variable {store : GraphStore α} {id : GraphId} (known : id.index < store.graphs.length)
  (within : (store.graph id).EdgesWithin) {reference : String} {tieBreak : TieBreak}
  {above : VertexId} (resolved : (store.graph id).resolveName reference tieBreak = .ok above)

include known within resolved

theorem moored_of_place {member : Member α} (name owner : String) {pose : Pose α}
    (own : member.frame? =
      some (Binding.place store (some id) name pose reference tieBreak owner).2.1)
    (isPose : member.pose? = some pose) :
    Moored ((Binding.place store (some id) name pose reference tieBreak owner).1, member)
      (Binding.place store (some id) name pose reference tieBreak owner).2.1 above name
      reference := by
  let attached := (store.graph id).attach name (Transform.ofPose pose) reference tieBreak
  have isGraph : (store.set id attached.graph).graph id = attached.graph :=
    store.graph_set_self known attached.graph
  have isLast : attached.vertex = (store.graph id).fresh :=
    (store.graph id).vertex_attach name (Transform.ofPose pose) reference tieBreak
  obtain ⟨position, resolves, rfl⟩ : ∃ position,
      tieBreak.resolve (store.graph id).names reference = some position ∧ ⟨position⟩ = above := by
    have same := (store.graph id).resolveName_eq reference tieBreak
    rw [resolved] at same
    exact Option.map_eq_some_iff.mp same.symm
  obtain ⟨anchor, gains⟩ := (store.graph id).exists_gainsLeaf_attach name (Transform.ofPose pose)
    reference tieBreak
  have isKnown : Binding.Known (some id) store := by
    rintro other ⟨⟩
    exact known
  obtain ⟨-, placed⟩ :=
    Binding.vertexAt?_place isKnown name pose reference tieBreak owner
  refine ⟨rfl, ?_, own, ⟨pose, isPose, placed⟩, ?_, ?_, ?_⟩
  · exact (store.length_set id attached.graph).symm ▸ known
  · change ((store.set id attached.graph).graph id).EdgesWithin
    rw [isGraph]
    exact gains.edgesWithin within
  · change ((store.set id attached.graph).graph id).ClimbsTo attached.vertex ⟨position⟩
    rw [isGraph, isLast]
    exact FrameGraph.climbsTo_attach within resolves
  · change ((store.set id attached.graph).graph id).vertices.findIdx? _ = some position
    have first := TieBreak.findIdx?_of_resolve resolves
    rw [FrameGraph.findIdx?_names] at first
    rw [isGraph]
    exact gains.extension.findIdx?_eq first

end Load

/-- A member is moored by a load that connects its frame. -/
theorem exists_moored_load {store : GraphStore α} {member : Member α} {source : MemberSource α}
    {id : GraphId} {reference : String} {above : VertexId} (takes : member.Takes source.element)
    (isGraph : source.graph = some id) (known : id.index < store.graphs.length)
    (within : (store.graph id).EdgesWithin)
    (isReference : (member.load source store).entity.reference? = some reference)
    (resolved : (store.graph id).resolveName reference source.tieBreak = .ok above) :
    ∃ frame name, Moored ((member.load source store).store, (member.load source store).entity)
      frame above name reference := by
  obtain ⟨element, graph, tieBreak, settings, placement⟩ := source
  obtain rfl : graph = some id := isGraph
  cases member with
  | link before =>
      have isLink : element.kind = "link" := takes
      simp only [load, Link.load, isLink, if_true] at isReference ⊢
      obtain rfl := Option.some.inj isReference
      exact ⟨_, _, moored_of_place known within resolved (element.name?.getD "")
        EntityKind.link.label rfl rfl⟩
  | joint before =>
      have isJoint : element.kind = "joint" := takes
      simp only [load, Joint.load, isJoint, if_true] at isReference ⊢
      obtain rfl := Option.some.inj isReference
      exact ⟨_, _, moored_of_place known within resolved (element.name?.getD "")
        EntityKind.joint.label rfl rfl⟩
  | light before =>
      have isLight : element.kind = "light" := takes
      simp only [load, Light.load, isLight, if_true] at isReference ⊢
      obtain rfl := Option.some.inj isReference
      exact ⟨_, _, moored_of_place known within resolved (element.name?.getD "")
        EntityKind.light.label rfl rfl⟩
  | axis => exact takes.elim
  | binding => exact takes.elim
  | model => exact takes.elim

/-- A link, a joint or a light is loaded into a graph with any edges, where its frame is
connected to the one that its reference names.  After whatever else happens to the graphs and
whatever the member is told, the frame has the pose of the member in the frame of that name,
unless it has the name itself.  The member says so if it is asked for a name that is not empty;
asked for the empty one, it speaks of its pose frame, and says so if that is its reference. -/
theorem poseInFrame_reference {store : GraphStore ℝ} {member : Member ℝ} {source : MemberSource ℝ}
    {id : GraphId} {reference : String} {above : VertexId} (takes : member.Takes source.element)
    (isGraph : source.graph = some id) (known : id.index < store.graphs.length)
    (within : (store.graph id).EdgesWithin)
    (isReference : (member.load source store).entity.reference? = some reference)
    (resolved : (store.graph id).resolveName reference source.tieBreak = .ok above)
    (happenings : List (Happening ℝ)) :
    let loaded := member.load source store
    let after := happenings.foldl happen (loaded.store, loaded.entity)
    ∃ frame pose, after.2.frame? = some frame ∧ after.2.pose? = some pose ∧
      (frame.name after.1 ≠ reference → pose.rotation.IsUnit →
        ∃ told, Transform.ofPose told = Transform.ofPose pose ∧
          frame.poseInFrame after.1 reference = .ok told ∧
          (reference ≠ "" → after.2.poseInFrame? after.1 reference = some (.ok told)) ∧
          (after.2.poseFrame? = some reference →
            after.2.poseInFrame? after.1 "" = some (.ok told))) := by
  intro loaded after
  obtain ⟨frame, name, start⟩ :=
    exists_moored_load takes isGraph known within isReference resolved
  have moored : Moored after frame above name reference := start.foldl_happen happenings
  obtain ⟨pose, isPose, isVertex⟩ := moored.pose
  refine ⟨frame, pose, moored.own, isPose, ?_⟩
  intro distinct isUnit
  have isName : frame.name after.1 = name := by
    unfold Binding.name
    rw [isVertex]
    rfl
  obtain ⟨same, isSame, answer⟩ := moored.poseInFrame_eq (isName ▸ distinct)
  obtain rfl : pose = same := Option.some.inj (isPose.symm.trans isSame)
  have rigid : (Transform.ofPose pose).IsRigid := Transform.isRigid_ofPose isUnit
  rw [← Transform.one_eq_identity, one_mul, rigid.rigidInverse_rigidInverse] at answer
  refine ⟨_, Transform.ofPose_toPose rigid, answer, ?_, ?_⟩
  · intro named
    rw [poseInFrame?_eq, moored.own, asked_of_ne named]
    exact congrArg some answer
  · intro isFrame
    rw [poseInFrame?_eq, moored.own, asked_empty isFrame]
    exact congrArg some answer

/-- A hub that has not been loaded. -/
noncomputable def hub : Member ℝ := link ⟨Pose.identity, "", ⟨⟨0⟩, ⟨0⟩, false⟩, none⟩

/-- What a hub and a spare one are loaded from. -/
noncomputable def hubSource : MemberSource ℝ :=
  ⟨⟨"link", .ofList [("name", .string "hub")], none, []⟩, some ⟨0⟩, .unique, .default, .unloaded⟩

/-- A world without frames in it. -/
noncomputable def worldStart : GraphStore ℝ := ⟨[.withRoot "world"]⟩

/-- Another frame takes the name of the reference, the hub is tied to it and moved, and a spare
one is loaded. -/
noncomputable def hubHappenings : List (Happening ℝ) :=
  [.addVertex ⟨0⟩ "world" Transform.identity, .addEdge ⟨0⟩ ⟨1⟩ ⟨2⟩ .forward,
    .move FrameGraph.tilt, .load hub hubSource]

theorem poseInFrame_reference_hub :
    let loaded := hub.load hubSource worldStart
    let after := hubHappenings.foldl happen (loaded.store, loaded.entity)
    ∃ told, Transform.ofPose told = Transform.ofPose FrameGraph.tilt ∧
      after.2.poseInFrame? after.1 "world" = some (.ok told) ∧
      after.2.poseInFrame? after.1 "" = some (.ok told) := by
  intro loaded after
  have takes : hub.Takes hubSource.element := rfl
  have known : 0 < worldStart.graphs.length := Nat.one_pos
  have within : (worldStart.graph ⟨0⟩).EdgesWithin :=
    (FrameGraph.Reachable.withRoot "world").edgesWithin
  have isReference : (hub.load hubSource worldStart).entity.reference? = some "world" := rfl
  have resolved : (worldStart.graph ⟨0⟩).resolveName "world" hubSource.tieBreak = .ok ⟨0⟩ := rfl
  obtain ⟨frame, pose, isFrame, isPose, reads⟩ :=
    poseInFrame_reference takes rfl known within isReference resolved hubHappenings
  obtain rfl : FrameGraph.tilt = pose := Option.some.inj isPose
  obtain rfl : (⟨⟨0⟩, ⟨1⟩, true⟩ : Binding) = frame := Option.some.inj isFrame
  have distinct : (⟨⟨0⟩, ⟨1⟩, true⟩ : Binding).name after.1 ≠ "world" := by decide +kernel
  obtain ⟨told, same, -, asked, unasked⟩ := reads distinct FrameGraph.isUnit_tilt
  exact ⟨told, same, asked (by decide), unasked rfl⟩

/-- A world in which a frame has the empty name. -/
noncomputable def namelessStart : GraphStore ℝ :=
  ⟨[((FrameGraph.withRoot "world").addVertex "" Transform.identity).1]⟩

/-- What a hinge at that frame is loaded from. -/
noncomputable def hingeSource : MemberSource ℝ :=
  { hubSource with
    element := ⟨"joint", .ofList [("name", .string "hinge"), ("parent", .string ""),
      ("child", .string "wheel"), ("type", .string "fixed")], none, []⟩ }

/-- A joint whose reference has the empty name is connected to it, and is asked for its pose
there in vain: the empty name stands for the pose frame, which is that of the child. -/
theorem poseInFrame_reference_nameless :
    let loaded := Member.load (joint (Joint.new GraphStore.empty).2) hingeSource namelessStart
    (namelessStart.graph ⟨0⟩).resolveName "" .unique = .ok ⟨1⟩ ∧
      loaded.entity.reference? = some "" ∧
      (∃ frame, loaded.entity.frame? = some frame ∧ frame.name loaded.store = "hinge") ∧
      (∃ pose, loaded.entity.pose? = some pose ∧ pose.rotation.IsUnit) ∧
      loaded.entity.poseInFrame? loaded.store "" =
        some (.error (.resolve (.notFound "wheel"))) :=
  ⟨rfl, rfl, ⟨_, rfl, rfl⟩, ⟨_, rfl, Quaternion.isUnit_identity⟩, rfl⟩

end Member

end Kinematics
