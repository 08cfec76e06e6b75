import Kinematics.Proofs.Frame.Growth
import Kinematics.Proofs.Model.Loading
import Kinematics.Proofs.Scene.Members
import Kinematics.Proofs.Scene.Relocation
import Kinematics.Scene.Operation

/-!
# What operations leave alone

An operation on a member reaches the graphs of a scene through the frame of that member
alone.  Giving it a name or a pose changes one vertex, loading it into a graph adds to that
graph, and whatever else is done changes no graph.  Vertices, edges and roots that were there
stay under their identifiers, and members under other names stay as they are.
-/

namespace Kinematics

variable {α : Type}

namespace GraphStore

/-- Nothing has changed except for the vertex of a frame, if one is given. -/
structure ChangesOnly (before after : GraphStore α) (frame : Option Binding)
    (change : Vertex α → Vertex α) : Prop where
  count : after.graphs.length = before.graphs.length
  edges : ∀ id, (after.graph id).edges = (before.graph id).edges
  root : ∀ id, (after.graph id).root = (before.graph id).root
  own : ∀ binding ∈ frame, after.vertexAt? binding = (before.vertexAt? binding).map change
  others : ∀ other, (∀ binding ∈ frame, ¬other.Meets binding) →
    after.vertexAt? other = before.vertexAt? other

/-- One graph has gained a vertex, with edges to one older vertex if any, and nothing else has
changed. -/
structure AppendsTo (before after : GraphStore α) (id : GraphId) : Prop where
  count : after.graphs.length = before.graphs.length
  others : ∀ other, other ≠ id → after.graph other = before.graph other
  root : (after.graph id).root = (before.graph id).root
  leaf : ∃ anchor, (before.graph id).GainsLeaf (after.graph id) anchor

/-- Graphs, vertices, edges and roots are where they were. -/
structure Grows (before after : GraphStore α) : Prop where
  count : before.graphs.length ≤ after.graphs.length
  vertices : ∀ id vertex, (before.graph id).contains vertex → (after.graph id).contains vertex
  edges : ∀ id edge found, (before.graph id).edge? edge = some found →
    (after.graph id).edge? edge = some found
  root : ∀ id, id.index < before.graphs.length → (after.graph id).root = (before.graph id).root

namespace Grows

theorem refl (store : GraphStore α) : store.Grows store :=
  ⟨Nat.le_refl _, fun _ _ found => found, fun _ _ _ found => found, fun _ _ => rfl⟩

theorem of_eq {before after : GraphStore α} (same : after = before) : before.Grows after :=
  same ▸ refl after

theorem trans {first second third : GraphStore α} (left : first.Grows second)
    (right : second.Grows third) : first.Grows third where
  count := left.count.trans right.count
  vertices := fun id vertex found => right.vertices id vertex (left.vertices id vertex found)
  edges := fun id edge found old => right.edges id edge found (left.edges id edge found old)
  root := fun id old => (right.root id (old.trans_le left.count)).trans (left.root id old)

theorem create (store : GraphStore α) (graph : FrameGraph α) :
    store.Grows (store.create graph).1 := by
  have old (id : GraphId) :
      store.graph id = .empty ∨ (store.create graph).1.graph id = store.graph id := by
    by_cases known : id.index < store.graphs.length
    · exact .inr (graph_create_of_lt known graph)
    · exact .inl (graph_of_length_le (Nat.le_of_not_lt known))
  refine ⟨by simp [GraphStore.create], ?_, ?_, ?_⟩
  · intro id vertex found
    rcases old id with isEmpty | same
    · rw [isEmpty] at found
      cases found
    · rwa [same]
  · intro id edge joins found
    rcases old id with isEmpty | same
    · rw [isEmpty] at found
      cases found
    · rwa [same]
  · intro id known
    rw [graph_create_of_lt known]

end Grows

/-- A vertex that is changed in place is the only change. -/
theorem changesOnly_modifyVertex {store : GraphStore α} {frame : Binding}
    {change : Vertex α → Vertex α} {graph : FrameGraph α}
    (success : (store.graph frame.graph).modifyVertex frame.vertex change = .ok graph) :
    store.ChangesOnly (store.set frame.graph graph) (some frame) change := by
  have vertexAt := vertexAt?_modify success
  obtain ⟨-, rfl⟩ := FrameGraph.modifyVertex_eq_ok success
  refine ⟨store.length_set _ _, ?_, ?_, ?_, ?_⟩
  · intro id
    rcases store.graph_set frame.graph id _ with same | ⟨rfl, changed⟩
    · rw [same]
    · rw [changed]
  · intro id
    rcases store.graph_set frame.graph id _ with same | ⟨rfl, changed⟩
    · rw [same]
    · rw [changed]
  · rintro binding ⟨⟩
    rw [vertexAt, if_pos ⟨rfl, rfl⟩]
  · intro other apart
    rw [vertexAt, if_neg (apart frame rfl)]

namespace ChangesOnly

variable {before after : GraphStore α} {frame : Option Binding} {change : Vertex α → Vertex α}

theorem none (store : GraphStore α) (change : Vertex α → Vertex α) :
    store.ChangesOnly store none change :=
  ⟨rfl, fun _ => rfl, fun _ => rfl, nofun, fun _ _ => rfl⟩

theorem grows (changes : before.ChangesOnly after frame change) : before.Grows after where
  count := changes.count.ge
  vertices := by
    intro id vertex found
    have isVertex : (before.vertexAt? ⟨id, vertex, true⟩).isSome = true := found
    change (after.vertexAt? ⟨id, vertex, true⟩).isSome = true
    by_cases own : ∃ binding ∈ frame, Binding.Meets ⟨id, vertex, true⟩ binding
    · obtain ⟨binding, isFrame, meets⟩ := own
      rw [after.vertexAt?_of_meets meets, changes.own binding isFrame, Option.isSome_map,
        ← before.vertexAt?_of_meets meets]
      exact isVertex
    · rw [changes.others]
      · exact isVertex
      · exact fun binding isFrame meets => own ⟨binding, isFrame, meets⟩
  edges := by
    intro id edge joins found
    unfold FrameGraph.edge?
    rwa [changes.edges]
  root := fun id _ => changes.root id

end ChangesOnly

/-- A frame changes its own vertex or, if that is missing, nothing. -/
theorem changesOnly_of_modifyVertex (store : GraphStore α) (frame : Binding)
    (change : Vertex α → Vertex α) :
    store.ChangesOnly
      (match (store.graph frame.graph).modifyVertex frame.vertex change with
        | .ok graph => store.set frame.graph graph
        | .error _ => store)
      (some frame) change := by
  cases result : (store.graph frame.graph).modifyVertex frame.vertex change with
  | ok graph => exact changesOnly_modifyVertex result
  | error problem =>
      have missing : store.vertexAt? frame = none := by
        by_contra present
        have contained : (store.graph frame.graph).contains frame.vertex :=
          Option.isSome_iff_ne_none.mpr present
        unfold FrameGraph.modifyVertex at result
        rw [if_pos contained] at result
        cases result
      refine ⟨rfl, fun _ => rfl, fun _ => rfl, ?_, fun _ _ => rfl⟩
      rintro binding ⟨⟩
      rw [missing]
      rfl

theorem AppendsTo.grows {before after : GraphStore α} {id : GraphId}
    (appends : before.AppendsTo after id) : before.Grows after := by
  obtain ⟨anchor, gains⟩ := appends.leaf
  refine ⟨appends.count.ge, ?_, ?_, ?_⟩
  · intro other vertex found
    by_cases here : other = id
    · subst here
      unfold FrameGraph.contains at found ⊢
      rwa [gains.vertex?_eq found]
    · rwa [appends.others other here]
  · intro other edge joins found
    by_cases here : other = id
    · subst here
      exact gains.extension.edge?_eq found
    · rwa [appends.others other here]
  · intro other _
    by_cases here : other = id
    · subst here
      exact appends.root
    · rw [appends.others other here]

theorem appendsTo_attach {store : GraphStore α} {id : GraphId}
    (known : id.index < store.graphs.length) (name : String) (payload : Transform α)
    (reference : String) (tieBreak : TieBreak) :
    store.AppendsTo (store.set id ((store.graph id).attach name payload reference tieBreak).graph)
      id := by
  refine ⟨store.length_set _ _, ?_, ?_, ?_⟩
  · intro other different
    rcases store.graph_set id other _ with same | ⟨same, -⟩
    · exact same
    · exact absurd same.symm different
  · rw [graph_set_self known]
    exact (store.graph id).root_attach name payload reference tieBreak
  · rw [graph_set_self known]
    exact (store.graph id).exists_gainsLeaf_attach name payload reference tieBreak

/-- Placing a frame and creating a graph leave everything where it was. -/
theorem kept_grows [Scalar α] (before : GraphStore α) :
    Kept fun after : GraphStore α => before.Grows after where
  place := by
    intro store graph frame tieBreak grows
    refine grows.trans ?_
    cases graph with
    | none => exact .create store _
    | some id =>
        rw [Binding.placeFrame_some]
        by_cases known : id.index < store.graphs.length
        · exact (appendsTo_attach known _ _ _ _).grows
        · rw [set_of_length_le (Nat.le_of_not_lt known)]
          exact .refl store
  create := fun grows => grows.trans (.create _ _)
  createRoot := fun name grows => grows.trans (.create _ _)

end GraphStore

variable [Scalar α]

namespace Member

/-- An element is of a kind that the member can be loaded from. -/
def Accepts (element : Element α) : Member α → Prop
  | link _ => element.kind = "link"
  | joint _ => element.kind = "joint"
  | light _ => element.kind = "light"
  | axis _ => element.kind ∈ Axis.elementKinds
  | binding _ => True
  | model _ => element.kind = "model"

/-- The graph that a load attaches the frame of the member to. -/
def attachesTo? (source : MemberSource α) : Member α → Option GraphId
  | link _ | joint _ | light _ | binding _ => source.graph
  | axis _ | model _ => none

/-- A load has left all graphs as they were, and the member is in none of them. -/
structure StandsApart (before : GraphStore α) (loaded : Loaded α (Member α)) : Prop where
  graphs : before.graphs <+: loaded.store.graphs
  home : ∀ id ∈ loaded.entity.home?,
    before.graphs.length ≤ id.index ∧ id.index < loaded.store.graphs.length

/-- What a load has done to the graphs.  The member reports an element that it does not accept
and stands apart, as it does where there is no graph to attach it to. -/
structure LoadEffect (member : Member α) (source : MemberSource α) (before : GraphStore α)
    (loaded : Loaded α (Member α)) : Prop where
  refused : ¬member.Accepts source.element →
    loaded.diagnostics.map Diagnostic.code = [.elementIncorrectType] ∧ StandsApart before loaded
  alone : member.Accepts source.element → member.attachesTo? source = none →
    StandsApart before loaded
  attached : ∀ id, member.Accepts source.element → member.attachesTo? source = some id →
    id.index < before.graphs.length → before.AppendsTo loaded.store id

omit [Scalar α] in
/-- A member whose frame is in a graph that was added stands apart. -/
theorem standsApart_of_create {before : GraphStore α} {loaded : Loaded α (Member α)}
    {graph : FrameGraph α} (isStore : loaded.store = (before.create graph).1)
    (isHome : loaded.entity.home? = some ⟨before.graphs.length⟩) : StandsApart before loaded := by
  refine ⟨isStore ▸ List.prefix_append _ _, ?_⟩
  intro id isIn
  obtain rfl := Option.some.inj (isHome.symm.trans isIn)
  rw [isStore]
  simp [GraphStore.create]

/-- A member has placed its frame in a graph, or in one of its own. -/
structure Placed (before : GraphStore α) (graph : Option GraphId)
    (loaded : Loaded α (Member α)) : Prop where
  store : ∃ frame tieBreak, loaded.store = Binding.placeFrame before graph frame tieBreak
  home : loaded.entity.home? = some (graph.getD ⟨before.graphs.length⟩)

theorem Placed.standsApart {before : GraphStore α} {loaded : Loaded α (Member α)}
    (placed : Placed before none loaded) : StandsApart before loaded := by
  obtain ⟨frame, tieBreak, isStore⟩ := placed.store
  exact standsApart_of_create (isStore.trans (Binding.placeFrame_none ..)) placed.home

theorem Placed.appendsTo {before : GraphStore α} {loaded : Loaded α (Member α)} {id : GraphId}
    (placed : Placed before (some id) loaded) (known : id.index < before.graphs.length) :
    before.AppendsTo loaded.store id := by
  obtain ⟨frame, tieBreak, isStore⟩ := placed.store
  rw [isStore, Binding.placeFrame_some]
  exact GraphStore.appendsTo_attach known _ _ _ _

/-- A member with a frame places it in the graph that it is given if it accepts the element,
and in one of its own otherwise. -/
theorem loadEffect_of_placed {member : Member α} {source : MemberSource α} {before : GraphStore α}
    (isGraph : member.attachesTo? source = source.graph)
    (refused : ¬member.Accepts source.element →
      (member.load source before).diagnostics.map Diagnostic.code = [.elementIncorrectType] ∧
        Placed before none (member.load source before))
    (accepted : member.Accepts source.element →
      Placed before source.graph (member.load source before)) :
    member.LoadEffect source before (member.load source before) := by
  refine ⟨fun refuses => ?_, fun accepts alone => ?_, fun id accepts attaches known => ?_⟩
  · obtain ⟨reports, placed⟩ := refused refuses
    exact ⟨reports, placed.standsApart⟩
  · have placed := accepted accepts
    rw [← isGraph, alone] at placed
    exact placed.standsApart
  · have placed := accepted accepts
    rw [← isGraph, attaches] at placed
    exact placed.appendsTo known

theorem graph_place (store : GraphStore α) (graph : Option GraphId) (name : String)
    (pose : Pose α) (reference : String) (tieBreak : TieBreak) (owner : String) :
    (Binding.place store graph name pose reference tieBreak owner).2.1.graph =
      graph.getD ⟨store.graphs.length⟩ := by
  cases graph <;> rfl

theorem loadEffect (member : Member α) (source : MemberSource α) (before : GraphStore α) :
    member.LoadEffect source before (member.load source before) := by
  -- Links, joints, lights and plain frames place a frame; an axis has none, a model has many.
  cases member with
  | link entity =>
      refine loadEffect_of_placed rfl (fun refuses => ?_) fun accepts => ?_
      · have isOther : ¬source.element.kind = "link" := refuses
        simp only [load, Link.load, if_neg isOther]
        exact ⟨rfl, ⟨.unloaded, .unique, rfl⟩, rfl⟩
      · have isLink : source.element.kind = "link" := accepts
        have isStore := Link.store_load source.element source.graph source.tieBreak before
        rw [if_pos isLink] at isStore
        refine ⟨⟨_, _, isStore⟩, ?_⟩
        simp only [load, Link.load, if_pos isLink]
        exact congrArg some (graph_place ..)
  | joint entity =>
      refine loadEffect_of_placed rfl (fun refuses => ?_) fun accepts => ?_
      · have isOther : ¬source.element.kind = "joint" := refuses
        simp only [load, Joint.load, if_neg isOther]
        exact ⟨rfl, ⟨.unloaded, .unique, rfl⟩, rfl⟩
      · have isJoint : source.element.kind = "joint" := accepts
        have isStore := Joint.store_load source.element source.graph source.tieBreak before
        rw [if_pos isJoint] at isStore
        refine ⟨⟨_, _, isStore⟩, ?_⟩
        simp only [load, Joint.load, if_pos isJoint]
        exact congrArg some (graph_place ..)
  | light entity =>
      refine loadEffect_of_placed rfl (fun refuses => ?_) fun accepts => ?_
      · have isOther : ¬source.element.kind = "light" := refuses
        simp only [load, Light.load, if_neg isOther]
        exact ⟨rfl, ⟨.unloaded, .unique, rfl⟩, rfl⟩
      · have isLight : source.element.kind = "light" := accepts
        have isStore := Light.store_load source.element source.graph source.tieBreak before
        rw [if_pos isLight] at isStore
        refine ⟨⟨_, _, isStore⟩, ?_⟩
        simp only [load, Light.load, if_pos isLight]
        exact congrArg some (graph_place ..)
  | binding entity =>
      refine loadEffect_of_placed rfl (fun refuses => absurd trivial refuses) fun _ => ?_
      exact ⟨⟨source.frame, source.tieBreak, rfl⟩, congrArg some (graph_place ..)⟩
  | axis entity =>
      have apart (diagnostics : List (Diagnostic α)) :
          StandsApart before ⟨before, axis (entity.load source.element).1, diagnostics⟩ :=
        ⟨List.prefix_rfl, nofun⟩
      refine ⟨fun refuses => ⟨?_, apart _⟩, fun _ _ => apart _, nofun⟩
      have isOther : ¬source.element.kind ∈ Axis.elementKinds := refuses
      simp only [load, Axis.load, if_neg isOther]
      rfl
  | model entity =>
      refine ⟨fun refuses => ?_, fun accepts _ => ?_, nofun⟩
      · have isOther : ¬source.element.kind = "model" := refuses
        simp only [load, Model.load, if_neg isOther]
        exact ⟨rfl, standsApart_of_create rfl rfl⟩
      · exact standsApart_of_create (Model.store_load source.settings before accepts)
          (congrArg some (Model.graph_load source.settings before))

omit [Scalar α] in
theorem changesOnly_setName (member : Member α) (store : GraphStore α) (name : String) :
    store.ChangesOnly (member.setName store name) member.frame?
      fun vertex => { vertex with name } := by
  rw [store_setName]
  cases member.frame? with
  | none => exact .none store _
  | some frame => exact store.changesOnly_of_modifyVertex frame _

theorem changesOnly_setPose (member : Member α) (store : GraphStore α) (pose : Pose α) :
    store.ChangesOnly (member.setPose store pose).1 member.frame?
      fun vertex => { vertex with payload := .ofPose pose } := by
  rw [store_setPose]
  cases member.frame? with
  | none => exact .none store _
  | some frame => exact store.changesOnly_of_modifyVertex frame _

theorem graphs_new (store : GraphStore α) (kind : MemberKind) :
    store.graphs <+: (new store kind).1.graphs := by
  cases kind with
  | axis => exact List.prefix_rfl
  | link | joint | light | binding | model => exact List.prefix_append _ _

theorem kind_load (member : Member α) (source : MemberSource α) (store : GraphStore α) :
    (member.load source store).entity.kind = member.kind := by
  cases member <;> rfl

end Member

namespace Scene

omit [Scalar α] in
theorem store_putMemberAt (scene : Scene α) (place : Place) (member : Member α) :
    (scene.putMemberAt place member).store = scene.store := by
  unfold putMemberAt
  split
  · exact store_putMember ..
  · split
    · exact store_putMember ..
    · rfl
  · split
    · exact store_putMember ..
    · rfl
  · rfl

omit [Scalar α] in
theorem member?_putMemberAt (scene : Scene α) {place : Place} (member : Member α) {name : String}
    (different : name ≠ place.name) :
    (scene.putMemberAt place member).member? name = scene.member? name := by
  have untouched (changed : Member α) :
      (scene.putMember place.name changed).member? name = scene.member? name := by
    rw [member?_putMember, if_neg different]
  unfold putMemberAt
  split
  · exact untouched _
  · split
    · exact untouched _
    · rfl
  · split
    · exact untouched _
    · rfl
  · rfl

omit [Scalar α] in
theorem model?_eq_some {scene : Scene α} {name : String} {model : Model α} :
    scene.model? name = some model ↔ scene.member? name = some (.model model) := by
  unfold model?
  split
  · rename_i found
    rw [found]
    simp
  · rename_i other
    refine iff_of_false nofun fun found => other model found

omit [Scalar α] in
theorem memberAt?_linkOf {scene : Scene α} {name : String} {index : Nat} {member : Member α} :
    scene.memberAt? (.linkOf name index) = some member ↔
      ∃ model, scene.model? name = some model ∧
        ∃ link, model.links[index]? = some link ∧ .link link = member := by
  simp [memberAt?, Option.bind_eq_some_iff]

omit [Scalar α] in
theorem memberAt?_jointOf {scene : Scene α} {name : String} {index : Nat} {member : Member α} :
    scene.memberAt? (.jointOf name index) = some member ↔
      ∃ model, scene.model? name = some model ∧
        ∃ joint, model.joints[index]? = some joint ∧ .joint joint = member := by
  simp [memberAt?, Option.bind_eq_some_iff]

omit [Scalar α] in
/-- A place takes every member of the kind that is there. -/
theorem memberAt?_putMemberAt {scene : Scene α} {place : Place} {member other : Member α}
    (isMember : scene.memberAt? place = some member) (sameKind : other.kind = member.kind) :
    (scene.putMemberAt place other).memberAt? place = some other := by
  cases place with
  | named name => exact (member?_putMember ..).trans (if_pos rfl)
  | linkOf name index =>
      obtain ⟨model, isModel, link, isLink, rfl⟩ := memberAt?_linkOf.mp isMember
      cases other <;> cases sameKind
      case link.refl other =>
        have inside := (List.getElem?_eq_some_iff.mp isLink).1
        have replaced : (scene.putMember name (.model (model.setLink index other))).model? name =
            some (model.setLink index other) :=
          model?_eq_some.mpr ((member?_putMember ..).trans (if_pos rfl))
        simp only [putMemberAt, isModel, memberAt?, replaced]
        simp [Model.setLink, inside]
  | jointOf name index =>
      obtain ⟨model, isModel, joint, isJoint, rfl⟩ := memberAt?_jointOf.mp isMember
      cases other <;> cases sameKind
      case joint.refl other =>
        have inside := (List.getElem?_eq_some_iff.mp isJoint).1
        have replaced : (scene.putMember name (.model (model.setJoint index other))).model? name =
            some (model.setJoint index other) :=
          model?_eq_some.mpr ((member?_putMember ..).trans (if_pos rfl))
        simp only [putMemberAt, isModel, memberAt?, replaced]
        simp [Model.setJoint, inside]

omit [Scalar α] in
theorem store_alter (scene : Scene α) (place : Place) (change : Member α → Member α) :
    (scene.alter place change).store = scene.store := by
  unfold alter
  cases scene.memberAt? place with
  | none => rfl
  | some member => exact store_putMemberAt ..

omit [Scalar α] in
theorem store_copyAt (scene : Scene α) (source : Place) (target : String) :
    (scene.copyAt source target).store = scene.store := by
  unfold copyAt
  cases scene.memberAt? source with
  | none => rfl
  | some member => exact store_putMember ..

section Present

variable {scene : Scene α} {place : Place} {member : Member α}
  (isMember : scene.memberAt? place = some member)

include isMember

omit [Scalar α] in
theorem store_setName (name : String) :
    (scene.setName place name).store = member.setName scene.store name := by
  simp only [setName, isMember]

theorem store_setPose (pose : Pose α) :
    (scene.setPose place pose).store = (member.setPose scene.store pose).1 := by
  simp only [setPose, isMember]
  exact store_putMemberAt ..

theorem store_loadAt (source : MemberSource α) :
    (scene.loadAt place source).1.store = (member.load source scene.store).store := by
  simp only [loadAt, isMember]
  exact store_putMemberAt ..

end Present

/-- What an operation may do to the graphs of a scene. -/
def Isolates (scene : Scene α) (operation : Operation α) : Prop :=
  let before := scene.store
  let (after, reports) := scene.operate operation
  match operation with
  | .create _ _ => before.graphs <+: after.store.graphs
  | .copy _ _ | .tell _ _ | .set _ _ | .turn _ _ => after.store = before
  | .rename place name => ∀ member, scene.memberAt? place = some member →
    before.ChangesOnly after.store member.frame? fun vertex => { vertex with name }
  | .move place pose => ∀ member, scene.memberAt? place = some member →
    before.ChangesOnly after.store member.frame? fun vertex =>
      { vertex with payload := .ofPose pose }
  | .load place source => ∀ member, scene.memberAt? place = some member →
    ∃ loaded, after.memberAt? place = some loaded ∧
      member.LoadEffect source before ⟨after.store, loaded, reports⟩

omit [Scalar α] in
theorem memberAt?_withStore (scene : Scene α) (store : GraphStore α) (place : Place) :
    { scene with store }.memberAt? place = scene.memberAt? place := by
  cases place <;> rfl

theorem isolates (scene : Scene α) (operation : Operation α) : scene.Isolates operation := by
  cases operation with
  | create name kind =>
      change scene.store.graphs <+: (scene.create name kind).store.graphs
      rw [store_create]
      exact Member.graphs_new scene.store kind
  | copy place target => exact scene.store_copyAt place target
  | tell place detail => exact scene.store_alter place _
  | set place setting => exact scene.store_alter place _
  | turn place xyz => exact scene.store_alter place _
  | rename place name =>
      intro member isMember
      rw [store_setName isMember]
      exact member.changesOnly_setName scene.store name
  | move place pose =>
      intro member isMember
      rw [store_setPose isMember]
      exact member.changesOnly_setPose scene.store pose
  | load place source =>
      intro member isMember
      have taken := (scene.memberAt?_withStore (member.load source scene.store).store place).trans
        isMember
      simp only [isMember, store_putMemberAt]
      exact ⟨_, memberAt?_putMemberAt taken (member.kind_load source scene.store),
        member.loadEffect source scene.store⟩

/-- An operation leaves all graphs and their contents where they are. -/
theorem grows_operate (scene : Scene α) (operation : Operation α) :
    scene.store.Grows (scene.operate operation).1.store := by
  have kept := GraphStore.kept_grows scene.store
  have same := GraphStore.Grows.refl scene.store
  have isolates := scene.isolates operation
  cases operation with
  | create name kind =>
      change scene.store.Grows (scene.create name kind).store
      rw [store_create]
      exact kept.new same kind
  | load place source =>
      change scene.store.Grows (scene.loadAt place source).1.store
      cases isMember : scene.memberAt? place with
      | none => simpa only [loadAt, isMember] using same
      | some member =>
          rw [store_loadAt isMember]
          exact kept.load same member source
  | rename place name =>
      change scene.store.Grows (scene.setName place name).store
      cases isMember : scene.memberAt? place with
      | none => simpa only [setName, isMember] using same
      | some member => exact (isolates member isMember).grows
  | move place pose =>
      change scene.store.Grows (scene.setPose place pose).store
      cases isMember : scene.memberAt? place with
      | none => simpa only [setPose, isMember] using same
      | some member => exact (isolates member isMember).grows
  | copy place target => exact .of_eq isolates
  | tell place detail => exact .of_eq isolates
  | set place setting => exact .of_eq isolates
  | turn place xyz => exact .of_eq isolates

theorem grows_run (scene : Scene α) (operations : List (Operation α)) :
    scene.store.Grows (scene.run operations).store := by
  induction operations generalizing scene with
  | nil => exact .refl scene.store
  | cons operation rest induction =>
      exact (scene.grows_operate operation).trans (induction (scene.operate operation).1)

/-- Members under other names than the one of the operation are as they were. -/
theorem member?_operate (scene : Scene α) {operation : Operation α} {name : String}
    (different : name ≠ operation.target) :
    (scene.operate operation).1.member? name = scene.member? name := by
  have altered (place : Place) (change : Member α → Member α) (different : name ≠ place.name) :
      (scene.alter place change).member? name = scene.member? name := by
    unfold alter
    cases scene.memberAt? place with
    | none => rfl
    | some member => exact member?_putMemberAt _ _ different
  cases operation with
  | create target kind => exact (member?_putMember ..).trans (if_neg different)
  | copy place target =>
      simp only [operate, copyAt]
      cases scene.memberAt? place with
      | none => rfl
      | some member => exact (member?_putMember ..).trans (if_neg different)
  | load place source =>
      simp only [operate, loadAt]
      cases scene.memberAt? place with
      | none => rfl
      | some member => exact member?_putMemberAt _ _ different
  | rename place frame =>
      simp only [operate, setName]
      cases scene.memberAt? place with
      | none => rfl
      | some member => rfl
  | move place pose =>
      simp only [operate, setPose]
      cases scene.memberAt? place with
      | none => rfl
      | some member => exact member?_putMemberAt _ _ different
  | tell place detail => exact altered place _ different
  | set place setting => exact altered place _ different
  | turn place xyz => exact altered place _ different

/-- Whatever has been done to the members of a scene, its graphs, vertices and edges are still
there.  Whatever is done next reaches the graphs only as far as it isolates, and leaves the
members under other names alone. -/
theorem operations_isolated (scene : Scene α) (operations : List (Operation α))
    (operation : Operation α) :
    let reached := scene.run operations
    scene.store.Grows reached.store ∧ reached.Isolates operation ∧
      ∀ name, name ≠ operation.target →
        (reached.operate operation).1.member? name = reached.member? name := by
  intro reached
  exact ⟨scene.grows_run operations, reached.isolates operation,
    fun _ different => reached.member?_operate different⟩

/-- A wheel is mounted in the shared graph of a garage. -/
def mounting : List (Operation Float) :=
  [.create "wheel" .link,
    .load (.named "wheel")
      { element := ⟨"link", .ofList [("name", .string "wheel")], none, []⟩
        graph := some ⟨0⟩
        tieBreak := .firstInserted
        settings := .default
        frame := .unloaded }]

/-- Another name for the mounted wheel changes its vertex in the shared graph, and neither the
root there nor the graph that the wheel had before. -/
theorem operations_isolated_wheel :
    let reached := (ofGraph (.withRoot "garage")).run mounting
    let after := (reached.operate (.rename (.named "wheel") "tyre")).1.store
    let frame (graph vertex : Nat) : Binding := ⟨⟨graph⟩, ⟨vertex⟩, true⟩
    after.vertexAt? (frame 0 1) =
        (reached.store.vertexAt? (frame 0 1)).map (fun vertex => { vertex with name := "tyre" }) ∧
      after.vertexAt? (frame 0 0) = reached.store.vertexAt? (frame 0 0) ∧
      after.vertexAt? (frame 1 0) = reached.store.vertexAt? (frame 1 0) := by
  intro reached after frame
  obtain ⟨-, isolates, -⟩ := operations_isolated (ofGraph (.withRoot "garage")) mounting
    (.rename (.named "wheel") "tyre")
  have changes := isolates _ rfl
  refine ⟨changes.own (frame 0 1) rfl, changes.others _ ?_, changes.others _ ?_⟩
  · rintro binding ⟨⟩ meets
    exact absurd meets.2 (by decide)
  · rintro binding ⟨⟩ meets
    exact absurd meets.1 (by decide)

end Scene

end Kinematics
