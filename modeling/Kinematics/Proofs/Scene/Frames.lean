import Kinematics.Proofs.Entity.Reports
import Kinematics.Proofs.Frame.Reachable
import Kinematics.Proofs.Frame.Store

/-!
# Frames of a store

The vertex that a binding points to, and what happens to it.  Loading leaves every
vertex as it is and points the loaded member to a new one.  A frame that is renamed
keeps its payload, and a frame that is moved is the only one that does not.
-/

namespace Kinematics

variable {α : Type}

def Binding.Meets (left right : Binding) : Prop :=
  left.graph = right.graph ∧ left.vertex = right.vertex

instance (left right : Binding) : Decidable (left.Meets right) :=
  inferInstanceAs (Decidable (_ ∧ _))

/-- A graph of a store, if one is meant. -/
def Binding.Known (graph : Option GraphId) (store : GraphStore α) : Prop :=
  ∀ id ∈ graph, id.index < store.graphs.length

namespace GraphStore

/-- The vertex that a binding points to. -/
def vertexAt? (store : GraphStore α) (frame : Binding) : Option (Vertex α) :=
  (store.graph frame.graph).vertex? frame.vertex

theorem vertexAt?_of_meets (store : GraphStore α) {left right : Binding}
    (meets : left.Meets right) : store.vertexAt? left = store.vertexAt? right := by
  unfold vertexAt?
  rw [meets.1, meets.2]

theorem graph_of_length_le {store : GraphStore α} {id : GraphId}
    (new : store.graphs.length ≤ id.index) : store.graph id = .empty := by
  unfold GraphStore.graph
  rw [List.getElem?_eq_none new]
  rfl

theorem lt_of_vertexAt? {store : GraphStore α} {frame : Binding} {vertex : Vertex α}
    (found : store.vertexAt? frame = some vertex) : frame.graph.index < store.graphs.length := by
  apply Nat.lt_of_not_le
  intro new
  unfold vertexAt? at found
  rw [graph_of_length_le new] at found
  exact absurd found nofun

theorem graph_create_of_lt {store : GraphStore α} {id : GraphId}
    (old : id.index < store.graphs.length) (graph : FrameGraph α) :
    (store.create graph).1.graph id = store.graph id := by
  unfold GraphStore.graph GraphStore.create
  rw [List.getElem?_append_left old]

/-- Every vertex that there was is still there and has not changed. -/
def Keeps (before after : GraphStore α) : Prop :=
  ∀ frame vertex, before.vertexAt? frame = some vertex → after.vertexAt? frame = some vertex

theorem Keeps.create {before store : GraphStore α} (keeps : before.Keeps store)
    (graph : FrameGraph α) : before.Keeps (store.create graph).1 := by
  intro frame vertex found
  have old := keeps frame vertex found
  unfold vertexAt?
  rw [graph_create_of_lt (lt_of_vertexAt? old)]
  exact old

variable [Scalar α]

theorem kept_keeps (before : GraphStore α) : Kept fun after => before.Keeps after where
  place := by
    intro store graph placing tieBreak keeps
    cases graph with
    | none =>
        rw [Binding.placeFrame_none]
        exact keeps.create _
    | some graph =>
        rw [Binding.placeFrame_some]
        intro frame vertex found
        have old := keeps frame vertex found
        unfold vertexAt?
        rcases store.graph_set graph frame.graph _ with same | ⟨rfl, changed⟩
        · rw [same]
          exact old
        · rw [changed, FrameGraph.vertex?, FrameGraph.vertices_attach]
          have within := (List.getElem?_eq_some_iff.mp old).1
          rw [List.getElem?_append_left within]
          exact old
  create := fun keeps => keeps.create .empty
  createRoot := fun name keeps => keeps.create (.withRoot name)

omit [Scalar α] in
theorem known_create {graph : Option GraphId} {store : GraphStore α}
    (known : Binding.Known graph store) (new : FrameGraph α) :
    Binding.Known graph (store.create new).1 := by
  intro id member
  have old := known id member
  unfold create
  rw [List.length_append, List.length_singleton]
  omega

theorem kept_known (graph : Option GraphId) :
    Kept fun store : GraphStore α => Binding.Known graph store where
  place := by
    intro store other placing tieBreak known
    cases other with
    | none => exact known_create known _
    | some other =>
        rw [Binding.placeFrame_some]
        intro id member
        rw [length_set]
        exact known id member
  create := fun known => known_create known .empty
  createRoot := fun name known => known_create known (.withRoot name)

omit [Scalar α] in
theorem vertexAt?_modify {store : GraphStore α} {frame : Binding}
    {change : Vertex α → Vertex α} {graph : FrameGraph α}
    (success : (store.graph frame.graph).modifyVertex frame.vertex change = .ok graph)
    (other : Binding) :
    (store.set frame.graph graph).vertexAt? other =
      if other.Meets frame then (store.vertexAt? other).map change
      else store.vertexAt? other := by
  obtain ⟨contained, rfl⟩ := FrameGraph.modifyVertex_eq_ok success
  by_cases here : other.graph = frame.graph
  · obtain ⟨vertex, isVertex⟩ := Option.isSome_iff_exists.mp contained
    have found : store.vertexAt? frame = some vertex := isVertex
    have changed := store.graph_set_self (lt_of_vertexAt? found)
    unfold vertexAt?
    rw [here, changed, FrameGraph.vertex?, List.getElem?_modify]
    by_cases same : other.vertex = frame.vertex
    · rw [if_pos ⟨here, same⟩]
      simp only [same, if_true]
      rfl
    · have apart : frame.vertex.index ≠ other.vertex.index := by
        intro equal
        exact same (congrArg VertexId.mk equal.symm)
      rw [if_neg fun meets => same meets.2]
      simp only [apart, if_false, id_map']
      rfl
  · rw [if_neg fun meets => here meets.1]
    unfold vertexAt?
    rcases store.graph_set frame.graph other.graph _ with same | ⟨same, -⟩
    · rw [same]
    · exact absurd same.symm here

omit [Scalar α] in
/-- Renaming a frame changes no payload. -/
theorem payload_setName {store : GraphStore α} (frame : Binding) (name : String)
    (other : Binding) :
    ((frame.setName store name).vertexAt? other).map Vertex.payload =
      (store.vertexAt? other).map Vertex.payload := by
  unfold Binding.setName
  cases success : (store.graph frame.graph).rename frame.vertex name with
  | ok graph =>
      dsimp only
      rw [vertexAt?_modify success other]
      split
      · rw [Option.map_map]
        rfl
      · rfl
  | error problem => rfl

/-- Moving a frame changes its own payload and no other. -/
theorem payload_setPose {store : GraphStore α} {frame : Binding} {vertex : Vertex α}
    (found : store.vertexAt? frame = some vertex) (pose : Pose α) (other : Binding) :
    ((frame.setPose store pose).vertexAt? other).map Vertex.payload =
      if other.Meets frame then some (Transform.ofPose pose)
      else (store.vertexAt? other).map Vertex.payload := by
  have contained : (store.graph frame.graph).contains frame.vertex := by
    unfold FrameGraph.contains
    rw [show (store.graph frame.graph).vertex? frame.vertex = some vertex from found]
    rfl
  have success :
      (store.graph frame.graph).setPayload frame.vertex (Transform.ofPose pose) = .ok _ :=
    if_pos contained
  unfold Binding.setPose
  rw [success]
  dsimp only
  rw [vertexAt?_modify success other]
  split
  · rename_i meets
    rw [store.vertexAt?_of_meets meets, found]
    rfl
  · rfl

end GraphStore

namespace Binding

variable [Scalar α]

/-- A placed frame has a vertex that there was not before. -/
theorem vertexAt?_place {store : GraphStore α} {graph : Option GraphId} (known : Known graph store)
    (name : String) (pose : Pose α) (reference : String) (tieBreak : TieBreak) (owner : String) :
    let placed := place store graph name pose reference tieBreak owner
    store.vertexAt? placed.2.1 = none ∧
      placed.1.vertexAt? placed.2.1 = some ⟨name, Transform.ofPose pose⟩ := by
  intro placed
  cases graph with
  | none =>
      constructor
      · have isEmpty : store.graph placed.2.1.graph = .empty :=
          GraphStore.graph_of_length_le Nat.le.refl
        unfold GraphStore.vertexAt?
        rw [isEmpty]
        rfl
      · have isNew := store.graph_create (FrameGraph.empty.addVertex name (.ofPose pose)).1
        unfold GraphStore.vertexAt?
        exact congrArg (FrameGraph.vertex? · ⟨0⟩) isNew
  | some id =>
      have last : placed.2.1.vertex = ⟨(store.graph id).vertices.length⟩ :=
        (store.graph id).vertex_attach name (.ofPose pose) reference tieBreak
      unfold GraphStore.vertexAt?
      rw [last]
      constructor
      · exact List.getElem?_eq_none Nat.le.refl
      · have isNew : placed.1.graph placed.2.1.graph = _ := store.graph_set_self (known id rfl) _
        rw [isNew, FrameGraph.vertex?, FrameGraph.vertices_attach]
        exact List.getElem?_concat_length

end Binding

namespace Member

variable [Scalar α]

/-- The frame of the member, if it has one, is new in a store and has the member's pose. -/
def IsFresh (member : Member α) (before after : GraphStore α) : Prop :=
  ∀ frame, member.frame? = some frame →
    before.vertexAt? frame = none ∧
      ∃ vertex, after.vertexAt? frame = some vertex ∧
        ∀ pose, member.pose? = some pose → vertex.payload = Transform.ofPose pose

theorem isFresh_of_place {member : Member α} {store : GraphStore α} {graph : Option GraphId}
    (known : Binding.Known graph store) (name : String) (pose : Pose α) (reference : String)
    (tieBreak : TieBreak) (owner : String)
    (frames :
      member.frame? = some (Binding.place store graph name pose reference tieBreak owner).2.1)
    (poses : ∀ other, member.pose? = some other → other = pose) :
    member.IsFresh store (Binding.place store graph name pose reference tieBreak owner).1 := by
  intro frame isFrame
  obtain rfl : _ = frame := Option.some.inj (frames.symm.trans isFrame)
  obtain ⟨missing, found⟩ := Binding.vertexAt?_place known name pose reference tieBreak owner
  refine ⟨missing, _, found, ?_⟩
  intro other isPose
  rw [poses other isPose]

theorem isFresh_new (store : GraphStore α) (kind : MemberKind) :
    (Member.new store kind).2.IsFresh store (Member.new store kind).1 := by
  have unknown : Binding.Known none store := nofun
  cases kind with
  | link =>
      exact isFresh_of_place unknown "" Pose.identity "" .unique "" rfl
        fun other same => (Option.some.inj same).symm
  | joint =>
      exact isFresh_of_place unknown "" Pose.identity "" .unique "" rfl
        fun other same => (Option.some.inj same).symm
  | light =>
      exact isFresh_of_place unknown "" Pose.identity "" .unique "" rfl
        fun other same => (Option.some.inj same).symm
  | binding =>
      exact isFresh_of_place unknown "" Pose.identity "" .unique "" rfl nofun
  | axis => exact nofun
  | model => exact nofun

theorem isFresh_load (member : Member α) {source : MemberSource α} {store : GraphStore α}
    (known : Binding.Known source.graph store) :
    (member.load source store).entity.IsFresh store (member.load source store).store := by
  cases member with
  | link =>
      change IsFresh ((Link.load _ _ _ _).map link).entity store
        ((Link.load _ _ _ _).map link).store
      unfold Link.load
      split
      · apply isFresh_of_place known _ _ _ _ _ rfl
        exact fun other same => (Option.some.inj same).symm
      · exact isFresh_new store .link
  | joint =>
      change IsFresh ((Joint.load _ _ _ _).map joint).entity store
        ((Joint.load _ _ _ _).map joint).store
      unfold Joint.load
      split
      · apply isFresh_of_place known _ _ _ _ _ rfl
        exact fun other same => (Option.some.inj same).symm
      · exact isFresh_new store .joint
  | light =>
      change IsFresh ((Light.load _ _ _ _).map light).entity store
        ((Light.load _ _ _ _).map light).store
      unfold Light.load
      split
      · apply isFresh_of_place known _ _ _ _ _ rfl
        exact fun other same => (Option.some.inj same).symm
      · exact isFresh_new store .light
  | binding =>
      apply isFresh_of_place known _ _ _ _ _ rfl
      exact nofun
  | axis => exact nofun
  | model => exact nofun

end Member

end Kinematics
