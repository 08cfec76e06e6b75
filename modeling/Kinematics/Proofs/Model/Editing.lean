import Kinematics.Proofs.Frame.Composition
import Kinematics.Proofs.Model.Loading

/-!
# Editing a loaded model

A loaded model can be changed by giving names and poses to its links, joints and lights.
No edit adds or removes frames or edges, and payloads stay rigid as long as poses have
unit quaternions.
-/

namespace Kinematics

variable {α : Type}

namespace Model

/-- A link, a joint or a light of a model, by its position. -/
inductive Part where
  | link (index : Nat)
  | joint (index : Nat)
  | light (index : Nat)

/-- Another name or another pose for a part of a model. -/
inductive Edit (α : Type) where
  | rename (part : Part) (name : String)
  | move (part : Part) (pose : Pose α)

def member? (model : Model α) : Part → Option (Member α)
  | .link index => model.links[index]?.map .link
  | .joint index => model.joints[index]?.map .joint
  | .light index => model.lights[index]?.map .light

/-- A model with one of its parts replaced by a member of the same kind. -/
def putMember (model : Model α) : Part → Member α → Model α
  | .link index, .link link => model.setLink index link
  | .joint index, .joint joint => model.setJoint index joint
  | .light index, .light light => { model with lights := model.lights.set index light }
  | _, _ => model

/-- The graphs and the model after an edit.  Nothing changes if there is no such part. -/
def edit [Scalar α] (state : GraphStore α × Model α) : Edit α → GraphStore α × Model α
  | .rename part name =>
    match state.2.member? part with
    | none => state
    | some member => (member.setName state.1 name, state.2)
  | .move part pose =>
    match state.2.member? part with
    | none => state
    | some member =>
      ((member.setPose state.1 pose).1, state.2.putMember part (member.setPose state.1 pose).2)

/-- A pose that an edit gives has a unit quaternion. -/
def Edit.IsUnit : Edit ℝ → Prop
  | .rename _ _ => True
  | .move _ pose => pose.rotation.IsUnit

theorem graph_putMember (model : Model α) (part : Part) (member : Member α) :
    (model.putMember part member).graph = model.graph := by
  unfold putMember
  split
  · rfl
  · rfl
  · rfl
  · rfl

end Model

/-- A graph with given edges and so many vertices, all with rigid payloads. -/
structure FrameGraph.Shaped (graph : FrameGraph ℝ) (edges : List Edge) (size : Nat) : Prop where
  edges : graph.edges = edges
  size : graph.vertices.length = size
  payloads : graph.RigidPayloads

variable {edges : List Edge} {size : Nat}

/-- A change of one vertex keeps the shape of a graph. -/
theorem FrameGraph.Shaped.modifyVertex {graph changed : FrameGraph ℝ}
    (shaped : graph.Shaped edges size) {id : VertexId} {change : Vertex ℝ → Vertex ℝ}
    (success : graph.modifyVertex id change = .ok changed)
    (rigid : ∀ vertex, vertex.payload.IsRigid → (change vertex).payload.IsRigid) :
    changed.Shaped edges size := by
  obtain ⟨-, rfl⟩ := modifyVertex_eq_ok success
  refine ⟨shaped.edges, (List.length_modify _ _ _).trans shaped.size, ?_⟩
  intro vertex member
  obtain ⟨index, found⟩ := List.mem_iff_getElem?.mp member
  rw [List.getElem?_modify] at found
  obtain ⟨before, wasThere, rfl⟩ := Option.map_eq_some_iff.mp found
  have old : before.payload.IsRigid := shaped.payloads before (List.mem_of_getElem? wasThere)
  by_cases same : id.index = index
  · simp only [same, if_true]
    exact rigid before old
  · simp only [same, if_false]
    exact old

section Bindings

variable {store : GraphStore ℝ} {id : GraphId} (shaped : (store.graph id).Shaped edges size)

include shaped

/-- A change of one vertex of any graph keeps the shape of every graph. -/
theorem shaped_set {other : GraphId} {vertex : VertexId} {change : Vertex ℝ → Vertex ℝ}
    {changed : FrameGraph ℝ}
    (success : (store.graph other).modifyVertex vertex change = .ok changed)
    (rigid : ∀ vertex, vertex.payload.IsRigid → (change vertex).payload.IsRigid) :
    ((store.set other changed).graph id).Shaped edges size := by
  rcases store.graph_set other id changed with kept | ⟨rfl, replaced⟩
  · rw [kept]
    exact shaped
  · rw [replaced]
    exact shaped.modifyVertex success rigid

theorem shaped_setName (frame : Binding) (name : String) :
    ((frame.setName store name).graph id).Shaped edges size := by
  unfold Binding.setName
  cases result : (store.graph frame.graph).rename frame.vertex name with
  | error problem => exact shaped
  | ok changed => exact shaped_set shaped result fun _ rigid => rigid

theorem shaped_setPose (frame : Binding) {pose : Pose ℝ} (unit : pose.rotation.IsUnit) :
    ((frame.setPose store pose).graph id).Shaped edges size := by
  unfold Binding.setPose
  cases result : (store.graph frame.graph).setPayload frame.vertex (.ofPose pose) with
  | error problem => exact shaped
  | ok changed =>
      exact shaped_set shaped result fun _ _ => Transform.isRigid_ofPose unit

theorem shaped_setName_member (member : Member ℝ) (name : String) :
    ((member.setName store name).graph id).Shaped edges size := by
  unfold Member.setName
  cases member.frame? with
  | none => exact shaped
  | some frame => exact shaped_setName shaped frame name

theorem shaped_setPose_member (member : Member ℝ) {pose : Pose ℝ}
    (unit : pose.rotation.IsUnit) :
    ((member.setPose store pose).1.graph id).Shaped edges size := by
  cases member with
  | link link => exact shaped_setPose shaped link.frame unit
  | joint joint => exact shaped_setPose shaped joint.frame unit
  | light light => exact shaped_setPose shaped light.frame unit
  | binding frame => exact shaped_setPose shaped frame unit
  | axis => exact shaped
  | model => exact shaped

end Bindings

namespace Model

/-- An edit leaves the model in its graph and keeps the shape of that graph. -/
theorem edit_shaped {state : GraphStore ℝ × Model ℝ} {change : Edit ℝ} (unit : change.IsUnit)
    (shaped : (state.1.graph state.2.graph).Shaped edges size) :
    (edit state change).2.graph = state.2.graph ∧
      ((edit state change).1.graph state.2.graph).Shaped edges size := by
  cases change with
  | rename part name =>
      unfold edit
      dsimp only
      cases state.2.member? part with
      | none => exact ⟨rfl, shaped⟩
      | some member => exact ⟨rfl, shaped_setName_member shaped member name⟩
  | move part pose =>
      unfold edit
      dsimp only
      cases state.2.member? part with
      | none => exact ⟨rfl, shaped⟩
      | some member =>
          exact ⟨graph_putMember _ _ _, shaped_setPose_member shaped member unit⟩

/-- Every sequence of edits keeps the shape of the graph. -/
theorem foldl_edit_shaped {edits : List (Edit ℝ)} (units : ∀ change ∈ edits, change.IsUnit)
    {state : GraphStore ℝ × Model ℝ}
    (shaped : (state.1.graph state.2.graph).Shaped edges size) :
    ((edits.foldl edit state).1.graph (edits.foldl edit state).2.graph).Shaped edges size := by
  induction edits generalizing state with
  | nil => exact shaped
  | cons change rest induction =>
      obtain ⟨sameGraph, stillShaped⟩ := edit_shaped (units change List.mem_cons_self) shaped
      apply induction fun other member => units other (List.mem_cons_of_mem _ member)
      rw [sameGraph]
      exact stillShaped

end Model

end Kinematics
