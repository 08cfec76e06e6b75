import Kinematics.Proofs.Model.Contents

/-!
# The frame of a pose table

The table of a model tells the poses of its entities in the frame that it is asked for.  The
empty name stands for the pose frame of each entity, which need not be one frame for all.
-/

namespace Kinematics

variable {α : Type} [Scalar α]

/-- An entity that is the first frame of a name, or has another name, has the pose between its
vertex and the first one of that name. -/
theorem Binding.poseInFrame_eq_poseBetween {binding : Binding} {store : GraphStore α}
    {frame : String} {position : Nat} (attached : binding.attached)
    (inside : (store.graph binding.graph).contains binding.vertex)
    (first : (store.graph binding.graph).vertices.findIdx? (·.name == frame) = some position)
    (distinct : binding.vertex = ⟨position⟩ ∨ binding.name store ≠ frame) :
    binding.poseInFrame store frame =
      ((store.graph binding.graph).poseBetween binding.vertex ⟨position⟩).mapError .resolve := by
  obtain ⟨vertex, found⟩ := Option.isSome_iff_exists.mp inside
  have isName : binding.name store = vertex.name := by
    unfold Binding.name
    rw [found]
    rfl
  unfold poseInFrame
  simp only [attached, if_true, found, FrameGraph.resolveName_firstInserted, first]
  by_cases same : vertex.name = frame
  -- The answer at once, without a look at the vertex, is right for the first of the name only.
  · have isFirst : binding.vertex = ⟨position⟩ :=
      distinct.resolve_right fun other => other (isName.trans same)
    rw [if_pos same, ← isFirst]
    unfold FrameGraph.poseBetween
    simp only [found, if_true]
    rfl
  · rw [if_neg same]

namespace Model

theorem placed_load_of_ne {element : Element α} {settings : Settings} {store : GraphStore α}
    (otherKind : element.kind ≠ "model") : (load element settings store).entity.placed = [] := by
  unfold load
  rw [if_neg otherKind]
  rfl

/-- The records of a table are those of the entities in order.  Every entity that is itself the
first frame of the name asked for, or has another name, is told the pose between its vertex
and that first frame. -/
theorem poseRecords_tell_poseBetween (element : Element α) (settings : Settings)
    (store : GraphStore α) (frame : String) :
    let loaded := load element settings store
    let graph := loaded.store.graph loaded.entity.graph
    List.Forall₂ (fun entity record =>
        record.kind = entity.kind ∧ record.name = entity.frame.name loaded.store ∧
          record.frame = frame ∧
          let asked := if frame = "" then entity.poseFrame else frame
          ∀ position, graph.vertices.findIdx? (·.name == asked) = some position →
            (entity.frame.vertex = ⟨position⟩ ∨ entity.frame.name loaded.store ≠ asked) →
            record.outcome =
              (graph.poseBetween entity.frame.vertex ⟨position⟩).mapError .resolve)
      loaded.entity.placed (loaded.entity.poseRecords loaded.store frame) := by
  intro loaded graph
  rw [poseRecords_eq, List.forall₂_map_right_iff, List.forall₂_same]
  intro entity member
  refine ⟨rfl, rfl, rfl, ?_⟩
  intro asked position first distinct
  have isModel : element.kind = "model" := by
    by_contra otherKind
    have none : loaded.entity.placed = [] := placed_load_of_ne otherKind
    rw [none] at member
    exact List.not_mem_nil member
  obtain ⟨attached, sameGraph, inside⟩ := frame_of_mem_placed settings store isModel member
  have isGraph : graph = loaded.store.graph entity.frame.graph :=
    congrArg loaded.store.graph sameGraph.symm
  have asks : (if frame.isEmpty then entity.poseFrame else frame) = asked := by
    simp [asked, String.isEmpty_iff]
  rw [isGraph] at first ⊢
  rw [← sameGraph] at inside
  unfold Placed.record
  simp only [asks]
  exact Binding.poseInFrame_eq_poseBetween attached inside first distinct

def door (children : List (Element Float)) : Element Float :=
  ⟨"model", .ofList [("name", .string "door")], none, children⟩

def hinge (name parent child : String) : Element Float :=
  { kind := "joint"
    attributes := .ofList [("name", .string name), ("parent", .string parent),
      ("child", .string child), ("type", .string "fixed")]
    value := none
    children := [] }

/-- A link placed at the root. -/
def leaf : Element Float := ⟨"link", .ofList [("name", .string "leaf")], none, []⟩

/-- Settings in which the root has the empty name. -/
def nameless : Settings := { Settings.default with rootFrame := "" }

theorem poseRecords_tell_poseBetween_hinge :
    let loaded := load (door [leaf, hinge "hinge" "leaf" "wheel"]) .default .empty
    let graph := loaded.store.graph loaded.entity.graph
    (loaded.entity.poseRecords loaded.store "leaf").map PoseRecord.outcome =
      [(graph.poseBetween ⟨1⟩ ⟨1⟩).mapError .resolve,
        (graph.poseBetween ⟨2⟩ ⟨1⟩).mapError .resolve] := by
  intro loaded graph
  have told : List.Forall₂ _ loaded.entity.placed
      (loaded.entity.poseRecords loaded.store "leaf") :=
    poseRecords_tell_poseBetween _ .default .empty "leaf"
  have isFirst : graph.vertices.findIdx? (·.name == "leaf") = some 1 := by decide +kernel
  have hingeName : Binding.name ⟨⟨0⟩, ⟨2⟩, true⟩ loaded.store ≠ "leaf" := by decide +kernel
  have placed : loaded.entity.placed =
      [⟨.link, ⟨⟨0⟩, ⟨1⟩, true⟩, "__model__"⟩, ⟨.joint, ⟨⟨0⟩, ⟨2⟩, true⟩, "wheel"⟩] := by
    rfl
  rw [placed] at told
  generalize loaded.entity.poseRecords loaded.store "leaf" = records at told ⊢
  cases told with
  | cons link rest =>
      cases rest with
      | cons joint rest =>
          cases rest
          rw [List.map_cons, List.map_cons, List.map_nil,
            link.2.2.2 1 isFirst (.inl rfl), joint.2.2.2 1 isFirst (.inr hingeName)]

theorem map_isResolved_eq {entities : List Placed} {records : List (PoseRecord α)}
    {graph : FrameGraph α} {target : VertexId}
    (told : List.Forall₂ (fun entity record =>
      record.outcome.toOption = (graph.poseBetween entity.frame.vertex target).toOption)
        entities records) :
    records.map PoseRecord.isResolved =
      entities.map fun entity =>
        (graph.poseBetween entity.frame.vertex target).toOption.isSome := by
  induction told with
  | nil => rfl
  | @cons entity record _ _ same _ induction =>
      have resolved : record.isResolved = record.outcome.toOption.isSome := by
        unfold PoseRecord.isResolved
        cases record.outcome with
        | ok pose => rfl
        | error problem => rfl
      rw [List.map_cons, List.map_cons, induction, resolved, same]

theorem poseRecords_in_other_frames :
    (let loaded := load (door [hinge "hinge" "" "wheel"]) nameless .empty
      let graph := loaded.store.graph loaded.entity.graph
      graph.vertices.findIdx? (·.name == "") = some 0 ∧
        ¬List.Forall₂ (fun entity record =>
            record.outcome.toOption = (graph.poseBetween entity.frame.vertex ⟨0⟩).toOption)
          loaded.entity.placed (loaded.entity.poseRecords loaded.store "")) ∧
      let loaded := load (door [leaf, hinge "leaf" "frame" "leaf"]) .default .empty
      let graph := loaded.store.graph loaded.entity.graph
      graph.vertices.findIdx? (·.name == "leaf") = some 1 ∧
        ¬List.Forall₂ (fun entity record =>
            record.outcome.toOption = (graph.poseBetween entity.frame.vertex ⟨1⟩).toOption)
          loaded.entity.placed (loaded.entity.poseRecords loaded.store "leaf") := by
  constructor
  · refine ⟨by decide +kernel, ?_⟩
    intro told
    exact absurd (map_isResolved_eq told) (by decide +kernel)
  · refine ⟨by decide +kernel, ?_⟩
    intro told
    exact absurd (map_isResolved_eq told) (by decide +kernel)

end Model

end Kinematics
