import Kinematics.Entity.Binding
import Kinematics.Proofs.Frame.Embedding

/-!
# One more frame among others

Frames are known by their positions, so one more frame among them moves all later ones up.
A name that the new frame does not have still stands for the same frame, at its new position,
and if nothing hangs from the new frame, all answers about the other ones stay as they are.
-/

namespace Kinematics

/-- The position of an entry once there is one more at a gap. -/
def skipIndex (gap index : Nat) : Nat :=
  if index < gap then index else index + 1

/-- The place of a vertex once there is one more at a gap. -/
def VertexId.skip (gap : Nat) (id : VertexId) : VertexId :=
  ⟨skipIndex gap id.index⟩

theorem skipIndex_of_lt {gap index : Nat} (before : index < gap) : skipIndex gap index = index :=
  if_pos before

theorem skipIndex_of_le {gap index : Nat} (after : gap ≤ index) :
    skipIndex gap index = index + 1 :=
  if_neg (Nat.not_lt.mpr after)

theorem VertexId.skip_injective (gap : Nat) : Function.Injective (skip gap) := by
  intro left right same
  have indices : skipIndex gap left.index = skipIndex gap right.index :=
    congrArg VertexId.index same
  apply VertexId.ext_index
  unfold skipIndex at indices
  split at indices <;> split at indices <;> omega

section Lists

variable {β : Type} (before after : List β) (new : β)

theorem getElem?_skipIndex (index : Nat) :
    (before ++ new :: after)[skipIndex before.length index]? = (before ++ after)[index]? := by
  by_cases early : index < before.length
  · rw [skipIndex_of_lt early, List.getElem?_append_left early, List.getElem?_append_left early]
  · have late : before.length ≤ index := Nat.not_lt.mp early
    rw [skipIndex_of_le late, List.getElem?_append_right (Nat.le_succ_of_le late),
      List.getElem?_append_right late, Nat.succ_sub late, List.getElem?_cons_succ]

variable {new} in
/-- A new entry that is not looked for only moves what is found after it. -/
theorem findIdx?_insert {wanted : β → Bool} (unwanted : wanted new = false) :
    (before ++ new :: after).findIdx? wanted =
      ((before ++ after).findIdx? wanted).map (skipIndex before.length) := by
  rw [List.findIdx?_append, List.findIdx?_append, List.findIdx?_cons, unwanted]
  cases first : before.findIdx? wanted with
  | some index =>
      obtain ⟨early, -⟩ := List.findIdx?_eq_some_iff_getElem.mp first
      exact congrArg some (skipIndex_of_lt early).symm
  | none =>
      cases after.findIdx? wanted with
      | none => rfl
      | some index =>
          have moved : skipIndex before.length (index + before.length) =
              index + before.length + 1 :=
            skipIndex_of_le (Nat.le_add_left _ _)
          simp [moved, Nat.add_right_comm]

end Lists

theorem TieBreak.resolve_insert (tieBreak : TieBreak) (before after : List String)
    {new name : String} (different : new ≠ name) :
    tieBreak.resolve (before ++ new :: after) name =
      (tieBreak.resolve (before ++ after) name).map (skipIndex before.length) := by
  have moved : (before ++ new :: after).findIdx? (· == name) =
      ((before ++ after).findIdx? (· == name)).map (skipIndex before.length) :=
    findIdx?_insert before after (beq_false_of_ne different)
  cases tieBreak with
  | firstInserted => exact moved
  | unique =>
      have count : (before ++ new :: after).count name = (before ++ after).count name := by
        rw [List.count_append, List.count_append, List.count_cons_of_ne different]
      unfold resolve
      simp only [count, moved]
      split
      · rfl
      · rfl

namespace FrameGraph

variable {α : Type}

theorem resolveName_firstInserted_eq (graph : FrameGraph α) (name : String) :
    graph.resolveName name .firstInserted =
      match (graph.named name).head? with
      | none => .error (.nameNotFound name)
      | some vertex => .ok vertex := by
  unfold resolveName
  cases graph.named name with
  | nil => rfl
  | cons vertex others => cases others <;> rfl

theorem poseInFrame_eq [Scalar α] (graph : FrameGraph α) (source target : String) :
    graph.poseInFrame source target =
      match (graph.named source).head?, (graph.named target).head? with
      | none, _ => .error (.notFound source)
      | some _, none => .error (.notFound target)
      | some first, some second =>
        if source = target then .ok Pose.identity else graph.poseBetween first second := by
  unfold poseInFrame resolveFirst
  cases graph.named source with
  | nil => rfl
  | cons => cases graph.named target <;> rfl

theorem contains_of_head?_named {graph : FrameGraph α} {name : String} {vertex : VertexId}
    (first : (graph.named name).head? = some vertex) : graph.contains vertex := by
  rw [head?_named_vertices] at first
  obtain ⟨position, isPosition, rfl⟩ := Option.map_eq_some_iff.mp first
  obtain ⟨found, isVertex, -⟩ := exists_vertex_of_first isPosition
  exact Option.isSome_of_eq_some isVertex

namespace Embedding

variable [Scalar α] {small large : FrameGraph α}
  {smallParent largeParent : VertexId → Option VertexId} {place : VertexId → VertexId}
  (embedding : Embedding small large smallParent largeParent place)
  (full : ∀ child, largeParent (place child) = (smallParent child).map place)

include embedding full

/-- A question about names that stand for the same frames has the same answer. -/
theorem poseInFrame_place {source target : String}
    (sameSource : (large.named source).head? = (small.named source).head?.map place)
    (sameTarget : (large.named target).head? = (small.named target).head?.map place) :
    large.poseInFrame source target = small.poseInFrame source target := by
  rw [poseInFrame_eq, poseInFrame_eq, sameSource, sameTarget]
  cases firstSource : (small.named source).head? with
  | none => rfl
  | some u =>
      cases firstTarget : (small.named target).head? with
      | none => rfl
      | some v =>
          have between := embedding.poseBetween_place full (contains_of_head?_named firstSource)
            (contains_of_head?_named firstTarget)
          simp only [Option.map_some, between]

/-- A frame of the smaller forest has the same pose in a frame whose name stands for the same
one. -/
theorem binding_poseInFrame {store other : GraphStore α} {id otherId : GraphId}
    (isSmall : store.graph id = small) (isLarge : other.graph otherId = large)
    {vertex : VertexId} (present : small.contains vertex) {frame : String}
    (sameFrame : (large.named frame).head? = (small.named frame).head?.map place) :
    (Binding.mk otherId (place vertex) true).poseInFrame other frame =
      (Binding.mk id vertex true).poseInFrame store frame := by
  obtain ⟨found, isFound⟩ := Option.isSome_iff_exists.mp present
  have isFoundToo : large.vertex? (place vertex) = some found := by
    rw [embedding.vertex?_place, isFound]
  unfold Binding.poseInFrame
  simp only [if_true, isSmall, isLarge, isFound, isFoundToo, resolveName_firstInserted_eq,
    sameFrame]
  cases firstFrame : (small.named frame).head? with
  | none => rfl
  | some target =>
      have between := embedding.poseBetween_place full present
        (contains_of_head?_named firstFrame)
      simp only [Option.map_some, between]

end Embedding

end FrameGraph

end Kinematics
