import Kinematics.Proofs.Frame.Walk
import Mathlib.Data.List.Nodup

/-!
# Unwinding a path

A search keeps, for every vertex it has found, the step by which it arrived there.  The path to
a vertex is unwound by following these arrivals backwards.  Where every vertex has one arrival,
this gives back the walk that the arrivals were made on, and no arrival is ever missing.
-/

namespace Kinematics

namespace Search

/-- Following arrivals backwards from a vertex ends at the source, and there is an arrival at
every vertex on the way.  The path has one step for each of those followed. -/
inductive Unwinds (arrivals : List Step) (source : VertexId) : VertexId → List Step → Prop where
  | stop : Unwinds arrivals source source []
  | back {current : VertexId} {step : Step} {path : List Step} :
      current ≠ source → (arrivals.find? fun step => step.target = current) = some step →
      Unwinds arrivals source step.source path →
      Unwinds arrivals source current (path ++ [step])

variable {α : Type} {graph : FrameGraph α} {arrivals : List Step} {source goal : VertexId}

theorem Unwinds.pathTo_eq {path : List Step} (unwinds : Unwinds arrivals source goal path)
    {bound : Nat} (enough : path.length ≤ bound) :
    pathTo arrivals source bound goal = path := by
  induction unwinds generalizing bound with
  | stop =>
      cases bound with
      | zero => rfl
      | succ bound => simp [pathTo]
  | @back current step path away found _ induction =>
      cases bound with
      | zero => simp at enough
      | succ bound =>
          have rest : pathTo arrivals source bound step.source = path := by
            apply induction
            simpa using enough
          simp [pathTo, away, found, rest]

theorem Unwinds.unique {first second : List Step} (unwinds : Unwinds arrivals source goal first)
    (again : Unwinds arrivals source goal second) : first = second :=
  calc
    first = pathTo arrivals source (max first.length second.length) goal :=
      (unwinds.pathTo_eq (Nat.le_max_left _ _)).symm
    _ = second := again.pathTo_eq (Nat.le_max_right _ _)

/-- Where vertices have one arrival each, a recorded arrival is the only one at its target. -/
theorem filter_arrivals (distinct : (arrivals.map Step.target).Nodup) {arrival : Step}
    (arrived : arrival ∈ arrivals) :
    (arrivals.filter fun step => step.target = arrival.target) = [arrival] := by
  obtain ⟨later, earlier, rfl⟩ := List.append_of_mem arrived
  simp only [List.map_append, List.map_cons, List.nodup_middle, List.nodup_cons,
    List.mem_append, List.mem_map, not_or, not_exists, not_and] at distinct
  obtain ⟨⟨notLater, notEarlier⟩, -⟩ := distinct
  have noneLater : (later.filter fun step => step.target = arrival.target) = [] := by
    simpa using notLater
  have noneEarlier : (earlier.filter fun step => step.target = arrival.target) = [] := by
    simpa using notEarlier
  simp [noneLater, noneEarlier]

theorem find?_arrivals (distinct : (arrivals.map Step.target).Nodup) {arrival : Step}
    (arrived : arrival ∈ arrivals) :
    (arrivals.find? fun step => step.target = arrival.target) = some arrival := by
  rw [← List.head?_filter, filter_arrivals distinct arrived]
  rfl

/-- A walk along arrivals is unwound from its end. -/
theorem unwinds_of_walk (distinct : (arrivals.map Step.target).Nodup)
    (start : source ∉ arrivals.map Step.target) {path : List Step}
    (walk : graph.Walk source path goal) (trail : ∀ step ∈ path, step ∈ arrivals) :
    Unwinds arrivals source goal path := by
  induction path using List.reverseRecOn generalizing goal with
  | nil =>
      obtain rfl : source = goal := FrameGraph.Walk.nil_iff.mp walk
      exact .stop
  | append_singleton path last induction =>
      obtain ⟨before, -, rfl⟩ := FrameGraph.Walk.snoc_iff.mp walk
      have arrived : last ∈ arrivals := trail last (by simp)
      have away : last.target ≠ source := by
        intro same
        apply start
        rw [← same]
        exact List.mem_map_of_mem arrived
      apply Unwinds.back away (find?_arrivals distinct arrived)
      apply induction before
      intro step member
      exact trail step (List.mem_append_left _ member)

end Search

end Kinematics
