import Kinematics.Proofs.Frame.Walk
import Mathlib.Data.List.Lex
import Mathlib.Data.Prod.Lex

/-!
# The order of paths

Paths are ranked by the number of their steps, and paths of the same length by the
positions of their edges.  A search that works through the edges at found vertices in
order meets paths in the order of their ranks.
-/

namespace Kinematics

namespace Step

/-- The place of a path in the order of paths: fewer steps first, then earlier edges. -/
def rank (path : List Step) : Nat ×ₗ List Nat :=
  toLex (path.length, positions path)

theorem rank_lt_iff {first second : List Step} :
    rank first < rank second ↔ first.length < second.length ∨
      first.length = second.length ∧ positions first < positions second :=
  Prod.Lex.toLex_lt_toLex

theorem rank_le_iff {first second : List Step} :
    rank first ≤ rank second ↔ first.length < second.length ∨
      first.length = second.length ∧ positions first ≤ positions second :=
  Prod.Lex.toLex_le_toLex

private theorem append_lt_append_of_lt {first second : List Nat} (before : first < second)
    (size : first.length = second.length) (firstRest secondRest : List Nat) :
    first ++ firstRest < second ++ secondRest := by
  have lexicographic : List.Lex (· < ·) first second := before
  induction lexicographic with
  | nil => cases size
  | rel smaller => exact .rel smaller
  | cons later induction => exact .cons (induction later (Nat.succ.inj size))

theorem rank_lt_rank_snoc (path : List Step) (last : Step) :
    rank path < rank (path ++ [last]) := by
  apply rank_lt_iff.mpr
  left
  simp

/-- Extending two paths by a step keeps their order. -/
theorem rank_snoc_lt_rank_snoc {first second : List Step} (before : rank first < rank second)
    (firstLast secondLast : Step) :
    rank (first ++ [firstLast]) < rank (second ++ [secondLast]) := by
  rw [rank_lt_iff] at before ⊢
  rcases before with shorter | ⟨size, earlier⟩
  · left
    simpa using shorter
  · right
    refine ⟨by simp [size], ?_⟩
    simp only [positions, List.map_append]
    exact append_lt_append_of_lt earlier (by simpa [positions] using size) _ _

/-- Of two steps after the same path, the one along the earlier edge comes first. -/
theorem rank_snoc_lt_of_edge {first second : Step}
    (earlier : first.edge.index < second.edge.index) (path : List Step) :
    rank (path ++ [first]) < rank (path ++ [second]) := by
  apply rank_lt_iff.mpr
  right
  refine ⟨by simp, ?_⟩
  simp only [positions, List.map_append]
  exact List.Lex.append_left _ (.rel earlier) _

theorem rank_snoc_le_of_edge {first second : List Step} (before : rank first ≤ rank second)
    {firstLast secondLast : Step} (edge : firstLast.edge = secondLast.edge) :
    rank (first ++ [firstLast]) ≤ rank (second ++ [secondLast]) := by
  rcases lt_or_eq_of_le before with strict | same
  · exact le_of_lt (rank_snoc_lt_rank_snoc strict firstLast secondLast)
  · have parts := Prod.mk.inj (toLex_inj.mp same)
    have positionsEqual :
        positions (first ++ [firstLast]) = positions (second ++ [secondLast]) := by
      have earlier : positions first = positions second := parts.2
      simp only [positions, List.map_append] at earlier ⊢
      rw [earlier, List.map_singleton, List.map_singleton, edge]
    apply rank_le_iff.mpr
    right
    exact ⟨by simp [parts.1], le_of_eq positionsEqual⟩

end Step

end Kinematics
