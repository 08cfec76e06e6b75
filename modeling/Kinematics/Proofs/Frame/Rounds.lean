import Kinematics.Frame.Path

/-!
# The rounds of a search

A search goes on in rounds, in each of which one vertex leaves the queue and its edges are tried.
It ends in the round that reaches the goal, or when the queue is empty.
-/

namespace Kinematics

namespace Search

/-- The vertex that leaves the queue in a round of a search, the state that comes of trying its
edges, and whether the goal was reached.  There is no round when the queue is empty. -/
def round (incidence : Incidence) (goal : VertexId) (search : Search) :
    Option (VertexId × Search × Bool) :=
  match search.queue with
  | [] => none
  | current :: queue =>
      some (current, tryEdges current goal (incidence.edgesAt current) { search with queue })

/-- The states of a search between its rounds, with the vertices that have left the queue. -/
inductive Stage (incidence : Incidence) (source goal : VertexId) : List VertexId → Search → Prop
  | start : Stage incidence source goal [] (start source)
  | next {taken : List VertexId} {search after : Search} {current : VertexId} :
      Stage incidence source goal taken search →
      search.round incidence goal = some (current, after, false) →
      Stage incidence source goal (taken ++ [current]) after

variable {incidence : Incidence} {source goal : VertexId} {taken : List VertexId}
  {search after : Search} {current : VertexId} {arrived : Bool}

theorem tryEdge_of_opposite {search : Search} {current next : VertexId}
    {entry : EdgeId × Edge} (across : entry.2.opposite? current = some next) :
    search.tryEdge current entry =
      if next ∈ search.visited then (search, none)
      else
        (⟨search.queue ++ [next], next :: search.visited,
          ⟨current, next, entry.1⟩ :: search.arrivals⟩, some next) := by
  unfold tryEdge
  rw [across]

theorem round_eq_none : search.round incidence goal = none ↔ search.queue = [] := by
  unfold round
  split <;> simp_all

theorem round_eq_some : search.round incidence goal = some (current, after, arrived) ↔
    ∃ queue, search.queue = current :: queue ∧
      tryEdges current goal (incidence.edgesAt current) { search with queue } =
        (after, arrived) := by
  unfold round
  split
  · simp_all
  · rename_i first queue isQueue
    simp only [isQueue, Option.some.injEq, Prod.mk.injEq, List.cons.injEq]
    constructor
    · rintro ⟨rfl, result⟩
      exact ⟨queue, ⟨rfl, rfl⟩, result⟩
    · rintro ⟨_, ⟨rfl, rfl⟩, result⟩
      exact ⟨rfl, result⟩

section Running

variable {bound : Nat}

theorem run_of_idle (idle : search.round incidence goal = none) :
    run incidence source goal bound search = none := by
  cases bound with
  | zero => rfl
  | succ bound => simp [run, round_eq_none.mp idle]

theorem run_of_reached (round : search.round incidence goal = some (current, after, true)) :
    run incidence source goal (bound + 1) search =
      some (pathTo after.arrivals source after.arrivals.length goal) := by
  obtain ⟨queue, isQueue, result⟩ := round_eq_some.mp round
  simp [run, isQueue, result]

theorem run_of_not_reached (round : search.round incidence goal = some (current, after, false)) :
    run incidence source goal (bound + 1) search = run incidence source goal bound after := by
  obtain ⟨queue, isQueue, result⟩ := round_eq_some.mp round
  simp [run, isQueue, result]

/-- A search with a bound passes through the stages up to that bound. -/
theorem Stage.run_eq (stage : Stage incidence source goal taken search)
    (enough : taken.length ≤ bound) :
    run incidence source goal bound (Search.start source) =
      run incidence source goal (bound - taken.length) search := by
  induction stage with
  | start => rfl
  | @next taken search after current _ round induction =>
      rw [List.length_append, List.length_singleton] at enough ⊢
      have left : bound - taken.length = bound - (taken.length + 1) + 1 := by omega
      rw [induction (by omega), left, run_of_not_reached round]

end Running

/-- What is added to the queue is what is newly visited, in the same order. -/
theorem tryEdges_adds (current goal : VertexId) (entries : List (EdgeId × Edge))
    (search : Search) :
    ∃ added, (tryEdges current goal entries search).1.queue = search.queue ++ added ∧
      (tryEdges current goal entries search).1.visited = added.reverse ++ search.visited := by
  induction entries generalizing search with
  | nil => exact ⟨[], by simp [tryEdges]⟩
  | cons entry rest induction =>
      cases across : entry.2.opposite? current with
      | none =>
          have skipped : search.tryEdge current entry = (search, none) := by
            simp [tryEdge, across]
          simpa [tryEdges, skipped] using induction search
      | some next =>
          have tried : search.tryEdge current entry = _ := tryEdge_of_opposite across
          by_cases known : next ∈ search.visited
          · simp only [tryEdges, tried, if_pos known]
            exact induction search
          · simp only [tryEdges, tried, if_neg known]
            split
            · exact ⟨[next], by simp⟩
            · obtain ⟨added, queue, visited⟩ := induction
                ⟨search.queue ++ [next], next :: search.visited,
                  ⟨current, next, entry.1⟩ :: search.arrivals⟩
              exact ⟨next :: added, by simp [queue], by simp [visited]⟩

end Search

end Kinematics
