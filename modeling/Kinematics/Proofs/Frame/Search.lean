import Kinematics.Proofs.Frame.PathOrder
import Kinematics.Proofs.Frame.Reachable
import Mathlib.Data.List.Nodup

/-!
# The path search

A search tries the edges at found vertices in the order of the paths that they would
complete.  Every vertex is therefore found on its earliest path, and a vertex that is
never found has no path.  A record of the paths found so far, which the search itself
keeps only as arrivals, carries the invariant.
-/

namespace Kinematics

/-- A vertex that a search has found, and the path to it. -/
structure Found where
  vertex : VertexId
  path : List Step

/-- What a search has done.  Vertices that are active still have edges to be tried; of
the first of them some have been. -/
structure Discovery where
  finished : List Found
  active : List Found
  tried : List EdgeId

namespace Discovery

def start (source : VertexId) : Discovery := ⟨[], [⟨source, []⟩], []⟩

/-- All found vertices, in the order they were found. -/
def found (discovery : Discovery) : List Found :=
  discovery.finished ++ discovery.active

/-- The edge at the found vertex has been tried. -/
def Tried (discovery : Discovery) (origin : Found) (edge : EdgeId) : Prop :=
  origin ∈ discovery.finished ∨
    discovery.active.head? = some origin ∧ edge ∈ discovery.tried

variable {finished waiting others : List Found} {current reached : Found} {tried : List EdgeId}
  {edge last : EdgeId}

theorem tried_snoc_iff :
    Tried ⟨finished, current :: waiting, tried ++ [last]⟩ reached edge ↔
      Tried ⟨finished, current :: others, tried⟩ reached edge ∨
        reached = current ∧ edge = last := by
  simp only [Tried, List.head?_cons, Option.some.injEq, List.mem_append, List.mem_singleton,
    and_or_left, or_assoc, eq_comm (a := reached)]

theorem Tried.mem_found {discovery : Discovery} (wasTried : discovery.Tried reached edge) :
    reached ∈ discovery.found := by
  rcases wasTried with done | ⟨head, -⟩
  · exact List.mem_append_left _ done
  · exact List.mem_append_right _ (List.mem_of_head? head)

theorem tried_finish_iff :
    Tried ⟨finished ++ [current], waiting, []⟩ reached edge ↔
      reached ∈ finished ∨ reached = current := by
  simp only [Tried, List.mem_append, List.mem_singleton, List.not_mem_nil, and_false, or_false]

end Discovery

namespace FrameGraph

variable {α : Type}

/-- A path without repeated vertices that no other path to its goal precedes. -/
structure EarliestPath (graph : FrameGraph α) (source : VertexId) (path : List Step)
    (goal : VertexId) : Prop where
  walk : graph.Walk source path goal
  simple : (Step.visits source path).Nodup
  least : ∀ other, graph.Walk source other goal → Step.rank path ≤ Step.rank other

end FrameGraph

namespace Search

variable {α : Type} {graph : FrameGraph α} {source goal : VertexId}

/-- The state of a search agrees with what it has done.  Steps that have been tried led
to a vertex found no later than on their path; steps that have not been tried complete
paths behind all paths found. -/
structure Explains (graph : FrameGraph α) (source : VertexId) (search : Search)
    (discovery : Discovery) : Prop where
  visited : search.visited = search.arrivals.map Step.target ++ [source]
  fresh : search.visited.Nodup
  found : discovery.found.map Found.vertex = search.visited.reverse
  origin : ⟨source, []⟩ ∈ discovery.found
  walk : ∀ reached ∈ discovery.found, graph.Walk source reached.path reached.vertex
  trail : ∀ reached ∈ discovery.found, ∀ step ∈ reached.path, step ∈ search.arrivals
  simple : ∀ reached ∈ discovery.found, (Step.visits source reached.path).Nodup
  ordered : discovery.found.Pairwise fun earlier later =>
    Step.rank earlier.path < Step.rank later.path
  closed : ∀ reached ∈ discovery.found, ∀ step, graph.Follows step →
    step.source = reached.vertex → discovery.Tried reached step.edge →
    ∃ next ∈ discovery.found, next.vertex = step.target ∧
      Step.rank next.path ≤ Step.rank (reached.path ++ [step])
  beyond : ∀ reached ∈ discovery.found, ∀ step, graph.Follows step →
    step.source = reached.vertex → ¬discovery.Tried reached step.edge →
    ∀ other ∈ discovery.found, Step.rank other.path < Step.rank (reached.path ++ [step])

theorem explains_start (graph : FrameGraph α) (source : VertexId) :
    Explains graph source (start source) (Discovery.start source) := by
  have only {reached : Found} (member : reached ∈ (Discovery.start source).found) :
      reached = ⟨source, []⟩ :=
    List.mem_singleton.mp member
  constructor
  · rfl
  · exact List.nodup_singleton source
  · rfl
  · exact List.mem_singleton_self _
  · intro reached member
    rw [only member]
    exact .stay source
  · intro reached member step onPath
    rw [only member] at onPath
    cases onPath
  · intro reached member
    rw [only member]
    exact List.nodup_singleton source
  · exact List.pairwise_singleton _ _
  · rintro reached - step - - (finished | ⟨-, tried⟩)
    · cases finished
    · cases tried
  · intro reached _ step _ _ _ other member
    rw [only member]
    exact Step.rank_lt_iff.mpr (.inl (by simp))

namespace Explains

variable {search : Search} {discovery : Discovery}

theorem mem_visited_iff (explains : Explains graph source search discovery)
    {vertex : VertexId} :
    vertex ∈ search.visited ↔ ∃ reached ∈ discovery.found, reached.vertex = vertex := by
  rw [← List.mem_reverse, ← explains.found, List.mem_map]

theorem found_unique (explains : Explains graph source search discovery)
    {first second : Found} (firstFound : first ∈ discovery.found)
    (secondFound : second ∈ discovery.found) (vertex : first.vertex = second.vertex) :
    first = second := by
  have distinct : (discovery.found.map Found.vertex).Nodup := by
    rw [explains.found, List.nodup_reverse]
    exact explains.fresh
  exact List.inj_on_of_nodup_map distinct firstFound secondFound vertex

/-- A path to any vertex is either no earlier than the one on which the vertex was found,
or behind all paths found so far. -/
theorem reached_or_beyond (explains : Explains graph source search discovery)
    {path : List Step} {goal : VertexId} (walk : graph.Walk source path goal) :
    (∃ reached ∈ discovery.found, reached.vertex = goal ∧
        Step.rank reached.path ≤ Step.rank path) ∨
      ∀ reached ∈ discovery.found, Step.rank reached.path < Step.rank path := by
  -- The last step of the path was tried at the vertex before it, or it was not.
  induction path using List.reverseRecOn generalizing goal with
  | nil =>
      left
      exact ⟨⟨source, []⟩, explains.origin, FrameGraph.Walk.nil_iff.mp walk, le_refl _⟩
  | append_singleton path last induction =>
      obtain ⟨before, follows, arrives⟩ := FrameGraph.Walk.snoc_iff.mp walk
      rcases induction before with ⟨reached, member, vertex, rank⟩ | beyond
      · have extended : Step.rank (reached.path ++ [last]) ≤ Step.rank (path ++ [last]) :=
          Step.rank_snoc_le_of_edge rank rfl
        by_cases tried : discovery.Tried reached last.edge
        · left
          obtain ⟨next, nextMember, nextVertex, nextRank⟩ :=
            explains.closed reached member last follows vertex.symm tried
          exact ⟨next, nextMember, nextVertex.trans arrives, nextRank.trans extended⟩
        · right
          intro other otherMember
          exact lt_of_lt_of_le
            (explains.beyond reached member last follows vertex.symm tried other otherMember)
            extended
      · right
        intro reached member
        exact (beyond reached member).trans (Step.rank_lt_rank_snoc path last)

/-- Every vertex was found on its earliest path. -/
theorem earliestPath (explains : Explains graph source search discovery) {reached : Found}
    (member : reached ∈ discovery.found) :
    graph.EarliestPath source reached.path reached.vertex := by
  refine ⟨explains.walk reached member, explains.simple reached member, ?_⟩
  intro other walk
  rcases explains.reached_or_beyond walk with ⟨same, sameMember, vertex, rank⟩ | beyond
  · rw [explains.found_unique member sameMember vertex.symm]
    exact rank
  · exact le_of_lt (beyond reached member)

/-- When no vertex is active any more, all vertices with a path have been found. -/
theorem exists_found_of_walk (explains : Explains graph source search discovery)
    (idle : discovery.active = []) {path : List Step} (walk : graph.Walk source path goal) :
    ∃ reached ∈ discovery.found, reached.vertex = goal := by
  induction path using List.reverseRecOn generalizing goal with
  | nil =>
      exact ⟨⟨source, []⟩, explains.origin, FrameGraph.Walk.nil_iff.mp walk⟩
  | append_singleton path last induction =>
      obtain ⟨before, follows, arrives⟩ := FrameGraph.Walk.snoc_iff.mp walk
      obtain ⟨reached, member, vertex⟩ := induction before
      have finished : reached ∈ discovery.finished := by
        simpa [Discovery.found, idle] using member
      obtain ⟨next, nextMember, nextVertex, -⟩ :=
        explains.closed reached member last follows vertex.symm (.inl finished)
      exact ⟨next, nextMember, nextVertex.trans arrives⟩

section Trying

variable {finished waiting : List Found} {current : Found} {tried : List EdgeId} {edge : EdgeId}
  (explains : Explains graph source search ⟨finished, current :: waiting, tried⟩)

include explains

theorem current_not_finished : current ∉ finished := by
  intro done
  have distinct : (finished ++ current :: waiting).Pairwise fun earlier later =>
      Step.rank earlier.path < Step.rank later.path := explains.ordered
  have before := (List.pairwise_append.mp distinct).2.2 current done current
    List.mem_cons_self
  exact lt_irrefl _ before

theorem not_tried (untried : edge ∉ tried) :
    ¬Discovery.Tried ⟨finished, current :: waiting, tried⟩ current edge := by
  rintro (done | ⟨-, old⟩)
  · exact explains.current_not_finished done
  · exact untried old

/-- An edge that leads to a found vertex adds nothing but that it has been tried. -/
theorem skip (untried : edge ∉ tried)
    (known : ∀ step, graph.Follows step → step.source = current.vertex → step.edge = edge →
      step.target ∈ search.visited) :
    Explains graph source search ⟨finished, current :: waiting, tried ++ [edge]⟩ := by
  refine { explains with closed := ?_, beyond := ?_ }
  · intro reached member step follows leaves wasTried
    rcases Discovery.tried_snoc_iff.mp wasTried with before | ⟨rfl, isEdge⟩
    · exact explains.closed reached member step follows leaves before
    · obtain ⟨next, nextMember, vertex⟩ :=
        explains.mem_visited_iff.mp (known step follows leaves isEdge)
      have candidate := explains.beyond reached member step follows leaves
        (isEdge ▸ explains.not_tried untried)
      exact ⟨next, nextMember, vertex, le_of_lt (candidate next nextMember)⟩
  · intro reached member step follows leaves notTried
    exact explains.beyond reached member step follows leaves fun before =>
      notTried (Discovery.tried_snoc_iff.mpr (.inl before))

/-- The path through an untried edge to a new vertex visits no vertex twice. -/
theorem simple_snoc {next : VertexId} (new : next ∉ search.visited) :
    (Step.visits source (current.path ++ [⟨current.vertex, next, edge⟩])).Nodup := by
  have currentFound : current ∈ finished ++ current :: waiting := by simp
  have visits : Step.visits source (current.path ++ [⟨current.vertex, next, edge⟩]) =
      (Step.visits source current.path).concat next := by
    simp [Step.visits]
  rw [visits]
  refine (explains.simple current currentFound).concat ?_
  intro revisited
  apply new
  rw [explains.visited]
  rcases List.mem_cons.mp revisited with start | passed
  · exact List.mem_append_right _ (List.mem_singleton.mpr start)
  · obtain ⟨step, onPath, target⟩ := List.mem_map.mp passed
    have arrived := explains.trail current currentFound step onPath
    exact List.mem_append_left _ (target ▸ List.mem_map_of_mem arrived)

/-- The path through the first untried edge is ahead of those through all later ones. -/
theorem snoc_lt_of_untried {arrival : Step} (isEdge : arrival.edge = edge)
    (first : ∀ step, graph.Follows step → step.source = current.vertex →
      step.edge ∉ tried → step.edge ≠ edge → edge.index < step.edge.index)
    {reached : Found} (member : reached ∈ finished ++ current :: waiting) {step : Step}
    (follows : graph.Follows step) (leaves : step.source = reached.vertex)
    (notTried : ¬Discovery.Tried ⟨finished, current :: waiting, tried ++ [edge]⟩ reached
      step.edge) :
    Step.rank (current.path ++ [arrival]) < Step.rank (reached.path ++ [step]) := by
  rcases List.mem_append.mp member with done | active
  · exact absurd (.inl done) notTried
  · rcases List.mem_cons.mp active with rfl | waits
    · have notNow : step.edge ∉ tried ++ [edge] := fun now => notTried (.inr ⟨rfl, now⟩)
      simp only [List.mem_append, List.mem_singleton, not_or] at notNow
      have earlier : arrival.edge.index < step.edge.index := by
        rw [isEdge]
        exact first step follows leaves notNow.1 notNow.2
      exact Step.rank_snoc_lt_of_edge earlier reached.path
    · have order := (List.pairwise_append.mp explains.ordered).2.1
      have later := List.rel_of_pairwise_cons order waits
      exact Step.rank_snoc_lt_rank_snoc later arrival step

/-- An edge that leads to a new vertex finds it on the path through the edge. -/
theorem discover (untried : edge ∉ tried) {next : VertexId}
    (follows : graph.Follows ⟨current.vertex, next, edge⟩)
    (new : next ∉ search.visited)
    (first : ∀ step, graph.Follows step → step.source = current.vertex →
      step.edge ∉ tried → step.edge ≠ edge → edge.index < step.edge.index)
    (queue : List VertexId) :
    Explains graph source
      ⟨queue, next :: search.visited, ⟨current.vertex, next, edge⟩ :: search.arrivals⟩
      ⟨finished,
        current :: (waiting ++ [⟨next, current.path ++ [⟨current.vertex, next, edge⟩]⟩]),
        tried ++ [edge]⟩ := by
  let arrival : Step := ⟨current.vertex, next, edge⟩
  let added : Found := ⟨next, current.path ++ [arrival]⟩
  have currentFound : current ∈ finished ++ current :: waiting := by simp
  have mem_iff {reached : Found} :
      reached ∈ finished ++ current :: (waiting ++ [added]) ↔
        reached ∈ finished ++ current :: waiting ∨ reached = added := by
    simp only [List.mem_append, List.mem_cons, List.not_mem_nil]
    tauto
  have behind {reached : Found} (member : reached ∈ finished ++ current :: waiting) :
      Step.rank reached.path < Step.rank added.path :=
    explains.beyond current currentFound arrival follows rfl (explains.not_tried untried)
      reached member
  constructor
  case visited => simp only [List.map_cons, List.cons_append, explains.visited]
  case fresh => exact List.nodup_cons.mpr ⟨new, explains.fresh⟩
  case found =>
    have before := explains.found
    simp only [Discovery.found] at before ⊢
    rw [List.reverse_cons, ← before]
    simp
  case origin => exact mem_iff.mpr (.inl explains.origin)
  case walk =>
    intro reached member
    rcases mem_iff.mp member with old | rfl
    · exact explains.walk reached old
    · exact FrameGraph.Walk.snoc_iff.mpr ⟨explains.walk current currentFound, follows, rfl⟩
  case trail =>
    intro reached member step onPath
    rcases mem_iff.mp member with old | rfl
    · exact List.mem_cons_of_mem _ (explains.trail reached old step onPath)
    · rcases List.mem_append.mp onPath with before | last
      · exact List.mem_cons_of_mem _ (explains.trail current currentFound step before)
      · exact List.mem_cons.mpr (.inl (List.mem_singleton.mp last))
  case simple =>
    intro reached member
    rcases mem_iff.mp member with old | rfl
    · exact explains.simple reached old
    · exact explains.simple_snoc new
  case ordered =>
    have before := explains.ordered
    simp only [Discovery.found] at before ⊢
    rw [← List.cons_append, ← List.append_assoc, List.pairwise_append]
    refine ⟨before, List.pairwise_singleton _ _, ?_⟩
    intro reached member other last
    rw [List.mem_singleton.mp last]
    exact behind member
  case closed =>
    intro reached member step stepFollows leaves wasTried
    have before : Discovery.Tried ⟨finished, current :: waiting, tried⟩ reached step.edge ∨
        reached = current ∧ step.edge = edge := Discovery.tried_snoc_iff.mp wasTried
    rcases before with before | ⟨rfl, isEdge⟩
    · -- Edges had been tried only at vertices that had been found.
      obtain ⟨other, otherMember, vertex, rank⟩ :=
        explains.closed reached before.mem_found step stepFollows leaves before
      exact ⟨other, mem_iff.mpr (.inl otherMember), vertex, rank⟩
    · refine ⟨added, mem_iff.mpr (.inr rfl), ?_, ?_⟩
      · exact follows.target_eq stepFollows leaves.symm isEdge.symm
      · exact Step.rank_snoc_le_of_edge le_rfl isEdge.symm
  case beyond =>
    intro reached member step stepFollows leaves notTried other otherMember
    have addedFirst : Step.rank added.path < Step.rank (reached.path ++ [step]) := by
      rcases mem_iff.mp member with old | rfl
      · exact explains.snoc_lt_of_untried rfl first old stepFollows leaves notTried
      · exact Step.rank_lt_rank_snoc added.path step
    rcases mem_iff.mp otherMember with old | rfl
    · exact (behind old).trans addedFirst
    · exact addedFirst

end Trying

/-- A vertex is finished when all its edges have been tried. -/
theorem finish {finished waiting : List Found} {current : Found} {tried : List EdgeId}
    (explains : Explains graph source search ⟨finished, current :: waiting, tried⟩)
    (all : ∀ step, graph.Follows step → step.source = current.vertex → step.edge ∈ tried) :
    Explains graph source search ⟨finished ++ [current], waiting, []⟩ := by
  have same : Discovery.found ⟨finished ++ [current], waiting, []⟩ =
      Discovery.found ⟨finished, current :: waiting, tried⟩ := by
    simp [Discovery.found]
  constructor
  case visited => exact explains.visited
  case fresh => exact explains.fresh
  case closed =>
    rw [same]
    intro reached member step follows leaves wasTried
    apply explains.closed reached member step follows leaves
    rcases Discovery.tried_finish_iff.mp wasTried with done | rfl
    · exact .inl done
    · exact .inr ⟨rfl, all step follows leaves⟩
  case beyond =>
    rw [same]
    intro reached member step follows leaves notTried
    apply explains.beyond reached member step follows leaves
    rintro (done | ⟨head, -⟩)
    · exact notTried (Discovery.tried_finish_iff.mpr (.inl done))
    · exact notTried (Discovery.tried_finish_iff.mpr (.inr (Option.some.inj head).symm))
  all_goals rw [same]
  case found => exact explains.found
  case origin => exact explains.origin
  case walk => exact explains.walk
  case trail => exact explains.trail
  case simple => exact explains.simple
  case ordered => exact explains.ordered

/-- The queue is no part of what a search has found. -/
theorem requeue (explains : Explains graph source search discovery) (queue : List VertexId) :
    Explains graph source { search with queue } discovery :=
  { explains with }

end Explains

end Search

end Kinematics
