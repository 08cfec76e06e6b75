import Kinematics.Proofs.Frame.EarliestPath

/-!
# The tree of a search

Between any two rounds of a search the arrivals are a tree that grows from the source, and no
vertex has entered the queue twice.  There are therefore at most as many rounds as vertices,
counting a source that is not one of them, and a path that is unwound from the arrivals never
breaks off before the source.
-/

namespace Kinematics

namespace FrameGraph

variable {α : Type} {graph : FrameGraph α}

/-- A path without repeated vertices to another vertex has fewer steps than there are vertices. -/
theorem Walk.length_lt (within : graph.EdgesWithin) {source goal : VertexId} {path : List Step}
    (walk : graph.Walk source path goal) (simple : (Step.visits source path).Nodup)
    (different : source ≠ goal) : path.length < graph.vertices.length := by
  have present : graph.contains source := by
    cases walk with
    | stay => exact absurd rfl different
    | go follows => exact (follows.contains within).1
  have inside : ∀ id ∈ Step.visits source path, graph.contains id := by
    intro id member
    rcases List.mem_cons.mp member with rfl | passed
    · exact present
    · obtain ⟨step, onPath, rfl⟩ := List.mem_map.mp passed
      exact ((walk.follows_of_mem onPath).contains within).2
  calc path.length
    _ < (Step.visits source path).length := by simp [Step.visits]
    _ ≤ graph.vertices.length := length_le_of_contains simple inside

end FrameGraph

namespace Search

/-- The arrivals are a tree with its root at the source.  The latest vertices come first, so
that those visited earlier stand behind a vertex. -/
structure GrowsFrom {α : Type} (graph : FrameGraph α) (source : VertexId) (search : Search) :
    Prop where
  distinct : search.visited.Nodup
  root : source ∈ search.visited ∧ ∀ step ∈ search.arrivals, step.target ≠ source
  recorded : ∀ step ∈ search.arrivals, step.target ∈ search.visited
  arrival : ∀ vertex ∈ search.visited, vertex ≠ source →
    ∃ step, (search.arrivals.filter fun step => step.target = vertex) = [step] ∧
      graph.Follows step ∧
      ∃ later earlier, search.visited = later ++ vertex :: earlier ∧ step.source ∈ earlier
  branch : ∀ vertex ∈ search.visited,
    ∃! path, graph.Walk source path vertex ∧ ∀ step ∈ path, step ∈ search.arrivals

variable {α : Type} {graph : FrameGraph α} {source goal : VertexId} {taken : List VertexId}
  {search after : Search} {current : VertexId}

/-- What has an earlier path was found before. -/
theorem Explains.mem_before {discovery : Discovery}
    (explains : Explains graph source search discovery) {reached origin : Found}
    {before behind : List Found} (split : discovery.found = before ++ reached :: behind)
    (found : origin ∈ discovery.found) (rank : Step.rank origin.path < Step.rank reached.path) :
    origin ∈ before := by
  have ordered := explains.ordered
  rw [split, List.pairwise_append, List.pairwise_cons] at ordered
  rw [split] at found
  rcases List.mem_append.mp found with isBefore | now
  · exact isBefore
  · rcases List.mem_cons.mp now with rfl | isBehind
    · exact absurd rank (lt_irrefl _)
    · exact absurd rank (not_lt_of_gt (ordered.2.1.1 origin isBehind))

theorem Explains.growsFrom {discovery : Discovery}
    (explains : Explains graph source search discovery) :
    search.GrowsFrom graph source := by
  obtain ⟨nodup, start⟩ := explains.nodup_arrivals
  constructor
  case distinct => exact explains.fresh
  case root =>
    constructor
    · simp [explains.visited]
    · intro step member same
      exact start (same ▸ List.mem_map_of_mem member)
  case recorded =>
    intro step member
    rw [explains.visited]
    exact List.mem_append_left _ (List.mem_map_of_mem member)
  case arrival =>
    intro vertex visited away
    obtain ⟨reached, member, rfl⟩ := explains.mem_visited_iff.mp visited
    obtain ⟨path, last, -, arrives, recorded, follows, origin, found, isSource, rank⟩ :=
      explains.exists_origin member away
    refine ⟨last, ?_, follows, ?_⟩
    · rw [← arrives]
      exact filter_arrivals nodup recorded
    · obtain ⟨before, behind, split⟩ := List.append_of_mem member
      have earlier := explains.mem_before split found rank
      refine ⟨(behind.map Found.vertex).reverse, (before.map Found.vertex).reverse, ?_, ?_⟩
      · rw [← List.reverse_reverse search.visited, ← explains.found, split]
        simp
      · rw [List.mem_reverse, ← isSource]
        exact List.mem_map_of_mem earlier
  case branch =>
    intro vertex visited
    obtain ⟨reached, member, rfl⟩ := explains.mem_visited_iff.mp visited
    refine ⟨reached.path, ⟨explains.walk reached member, explains.trail reached member⟩, ?_⟩
    rintro other ⟨walk, trail⟩
    exact (unwinds_of_walk nodup start walk trail).unique (explains.unwinds member)

namespace Stage

variable (within : graph.EdgesWithin) (different : source ≠ goal)

include within different

theorem explains (stage : Stage (Incidence.ofGraph graph) source goal taken search) :
    ∃ finished active, Explains graph source search ⟨finished, active, []⟩ ∧
      taken = finished.map Found.vertex ∧ search.queue = active.map Found.vertex ∧
      goal ∉ search.visited := by
  induction stage with
  | start =>
      refine ⟨[], [⟨source, []⟩], explains_start graph source, rfl, rfl, ?_⟩
      intro visited
      exact different (List.mem_singleton.mp visited).symm
  | next _ round induction =>
      obtain ⟨finished, active, explains, rfl, queue, missing⟩ := induction
      rcases explains.round within queue missing with
        ⟨-, idle⟩ | ⟨_, after, _, reaches, -⟩ |
        ⟨first, waiting, after, others, -, goesOn, next, nextQueue, stillMissing⟩
      · cases round.symm.trans idle
      · cases round.symm.trans reaches
      · cases round.symm.trans goesOn
        exact ⟨finished ++ [first], others, next, by simp, nextQueue, stillMissing⟩

theorem visited_eq (stage : Stage (Incidence.ofGraph graph) source goal taken search) :
    search.visited = (taken ++ search.queue).reverse := by
  obtain ⟨finished, active, explains, rfl, queue, -⟩ := stage.explains within different
  rw [queue, ← List.map_append, ← List.reverse_reverse search.visited]
  exact congrArg List.reverse explains.found.symm

/-- No vertex enters the queue twice, so no more enter it than there are, and the source. -/
theorem entered (stage : Stage (Incidence.ofGraph graph) source goal taken search) :
    (taken ++ search.queue).Nodup ∧
      (taken ++ search.queue).length ≤ graph.vertices.length + 1 := by
  have visited := stage.visited_eq within different
  obtain ⟨finished, active, explains, -⟩ := stage.explains within different
  constructor
  · rw [← List.nodup_reverse, ← visited]
    exact explains.fresh
  · rw [← List.length_reverse, ← visited, ← List.length_reverse, ← explains.found,
      List.length_map]
    exact explains.length_found_le within

/-- The round that reaches the goal has visited what it has put into the queue. -/
theorem reached (stage : Stage (Incidence.ofGraph graph) source goal taken search)
    (round : search.round (Incidence.ofGraph graph) goal = some (current, after, true)) :
    after.visited = (taken ++ current :: after.queue).reverse ∧
      ∃ discovery, Explains graph source after discovery ∧ goal ∈ after.visited := by
  have visited := stage.visited_eq within different
  obtain ⟨finished, active, explains, -, queue, missing⟩ := stage.explains within different
  constructor
  · obtain ⟨rest, isQueue, result⟩ := round_eq_some.mp round
    obtain ⟨added, nextQueue, nextVisited⟩ := tryEdges_adds current goal
      ((Incidence.ofGraph graph).edgesAt current) { search with queue := rest }
    simp only [result] at nextQueue nextVisited
    rw [nextVisited, nextQueue, visited, isQueue]
    simp
  · rcases explains.round within queue missing with
      ⟨-, idle⟩ | ⟨_, after, discovery, reaches, explained⟩ | ⟨_, _, _, _, -, goesOn, -⟩
    · cases round.symm.trans idle
    · cases round.symm.trans reaches
      exact ⟨discovery, explained⟩
    · cases round.symm.trans goesOn

/-- Where the goal is reached, its path is unwound, and every large enough bound gives it. -/
theorem exists_path (stage : Stage (Incidence.ofGraph graph) source goal taken search)
    (round : search.round (Incidence.ofGraph graph) goal = some (current, after, true)) :
    ∃ path, Unwinds after.arrivals source goal path ∧ path.length < graph.vertices.length ∧
      ∀ bound, graph.vertices.length + 1 ≤ bound →
        run (Incidence.ofGraph graph) source goal bound (Search.start source) = some path := by
  obtain ⟨-, discovery, explains, known⟩ := stage.reached within different round
  obtain ⟨found, member, rfl⟩ := explains.mem_visited_iff.mp known
  have shorter := (explains.walk found member).length_lt within (explains.simple found member)
    different
  refine ⟨found.path, explains.unwinds member, shorter, ?_⟩
  intro bound enough
  have size := (stage.entered within different).2
  obtain ⟨queue, isQueue, -⟩ := round_eq_some.mp round
  rw [isQueue, List.length_append, List.length_cons] at size
  have left : bound - taken.length = bound - taken.length - 1 + 1 := by omega
  rw [stage.run_eq (by omega), left, run_of_reached round, explains.pathTo_eq_path member]

theorem exists_last (stage : Stage (Incidence.ofGraph graph) source goal taken search)
    {remaining : Nat} (enough : graph.vertices.length + 1 ≤ taken.length + remaining) :
    ∃ taken search, Stage (Incidence.ofGraph graph) source goal taken search ∧
      ∀ current after,
        search.round (Incidence.ofGraph graph) goal ≠ some (current, after, false) := by
  induction remaining generalizing taken search with
  | zero =>
      have size := (stage.entered within different).2
      rw [List.length_append] at size
      have empty : search.queue = [] := List.length_eq_zero_iff.mp (by omega)
      refine ⟨taken, search, stage, ?_⟩
      intro current after round
      rw [round_eq_none.mpr empty] at round
      cases round
  | succ remaining induction =>
      by_cases goesOn : ∃ current after,
          search.round (Incidence.ofGraph graph) goal = some (current, after, false)
      · obtain ⟨current, after, round⟩ := goesOn
        apply induction (stage.next round)
        rw [List.length_append, List.length_singleton]
        omega
      · push Not at goesOn
        exact ⟨taken, search, stage, goesOn⟩

end Stage

end Search

namespace FrameGraph

variable {α : Type} {graph : FrameGraph α}

theorem findPath_of_ne {source goal : VertexId} (different : source ≠ goal) :
    graph.findPath source goal =
      Search.run (Incidence.ofGraph graph) source goal (graph.vertices.length + 1)
        (Search.start source) :=
  if_neg different

/-- In every graph that can be built, and between every two rounds of a search for another
vertex: every vertex visited besides the source has one arrival, from a vertex visited before
it, and one path of arrivals from the source.  What has entered the queue is distinct, and no
more than the vertices of the graph and the source.  There is a last round; if it reaches the
goal, the path is unwound from the arrivals, none of which is missing, in fewer steps than there
are vertices, and otherwise there is no path.  No bound on the rounds is therefore met. -/
theorem findPath_rounds [Scalar α] (reachable : graph.Reachable) {source goal : VertexId}
    (different : source ≠ goal) :
    let incidence := Incidence.ofGraph graph
    (∀ taken search, Search.Stage incidence source goal taken search →
      search.GrowsFrom graph source ∧ (taken ++ search.queue).Nodup ∧
        (taken ++ search.queue).length ≤ graph.vertices.length + 1 ∧
        (search.round incidence goal = none → graph.findPath source goal = none) ∧
        ∀ current after, search.round incidence goal = some (current, after, true) →
          after.GrowsFrom graph source ∧ (taken ++ current :: after.queue).Nodup ∧
            ∃ path, Search.Unwinds after.arrivals source goal path ∧
              path.length < graph.vertices.length ∧ graph.findPath source goal = some path) ∧
    (∃ taken search, Search.Stage incidence source goal taken search ∧
      ∀ current after, search.round incidence goal ≠ some (current, after, false)) ∧
    ∀ bound, graph.vertices.length + 1 ≤ bound →
      Search.run incidence source goal bound (Search.start source) =
        graph.findPath source goal := by
  intro incidence
  have within := reachable.edgesWithin
  have first : Search.Stage incidence source goal [] (Search.start source) := .start
  obtain ⟨taken, search, stage, last⟩ :=
    first.exists_last within different (Nat.zero_add (graph.vertices.length + 1)).ge
  refine ⟨?_, ⟨taken, search, stage, last⟩, ?_⟩
  · intro taken search stage
    obtain ⟨distinct, size⟩ := stage.entered within different
    obtain ⟨finished, active, explains, -⟩ := stage.explains within different
    refine ⟨explains.growsFrom, distinct, size, ?_, ?_⟩
    · intro idle
      rw [List.length_append] at size
      rw [findPath_of_ne different, stage.run_eq (by omega), Search.run_of_idle idle]
    · intro current after round
      obtain ⟨visited, discovery, reached, -⟩ := stage.reached within different round
      obtain ⟨path, unwinds, shorter, found⟩ := stage.exists_path within different round
      refine ⟨reached.growsFrom, ?_, path, unwinds, shorter, ?_⟩
      · rw [← List.nodup_reverse, ← visited]
        exact reached.fresh
      · rw [findPath_of_ne different]
        exact found _ le_rfl
  · intro bound enough
    rw [findPath_of_ne different]
    cases round : search.round incidence goal with
    | none =>
        have size := (stage.entered within different).2
        rw [List.length_append] at size
        rw [stage.run_eq (by omega), stage.run_eq (by omega), Search.run_of_idle round,
          Search.run_of_idle round]
    | some result =>
        obtain ⟨current, after, arrived⟩ := result
        cases arrived with
        | false => exact absurd round (last current after)
        | true =>
            obtain ⟨path, -, -, found⟩ := stage.exists_path within different round
            rw [found bound enough, found _ le_rfl]

/-- The second round of a search through the diamond reaches the bottom, and unwinds the path to
it by two arrivals. -/
theorem findPath_rounds_diamond :
    let found : Search :=
      ⟨[⟨2⟩, ⟨1⟩], [⟨1⟩, ⟨2⟩, ⟨0⟩], [⟨⟨0⟩, ⟨1⟩, ⟨2⟩⟩, ⟨⟨0⟩, ⟨2⟩, ⟨1⟩⟩]⟩
    let after : Search :=
      ⟨[⟨1⟩, ⟨3⟩], [⟨3⟩, ⟨1⟩, ⟨2⟩, ⟨0⟩],
        [⟨⟨2⟩, ⟨3⟩, ⟨4⟩⟩, ⟨⟨0⟩, ⟨1⟩, ⟨2⟩⟩, ⟨⟨0⟩, ⟨2⟩, ⟨1⟩⟩]⟩
    diamond.Reachable ∧ (⟨0⟩ : VertexId) ≠ ⟨3⟩ ∧
      Search.Stage (Incidence.ofGraph diamond) ⟨0⟩ ⟨3⟩ [⟨0⟩] found ∧
      found.GrowsFrom diamond ⟨0⟩ ∧
      found.round (Incidence.ofGraph diamond) ⟨3⟩ = some (⟨2⟩, after, true) ∧
      after.GrowsFrom diamond ⟨0⟩ ∧
      ∃ path, Search.Unwinds after.arrivals ⟨0⟩ ⟨3⟩ path ∧ path.length < 4 ∧
        diamond.findPath ⟨0⟩ ⟨3⟩ = some path := by
  intro found after
  have different : (⟨0⟩ : VertexId) ≠ ⟨3⟩ := by decide
  have stage : Search.Stage (Incidence.ofGraph diamond) ⟨0⟩ ⟨3⟩ ([] ++ [⟨0⟩]) found :=
    .next .start rfl
  have round : found.round (Incidence.ofGraph diamond) ⟨3⟩ = some (⟨2⟩, after, true) := rfl
  obtain ⟨grows, -, -, -, reaches⟩ :=
    (findPath_rounds diamond_reachable different).1 _ found stage
  obtain ⟨later, -, unwound⟩ := reaches ⟨2⟩ after round
  exact ⟨diamond_reachable, different, stage, grows, round, later, unwound⟩

end FrameGraph

end Kinematics
