import Kinematics.Proofs.Frame.Rounds
import Kinematics.Proofs.Frame.Search
import Kinematics.Proofs.Frame.Unwinding

/-!
# What a search answers

The loops of a search keep its record in step with its state, and the bound on the
number of rounds is never met.  What the search unwinds from the arrivals is the path on
which the goal was found.
-/

namespace Kinematics

namespace Search

variable {α : Type} {graph : FrameGraph α} {source goal : VertexId}

/-- An entry of the incidence at a vertex: what was tried before it, what comes after. -/
theorem untried_of_split {vertex : VertexId} {before after : List (EdgeId × Edge)}
    {entry : EdgeId × Edge} (split : graph.edgesAt vertex = before ++ entry :: after) :
    entry.1 ∉ before.map Prod.fst ∧
      ∀ step, graph.Follows step → step.source = vertex → step.edge ∉ before.map Prod.fst →
        step.edge ≠ entry.1 → entry.1.index < step.edge.index := by
  have order := graph.pairwise_edgesAt vertex
  rw [split, List.pairwise_append] at order
  constructor
  · intro earlier
    obtain ⟨other, member, same⟩ := List.mem_map.mp earlier
    have smaller := order.2.2 other member entry List.mem_cons_self
    rw [same] at smaller
    exact lt_irrefl _ smaller
  · intro step follows leaves notBefore notEntry
    obtain ⟨edge, member, -⟩ := FrameGraph.mem_edgesAt_of_follows follows
    rw [leaves, split] at member
    rcases List.mem_append.mp member with earlier | now
    · exact absurd (List.mem_map.mpr ⟨_, earlier, rfl⟩) notBefore
    · rcases List.mem_cons.mp now with same | later
      · exact absurd (congrArg Prod.fst same) notEntry
      · exact List.rel_of_pairwise_cons order.2.1 later

/-- Trying the edges of a vertex either reaches the goal or leaves it unfound with all
edges of the vertex tried. -/
theorem tryEdges_explains {finished waiting : List Found} {current : Found}
    {before entries : List (EdgeId × Edge)} {search : Search}
    (split : graph.edgesAt current.vertex = before ++ entries)
    (explains : Explains graph source search
      ⟨finished, current :: waiting, before.map Prod.fst⟩)
    (queue : search.queue = waiting.map Found.vertex) (missing : goal ∉ search.visited) :
    (∃ after discovery, tryEdges current.vertex goal entries search = (after, true) ∧
        Explains graph source after discovery ∧ goal ∈ after.visited) ∨
      ∃ after others, tryEdges current.vertex goal entries search = (after, false) ∧
        Explains graph source after ⟨finished, current :: others,
          (graph.edgesAt current.vertex).map Prod.fst⟩ ∧
        after.queue = others.map Found.vertex ∧ goal ∉ after.visited := by
  induction entries generalizing before search waiting with
  | nil =>
      right
      refine ⟨search, waiting, rfl, ?_, queue, missing⟩
      rw [split, List.append_nil]
      exact explains
  | cons entry rest induction =>
      obtain ⟨untried, first⟩ := untried_of_split split
      have member : entry ∈ graph.edgesAt current.vertex := by simp [split]
      have splitNext : graph.edgesAt current.vertex = (before ++ [entry]) ++ rest := by
        simp [split]
      have triedNext : (before ++ [entry]).map Prod.fst = before.map Prod.fst ++ [entry.1] := by
        simp
      obtain ⟨next, across⟩ := FrameGraph.exists_opposite_of_mem_edgesAt member
      have follows := FrameGraph.follows_of_mem_edgesAt member across
      unfold tryEdges
      rw [tryEdge_of_opposite across]
      by_cases known : next ∈ search.visited
      · rw [if_pos known]
        apply induction splitNext _ queue missing
        rw [triedNext]
        apply explains.skip untried
        intro step stepFollows leaves isEdge
        rw [← follows.target_eq stepFollows leaves.symm isEdge.symm]
        exact known
      · rw [if_neg known]
        have discovered := explains.discover untried follows known first (search.queue ++ [next])
        by_cases arrived : next = goal
        · left
          exact ⟨_, _, if_pos arrived, discovered, List.mem_cons.mpr (.inl arrived.symm)⟩
        · simp only [if_neg arrived]
          apply induction splitNext
          · rw [triedNext]
            exact discovered
          · simp [queue]
          · rintro (_ | ⟨_, old⟩)
            · exact arrived rfl
            · exact missing old

namespace Explains

variable {search : Search} {discovery : Discovery}

theorem nodup_arrivals (explains : Explains graph source search discovery) :
    (search.arrivals.map Step.target).Nodup ∧ source ∉ search.arrivals.map Step.target := by
  have fresh := explains.fresh
  rw [explains.visited, List.nodup_append] at fresh
  refine ⟨fresh.1, ?_⟩
  intro arrived
  exact fresh.2.2 source arrived source (List.mem_singleton_self _) rfl

/-- The arrivals lead back along the path on which a vertex was found. -/
theorem unwinds (explains : Explains graph source search discovery) {reached : Found}
    (member : reached ∈ discovery.found) :
    Unwinds search.arrivals source reached.vertex reached.path := by
  obtain ⟨distinct, start⟩ := explains.nodup_arrivals
  exact unwinds_of_walk distinct start (explains.walk reached member)
    (explains.trail reached member)

theorem pathTo_eq_path (explains : Explains graph source search discovery) {reached : Found}
    (member : reached ∈ discovery.found) :
    pathTo search.arrivals source search.arrivals.length reached.vertex = reached.path := by
  have simple : reached.path.Nodup := by
    have visits := (List.nodup_cons.mp (explains.simple reached member)).2
    exact List.Nodup.of_map _ visits
  have short : reached.path.length ≤ search.arrivals.length :=
    (List.subperm_of_subset simple (explains.trail reached member)).length_le
  exact (explains.unwinds member).pathTo_eq short

/-- A found vertex other than the source was reached from one that had been found before. -/
theorem exists_origin (explains : Explains graph source search discovery) {reached : Found}
    (member : reached ∈ discovery.found) (away : reached.vertex ≠ source) :
    ∃ path last, reached.path = path ++ [last] ∧ last.target = reached.vertex ∧
      last ∈ search.arrivals ∧ graph.Follows last ∧
      ∃ origin ∈ discovery.found, origin.vertex = last.source ∧
        Step.rank origin.path < Step.rank reached.path := by
  have walk := explains.walk reached member
  rcases List.eq_nil_or_concat reached.path with nil | ⟨path, last, isSnoc⟩
  · rw [nil, FrameGraph.Walk.nil_iff] at walk
    exact absurd walk.symm away
  · rw [List.concat_eq_append] at isSnoc
    rw [isSnoc] at walk
    obtain ⟨before, follows, arrives⟩ := FrameGraph.Walk.snoc_iff.mp walk
    have recorded : last ∈ search.arrivals :=
      explains.trail reached member last (by simp [isSnoc])
    have shorter : Step.rank path < Step.rank reached.path := by
      rw [isSnoc]
      exact Step.rank_lt_rank_snoc path last
    refine ⟨path, last, isSnoc, arrives, recorded, follows, ?_⟩
    rcases explains.reached_or_beyond before with ⟨origin, found, vertex, rank⟩ | beyond
    · exact ⟨origin, found, vertex, lt_of_le_of_lt rank shorter⟩
    · exact absurd (beyond reached member) (not_lt_of_gt shorter)

/-- No more vertices can be finished than there are, counting the source. -/
theorem length_found_le (explains : Explains graph source search discovery)
    (within : graph.EdgesWithin) : discovery.found.length ≤ graph.vertices.length + 1 := by
  have distinct : (discovery.found.map Found.vertex).Nodup := by
    rw [explains.found, List.nodup_reverse]
    exact explains.fresh
  have inside : ∀ vertex ∈ (discovery.found.map Found.vertex).erase source,
      graph.contains vertex := by
    intro vertex member
    obtain ⟨away, found⟩ := distinct.mem_erase_iff.mp member
    obtain ⟨reached, reachedFound, rfl⟩ := List.mem_map.mp found
    obtain ⟨_, last, -, arrives, -, follows, -⟩ := explains.exists_origin reachedFound away
    rw [← arrives]
    exact (follows.contains within).2
  have others := FrameGraph.length_le_of_contains (distinct.erase source) inside
  have all : (discovery.found.map Found.vertex).length - 1 ≤
      ((discovery.found.map Found.vertex).erase source).length := List.le_length_erase
  rw [List.length_map] at all
  omega

/-- A search that has nothing left to try has found no path to what it has not visited. -/
theorem not_joined {finished : List Found}
    (explains : Explains graph source search ⟨finished, [], []⟩)
    (missing : goal ∉ search.visited) : ¬graph.Joined source goal := by
  intro joined
  obtain ⟨path, walk⟩ := FrameGraph.joined_iff_exists_walk.mp joined
  exact missing (explains.mem_visited_iff.mpr (explains.exists_found_of_walk rfl walk))

/-- Between two rounds, either nothing is left to be tried, or the next round reaches the goal, or
it leaves the goal unfound with one more vertex finished. -/
theorem round (within : graph.EdgesWithin) {finished active : List Found}
    (explains : Explains graph source search ⟨finished, active, []⟩)
    (queue : search.queue = active.map Found.vertex) (missing : goal ∉ search.visited) :
    active = [] ∧ search.round (Incidence.ofGraph graph) goal = none ∨
      (∃ current after discovery,
        search.round (Incidence.ofGraph graph) goal = some (current, after, true) ∧
          Explains graph source after discovery ∧ goal ∈ after.visited) ∨
      ∃ current waiting after others, active = current :: waiting ∧
        search.round (Incidence.ofGraph graph) goal = some (current.vertex, after, false) ∧
          Explains graph source after ⟨finished ++ [current], others, []⟩ ∧
          after.queue = others.map Found.vertex ∧ goal ∉ after.visited := by
  cases active with
  | nil => exact .inl ⟨rfl, round_eq_none.mpr queue⟩
  | cons current waiting =>
      right
      rcases tryEdges_explains (List.nil_append _).symm
          (explains.requeue (waiting.map Found.vertex)) rfl missing with
        ⟨after, discovery, result, reached, visited⟩ |
        ⟨after, others, result, exhausted, nextQueue, stillMissing⟩
      · left
        rw [← Incidence.edgesAt_ofGraph within] at result
        exact ⟨current.vertex, after, discovery,
          round_eq_some.mpr ⟨waiting.map Found.vertex, queue, result⟩, reached, visited⟩
      · right
        rw [← Incidence.edgesAt_ofGraph within] at result
        have done := exhausted.finish (by
          intro step follows leaves
          obtain ⟨edge, member, -⟩ := FrameGraph.mem_edgesAt_of_follows follows
          exact List.mem_map.mpr ⟨_, leaves ▸ member, rfl⟩)
        exact ⟨current, waiting, after, others, rfl,
          round_eq_some.mpr ⟨waiting.map Found.vertex, queue, result⟩, done, nextQueue,
          stillMissing⟩

end Explains

/-- From any state between two rounds, a search with enough rounds left ends with the
earliest path to the goal, or with none if there is none. -/
theorem run_answers (within : graph.EdgesWithin) {bound : Nat} {search : Search}
    {finished active : List Found}
    (explains : Explains graph source search ⟨finished, active, []⟩)
    (queue : search.queue = active.map Found.vertex) (missing : goal ∉ search.visited)
    (enough : graph.vertices.length + 1 ≤ bound + finished.length) :
    (∃ path, run (Incidence.ofGraph graph) source goal bound search = some path ∧
        graph.EarliestPath source path goal) ∨
      run (Incidence.ofGraph graph) source goal bound search = none ∧
        ¬graph.Joined source goal := by
  -- Every round finishes one vertex more, so the sum of `enough` stays.
  induction bound generalizing search finished active with
  | zero =>
      have size := explains.length_found_le within
      simp only [Discovery.found, List.length_append] at size
      have idle : active = [] := List.length_eq_zero_iff.mp (by omega)
      subst idle
      exact .inr ⟨rfl, explains.not_joined missing⟩
  | succ bound induction =>
      rcases explains.round within queue missing with
        ⟨rfl, idle⟩ | ⟨current, after, discovery, round, reachedGoal, visited⟩ |
        ⟨current, waiting, after, others, -, round, done, nextQueue, stillMissing⟩
      · exact .inr ⟨run_of_idle idle, explains.not_joined missing⟩
      · obtain ⟨reached, member, isGoal⟩ := reachedGoal.mem_visited_iff.mp visited
        left
        rw [run_of_reached round, ← isGoal]
        exact ⟨reached.path, congrArg some (reachedGoal.pathTo_eq_path member),
          reachedGoal.earliestPath member⟩
      · rw [run_of_not_reached round]
        apply induction done nextQueue stillMissing
        rw [List.length_append, List.length_singleton]
        omega

end Search

namespace FrameGraph

variable {α : Type} {graph : FrameGraph α}

/-- The search gives the earliest path, or none where no edges join the vertices. -/
theorem findPath_answers (within : graph.EdgesWithin) (source goal : VertexId) :
    (∃ path, graph.findPath source goal = some path ∧ graph.EarliestPath source path goal) ∨
      graph.findPath source goal = none ∧ ¬graph.Joined source goal := by
  unfold findPath
  split
  · rename_i same
    refine .inl ⟨[], rfl, Walk.nil_iff.mpr same, List.nodup_singleton source, ?_⟩
    intro other _
    rcases other with - | ⟨step, rest⟩
    · exact le_rfl
    · exact Step.rank_le_iff.mpr (.inl (by simp))
  · rename_i different
    exact Search.run_answers within (Search.explains_start graph source) rfl
      (fun visited => different (List.mem_singleton.mp visited).symm) (by simp)

theorem findPath_eq_some (within : graph.EdgesWithin) {source goal : VertexId}
    (joined : graph.Joined source goal) :
    ∃ path, graph.findPath source goal = some path ∧ graph.EarliestPath source path goal := by
  rcases graph.findPath_answers within source goal with found | ⟨-, apart⟩
  · exact found
  · exact absurd joined apart

theorem findPath_eq_none_iff (within : graph.EdgesWithin) {source goal : VertexId} :
    graph.findPath source goal = none ↔ ¬graph.Joined source goal := by
  rcases graph.findPath_answers within source goal with ⟨path, found, earliest⟩ | ⟨none, apart⟩
  · rw [found]
    simp [earliest.walk.joined]
  · simp [none, apart]

/-- A search looks at the edges and at the number of vertices only. -/
theorem findPath_congr {other : FrameGraph α} (edges : other.edges = graph.edges)
    (size : other.vertices.length = graph.vertices.length) (source goal : VertexId) :
    other.findPath source goal = graph.findPath source goal := by
  unfold findPath Incidence.ofGraph indexedEdges
  rw [edges, size]

/-- Four frames with two ways around, an edge from the first frame to itself, and two edges
between the same frames. -/
def diamond : FrameGraph Float :=
  { vertices := ["top", "left", "right", "bottom"].map fun name => ⟨name, Transform.identity⟩
    edges :=
      [⟨⟨0⟩, ⟨0⟩, .forward⟩, ⟨⟨0⟩, ⟨2⟩, .backward⟩, ⟨⟨1⟩, ⟨0⟩, .forward⟩,
        ⟨⟨3⟩, ⟨1⟩, .backward⟩, ⟨⟨3⟩, ⟨2⟩, .backward⟩, ⟨⟨2⟩, ⟨3⟩, .forward⟩]
    root := some ⟨0⟩ }

theorem diamond_reachable : diamond.Reachable := by
  have root : Reachable (withRoot "top" : FrameGraph Float) := .withRoot "top"
  have vertices := ((root.addVertex "left" Transform.identity).addVertex "right"
    Transform.identity).addVertex "bottom" Transform.identity
  have loop := vertices.addEdge
    (rfl : FrameGraph.addEdge _ ⟨0⟩ ⟨0⟩ .forward = Except.ok (_, _))
  have right := loop.addEdge (rfl : FrameGraph.addEdge _ ⟨0⟩ ⟨2⟩ .backward = Except.ok (_, _))
  have left := right.addEdge (rfl : FrameGraph.addEdge _ ⟨1⟩ ⟨0⟩ .forward = Except.ok (_, _))
  have under := left.addEdge (rfl : FrameGraph.addEdge _ ⟨3⟩ ⟨1⟩ .backward = Except.ok (_, _))
  have closing := under.addEdgePair (rfl : FrameGraph.addEdgePair _ ⟨3⟩ ⟨2⟩ = Except.ok (_, _))
  exact closing

/-- In every graph that can be built, a vertex has the empty path to itself, and another
vertex has a path exactly when edges join the two.  The path repeats no vertex, no path
has fewer steps, and none with as many has edges that come earlier. -/
theorem findPath_earliest [Scalar α] (reachable : graph.Reachable) (source goal : VertexId) :
    (source = goal → graph.findPath source goal = some []) ∧
      (source ≠ goal →
        ((graph.findPath source goal).isSome ↔ graph.Joined source goal)) ∧
      ∀ path, graph.findPath source goal = some path →
        graph.Walk source path goal ∧ (Step.visits source path).Nodup ∧
          ∀ other, graph.Walk source other goal →
            path.length ≤ other.length ∧
              (other.length = path.length → Step.positions path ≤ Step.positions other) := by
  have within := reachable.edgesWithin
  refine ⟨?_, ?_, ?_⟩
  · intro same
    exact if_pos same
  · intro _
    rw [Option.isSome_iff_ne_none, ne_eq, findPath_eq_none_iff within, not_not]
  · intro path result
    rcases graph.findPath_answers within source goal with ⟨found, some, earliest⟩ | ⟨none, -⟩
    · cases some.symm.trans result
      refine ⟨earliest.walk, earliest.simple, ?_⟩
      intro other walk
      rcases Step.rank_le_iff.mp (earliest.least other walk) with shorter | ⟨size, earlier⟩
      · exact ⟨le_of_lt shorter, fun same => absurd same (ne_of_gt shorter)⟩
      · exact ⟨le_of_eq size, fun _ => earlier⟩
    · cases none.symm.trans result

theorem findPath_earliest_diamond :
    diamond.Reachable ∧
      diamond.findPath ⟨0⟩ ⟨3⟩ = some [⟨⟨0⟩, ⟨2⟩, ⟨1⟩⟩, ⟨⟨2⟩, ⟨3⟩, ⟨4⟩⟩] ∧
      ∀ other, diamond.Walk ⟨0⟩ other ⟨3⟩ →
        2 ≤ other.length ∧ (other.length = 2 → [1, 4] ≤ Step.positions other) := by
  have answer := (findPath_earliest diamond_reachable ⟨0⟩ ⟨3⟩).2.2 _ rfl
  exact ⟨diamond_reachable, rfl, answer.2.2⟩

end FrameGraph

end Kinematics
