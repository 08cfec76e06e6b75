import Kinematics.Proofs.Frame.EarliestPath

/-!
# Forests of frames

Frames hang from earlier frames: every edge joins a child to the reference that a parent
function gives for it.  Then a path without repetitions climbs toward earlier frames
first and descends afterwards, which leaves only one way between two frames.
-/

namespace Kinematics

theorem VertexId.ext_index {left right : VertexId} (same : left.index = right.index) :
    left = right := by
  cases left
  cases right
  exact congrArg VertexId.mk same

namespace FrameGraph

variable {α : Type} {graph : FrameGraph α} {parent : VertexId → Option VertexId}

/-- The edges of the graph are those between frames and their parents, which were inserted
earlier. -/
structure Hangs (graph : FrameGraph α) (parent : VertexId → Option VertexId) : Prop where
  edge : ∀ edge ∈ graph.edges, parent edge.child = some edge.reference
  adjacent : ∀ {child above : VertexId}, parent child = some above → graph.Adjacent child above
  earlier : ∀ {child above : VertexId}, parent child = some above → above.index < child.index

/-- A path that leads from a vertex to another one and visits no vertex twice. -/
structure SimplePath (graph : FrameGraph α) (source : VertexId) (path : List Step)
    (goal : VertexId) : Prop where
  walk : graph.Walk source path goal
  simple : (Step.visits source path).Nodup

theorem Walk.visits_reverse {source goal : VertexId} {path : List Step}
    (walk : graph.Walk source path goal) :
    Step.visits goal (path.reverse.map Step.reversed) = (Step.visits source path).reverse := by
  induction walk with
  | stay vertex => rfl
  | @go step rest goal _ _ induction =>
      have front : Step.visits goal ((step :: rest).reverse.map Step.reversed) =
          Step.visits goal (rest.reverse.map Step.reversed) ++ [step.source] := by
        simp [Step.visits, Step.reversed]
      rw [front, induction, ← List.reverse_cons]
      rfl

theorem Walk.mem_visits {source goal : VertexId} {path : List Step}
    (walk : graph.Walk source path goal) : goal ∈ Step.visits source path := by
  induction walk with
  | stay vertex => exact List.mem_cons_self
  | go _ _ induction => exact List.mem_cons_of_mem _ induction

namespace SimplePath

variable {source goal : VertexId} {path : List Step}

theorem reverse (simplePath : graph.SimplePath source path goal) :
    graph.SimplePath goal (path.reverse.map Step.reversed) source := by
  refine ⟨simplePath.walk.reverse, ?_⟩
  rw [simplePath.walk.visits_reverse, List.nodup_reverse]
  exact simplePath.simple

theorem cons_iff {step : Step} {rest : List Step} :
    graph.SimplePath source (step :: rest) goal ↔
      step.source = source ∧ graph.Follows step ∧ source ∉ Step.visits step.target rest ∧
        graph.SimplePath step.target rest goal := by
  constructor
  · rintro ⟨walk, simple⟩
    have visits : (source :: Step.visits step.target rest).Nodup := simple
    obtain ⟨leaves, follows, later⟩ := Walk.cons_iff.mp walk
    rw [List.nodup_cons] at visits
    exact ⟨leaves, follows, visits.1, later, visits.2⟩
  · rintro ⟨leaves, follows, avoids, later⟩
    exact ⟨Walk.cons_iff.mpr ⟨leaves, follows, later.walk⟩,
      List.nodup_cons.mpr ⟨avoids, later.simple⟩⟩

theorem eq_nil {vertex : VertexId} (simplePath : graph.SimplePath vertex path vertex) :
    path = [] := by
  cases path with
  | nil => rfl
  | cons step rest =>
      obtain ⟨-, -, avoids, later⟩ := cons_iff.mp simplePath
      exact absurd later.walk.mem_visits avoids

end SimplePath

namespace Hangs

variable {source goal : VertexId} {path first second : List Step}

theorem adjacent_iff (hangs : graph.Hangs parent) {left right : VertexId} :
    graph.Adjacent left right ↔ parent left = some right ∨ parent right = some left := by
  constructor
  · rintro ⟨edge, member, joins⟩
    have up := hangs.edge edge member
    rcases Edge.ends_eq_of_joins joins with ⟨isReference, isChild⟩ | ⟨isChild, isReference⟩
    · right
      rw [isReference, isChild, up]
    · left
      rw [isReference, isChild, up]
  · rintro (up | down)
    · exact hangs.adjacent up
    · exact (hangs.adjacent down).symm

/-- Only the edges of a graph decide how its frames hang. -/
theorem of_edges_eq (hangs : graph.Hangs parent) {other : FrameGraph α}
    (same : other.edges = graph.edges) : other.Hangs parent where
  edge := fun edge member => hangs.edge edge (same ▸ member)
  adjacent := by
    intro child above hung
    obtain ⟨edge, member, joins⟩ := hangs.adjacent hung
    exact ⟨edge, same ▸ member, joins⟩
  earlier := hangs.earlier

/-- A path that has come down to a frame and does not return above it only goes further
down. -/
theorem index_le_of_descent (hangs : graph.Hangs parent) {above : VertexId}
    (simplePath : graph.SimplePath source path goal) (hung : parent source = some above)
    (avoids : above ∉ Step.visits source path) : source.index ≤ goal.index := by
  induction path generalizing source above with
  | nil => exact le_of_eq (congrArg VertexId.index (Walk.nil_iff.mp simplePath.walk))
  | cons step rest induction =>
      obtain ⟨rfl, follows, forward, later⟩ := SimplePath.cons_iff.mp simplePath
      rcases hangs.adjacent_iff.mp follows.adjacent with up | down
      · have returns : step.target = above := Option.some.inj (up.symm.trans hung)
        refine absurd ?_ avoids
        rw [← returns]
        exact List.mem_cons_of_mem _ List.mem_cons_self
      · have further : step.target.index ≤ goal.index := induction later down forward
        exact le_of_lt (lt_of_lt_of_le (hangs.earlier down) further)

/-- A path without repetitions to an earlier frame begins with the step to the parent. -/
theorem climbs (hangs : graph.Hangs parent) (simplePath : graph.SimplePath source path goal)
    (earlier : goal.index < source.index) :
    ∃ above rest, parent source = some above ∧ graph.SimplePath above rest goal ∧
      Step.visits source path = source :: Step.visits above rest := by
  cases path with
  | nil =>
      have same : source = goal := Walk.nil_iff.mp simplePath.walk
      exact absurd earlier (same ▸ lt_irrefl _)
  | cons step rest =>
      obtain ⟨rfl, follows, forward, later⟩ := SimplePath.cons_iff.mp simplePath
      refine ⟨step.target, rest, ?_, later, rfl⟩
      rcases hangs.adjacent_iff.mp follows.adjacent with up | down
      · exact up
      · have further := hangs.index_le_of_descent later down forward
        have lower := hangs.earlier down
        omega

theorem visits_eq_of_climb (hangs : graph.Hangs parent) (earlier : goal.index < source.index)
    (firstPath : graph.SimplePath source first goal)
    (secondPath : graph.SimplePath source second goal)
    (above : ∀ {vertex : VertexId} {firstRest secondRest : List Step},
      vertex.index < source.index → graph.SimplePath vertex firstRest goal →
      graph.SimplePath vertex secondRest goal →
      Step.visits vertex firstRest = Step.visits vertex secondRest) :
    Step.visits source first = Step.visits source second := by
  obtain ⟨vertex, firstRest, hung, firstLater, firstVisits⟩ := hangs.climbs firstPath earlier
  obtain ⟨other, secondRest, alsoHung, secondLater, secondVisits⟩ :=
    hangs.climbs secondPath earlier
  obtain rfl : vertex = other := Option.some.inj (hung.symm.trans alsoHung)
  rw [firstVisits, secondVisits, above (hangs.earlier hung) firstLater secondLater]

/-- Two paths without repetitions between the same frames visit the same frames. -/
theorem visits_unique (hangs : graph.Hangs parent)
    (firstPath : graph.SimplePath source first goal)
    (secondPath : graph.SimplePath source second goal) :
    Step.visits source first = Step.visits source second := by
  -- A path is forced at its later end, which is its source or that of the reversed path.
  induction size : source.index + goal.index using Nat.strongRecOn
    generalizing source goal first second with
  | ind total induction =>
      rcases lt_trichotomy goal.index source.index with earlier | level | later
      · apply hangs.visits_eq_of_climb earlier firstPath secondPath
        intro vertex firstRest secondRest smaller firstLater secondLater
        exact induction _ (by omega) firstLater secondLater rfl
      · obtain rfl : goal = source := VertexId.ext_index level
        rw [firstPath.eq_nil, secondPath.eq_nil]
      · apply List.reverse_injective
        rw [← firstPath.walk.visits_reverse, ← secondPath.walk.visits_reverse]
        apply hangs.visits_eq_of_climb later firstPath.reverse secondPath.reverse
        intro vertex firstRest secondRest smaller firstLater secondLater
        exact induction _ (by omega) firstLater secondLater rfl

/-- Frames that edges join have exactly one path between them that repeats no frame. -/
theorem existsUnique_visits (hangs : graph.Hangs parent) (within : graph.EdgesWithin)
    (joined : graph.Joined source goal) :
    ∃! visits, visits.Nodup ∧
      ∃ path, graph.Walk source path goal ∧ Step.visits source path = visits := by
  obtain ⟨path, -, earliest⟩ := findPath_eq_some within joined
  refine ⟨Step.visits source path, ⟨earliest.simple, path, earliest.walk, rfl⟩, ?_⟩
  rintro visits ⟨simple, other, walk, rfl⟩
  exact hangs.visits_unique ⟨walk, simple⟩ ⟨earliest.walk, earliest.simple⟩

end Hangs

end FrameGraph

end Kinematics
