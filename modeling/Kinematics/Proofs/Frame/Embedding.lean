import Kinematics.Proofs.Frame.Components

/-!
# Forests found again in others

A forest can be found again among the frames of a larger one, with every frame at a place of
its own and hanging from the place of the frame that it hangs from.  A path of the smaller
forest then visits frames whose places a path of the larger one visits, and what a step
multiplies by depends on the frames alone.  So an answer of the smaller forest is also one of
the larger, and the only one if no further frames come between.
-/

namespace Kinematics

namespace FrameGraph

variable {α : Type}

theorem simplePath_of_findPath {graph : FrameGraph α} (within : graph.EdgesWithin)
    {source goal : VertexId} {path : List Step} (found : graph.findPath source goal = some path) :
    graph.SimplePath source path goal := by
  rcases graph.findPath_answers within source goal with ⟨other, isOther, earliest⟩ | ⟨none, -⟩
  · obtain rfl : other = path := Option.some.inj (isOther.symm.trans found)
    exact ⟨earliest.walk, earliest.simple⟩
  · cases none.symm.trans found

/-- A pose between two vertices of the graph is the identity where they are the same, and is
otherwise read off the product of the payloads along the path between them. -/
theorem poseBetween_eq_ok_iff [Scalar α] {graph : FrameGraph α} {source target : VertexId}
    {pose : Pose α} :
    graph.poseBetween source target = .ok pose ↔
      graph.contains source ∧ graph.contains target ∧
        (source = target ∧ Pose.identity = pose ∨
          source ≠ target ∧ ∃ path product, graph.findPath source target = some path ∧
            graph.composePath path = .ok product ∧ product.rigidInverse.toPose = pose) := by
  unfold poseBetween contains
  cases graph.vertex? source with
  | none => simp
  | some sourceVertex =>
      cases graph.vertex? target with
      | none => simp
      | some targetVertex =>
          by_cases same : source = target
          · simp [same]
          · cases graph.findPath source target with
            | none => simp [same]
            | some path =>
                cases composed : graph.composePath path with
                | error problem => simp [same, composed, Except.map]
                | ok product => simp [same, composed, Except.map]

/-- A forest found again among the frames of a larger one. -/
structure Embedding (small large : FrameGraph α)
    (smallParent largeParent : VertexId → Option VertexId) (place : VertexId → VertexId) :
    Prop where
  injective : Function.Injective place
  vertex?_place : ∀ id, large.vertex? (place id) = small.vertex? id
  smallHangs : small.Hangs smallParent
  largeHangs : large.Hangs largeParent
  smallWithin : small.EdgesWithin
  largeWithin : large.EdgesWithin
  parents : ∀ {child above : VertexId},
    smallParent child = some above → largeParent (place child) = some (place above)

namespace Embedding

variable {small large : FrameGraph α} {smallParent largeParent : VertexId → Option VertexId}
  {place : VertexId → VertexId} (embedding : Embedding small large smallParent largeParent place)

include embedding

theorem contains_place (id : VertexId) : large.contains (place id) = small.contains id :=
  congrArg Option.isSome (embedding.vertex?_place id)

theorem adjacent {left right : VertexId} (adjacent : small.Adjacent left right) :
    large.Adjacent (place left) (place right) := by
  rw [embedding.largeHangs.adjacent_iff]
  rcases embedding.smallHangs.adjacent_iff.mp adjacent with up | down
  · exact .inl (embedding.parents up)
  · exact .inr (embedding.parents down)

/-- A walk of the smaller forest visits the frames whose places some walk of the larger one
visits. -/
theorem exists_walk {source goal : VertexId} {path : List Step}
    (walk : small.Walk source path goal) :
    ∃ other, large.Walk (place source) other (place goal) ∧
      Step.visits (place source) other = (Step.visits source path).map place := by
  induction walk with
  | stay vertex => exact ⟨[], .stay _, rfl⟩
  | @go step rest goal follows _ induction =>
      obtain ⟨others, later, sameVisits⟩ := induction
      obtain ⟨edge, alsoFollows⟩ := (embedding.adjacent follows.adjacent).exists_step
      refine ⟨⟨place step.source, place step.target, edge⟩ :: others, .go alsoFollows later, ?_⟩
      exact congrArg (List.cons (place step.source)) sameVisits

variable [Scalar α]

/-- Steps between the same frames multiply by the same, whichever edges they follow. -/
theorem composeStep_eq {first second : Step} (firstFollows : small.Follows first)
    (secondFollows : large.Follows second) (source : second.source = place first.source)
    (target : second.target = place first.target) {product result : Transform α}
    (composed : small.composeStep product first = .ok result) :
    large.composeStep product second = .ok result := by
  obtain ⟨firstEdge, firstFound, firstJoins⟩ := firstFollows
  obtain ⟨secondEdge, secondFound, secondJoins⟩ := secondFollows
  have firstHung : largeParent (place firstEdge.child) = some (place firstEdge.reference) :=
    embedding.parents (embedding.smallHangs.edge firstEdge (List.mem_of_getElem? firstFound))
  have secondHung : largeParent secondEdge.child = some secondEdge.reference :=
    embedding.largeHangs.edge secondEdge (List.mem_of_getElem? secondFound)
  -- Were the two edges to differ in which end is the child, each end would be the earlier one.
  have sameChild : secondEdge.child = place firstEdge.child := by
    have firstEnds := Edge.ends_eq_of_joins firstJoins
    have secondEnds := Edge.ends_eq_of_joins secondJoins
    have firstEarlier := embedding.largeHangs.earlier firstHung
    have secondEarlier := embedding.largeHangs.earlier secondHung
    rw [source, target] at secondEnds
    rcases firstEnds with ⟨up, down⟩ | ⟨up, down⟩ <;>
      rcases secondEnds with ⟨otherUp, otherDown⟩ | ⟨otherUp, otherDown⟩
    · rw [← down, ← otherDown]
    · rw [← up, ← down] at firstEarlier
      rw [← otherUp, ← otherDown] at secondEarlier
      exact absurd firstEarlier (lt_asymm secondEarlier)
    · rw [← up, ← down] at firstEarlier
      rw [← otherUp, ← otherDown] at secondEarlier
      exact absurd firstEarlier (lt_asymm secondEarlier)
    · rw [← up, ← otherUp]
  have sameSide : second.target = secondEdge.child ↔ first.target = firstEdge.child := by
    rw [target, sameChild]
    exact embedding.injective.eq_iff
  unfold composeStep at composed ⊢
  simp only [firstFound] at composed
  simp only [secondFound, sameSide]
  simp only [sameChild, embedding.vertex?_place]
  cases found : small.vertex? firstEdge.child with
  | none =>
      rw [found] at composed
      cases composed
  | some child =>
      rw [found] at composed
      exact composed

/-- Walks that visit the same frames multiply to the same product. -/
theorem foldlM_composeStep_eq {source goal : VertexId} {first second : List Step}
    (firstWalk : small.Walk source first goal)
    (secondWalk : large.Walk (place source) second (place goal))
    (sameVisits : Step.visits (place source) second = (Step.visits source first).map place)
    {product result : Transform α}
    (composed : first.foldlM small.composeStep product = .ok result) :
    second.foldlM large.composeStep product = .ok result := by
  have targets : second.map Step.target = (first.map Step.target).map place :=
    (List.cons_eq_cons.mp sameVisits).2
  induction first generalizing source second product with
  | nil =>
      obtain rfl : second = [] := List.map_eq_nil_iff.mp targets
      exact composed
  | cons step rest induction =>
      obtain ⟨other, others, rfl⟩ : ∃ other others, second = other :: others :=
        List.exists_cons_of_ne_nil fun empty => by simp [empty] at targets
      obtain ⟨leaves, follows, later⟩ := Walk.cons_iff.mp firstWalk
      obtain ⟨otherLeaves, otherFollows, otherLater⟩ := Walk.cons_iff.mp secondWalk
      obtain ⟨arrives, further⟩ := List.cons_eq_cons.mp targets
      rw [List.foldlM_cons] at composed ⊢
      cases stepped : small.composeStep product step with
      | error problem =>
          rw [stepped] at composed
          cases composed
      | ok next =>
          rw [stepped] at composed
          have sameSource : other.source = place step.source := by rw [otherLeaves, leaves]
          have alsoStepped : large.composeStep product other = .ok next :=
            embedding.composeStep_eq follows otherFollows sameSource arrives stepped
          rw [alsoStepped]
          rw [arrives] at otherLater
          exact induction later otherLater (congrArg (List.cons (place step.target)) further)
            composed further

/-- A pose that the smaller forest resolves is the one that the larger forest resolves. -/
theorem poseBetween_eq_ok {source target : VertexId} {pose : Pose α}
    (resolved : small.poseBetween source target = .ok pose) :
    large.poseBetween (place source) (place target) = .ok pose := by
  rw [poseBetween_eq_ok_iff] at resolved ⊢
  rw [embedding.contains_place, embedding.contains_place, embedding.injective.eq_iff]
  obtain ⟨hasSource, hasTarget, answer⟩ := resolved
  refine ⟨hasSource, hasTarget, ?_⟩
  rcases answer with same | ⟨different, path, product, found, composed, isPose⟩
  · exact .inl same
  · obtain ⟨walk, simple⟩ := simplePath_of_findPath embedding.smallWithin found
    obtain ⟨mirror, mirrorWalk, mirrorVisits⟩ := embedding.exists_walk walk
    obtain ⟨other, otherFound, earliest⟩ :=
      findPath_eq_some embedding.largeWithin mirrorWalk.joined
    have mirrorSimple : (Step.visits (place source) mirror).Nodup := by
      rw [mirrorVisits]
      exact simple.map embedding.injective
    -- In the larger forest, too, there is only one way between the two frames.
    have sameVisits : Step.visits (place source) other = (Step.visits source path).map place := by
      rw [← mirrorVisits]
      exact embedding.largeHangs.visits_unique ⟨earliest.walk, earliest.simple⟩
        ⟨mirrorWalk, mirrorSimple⟩
    exact .inr ⟨embedding.injective.ne different, other, product, otherFound,
      embedding.foldlM_composeStep_eq walk earliest.walk sameVisits composed, isPose⟩

section Full

variable (full : ∀ child, largeParent (place child) = (smallParent child).map place)

include full

omit [Scalar α] in
/-- Where no further frames come between, the top of a tree keeps its place. -/
theorem top_place (vertex : VertexId) :
    top largeParent (place vertex) = place (top smallParent vertex) := by
  induction size : vertex.index using Nat.strongRecOn generalizing vertex with
  | ind index induction =>
      have hangs := full vertex
      cases hung : smallParent vertex with
      | none =>
          rw [hung] at hangs
          rw [top_of_none hung, top_of_none hangs]
      | some above =>
          rw [hung] at hangs
          have earlier := embedding.smallHangs.earlier hung
          rw [embedding.smallHangs.top_of_some hung, embedding.largeHangs.top_of_some hangs]
          exact induction _ (by omega) above rfl

omit [Scalar α] in
theorem joined_place_iff {source target : VertexId} :
    large.Joined (place source) (place target) ↔ small.Joined source target := by
  rw [embedding.largeHangs.joined_iff, embedding.smallHangs.joined_iff,
    embedding.top_place full, embedding.top_place full, embedding.injective.eq_iff]

/-- Where no further frames come between, a question about frames of the smaller forest has
the same answer in the larger one, and fails for the same reason. -/
theorem poseBetween_place {source target : VertexId} (present : small.contains source)
    (alsoPresent : small.contains target) :
    large.poseBetween (place source) (place target) = small.poseBetween source target := by
  by_cases joined : small.Joined source target
  · obtain ⟨pose, resolved⟩ := joined.exists_poseBetween embedding.smallWithin present
    rw [resolved, embedding.poseBetween_eq_ok resolved]
  · have apart : ¬large.Joined (place source) (place target) := fun also =>
      joined ((embedding.joined_place_iff full).mp also)
    obtain ⟨sourceVertex, foundSource⟩ := Option.isSome_iff_exists.mp present
    obtain ⟨targetVertex, foundTarget⟩ := Option.isSome_iff_exists.mp alsoPresent
    rw [poseBetween_of_apart embedding.smallWithin foundSource foundTarget joined]
    rw [← embedding.vertex?_place] at foundSource foundTarget
    exact poseBetween_of_apart embedding.largeWithin foundSource foundTarget apart

end Full

end Embedding

end FrameGraph

end Kinematics
