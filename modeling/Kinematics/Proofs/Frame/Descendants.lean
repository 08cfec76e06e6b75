import Kinematics.Proofs.Frame.Embedding

/-!
# Descendants

The edges of a forest say of every frame what it hangs from.  Between a frame with all that
hangs from it and the rest of the forest there is one pair of edges only, so a path that repeats
no frame crosses that pair once if it leads from one side to the other, and otherwise never.
-/

namespace Kinematics

namespace FrameGraph

variable {α : Type} {graph : FrameGraph α} {parent : VertexId → Option VertexId}

/-- The frame is placed relative to the other one. -/
def RefersTo (graph : FrameGraph α) (child above : VertexId) : Prop :=
  ∃ edge ∈ graph.edges, edge.child = child ∧ edge.reference = above

/-- A chain of references leads from the frame to the other one, or they are the same. -/
def Descends (graph : FrameGraph α) : VertexId → VertexId → Prop :=
  Relation.ReflTransGen graph.RefersTo

/-- The step follows an edge that places the frame. -/
def Crosses (graph : FrameGraph α) (frame : VertexId) (step : Step) : Prop :=
  ∃ edge, graph.edge? step.edge = some edge ∧ edge.child = frame

theorem Walk.mem_visits_of_mem {source goal : VertexId} {path : List Step}
    (walk : graph.Walk source path goal) {step : Step} (onPath : step ∈ path) :
    step.source ∈ Step.visits source path ∧ step.target ∈ Step.visits source path := by
  induction walk with
  | stay => simp at onPath
  | go _ _ induction =>
      rcases List.mem_cons.mp onPath with rfl | later
      · simp [Step.visits]
      · obtain ⟨leaves, arrives⟩ := induction later
        exact ⟨List.mem_cons_of_mem _ leaves, List.mem_cons_of_mem _ arrives⟩

theorem Joined.contains_of_ne (within : graph.EdgesWithin) {source goal : VertexId}
    (joined : graph.Joined source goal) (apart : source ≠ goal) : graph.contains source := by
  rcases Relation.ReflTransGen.cases_head joined with same | ⟨next, adjacent, -⟩
  · exact absurd same apart
  · obtain ⟨edge, follows⟩ := adjacent.exists_step
    exact (follows.contains within).1

namespace Hangs

theorem refersTo_iff (hangs : graph.Hangs parent) {child above : VertexId} :
    graph.RefersTo child above ↔ parent child = some above := by
  constructor
  · rintro ⟨edge, member, rfl, rfl⟩
    exact hangs.edge edge member
  · intro hung
    obtain ⟨edge, member, joins⟩ := hangs.adjacent hung
    refine ⟨edge, member, ?_⟩
    rcases Edge.ends_eq_of_joins joins with ⟨isReference, isChild⟩ | ⟨isChild, isReference⟩
    -- An edge the other way round would make each end the earlier one.
    · have back := hangs.edge edge member
      rw [← isReference, ← isChild] at back
      exact absurd (hangs.earlier back) (lt_asymm (hangs.earlier hung))
    · exact ⟨isChild.symm, isReference.symm⟩

theorem index_le_of_descends (hangs : graph.Hangs parent) {vertex frame : VertexId}
    (descends : graph.Descends vertex frame) : frame.index ≤ vertex.index := by
  induction descends with
  | refl => exact le_rfl
  | tail _ refers induction =>
      have earlier := hangs.earlier (hangs.refersTo_iff.mp refers)
      omega

/-- Another frame descends from a frame exactly if its reference does. -/
theorem descends_iff_of_ne (hangs : graph.Hangs parent) {vertex above frame : VertexId}
    (hung : parent vertex = some above) (other : vertex ≠ frame) :
    graph.Descends vertex frame ↔ graph.Descends above frame := by
  constructor
  · intro descends
    rcases Relation.ReflTransGen.cases_head descends with same | ⟨next, refers, further⟩
    · exact absurd same other
    · have isAbove : next = above :=
        Option.some.inj ((hangs.refersTo_iff.mp refers).symm.trans hung)
      exact isAbove ▸ further
  · exact .head (hangs.refersTo_iff.mpr hung)

theorem not_descends_reference (hangs : graph.Hangs parent) {frame above : VertexId}
    (hung : parent frame = some above) : ¬graph.Descends above frame := by
  intro descends
  have later := hangs.index_le_of_descends descends
  have earlier := hangs.earlier hung
  omega

/-- A step that crosses the edges of a frame joins it to its reference. -/
theorem ends_of_crosses (hangs : graph.Hangs parent) {frame : VertexId} {step : Step}
    (follows : graph.Follows step) (crosses : graph.Crosses frame step) :
    ∃ above, parent frame = some above ∧
      (step.source = above ∧ step.target = frame ∨ step.source = frame ∧ step.target = above) := by
  obtain ⟨edge, found, rfl⟩ := crosses
  obtain ⟨other, otherFound, joins⟩ := follows
  obtain rfl : edge = other := Option.some.inj (found.symm.trans otherFound)
  exact ⟨edge.reference, hangs.edge edge (List.mem_of_getElem? found),
    Edge.ends_eq_of_joins joins⟩

theorem descends_of_crosses (hangs : graph.Hangs parent) {frame : VertexId} {step : Step}
    (follows : graph.Follows step) (crosses : graph.Crosses frame step) :
    (graph.Descends step.target frame ↔ step.target = frame) ∧
      (graph.Descends step.source frame ↔ step.target ≠ frame) := by
  obtain ⟨above, hung, ⟨source, target⟩ | ⟨source, target⟩⟩ :=
    hangs.ends_of_crosses follows crosses
  · rw [source, target]
    have outside := hangs.not_descends_reference hung
    exact ⟨iff_of_true .refl rfl, iff_of_false outside (not_not.mpr rfl)⟩
  · have outside := hangs.not_descends_reference hung
    have apart : above ≠ frame := fun same => outside (same ▸ .refl)
    rw [source, target]
    exact ⟨iff_of_false outside apart, iff_of_true .refl apart⟩

/-- Any other step stays on its side. -/
theorem descends_iff_of_not_crosses (hangs : graph.Hangs parent) {frame : VertexId} {step : Step}
    (follows : graph.Follows step) (elsewhere : ¬graph.Crosses frame step) :
    graph.Descends step.source frame ↔ graph.Descends step.target frame := by
  obtain ⟨edge, found, joins⟩ := follows
  have hung := hangs.edge edge (List.mem_of_getElem? found)
  have other : edge.child ≠ frame := fun same => elsewhere ⟨edge, found, same⟩
  rcases Edge.ends_eq_of_joins joins with ⟨source, target⟩ | ⟨source, target⟩
  · rw [source, target]
    exact (hangs.descends_iff_of_ne hung other).symm
  · rw [source, target]
    exact hangs.descends_iff_of_ne hung other

theorem descends_iff_of_walk (hangs : graph.Hangs parent) {frame source goal : VertexId}
    {path : List Step} (walk : graph.Walk source path goal)
    (elsewhere : ∀ step ∈ path, ¬graph.Crosses frame step) :
    graph.Descends source frame ↔ graph.Descends goal frame := by
  induction walk with
  | stay => exact Iff.rfl
  | @go step rest goal follows _ induction =>
      have first := hangs.descends_iff_of_not_crosses follows (elsewhere step List.mem_cons_self)
      exact first.trans (induction fun later onPath =>
        elsewhere later (List.mem_cons_of_mem _ onPath))

/-- A path that repeats no frame crosses the edges of a frame once or never. -/
theorem crosses_once (hangs : graph.Hangs parent) (frame : VertexId) {source goal : VertexId}
    {path : List Step} (simplePath : graph.SimplePath source path goal) :
    (∀ step ∈ path, ¬graph.Crosses frame step) ∨
      ∃ first step last, path = first ++ step :: last ∧ graph.Crosses frame step ∧
        ∀ other ∈ first ++ last, ¬graph.Crosses frame other := by
  induction path generalizing source with
  | nil => simp
  | cons step rest induction =>
      obtain ⟨rfl, follows, forward, later⟩ := SimplePath.cons_iff.mp simplePath
      by_cases crosses : graph.Crosses frame step
      · refine .inr ⟨[], step, rest, rfl, crosses, ?_⟩
        -- A second crossing would come back to the frame that the first one left.
        intro other onRest again
        apply forward
        have otherFollows : graph.Follows other := later.walk.follows_of_mem onRest
        obtain ⟨leaves, arrives⟩ := later.walk.mem_visits_of_mem onRest
        obtain ⟨above, hung, ends⟩ := hangs.ends_of_crosses follows crosses
        obtain ⟨_, alsoHung, otherEnds⟩ := hangs.ends_of_crosses otherFollows again
        obtain rfl := Option.some.inj (hung.symm.trans alsoHung)
        rcases ends with ⟨source, -⟩ | ⟨source, -⟩ <;>
          rcases otherEnds with ⟨otherSource, otherTarget⟩ | ⟨otherSource, otherTarget⟩
        · rwa [source, ← otherSource]
        · rwa [source, ← otherTarget]
        · rwa [source, ← otherTarget]
        · rwa [source, ← otherSource]
      · rcases induction later with never | ⟨first, middle, last, rfl, once, others⟩
        · left
          simpa [crosses] using never
        · right
          exact ⟨step :: first, middle, last, rfl, once, by simpa [crosses] using others⟩

/-- A path that repeats no frame crosses the edges of a frame exactly if the frame separates
its ends, and then downward exactly if the path ends on the side of the frame. -/
theorem crosses_iff_separates (hangs : graph.Hangs parent) (frame : VertexId)
    {source goal : VertexId} {path : List Step} (simplePath : graph.SimplePath source path goal) :
    (graph.Descends source frame ↔ graph.Descends goal frame) ∧
        (∀ step ∈ path, ¬graph.Crosses frame step) ∨
      ¬(graph.Descends source frame ↔ graph.Descends goal frame) ∧
        ∃ first step last, path = first ++ step :: last ∧ graph.Crosses frame step ∧
          (∀ other ∈ first ++ last, ¬graph.Crosses frame other) ∧
          (step.target = frame ↔ graph.Descends goal frame) := by
  rcases hangs.crosses_once frame simplePath with never | ⟨first, step, last, rfl, once, others⟩
  · exact .inl ⟨hangs.descends_iff_of_walk simplePath.walk never, never⟩
  · obtain ⟨middle, before, rest⟩ := Walk.append_iff.mp simplePath.walk
    obtain ⟨rfl, follows, after⟩ := Walk.cons_iff.mp rest
    have upTo := hangs.descends_iff_of_walk before fun other onPath =>
      others other (List.mem_append_left last onPath)
    have onward := hangs.descends_iff_of_walk after fun other onPath =>
      others other (List.mem_append_right first onPath)
    obtain ⟨arrives, leaves⟩ := hangs.descends_of_crosses follows once
    have atGoal : step.target = frame ↔ graph.Descends goal frame := arrives.symm.trans onward
    refine .inr ⟨?_, first, step, last, rfl, once, others, atGoal⟩
    rw [upTo, leaves, ← atGoal]
    exact not_iff_self

end Hangs

end FrameGraph

end Kinematics
