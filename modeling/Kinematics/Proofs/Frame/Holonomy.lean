import Kinematics.Proofs.Frame.Descendants
import Kinematics.Proofs.Frame.Products
import Kinematics.Proofs.Geometry.Group

/-!
# Motions along walks

Every walk has a motion, the product of the payloads met along it.  Walks in a row have the
product of their motions, and a walk taken backwards has the inverse motion, also where the
motions around a cycle do not cancel.  A step along an edge that there is not is the only reason
for a product to fail, whatever else is wrong with the steps.
-/

namespace Kinematics

namespace FrameGraph

section Failure

variable {α : Type} [Scalar α] {graph : FrameGraph α}

theorem composePath_of_unknown (within : graph.EdgesWithin) {earlier later : List Step}
    {step : Step} (known : ∀ other ∈ earlier, graph.edge? other.edge ≠ none)
    (unknown : graph.edge? step.edge = none) :
    graph.composePath (earlier ++ step :: later) = .error (.graph (.edgeNotFound step.edge)) := by
  obtain ⟨product, before⟩ := exists_composePath within known
  have fails : graph.composeStep product step = .error (.graph (.edgeNotFound step.edge)) := by
    simp [composeStep, unknown]
  have split : graph.composePath (earlier ++ step :: later) =
      graph.composePath earlier >>= fun product =>
        (step :: later).foldlM graph.composeStep product :=
    List.foldlM_append ..
  rw [split, before]
  change (step :: later).foldlM graph.composeStep product = _
  rw [List.foldlM_cons, fails]
  rfl

theorem composePath_fails_iff (within : graph.EdgesWithin) {path : List Step} :
    (∃ problem, graph.composePath path = .error problem) ↔
      ∃ step ∈ path, graph.edge? step.edge = none := by
  constructor
  · rintro ⟨problem, fails⟩
    by_contra allKnown
    push Not at allKnown
    obtain ⟨product, composed⟩ := exists_composePath within allKnown
    rw [composed] at fails
    cases fails
  · rintro ⟨step, member, unknown⟩
    by_contra succeeds
    -- Some step along a missing edge is the first one, and would be reported.
    have missing : (path.find? fun step => (graph.edge? step.edge).isNone).isSome := by
      rw [List.find?_isSome]
      exact ⟨step, member, Option.isNone_iff_eq_none.mpr unknown⟩
    obtain ⟨first, found⟩ := Option.isSome_iff_exists.mp missing
    obtain ⟨isNone, earlier, later, rfl, before⟩ := List.find?_eq_some_iff_append.mp found
    apply succeeds
    refine ⟨_, composePath_of_unknown within ?_ (Option.isNone_iff_eq_none.mp isNone)⟩
    intro other isEarlier isMissing
    simpa [isMissing] using before other isEarlier

end Failure

variable {graph : FrameGraph ℝ}

/-- A step that moves is undone by the same step backwards: one of the two goes to the child of
the edge and the other one away from it. -/
theorem composePath_reversed_singleton (payloads : graph.RigidPayloads) {step : Step}
    (follows : graph.Follows step) (moves : step.source ≠ step.target) {factor : Transform ℝ}
    (composed : graph.composePath [step] = .ok factor) :
    graph.composePath [step.reversed] = .ok factor.rigidInverse := by
  obtain ⟨edge, found, joins⟩ := follows
  have foundBack : graph.edge? step.reversed.edge = some edge := found
  rw [composePath_singleton] at composed ⊢
  unfold composeStep at composed ⊢
  cases isChild : graph.vertex? edge.child with
  | none => simp [found, isChild] at composed
  | some child =>
      have payload : child.payload.IsRigid := payloads child (List.mem_of_getElem? isChild)
      simp only [found, isChild, one_mul] at composed
      simp only [foundBack, isChild, one_mul]
      rcases Edge.ends_eq_of_joins joins with ⟨leaves, arrives⟩ | ⟨leaves, arrives⟩
      · have away : step.reversed.target ≠ edge.child := fun same => moves (same.trans arrives.symm)
        rw [if_pos arrives] at composed
        rw [if_neg away, ← Except.ok.inj composed]
      · have away : step.target ≠ edge.child := fun same => moves (leaves.trans same.symm)
        have back : step.reversed.target = edge.child := leaves
        rw [if_neg away] at composed
        rw [if_pos back, ← Except.ok.inj composed, payload.rigidInverse_rigidInverse]

theorem Walk.composePath_reverse (within : graph.EdgesWithin) (payloads : graph.RigidPayloads)
    {source goal : VertexId} {path : List Step} (walk : graph.Walk source path goal)
    (moves : ∀ step ∈ path, step.source ≠ step.target) {motion : Transform ℝ}
    (composed : graph.composePath path = .ok motion) :
    graph.composePath (path.reverse.map Step.reversed) = .ok motion.rigidInverse := by
  induction walk generalizing motion with
  | stay vertex =>
      cases composed
      have still : (1 : Transform ℝ).rigidInverse = 1 := by
        rw [← one_mul (1 : Transform ℝ).rigidInverse, Transform.IsRigid.one.mul_rigidInverse]
      exact congrArg Except.ok still.symm
  | @go step rest goal follows later induction =>
      have stepWalk : graph.Walk step.source [step] step.target := .go follows (.stay _)
      obtain ⟨factor, first⟩ := stepWalk.exists_composePath within
      obtain ⟨others, second⟩ := later.exists_composePath within
      have whole : graph.composePath (step :: rest) = .ok (factor * others) :=
        composePath_append_eq_ok first second
      obtain rfl : factor * others = motion := Except.ok.inj (whole.symm.trans composed)
      simp only [List.forall_mem_cons] at moves
      have back := induction moves.2 second
      have stepBack := composePath_reversed_singleton payloads follows moves.1 first
      rw [List.reverse_cons, List.map_append,
        (payloads.composePath first).rigidInverse_mul_eq (payloads.composePath second)]
      exact composePath_append_eq_ok back stepBack

/-- In every graph that can be built with rigid payloads, consistent or not, every walk has a
rigid motion; walks in a row have the product of their motions, and a walk without loops has,
taken backwards, the inverse motion.  In every graph that can be built, over any scalars, the
product along a list of steps fails exactly if some step names an edge that there is not, and
then the first such edge is reported. -/
theorem composePath_functorial :
    (∀ graph : FrameGraph ℝ, graph.Reachable → graph.RigidPayloads →
      ∀ (u v w : VertexId) (first second : List Step),
        graph.Walk u first v → graph.Walk v second w →
        ∃ left right : Transform ℝ,
          graph.composePath first = .ok left ∧ graph.composePath second = .ok right ∧
          left.IsRigid ∧ right.IsRigid ∧
          graph.composePath (first ++ second) = .ok (left * right) ∧
          ((∀ step ∈ first, step.source ≠ step.target) →
            graph.composePath (first.reverse.map Step.reversed) = .ok left.rigidInverse)) ∧
    ∀ {α : Type} [Scalar α] (graph : FrameGraph α), graph.Reachable → ∀ path : List Step,
      ((∃ problem, graph.composePath path = .error problem) ↔
        ∃ step ∈ path, graph.edge? step.edge = none) ∧
      ∀ earlier step later, path = earlier ++ step :: later →
        (∀ other ∈ earlier, graph.edge? other.edge ≠ none) → graph.edge? step.edge = none →
        graph.composePath path = .error (.graph (.edgeNotFound step.edge)) := by
  constructor
  · intro graph reachable payloads u v w first second firstWalk secondWalk
    have within := reachable.edgesWithin
    obtain ⟨left, before⟩ := firstWalk.exists_composePath within
    obtain ⟨right, after⟩ := secondWalk.exists_composePath within
    exact ⟨left, right, before, after, payloads.composePath before, payloads.composePath after,
      composePath_append_eq_ok before after,
      fun moves => firstWalk.composePath_reverse within payloads moves before⟩
  · intro α _ graph reachable path
    have within := reachable.edgesWithin
    refine ⟨composePath_fails_iff within, ?_⟩
    rintro earlier step later rfl known unknown
    exact composePath_of_unknown within known unknown

/-- Two frames each of which is placed relative to the other one.  The motion around them is not
the identity, so no placement is consistent. -/
noncomputable def warped : FrameGraph ℝ :=
  { vertices := [⟨"world", Transform.identity⟩, ⟨"base", Transform.ofPose tilt⟩]
    edges := [⟨⟨0⟩, ⟨1⟩, .backward⟩, ⟨⟨0⟩, ⟨1⟩, .forward⟩]
    root := some ⟨0⟩ }

theorem warped_reachable : warped.Reachable := by
  have root : Reachable (withRoot "world" : FrameGraph ℝ) := .withRoot "world"
  have vertices := root.addVertex "base" (Transform.ofPose tilt)
  have down := vertices.addEdge
    (rfl : FrameGraph.addEdge _ ⟨0⟩ ⟨1⟩ .backward = Except.ok (_, _))
  have closing := down.addEdge (rfl : FrameGraph.addEdge _ ⟨0⟩ ⟨1⟩ .forward = Except.ok (_, _))
  exact closing

/-- Down one edge and back along the other one. -/
def around : List Step := [⟨⟨0⟩, ⟨1⟩, ⟨0⟩⟩, ⟨⟨1⟩, ⟨0⟩, ⟨1⟩⟩]

theorem composePath_functorial_warped :
    warped.composePath around = .ok (Transform.ofPose tilt) ∧
      warped.composePath (around ++ around) =
        .ok (Transform.ofPose tilt * Transform.ofPose tilt) ∧
      warped.composePath (around.reverse.map Step.reversed) =
        .ok (Transform.ofPose tilt).rigidInverse ∧
      warped.composePath (around ++ [⟨⟨0⟩, ⟨1⟩, ⟨7⟩⟩, ⟨⟨1⟩, ⟨0⟩, ⟨8⟩⟩]) =
        .error (.graph (.edgeNotFound ⟨7⟩)) := by
  have payloads : warped.RigidPayloads := by
    intro vertex member
    simp only [warped, List.mem_cons, List.not_mem_nil, or_false] at member
    rcases member with rfl | rfl
    · exact Transform.IsRigid.one
    · exact isRigid_tilt
  have down : warped.Follows ⟨⟨0⟩, ⟨1⟩, ⟨0⟩⟩ := ⟨_, rfl, .inl ⟨rfl, rfl⟩⟩
  have back : warped.Follows ⟨⟨1⟩, ⟨0⟩, ⟨1⟩⟩ := ⟨_, rfl, .inr ⟨rfl, rfl⟩⟩
  have walk : warped.Walk ⟨0⟩ around ⟨0⟩ := .go down (.go back (.stay ⟨0⟩))
  obtain ⟨homomorphism, failures⟩ := composePath_functorial
  obtain ⟨left, right, before, after, -, -, appended, reversed⟩ :=
    homomorphism warped warped_reachable payloads ⟨0⟩ ⟨0⟩ ⟨0⟩ around around walk walk
  have once : warped.composePath around = .ok (Transform.ofPose tilt) := by
    have computed : warped.composePath around = .ok (1 * Transform.ofPose tilt * 1) := rfl
    rw [computed, one_mul, mul_one]
  obtain rfl : Transform.ofPose tilt = left := Except.ok.inj (once.symm.trans before)
  obtain rfl : Transform.ofPose tilt = right := Except.ok.inj (once.symm.trans after)
  refine ⟨once, appended, reversed (by decide), ?_⟩
  exact (failures warped warped_reachable _).2 around _ _ rfl
    (by simp [around, warped, edge?]) rfl

end FrameGraph

end Kinematics
