import Kinematics.Proofs.Geometry.Decomposition
import Kinematics.Proofs.Frame.EarliestPath
import Kinematics.Frame.Query

/-!
# Poses along paths

A placement of all frames is consistent with a graph if every edge places its child
relative to the other end by the payload of the child.  The payloads along a path then
telescope to the placements at its ends, whichever path it is.
-/

namespace Kinematics

namespace FrameGraph

variable {graph : FrameGraph ℝ} {placement : VertexId → Transform ℝ}

/-- Every edge that is not a loop places its child relative to its other end as the payload
of the child says. -/
def Consistent (graph : FrameGraph ℝ) (placement : VertexId → Transform ℝ) : Prop :=
  ∀ edge ∈ graph.edges, edge.source ≠ edge.target →
    ∀ vertex, graph.vertex? edge.child = some vertex →
      placement edge.child = placement edge.reference * vertex.payload

/-- All payloads of the graph are rigid motions. -/
def RigidPayloads (graph : FrameGraph ℝ) : Prop :=
  ∀ vertex ∈ graph.vertices, vertex.payload.IsRigid

/-- One step multiplies by the motion between the placements of its ends. -/
theorem composeStep_telescopes (within : graph.EdgesWithin) (payloads : graph.RigidPayloads)
    (consistent : graph.Consistent placement) {step : Step} (follows : graph.Follows step)
    (moves : step.source ≠ step.target) {origin product : Transform ℝ}
    (rigid : product.IsRigid) (reached : origin * product = placement step.source) :
    ∃ result, graph.composeStep product step = .ok result ∧ result.IsRigid ∧
      origin * result = placement step.target := by
  obtain ⟨edge, found, joins⟩ := follows
  have member : edge ∈ graph.edges := List.mem_of_getElem? found
  have ends := Edge.ends_eq_of_joins joins
  have notLoop : edge.source ≠ edge.target := by
    rcases joins with ⟨leaves, enters⟩ | ⟨leaves, enters⟩
    · rwa [leaves, enters]
    · rw [leaves, enters]
      exact moves.symm
  have inside : graph.contains edge.child := by
    have both := within edge member
    rcases edge.joins_reference_child with ⟨-, enters⟩ | ⟨leaves, -⟩
    · rw [← enters]
      exact both.2
    · rw [← leaves]
      exact both.1
  obtain ⟨child, isChild⟩ := Option.isSome_iff_exists.mp inside
  have payload : child.payload.IsRigid := payloads child (List.mem_of_getElem? isChild)
  have placed : placement edge.child = placement edge.reference * child.payload :=
    consistent edge member notLoop child isChild
  unfold composeStep
  simp only [found, isChild]
  rcases ends with ⟨atReference, toChild⟩ | ⟨atChild, toReference⟩
  · refine ⟨product * child.payload, if_pos toChild, rigid.mul payload, ?_⟩
    rw [← mul_assoc, reached, atReference, toChild, placed]
  · have elsewhere : step.target ≠ edge.child := atChild ▸ moves.symm
    refine ⟨product * child.payload.rigidInverse, if_neg elsewhere,
      rigid.mul payload.rigidInverse, ?_⟩
    calc
      origin * (product * child.payload.rigidInverse) =
          placement step.source * child.payload.rigidInverse := by
        rw [← mul_assoc, reached]
      _ = placement edge.reference * (child.payload * child.payload.rigidInverse) := by
        rw [atChild, placed, mul_assoc]
      _ = placement step.target := by
        rw [payload.mul_rigidInverse, mul_one, toReference]

/-- The product of the payloads along a path without repetitions leads from the placement
of its source to that of its goal. -/
theorem foldlM_composeStep_telescopes (within : graph.EdgesWithin)
    (payloads : graph.RigidPayloads) (consistent : graph.Consistent placement)
    {source goal : VertexId} {path : List Step} (walk : graph.Walk source path goal)
    (simple : (Step.visits source path).Nodup) {origin product : Transform ℝ}
    (rigid : product.IsRigid) (reached : origin * product = placement source) :
    ∃ result, path.foldlM graph.composeStep product = .ok result ∧ result.IsRigid ∧
      origin * result = placement goal := by
  induction walk generalizing product with
  | stay vertex => exact ⟨product, rfl, rigid, reached⟩
  | @go step rest goal follows _ induction =>
      have visits : (step.source :: Step.visits step.target rest).Nodup := simple
      rw [List.nodup_cons] at visits
      have moves : step.source ≠ step.target := fun loops =>
        visits.1 (loops ▸ List.mem_cons_self)
      obtain ⟨next, stepped, nextRigid, nextReached⟩ :=
        composeStep_telescopes within payloads consistent follows moves rigid reached
      rw [List.foldlM_cons, stepped]
      exact induction visits.2 nextRigid nextReached

/-- Where edges join two vertices, the pose between them is the motion between their
placements. -/
theorem poseBetween_of_joined (within : graph.EdgesWithin) (payloads : graph.RigidPayloads)
    (placed : ∀ id, graph.contains id → (placement id).IsRigid)
    (consistent : graph.Consistent placement) {source target : VertexId}
    (present : graph.contains source) (joined : graph.Joined source target) :
    ∃ pose, graph.poseBetween source target = .ok pose ∧
      (Transform.ofPose pose).toMatrix =
        (placement target).toMatrix⁻¹ * (placement source).toMatrix := by
  have sourceRigid := placed source present
  have arrives : graph.contains target := joined.contains within present
  obtain ⟨sourceVertex, foundSource⟩ := Option.isSome_iff_exists.mp present
  obtain ⟨targetVertex, foundTarget⟩ := Option.isSome_iff_exists.mp arrives
  unfold poseBetween
  simp only [foundSource, foundTarget]
  by_cases same : source = target
  · refine ⟨Pose.identity, if_pos same, ?_⟩
    rw [← same, sourceRigid.inv_mul_toMatrix, Transform.ofPose_identity, Transform.toMatrix_one]
  · obtain ⟨path, found, earliest⟩ := findPath_eq_some within joined
    obtain ⟨product, composed, rigid, reached⟩ :=
      foldlM_composeStep_telescopes within payloads consistent earliest.walk earliest.simple
        Transform.IsRigid.one (mul_one (placement source))
    have composition : graph.composePath path = .ok product := composed
    refine ⟨product.rigidInverse.toPose, ?_, ?_⟩
    · rw [if_neg same, found]
      simp only [composition]
      rfl
    · calc
        (Transform.ofPose product.rigidInverse.toPose).toMatrix = product.toMatrix⁻¹ := by
          rw [Transform.ofPose_toPose rigid.rigidInverse, rigid.toMatrix_rigidInverse]
        _ = product.toMatrix⁻¹ * ((placement source).toMatrix⁻¹ *
            (placement source).toMatrix) := by
          rw [sourceRigid.inv_mul_toMatrix, mul_one]
        _ = (placement target).toMatrix⁻¹ * (placement source).toMatrix := by
          rw [← reached, Transform.toMatrix_mul, Matrix.mul_inv_rev, mul_assoc]

/-- A turn about the vertical axis, away from the origin. -/
noncomputable def tilt : Pose ℝ :=
  Pose.ofRollPitchYaw ⟨1, 0, 1⟩ ⟨0, 0, 1⟩

theorem isUnit_tilt : tilt.rotation.IsUnit :=
  Quaternion.isUnit_ofRollPitchYaw ⟨0, 0, 1⟩

theorem isRigid_tilt : (Transform.ofPose tilt).IsRigid :=
  Transform.isRigid_ofPose isUnit_tilt

/-- A turned frame in a fixed one, with complementary edges between them and a loop. -/
noncomputable def turntable : FrameGraph ℝ :=
  { vertices := [⟨"world", Transform.identity⟩, ⟨"base", Transform.ofPose tilt⟩]
    edges := [⟨⟨0⟩, ⟨1⟩, .backward⟩, ⟨⟨1⟩, ⟨0⟩, .forward⟩, ⟨⟨1⟩, ⟨1⟩, .forward⟩]
    root := some ⟨0⟩ }

theorem turntable_reachable : turntable.Reachable := by
  have root : Reachable (withRoot "world" : FrameGraph ℝ) := .withRoot "world"
  have vertices := root.addVertex "base" (Transform.ofPose tilt)
  have paired := vertices.addEdgePair
    (rfl : FrameGraph.addEdgePair _ ⟨0⟩ ⟨1⟩ = Except.ok (_, _))
  have loop := paired.addEdge (rfl : FrameGraph.addEdge _ ⟨1⟩ ⟨1⟩ .forward = Except.ok (_, _))
  exact loop

/-- In every graph that can be built with rigid payloads, whatever cycles it has, and for
every consistent placement by rigid motions, the pose of a frame in one that edges join to it
exists and is the motion between their placements. -/
theorem poseBetween_of_consistent (reachable : graph.Reachable)
    (payloads : graph.RigidPayloads)
    (placed : ∀ id, graph.contains id → (placement id).IsRigid)
    (consistent : graph.Consistent placement) {source target : VertexId}
    (present : graph.contains source) (joined : graph.Joined source target) :
    ∃ pose, graph.poseBetween source target = .ok pose ∧
      (Transform.ofPose pose).toMatrix =
        (placement target).toMatrix⁻¹ * (placement source).toMatrix :=
  poseBetween_of_joined reachable.edgesWithin payloads placed consistent present joined

theorem poseBetween_of_consistent_turntable :
    ∃ pose, turntable.poseBetween ⟨1⟩ ⟨0⟩ = .ok pose ∧
      (Transform.ofPose pose).toMatrix =
        (1 : Transform ℝ).toMatrix⁻¹ * (Transform.ofPose tilt).toMatrix := by
  let placement (id : VertexId) : Transform ℝ :=
    if id = ⟨0⟩ then 1 else Transform.ofPose tilt
  have payloads : turntable.RigidPayloads := by
    intro vertex member
    simp only [turntable, List.mem_cons, List.not_mem_nil, or_false] at member
    rcases member with rfl | rfl
    · exact Transform.IsRigid.one
    · exact isRigid_tilt
  have placed (id : VertexId) (_ : turntable.contains id) : (placement id).IsRigid := by
    unfold placement
    split
    · exact Transform.IsRigid.one
    · exact isRigid_tilt
  have consistent : turntable.Consistent placement := by
    intro edge member notLoop vertex found
    simp only [turntable, List.mem_cons, List.not_mem_nil, or_false] at member
    rcases member with rfl | rfl | rfl
    · cases found
      exact (one_mul _).symm
    · cases found
      exact (one_mul _).symm
    · exact absurd rfl notLoop
  have joined : turntable.Joined ⟨1⟩ ⟨0⟩ :=
    .single ⟨⟨⟨1⟩, ⟨0⟩, .forward⟩, by simp [turntable], .inl ⟨rfl, rfl⟩⟩
  exact poseBetween_of_consistent turntable_reachable payloads placed consistent rfl joined

end FrameGraph

end Kinematics
