import Kinematics.Proofs.Frame.Composition

/-!
# Products along paths

Over exact numbers the payloads along a path multiply to a product whatever they are multiplied
onto, so the product along two paths in a row is that of their products.  This needs no walk:
it holds of any list of steps, where a step that fails makes the product fail in its place.
-/

namespace Kinematics

namespace FrameGraph

variable {graph : FrameGraph ℝ}

theorem composePath_singleton (step : Step) :
    graph.composePath [step] = graph.composeStep 1 step := by
  unfold composePath
  rw [List.foldlM_cons, Transform.one_eq_identity]
  cases graph.composeStep Transform.identity step <;> rfl

/-- A step multiplies onto any product what it multiplies onto the identity. -/
theorem composeStep_eq_map (product : Transform ℝ) (step : Step) :
    graph.composeStep product step = (graph.composePath [step]).map (product * ·) := by
  rw [composePath_singleton]
  unfold composeStep
  cases found : graph.edge? step.edge with
  | none => rfl
  | some edge =>
      cases isChild : graph.vertex? edge.child with
      | none => simp [isChild, Except.map]
      | some child =>
          by_cases downward : step.target = edge.child
          · simp [← downward, downward ▸ isChild, Except.map]
          · simp [downward, isChild, Except.map]

theorem foldlM_composeStep_eq_map (product : Transform ℝ) (path : List Step) :
    path.foldlM graph.composeStep product = (graph.composePath path).map (product * ·) := by
  induction path generalizing product with
  | nil => exact congrArg Except.ok (mul_one product).symm
  | cons step rest induction =>
      have onto (start : Transform ℝ) : (step :: rest).foldlM graph.composeStep start =
          graph.composeStep start step >>= fun next =>
            (graph.composePath rest).map (next * ·) := by
        rw [List.foldlM_cons]
        exact bind_congr induction
      have whole : graph.composePath (step :: rest) = _ := onto 1
      rw [onto, whole, composeStep_eq_map, composeStep_eq_map 1]
      cases graph.composePath [step] with
      | error problem => rfl
      | ok factor =>
          cases graph.composePath rest with
          | error problem => rfl
          | ok others => simp [Except.map, bind, Except.bind, mul_assoc]

/-- The product along two paths in a row is that of their products. -/
theorem composePath_append (first second : List Step) :
    graph.composePath (first ++ second) =
      graph.composePath first >>= fun left => (graph.composePath second).map (left * ·) := by
  have split : graph.composePath (first ++ second) =
      graph.composePath first >>= fun left => second.foldlM graph.composeStep left :=
    List.foldlM_append ..
  rw [split]
  exact bind_congr fun left => foldlM_composeStep_eq_map left second

theorem composePath_append_eq_ok {first second : List Step} {left right : Transform ℝ}
    (before : graph.composePath first = .ok left) (after : graph.composePath second = .ok right) :
    graph.composePath (first ++ second) = .ok (left * right) := by
  rw [composePath_append, before, after]
  rfl

theorem RigidPayloads.composeStep (payloads : graph.RigidPayloads) {step : Step}
    {product result : Transform ℝ} (rigid : product.IsRigid)
    (composed : graph.composeStep product step = .ok result) : result.IsRigid := by
  unfold FrameGraph.composeStep at composed
  cases found : graph.edge? step.edge with
  | none => simp [found] at composed
  | some edge =>
      cases isChild : graph.vertex? edge.child with
      | none => simp [found, isChild] at composed
      | some child =>
          have payload : child.payload.IsRigid := payloads child (List.mem_of_getElem? isChild)
          simp only [found, isChild] at composed
          split at composed
          · cases composed
            exact rigid.mul payload
          · cases composed
            exact rigid.mul payload.rigidInverse

theorem RigidPayloads.foldlM_composeStep (payloads : graph.RigidPayloads) {path : List Step}
    {product result : Transform ℝ} (rigid : product.IsRigid)
    (composed : path.foldlM graph.composeStep product = .ok result) : result.IsRigid := by
  induction path generalizing product with
  | nil =>
      cases composed
      exact rigid
  | cons step rest induction =>
      rw [List.foldlM_cons] at composed
      cases stepped : graph.composeStep product step with
      | error problem => simp [stepped, bind, Except.bind] at composed
      | ok next =>
          rw [stepped] at composed
          exact induction (payloads.composeStep rigid stepped) composed

/-- Rigid payloads multiply to a rigid motion. -/
theorem RigidPayloads.composePath (payloads : graph.RigidPayloads) {path : List Step}
    {product : Transform ℝ} (composed : graph.composePath path = .ok product) :
    product.IsRigid :=
  payloads.foldlM_composeStep .one composed

end FrameGraph

end Kinematics
