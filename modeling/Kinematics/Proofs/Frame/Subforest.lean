import Kinematics.Proofs.Frame.Embedding

/-!
# Forests within forests

Leaving out some of the wires of a forest separates frames but moves none of them, so an
answer of the smaller forest is also one of the larger.
-/

namespace Kinematics

namespace FrameGraph

variable {α : Type} {sparse dense : FrameGraph α}
  {sparseParent denseParent : VertexId → Option VertexId}

/-- Two forests of the same frames, of which every frame that hangs from another one in the
smaller forest hangs from it in the larger forest too. -/
structure Subforest (sparse dense : FrameGraph α)
    (sparseParent denseParent : VertexId → Option VertexId) : Prop where
  vertices : sparse.vertices = dense.vertices
  sparseHangs : sparse.Hangs sparseParent
  denseHangs : dense.Hangs denseParent
  sparseWithin : sparse.EdgesWithin
  denseWithin : dense.EdgesWithin
  parents : ∀ {child above : VertexId},
    sparseParent child = some above → denseParent child = some above

namespace Subforest

variable (sub : Subforest sparse dense sparseParent denseParent)

include sub

theorem vertex?_eq (id : VertexId) : sparse.vertex? id = dense.vertex? id := by
  unfold vertex?
  rw [sub.vertices]

/-- Every frame keeps its place. -/
theorem embedding : Embedding sparse dense sparseParent denseParent id where
  injective := Function.injective_id
  vertex?_place := fun id => (sub.vertex?_eq id).symm
  smallHangs := sub.sparseHangs
  largeHangs := sub.denseHangs
  smallWithin := sub.sparseWithin
  largeWithin := sub.denseWithin
  parents := sub.parents

/-- A pose that the smaller forest resolves is the one that the larger forest resolves. -/
theorem poseBetween_eq_ok [Scalar α] {source target : VertexId} {pose : Pose α}
    (resolved : sparse.poseBetween source target = .ok pose) :
    dense.poseBetween source target = .ok pose :=
  sub.embedding.poseBetween_eq_ok resolved

end Subforest

end FrameGraph

end Kinematics
