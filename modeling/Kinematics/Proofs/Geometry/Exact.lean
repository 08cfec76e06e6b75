import Mathlib.Analysis.SpecialFunctions.Complex.Arg
import Mathlib.LinearAlgebra.Matrix.Notation
import Mathlib.LinearAlgebra.Matrix.NonsingularInverse
import Kinematics.Geometry.Transform

/-!
# Exact geometry

The real numbers as scalars: every operation is exact and every number finite.  The
transforms over them form a monoid, and products of transforms are matrix products.
-/

namespace Kinematics

noncomputable instance : Scalar ℝ where
  decideLt := fun _ _ => Classical.propDecidable _
  decideLe := fun _ _ => Classical.propDecidable _
  ofInt := fun number => number
  isFinite := fun _ => true
  abs := fun number => |number|
  sqrt := Real.sqrt
  sin := Real.sin
  cos := Real.cos
  asin := Real.arcsin
  atan2 := fun y x => Complex.arg ⟨x, y⟩
  quarterTurn := Real.pi / 2

theorem Scalar.sumFour_eq (first second third fourth : ℝ) :
    Scalar.sumFour first second third fourth = first + second + third + fourth := by
  unfold Scalar.sumFour
  norm_num

attribute [ext] Row Transform

namespace Transform

/-- The entries of a transform as a matrix. -/
def toMatrix (m : Transform ℝ) : Matrix (Fin 4) (Fin 4) ℝ :=
  !![m.r₀.x, m.r₀.y, m.r₀.z, m.r₀.t;
     m.r₁.x, m.r₁.y, m.r₁.z, m.r₁.t;
     m.r₂.x, m.r₂.y, m.r₂.z, m.r₂.t;
     m.r₃.x, m.r₃.y, m.r₃.z, m.r₃.t]

theorem toMatrix_injective : Function.Injective toMatrix := by
  intro left right equal
  simpa [toMatrix, Transform.ext_iff, Row.ext_iff, and_assoc] using equal

theorem mul_eq (left right : Transform ℝ) :
    left * right =
      ⟨left.r₀.mulTransform right, left.r₁.mulTransform right, left.r₂.mulTransform right,
        left.r₃.mulTransform right⟩ :=
  rfl

theorem mulTransform_eq (row : Row ℝ) (m : Transform ℝ) :
    row.mulTransform m =
      { x := row.x * m.r₀.x + row.y * m.r₁.x + row.z * m.r₂.x + row.t * m.r₃.x
        y := row.x * m.r₀.y + row.y * m.r₁.y + row.z * m.r₂.y + row.t * m.r₃.y
        z := row.x * m.r₀.z + row.y * m.r₁.z + row.z * m.r₂.z + row.t * m.r₃.z
        t := row.x * m.r₀.t + row.y * m.r₁.t + row.z * m.r₂.t + row.t * m.r₃.t } := by
  simp only [Row.mulTransform, Scalar.sumFour_eq]

theorem identity_eq :
    (identity : Transform ℝ) =
      ⟨⟨1, 0, 0, 0⟩, ⟨0, 1, 0, 0⟩, ⟨0, 0, 1, 0⟩, ⟨0, 0, 0, 1⟩⟩ := by
  unfold identity
  norm_num

theorem toMatrix_mul (left right : Transform ℝ) :
    (left * right).toMatrix = left.toMatrix * right.toMatrix := by
  rw [mul_eq]
  simp only [mulTransform_eq]
  ext i j
  fin_cases i <;> fin_cases j <;>
    simp [toMatrix, Matrix.mul_apply, Fin.sum_univ_four]

theorem toMatrix_identity : (identity : Transform ℝ).toMatrix = 1 := by
  rw [identity_eq]
  ext i j
  fin_cases i <;> fin_cases j <;> simp [toMatrix]

noncomputable instance : Monoid (Transform ℝ) where
  one := identity
  mul_assoc first second third := by
    apply toMatrix_injective
    simp only [toMatrix_mul, Matrix.mul_assoc]
  one_mul m := by
    apply toMatrix_injective
    change (identity * m).toMatrix = m.toMatrix
    rw [toMatrix_mul, toMatrix_identity, Matrix.one_mul]
  mul_one m := by
    apply toMatrix_injective
    change (m * identity).toMatrix = m.toMatrix
    rw [toMatrix_mul, toMatrix_identity, Matrix.mul_one]

theorem one_eq_identity : (1 : Transform ℝ) = identity :=
  rfl

theorem toMatrix_one : (1 : Transform ℝ).toMatrix = 1 :=
  toMatrix_identity

theorem rigidInverse_eq (m : Transform ℝ) :
    m.rigidInverse =
      { r₀ := ⟨m.r₀.x, m.r₁.x, m.r₂.x,
          -(m.r₀.x * m.r₀.t + m.r₁.x * m.r₁.t + m.r₂.x * m.r₂.t)⟩
        r₁ := ⟨m.r₀.y, m.r₁.y, m.r₂.y,
          -(m.r₀.y * m.r₀.t + m.r₁.y * m.r₁.t + m.r₂.y * m.r₂.t)⟩
        r₂ := ⟨m.r₀.z, m.r₁.z, m.r₂.z,
          -(m.r₀.z * m.r₀.t + m.r₁.z * m.r₁.t + m.r₂.z * m.r₂.t)⟩
        r₃ := ⟨0, 0, 0, 1⟩ } := by
  unfold rigidInverse displacement
  norm_num

theorem ofPose_eq (pose : Pose ℝ) :
    ofPose pose =
      { r₀ := ⟨1 - 2 * (pose.rotation.y * pose.rotation.y + pose.rotation.z * pose.rotation.z),
          2 * (pose.rotation.x * pose.rotation.y - pose.rotation.w * pose.rotation.z),
          2 * (pose.rotation.x * pose.rotation.z + pose.rotation.w * pose.rotation.y),
          pose.position.x⟩
        r₁ := ⟨2 * (pose.rotation.x * pose.rotation.y + pose.rotation.w * pose.rotation.z),
          1 - 2 * (pose.rotation.x * pose.rotation.x + pose.rotation.z * pose.rotation.z),
          2 * (pose.rotation.y * pose.rotation.z - pose.rotation.w * pose.rotation.x),
          pose.position.y⟩
        r₂ := ⟨2 * (pose.rotation.x * pose.rotation.z - pose.rotation.w * pose.rotation.y),
          2 * (pose.rotation.y * pose.rotation.z + pose.rotation.w * pose.rotation.x),
          1 - 2 * (pose.rotation.x * pose.rotation.x + pose.rotation.y * pose.rotation.y),
          pose.position.z⟩
        r₃ := ⟨0, 0, 0, 1⟩ } := by
  unfold ofPose
  norm_num

theorem ofPose_identity : ofPose (Pose.identity : Pose ℝ) = 1 := by
  rw [ofPose_eq, one_eq_identity, identity_eq]
  unfold Pose.identity Quaternion.identity Vec3.zero
  norm_num

end Transform

namespace Quaternion

def sinPitch (q : Quaternion ℝ) : ℝ := 2 * (q.w * q.y - q.z * q.x)

end Quaternion

namespace Pose

/-- A third of a turn about a diagonal, which takes the second axis to the third. -/
noncomputable def diagonalTurn : Pose ℝ := ⟨⟨1, 0, 0⟩, ⟨1 / 2, 1 / 2, 1 / 2, 1 / 2⟩⟩

/-- A third of a turn about another diagonal, with a pitch of a quarter turn. -/
noncomputable def lockedTurn : Pose ℝ := ⟨⟨0, 0, 0⟩, ⟨1 / 2, 1 / 2, -(1 / 2), 1 / 2⟩⟩

end Pose

end Kinematics
