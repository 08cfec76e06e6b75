import Kinematics.Proofs.Geometry.Exact

/-!
# Rigid motions

A transform is rigid if its upper left block is a proper rotation and its last row that
of the identity.  Rigid transforms form a group whose inverse transposes the block, and
the matrix of every pose with a unit quaternion is one of them.
-/

namespace Kinematics

/-- The coefficients of the quaternion have norm one. -/
def Quaternion.IsUnit (q : Quaternion ℝ) : Prop :=
  q.norm = 1

theorem Quaternion.isUnit_iff {q : Quaternion ℝ} :
    q.IsUnit ↔ q.x * q.x + q.y * q.y + q.z * q.z + q.w * q.w = 1 :=
  Real.sqrt_eq_one

theorem Quaternion.isUnit_identity : (Quaternion.identity : Quaternion ℝ).IsUnit := by
  rw [isUnit_iff]
  unfold Quaternion.identity
  norm_num

/-- Angles about fixed axes give a unit quaternion. -/
theorem Quaternion.isUnit_ofRollPitchYaw (angles : RollPitchYaw ℝ) :
    (Quaternion.ofRollPitchYaw angles).IsUnit := by
  have circle (angle : ℝ) :
      Scalar.sin angle * Scalar.sin angle + Scalar.cos angle * Scalar.cos angle = 1 := by
    rw [← pow_two, ← pow_two]
    exact Real.sin_sq_add_cos_sq angle
  have roll := circle (angles.roll / 2.0)
  have pitch := circle (angles.pitch / 2.0)
  have yaw := circle (angles.yaw / 2.0)
  rw [isUnit_iff]
  unfold Quaternion.ofRollPitchYaw
  dsimp only
  generalize Scalar.sin (angles.roll / 2.0) = sr at *
  generalize Scalar.cos (angles.roll / 2.0) = cr at *
  generalize Scalar.sin (angles.pitch / 2.0) = sp at *
  generalize Scalar.cos (angles.pitch / 2.0) = cp at *
  generalize Scalar.sin (angles.yaw / 2.0) = sy at *
  generalize Scalar.cos (angles.yaw / 2.0) = cy at *
  calc
    _ = (sr * sr + cr * cr) * (sp * sp + cp * cp) * (sy * sy + cy * cy) := by ring
    _ = 1 := by rw [roll, pitch, yaw, one_mul, one_mul]

namespace Transform

def rotation (m : Transform ℝ) : Matrix (Fin 3) (Fin 3) ℝ :=
  !![m.r₀.x, m.r₀.y, m.r₀.z; m.r₁.x, m.r₁.y, m.r₁.z; m.r₂.x, m.r₂.y, m.r₂.z]

/-- A motion of space that keeps distances and orientation: its block is orthogonal with
determinant one. -/
structure IsRigid (m : Transform ℝ) : Prop where
  orthogonal : m.rotation * m.rotation.transpose = 1
  proper : m.rotation.det = 1
  last : m.r₃ = ⟨0, 0, 0, 1⟩

theorem rotation_mul {left right : Transform ℝ} (last : right.r₃ = ⟨0, 0, 0, 1⟩) :
    (left * right).rotation = left.rotation * right.rotation := by
  rw [mul_eq]
  simp only [mulTransform_eq]
  ext i j
  fin_cases i <;> fin_cases j <;>
    simp [rotation, Matrix.mul_apply, Fin.sum_univ_three, last]

theorem rotation_rigidInverse (m : Transform ℝ) :
    m.rigidInverse.rotation = m.rotation.transpose := by
  ext i j
  fin_cases i <;> fin_cases j <;> rfl

theorem last_rigidInverse (m : Transform ℝ) : m.rigidInverse.r₃ = ⟨0, 0, 0, 1⟩ := by
  rw [rigidInverse_eq]

namespace IsRigid

theorem one : IsRigid 1 := by
  have block : (1 : Transform ℝ).rotation = 1 := by
    rw [one_eq_identity, identity_eq]
    ext i j
    fin_cases i <;> fin_cases j <;> simp [rotation]
  constructor
  · rw [block, Matrix.transpose_one, Matrix.one_mul]
  · rw [block, Matrix.det_one]
  · rw [one_eq_identity, identity_eq]

theorem mul {left right : Transform ℝ} (leftRigid : left.IsRigid) (rightRigid : right.IsRigid) :
    (left * right).IsRigid := by
  have block : (left * right).rotation = left.rotation * right.rotation :=
    rotation_mul rightRigid.last
  constructor
  · calc
      (left * right).rotation * (left * right).rotation.transpose =
          left.rotation * (right.rotation * right.rotation.transpose) *
            left.rotation.transpose := by
        rw [block, Matrix.transpose_mul]
        simp only [Matrix.mul_assoc]
      _ = 1 := by rw [rightRigid.orthogonal, Matrix.mul_one, leftRigid.orthogonal]
  · rw [block, Matrix.det_mul, leftRigid.proper, rightRigid.proper, one_mul]
  · rw [mul_eq]
    simp [mulTransform_eq, leftRigid.last, rightRigid.last]

variable {m : Transform ℝ} (rigid : m.IsRigid)

include rigid

/-- The columns of the block are orthonormal with its rows. -/
theorem orthogonal_columns : m.rotation.transpose * m.rotation = 1 :=
  mul_eq_one_comm.mp rigid.orthogonal

theorem rigidInverse : m.rigidInverse.IsRigid := by
  constructor
  · rw [rotation_rigidInverse, Matrix.transpose_transpose, rigid.orthogonal_columns]
  · rw [rotation_rigidInverse, Matrix.det_transpose, rigid.proper]
  · exact last_rigidInverse m

/-- The block of a proper rotation is made of its own cofactors. -/
theorem adjugate_rotation : m.rotation.adjugate = m.rotation.transpose := by
  calc
    m.rotation.adjugate = m.rotation.adjugate * (m.rotation * m.rotation.transpose) := by
      rw [rigid.orthogonal, mul_one]
    _ = m.rotation.transpose := by
      rw [← mul_assoc, Matrix.adjugate_mul, rigid.proper, one_smul, one_mul]

end IsRigid

/-- Equations between the entries of a proper rotation with given rows: rows and columns
are orthonormal, and every entry is its own cofactor. -/
structure ProperRows (a b c : Row ℝ) : Prop where
  aa : a.x * a.x + a.y * a.y + a.z * a.z = 1
  bb : b.x * b.x + b.y * b.y + b.z * b.z = 1
  cc : c.x * c.x + c.y * c.y + c.z * c.z = 1
  ab : a.x * b.x + a.y * b.y + a.z * b.z = 0
  ac : a.x * c.x + a.y * c.y + a.z * c.z = 0
  bc : b.x * c.x + b.y * c.y + b.z * c.z = 0
  xx : a.x * a.x + b.x * b.x + c.x * c.x = 1
  yy : a.y * a.y + b.y * b.y + c.y * c.y = 1
  zz : a.z * a.z + b.z * b.z + c.z * c.z = 1
  xy : a.x * a.y + b.x * b.y + c.x * c.y = 0
  xz : a.x * a.z + b.x * b.z + c.x * c.z = 0
  yz : a.y * a.z + b.y * b.z + c.y * c.z = 0
  ax : b.y * c.z - b.z * c.y = a.x
  ay : -(b.x * c.z) + b.z * c.x = a.y
  az : b.x * c.y - b.y * c.x = a.z
  bx : -(a.y * c.z) + a.z * c.y = b.x
  yb : a.x * c.z - a.z * c.x = b.y
  bz : -(a.x * c.y) + a.y * c.x = b.z
  cx : a.y * b.z - a.z * b.y = c.x
  cy : -(a.x * b.z) + a.z * b.x = c.y
  cz : a.x * b.y - a.y * b.x = c.z

theorem IsRigid.properRows {m : Transform ℝ} (rigid : m.IsRigid) :
    ProperRows m.r₀ m.r₁ m.r₂ := by
  have rows (i j : Fin 3) := congrFun (congrFun rigid.orthogonal i) j
  have columns (i j : Fin 3) := congrFun (congrFun rigid.orthogonal_columns i) j
  have cofactors (i j : Fin 3) := congrFun (congrFun rigid.adjugate_rotation i) j
  simp only [Matrix.mul_apply, Fin.sum_univ_three, Matrix.transpose_apply] at rows columns
  rw [Matrix.adjugate_fin_three] at cofactors
  constructor
  case aa => exact rows 0 0
  case bb => exact rows 1 1
  case cc => exact rows 2 2
  case ab => exact rows 0 1
  case ac => exact rows 0 2
  case bc => exact rows 1 2
  case xx => exact columns 0 0
  case yy => exact columns 1 1
  case zz => exact columns 2 2
  case xy => exact columns 0 1
  case xz => exact columns 0 2
  case yz => exact columns 1 2
  case ax => exact cofactors 0 0
  case bx => exact cofactors 0 1
  case cx => exact cofactors 0 2
  case ay => exact cofactors 1 0
  case yb => exact cofactors 1 1
  case cy => exact cofactors 1 2
  case az => exact cofactors 2 0
  case bz => exact cofactors 2 1
  case cz => exact cofactors 2 2

/-- A motion with orthonormal rows is undone by the transposed block. -/
theorem IsRigid.mul_rigidInverse {m : Transform ℝ} (rigid : m.IsRigid) :
    m * m.rigidInverse = 1 := by
  have rows := rigid.properRows
  rw [mul_eq, one_eq_identity, identity_eq, rigidInverse_eq]
  simp only [mulTransform_eq, rigid.last]
  ext
  case r₀.x => linear_combination rows.aa
  case r₀.y => linear_combination rows.ab
  case r₀.z => linear_combination rows.ac
  case r₀.t =>
    linear_combination -m.r₀.t * rows.aa - m.r₁.t * rows.ab - m.r₂.t * rows.ac
  case r₁.x => linear_combination rows.ab
  case r₁.y => linear_combination rows.bb
  case r₁.z => linear_combination rows.bc
  case r₁.t =>
    linear_combination -m.r₀.t * rows.ab - m.r₁.t * rows.bb - m.r₂.t * rows.bc
  case r₂.x => linear_combination rows.ac
  case r₂.y => linear_combination rows.bc
  case r₂.z => linear_combination rows.cc
  case r₂.t =>
    linear_combination -m.r₀.t * rows.ac - m.r₁.t * rows.bc - m.r₂.t * rows.cc
  all_goals ring

theorem IsRigid.toMatrix_rigidInverse {m : Transform ℝ} (rigid : m.IsRigid) :
    m.rigidInverse.toMatrix = m.toMatrix⁻¹ := by
  apply (Matrix.inv_eq_right_inv _).symm
  rw [← toMatrix_mul, rigid.mul_rigidInverse, toMatrix_one]

theorem IsRigid.rigidInverse_mul {m : Transform ℝ} (rigid : m.IsRigid) :
    m.rigidInverse * m = 1 := by
  apply toMatrix_injective
  have undone : m.toMatrix * m.rigidInverse.toMatrix = 1 := by
    rw [← toMatrix_mul, rigid.mul_rigidInverse, toMatrix_one]
  rw [toMatrix_mul, toMatrix_one]
  exact mul_eq_one_comm.mp undone

theorem IsRigid.rigidInverse_rigidInverse {m : Transform ℝ} (rigid : m.IsRigid) :
    m.rigidInverse.rigidInverse = m :=
  (left_inv_eq_right_inv rigid.mul_rigidInverse rigid.rigidInverse.mul_rigidInverse).symm

theorem IsRigid.inv_mul_toMatrix {m : Transform ℝ} (rigid : m.IsRigid) :
    m.toMatrix⁻¹ * m.toMatrix = 1 := by
  rw [← rigid.toMatrix_rigidInverse, ← toMatrix_mul, rigid.rigidInverse_mul, toMatrix_one]

theorem isRigid_of_rows {a b c : Row ℝ}
    (aa : a.x * a.x + a.y * a.y + a.z * a.z = 1) (bb : b.x * b.x + b.y * b.y + b.z * b.z = 1)
    (cc : c.x * c.x + c.y * c.y + c.z * c.z = 1) (ab : a.x * b.x + a.y * b.y + a.z * b.z = 0)
    (ac : a.x * c.x + a.y * c.y + a.z * c.z = 0) (bc : b.x * c.x + b.y * c.y + b.z * c.z = 0)
    (proper : a.x * (b.y * c.z - b.z * c.y) - a.y * (b.x * c.z - b.z * c.x) +
      a.z * (b.x * c.y - b.y * c.x) = 1) :
    IsRigid ⟨a, b, c, ⟨0, 0, 0, 1⟩⟩ where
  orthogonal := by
    have ba : b.x * a.x + b.y * a.y + b.z * a.z = 0 := by linear_combination ab
    have ca : c.x * a.x + c.y * a.y + c.z * a.z = 0 := by linear_combination ac
    have cb : c.x * b.x + c.y * b.y + c.z * b.z = 0 := by linear_combination bc
    ext i j
    simp only [rotation, Matrix.mul_apply, Fin.sum_univ_three, Matrix.transpose_apply]
    fin_cases i <;> fin_cases j
    · exact aa
    · exact ab
    · exact ac
    · exact ba
    · exact bb
    · exact bc
    · exact ca
    · exact cb
    · exact cc
  proper := by
    have expanded : a.x * b.y * c.z - a.x * b.z * c.y - a.y * b.x * c.z + a.y * b.z * c.x +
        a.z * b.x * c.y - a.z * b.y * c.x = 1 := by
      linear_combination proper
    rw [Matrix.det_fin_three]
    exact expanded
  last := rfl

/-- The matrix of a pose with a unit quaternion is a rigid motion. -/
theorem isRigid_ofPose {pose : Pose ℝ} (unit : pose.rotation.IsUnit) :
    (ofPose pose).IsRigid := by
  have norm := Quaternion.isUnit_iff.mp unit
  rw [ofPose_eq]
  generalize pose.rotation = q at norm
  apply isRigid_of_rows
  case aa => linear_combination 4 * (q.y * q.y + q.z * q.z) * norm
  case bb => linear_combination 4 * (q.x * q.x + q.z * q.z) * norm
  case cc => linear_combination 4 * (q.x * q.x + q.y * q.y) * norm
  case ab => linear_combination -4 * (q.x * q.y) * norm
  case ac => linear_combination -4 * (q.x * q.z) * norm
  case bc => linear_combination -4 * (q.y * q.z) * norm
  case proper => linear_combination 4 * (q.x * q.x + q.y * q.y + q.z * q.z) * norm

end Transform

end Kinematics
