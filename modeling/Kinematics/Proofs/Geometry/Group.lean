import Kinematics.Proofs.Geometry.Decomposition

/-!
# Poses and transforms as one group

Poses with unit quaternions compose and turn back by quaternion formulas, their matrices by
matrix formulas.  Both are the same group of motions, and they move points alike.
-/

namespace Kinematics

attribute [ext] Vec3

namespace Vec3

/-- The homogeneous coordinates of a point. -/
def homogeneous (point : Vec3 ℝ) : Fin 4 → ℝ :=
  ![point.x, point.y, point.z, 1]

theorem add_eq (left right : Vec3 ℝ) :
    left + right = ⟨left.x + right.x, left.y + right.y, left.z + right.z⟩ :=
  rfl

theorem neg_eq (vector : Vec3 ℝ) : -vector = ⟨-vector.x, -vector.y, -vector.z⟩ :=
  rfl

end Vec3

namespace Quaternion

theorem mul_eq (p q : Quaternion ℝ) :
    p * q =
      ⟨p.w * q.x + p.x * q.w + p.y * q.z - p.z * q.y,
       p.w * q.y - p.x * q.z + p.y * q.w + p.z * q.x,
       p.w * q.z + p.x * q.y - p.y * q.x + p.z * q.w,
       p.w * q.w - p.x * q.x - p.y * q.y - p.z * q.z⟩ :=
  rfl

/-- Turning a vector is linear in it, by the rotation block of the matrix. -/
theorem rotate_eq (q : Quaternion ℝ) (v : Vec3 ℝ) :
    q.rotate v =
      ⟨(1 - 2 * (q.y * q.y + q.z * q.z)) * v.x + 2 * (q.x * q.y - q.w * q.z) * v.y +
          2 * (q.x * q.z + q.w * q.y) * v.z,
        2 * (q.x * q.y + q.w * q.z) * v.x + (1 - 2 * (q.x * q.x + q.z * q.z)) * v.y +
          2 * (q.y * q.z - q.w * q.x) * v.z,
        2 * (q.x * q.z - q.w * q.y) * v.x + 2 * (q.y * q.z + q.w * q.x) * v.y +
          (1 - 2 * (q.x * q.x + q.y * q.y)) * v.z⟩ := by
  have two : (2.0 : ℝ) = 2 := by norm_num
  unfold rotate
  rw [two]
  ext <;> ring

theorem conjugate_eq (q : Quaternion ℝ) : q.conjugate = ⟨-q.x, -q.y, -q.z, q.w⟩ :=
  rfl

theorem IsUnit.mul {p q : Quaternion ℝ} (left : p.IsUnit) (right : q.IsUnit) :
    (p * q).IsUnit := by
  rw [isUnit_iff] at *
  rw [mul_eq]
  linear_combination left + (p.x * p.x + p.y * p.y + p.z * p.z + p.w * p.w) * right

theorem IsUnit.conjugate {q : Quaternion ℝ} (unit : q.IsUnit) : q.conjugate.IsUnit := by
  rw [isUnit_iff] at *
  unfold Quaternion.conjugate
  linear_combination unit

end Quaternion

namespace Pose

variable {outer inner : Pose ℝ}

theorem inverse_eq (pose : Pose ℝ) :
    pose.inverse = ⟨pose.rotation.conjugate.rotate (-pose.position), pose.rotation.conjugate⟩ :=
  rfl

theorem compose_eq (outerUnit : outer.rotation.IsUnit) (innerUnit : inner.rotation.IsUnit) :
    outer.compose inner =
      ⟨outer.position + outer.rotation.rotate inner.position,
        outer.rotation * inner.rotation⟩ := by
  unfold compose
  rw [Quaternion.normalize_eq_self (outerUnit.mul innerUnit)]

theorem isUnit_compose (outerUnit : outer.rotation.IsUnit) (innerUnit : inner.rotation.IsUnit) :
    (outer.compose inner).rotation.IsUnit := by
  rw [compose_eq outerUnit innerUnit]
  exact outerUnit.mul innerUnit

end Pose

namespace Transform

/-- The matrix of a pose moves points as the pose does. -/
theorem ofPose_mulVec (pose : Pose ℝ) (point : Vec3 ℝ) :
    (ofPose pose).toMatrix.mulVec point.homogeneous =
      (pose.transformPoint point).homogeneous := by
  unfold Pose.transformPoint
  rw [ofPose_eq, Vec3.add_eq, Quaternion.rotate_eq]
  ext row
  fin_cases row <;>
    simp [toMatrix, Vec3.homogeneous, Matrix.mulVec, dotProduct, Fin.sum_univ_four]

/-- The matrix of the inverse pose is the inverse of the matrix. -/
theorem ofPose_inverse (pose : Pose ℝ) : ofPose pose.inverse = (ofPose pose).rigidInverse := by
  rw [Pose.inverse_eq, rigidInverse_eq, ofPose_eq, ofPose_eq, Quaternion.rotate_eq, Vec3.neg_eq,
    Quaternion.conjugate_eq]
  ext <;> ring

/-- The matrix of composed poses is the product of their matrices.  The matrix of a
quaternion of any length is not multiplicative, so both lengths enter the entries. -/
theorem ofPose_compose {outer inner : Pose ℝ} (outerUnit : outer.rotation.IsUnit)
    (innerUnit : inner.rotation.IsUnit) :
    ofPose (outer.compose inner) = ofPose outer * ofPose inner := by
  have p := Quaternion.isUnit_iff.mp outerUnit
  have q := Quaternion.isUnit_iff.mp innerUnit
  rw [Pose.compose_eq outerUnit innerUnit, mul_eq, ofPose_eq, ofPose_eq, ofPose_eq,
    Quaternion.rotate_eq, Vec3.add_eq, Quaternion.mul_eq]
  simp only [mulTransform_eq]
  generalize outer.rotation = a at *
  generalize inner.rotation = b at *
  ext
  case r₀.x =>
    linear_combination -2 * (b.y * b.y + b.z * b.z) * p + -2 * (a.y * a.y + a.z * a.z) * q
  case r₀.y =>
    linear_combination 2 * (b.x * b.y - b.w * b.z) * p + 2 * (a.x * a.y - a.w * a.z) * q
  case r₀.z =>
    linear_combination 2 * (b.x * b.z + b.w * b.y) * p + 2 * (a.x * a.z + a.w * a.y) * q
  case r₁.x =>
    linear_combination 2 * (b.x * b.y + b.w * b.z) * p + 2 * (a.x * a.y + a.w * a.z) * q
  case r₁.y =>
    linear_combination -2 * (b.x * b.x + b.z * b.z) * p + -2 * (a.x * a.x + a.z * a.z) * q
  case r₁.z =>
    linear_combination 2 * (b.y * b.z - b.w * b.x) * p + 2 * (a.y * a.z - a.w * a.x) * q
  case r₂.x =>
    linear_combination 2 * (b.x * b.z - b.w * b.y) * p + 2 * (a.x * a.z - a.w * a.y) * q
  case r₂.y =>
    linear_combination 2 * (b.y * b.z + b.w * b.x) * p + 2 * (a.y * a.z + a.w * a.x) * q
  case r₂.z =>
    linear_combination -2 * (b.x * b.x + b.y * b.y) * p + -2 * (a.x * a.x + a.y * a.y) * q
  all_goals ring

/-- Inverses of rigid motions are taken in reverse order. -/
theorem IsRigid.rigidInverse_mul_eq {first second : Transform ℝ} (firstRigid : first.IsRigid)
    (secondRigid : second.IsRigid) :
    (first * second).rigidInverse = second.rigidInverse * first.rigidInverse := by
  apply left_inv_eq_right_inv (firstRigid.mul secondRigid).rigidInverse_mul
  calc
    first * second * (second.rigidInverse * first.rigidInverse) =
        first * (second * second.rigidInverse) * first.rigidInverse := by
      simp only [mul_assoc]
    _ = 1 := by
      rw [secondRigid.mul_rigidInverse, mul_one, firstRigid.mul_rigidInverse]

/-- Poses with unit quaternions and their matrices are the same group of motions: composition
is multiplication, the inverse pose has the inverse matrix, points are moved alike, and
neither operation leaves the unit quaternions.  The inverse of a rigid matrix is one from both
sides, and reverses products. -/
theorem motions_agree :
    (∀ outer inner : Pose ℝ, outer.rotation.IsUnit → inner.rotation.IsUnit →
      ofPose (outer.compose inner) = ofPose outer * ofPose inner ∧
        ofPose outer.inverse = (ofPose outer).rigidInverse ∧
        (∀ point : Vec3 ℝ, (ofPose outer).toMatrix.mulVec point.homogeneous =
          (outer.transformPoint point).homogeneous) ∧
        (outer.compose inner).rotation.IsUnit ∧ outer.inverse.rotation.IsUnit) ∧
    ∀ first second : Transform ℝ, first.IsRigid → second.IsRigid →
      first.rigidInverse * first = identity ∧ first * first.rigidInverse = identity ∧
        (first * second).rigidInverse = second.rigidInverse * first.rigidInverse := by
  constructor
  · intro outer inner outerUnit innerUnit
    exact ⟨ofPose_compose outerUnit innerUnit, ofPose_inverse outer, ofPose_mulVec outer,
      Pose.isUnit_compose outerUnit innerUnit, outerUnit.conjugate⟩
  · intro first second firstRigid secondRigid
    exact ⟨firstRigid.rigidInverse_mul, firstRigid.mul_rigidInverse,
      firstRigid.rigidInverse_mul_eq secondRigid⟩

/-- A turn about the vertical, by an angle whose half has a given sine and cosine. -/
def swivel (sine cosine : ℝ) : Pose ℝ := ⟨⟨1, -1, 1⟩, ⟨0, 0, sine, cosine⟩⟩

theorem isUnit_swivel {sine cosine : ℝ} (unit : sine * sine + cosine * cosine = 1) :
    (swivel sine cosine).rotation.IsUnit := by
  rw [Quaternion.isUnit_iff]
  simpa [swivel] using unit

/-- Half a turn about the vertical, as a matrix. -/
def halfTurn : Transform ℝ :=
  ⟨⟨-1, 0, 0, 1⟩, ⟨0, -1, 0, -1⟩, ⟨0, 0, 1, 0⟩, ⟨0, 0, 0, 1⟩⟩

theorem isRigid_halfTurn : halfTurn.IsRigid := by
  apply isRigid_of_rows <;> norm_num

theorem motions_agree_swivel :
    let slow := swivel (3 / 5) (4 / 5)
    let fast := swivel (5 / 13) (-(12 / 13))
    (slow.rotation.IsUnit ∧ fast.rotation.IsUnit ∧
      ofPose (slow.compose fast) = ofPose slow * ofPose fast ∧
      ofPose slow.inverse = (ofPose slow).rigidInverse ∧
      (ofPose slow).toMatrix.mulVec (Vec3.homogeneous ⟨25, 0, 0⟩) =
        Vec3.homogeneous ⟨8, 23, 1⟩ ∧
      (slow.compose fast).rotation.IsUnit ∧ slow.inverse.rotation.IsUnit) ∧
    (halfTurn.IsRigid ∧ (ofPose slow).IsRigid ∧
      halfTurn.rigidInverse * halfTurn = identity ∧ halfTurn * halfTurn.rigidInverse = identity ∧
      (halfTurn * ofPose slow).rigidInverse =
        (ofPose slow).rigidInverse * halfTurn.rigidInverse) := by
  intro slow fast
  have slowUnit : slow.rotation.IsUnit := isUnit_swivel (by norm_num)
  have fastUnit : fast.rotation.IsUnit := isUnit_swivel (by norm_num)
  have rigid := isRigid_ofPose slowUnit
  obtain ⟨composes, inverts, moves, composeUnit, inverseUnit⟩ :=
    motions_agree.1 slow fast slowUnit fastUnit
  have corner : slow.transformPoint ⟨25, 0, 0⟩ = ⟨8, 23, 1⟩ := by
    unfold Pose.transformPoint
    rw [Vec3.add_eq, Quaternion.rotate_eq]
    norm_num [slow, swivel]
  have moved := moves ⟨25, 0, 0⟩
  rw [corner] at moved
  exact ⟨⟨slowUnit, fastUnit, composes, inverts, moved, composeUnit, inverseUnit⟩,
    isRigid_halfTurn, rigid, motions_agree.2 halfTurn (ofPose slow) isRigid_halfTurn rigid⟩

end Transform

end Kinematics
