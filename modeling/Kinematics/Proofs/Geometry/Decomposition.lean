import Kinematics.Proofs.Geometry.Rigid

/-!
# Reading a pose off a matrix

The products of the coefficients of a unit quaternion are sums of entries of its matrix.
Dividing by any coefficient that does not vanish therefore recovers the quaternion, and
the choice of the divisor makes sure that it does not vanish.
-/

namespace Kinematics

attribute [ext] Quaternion

namespace Quaternion

/-- The products of the coefficients are those that the rows of a rotation ask for. -/
structure Spans (q : Quaternion ℝ) (a b c : Row ℝ) : Prop where
  ww : 4 * (q.w * q.w) = 1 + a.x + b.y + c.z
  xx : 4 * (q.x * q.x) = 1 + a.x - b.y - c.z
  yy : 4 * (q.y * q.y) = 1 + b.y - a.x - c.z
  zz : 4 * (q.z * q.z) = 1 + c.z - a.x - b.y
  wx : 4 * (q.w * q.x) = c.y - b.z
  wy : 4 * (q.w * q.y) = a.z - c.x
  wz : 4 * (q.w * q.z) = b.x - a.y
  xy : 4 * (q.x * q.y) = a.y + b.x
  xz : 4 * (q.x * q.z) = a.z + c.x
  yz : 4 * (q.y * q.z) = b.z + c.y

theorem Spans.isUnit {q : Quaternion ℝ} {a b c : Row ℝ} (spans : q.Spans a b c) : q.IsUnit := by
  rw [isUnit_iff]
  linear_combination (spans.ww + spans.xx + spans.yy + spans.zz) / 4

/-- The quaternion of the same rotation on the other side of the sphere. -/
def opposite (q : Quaternion ℝ) : Quaternion ℝ := ⟨-q.x, -q.y, -q.z, -q.w⟩

theorem dot_eq (p q : Quaternion ℝ) :
    p.dot q = p.x * q.x + p.y * q.y + p.z * q.z + p.w * q.w :=
  Scalar.sumFour_eq _ _ _ _

theorem eq_of_dot_eq_one {p q : Quaternion ℝ} (left : p.IsUnit) (right : q.IsUnit)
    (aligned : p.dot q = 1) : p = q := by
  rw [isUnit_iff] at left right
  rw [dot_eq] at aligned
  have distance :
      (p.x - q.x) ^ 2 + (p.y - q.y) ^ 2 + (p.z - q.z) ^ 2 + (p.w - q.w) ^ 2 = 0 := by
    linear_combination left + right - 2 * aligned
  have x := sq_nonneg (p.x - q.x)
  have y := sq_nonneg (p.y - q.y)
  have z := sq_nonneg (p.z - q.z)
  have w := sq_nonneg (p.w - q.w)
  ext <;> refine sub_eq_zero.mp (pow_eq_zero_iff two_ne_zero |>.mp ?_) <;> linarith

theorem IsUnit.opposite {q : Quaternion ℝ} (unit : q.IsUnit) : q.opposite.IsUnit := by
  rw [isUnit_iff] at *
  simp only [Quaternion.opposite, neg_mul_neg]
  exact unit

theorem dot_opposite (p q : Quaternion ℝ) : p.dot q.opposite = -p.dot q := by
  rw [dot_eq, dot_eq]
  simp only [opposite]
  ring

/-- The products determine the quaternion up to its sign.  The square of the scalar product
of two quaternions is the sum, over all pairs of coefficients, of the products of one with
those of the other; if these are the same, it is the fourth power of the norm. -/
theorem Spans.eq_or_eq_opposite {p q : Quaternion ℝ} {a b c : Row ℝ} (left : p.Spans a b c)
    (right : q.Spans a b c) : p = q ∨ p = q.opposite := by
  have unit := isUnit_iff.mp left.isUnit
  have same {first second entry : ℝ} (isEntry : 4 * first = entry)
      (isEntryToo : 4 * second = entry) : second = first := by linarith
  have square : p.dot q * p.dot q = 1 := by
    calc
      p.dot q * p.dot q =
          p.w * p.w * (q.w * q.w) + p.x * p.x * (q.x * q.x) + p.y * p.y * (q.y * q.y) +
            p.z * p.z * (q.z * q.z) + 2 * (p.w * p.x * (q.w * q.x) + p.w * p.y * (q.w * q.y) +
            p.w * p.z * (q.w * q.z) + p.x * p.y * (q.x * q.y) + p.x * p.z * (q.x * q.z) +
            p.y * p.z * (q.y * q.z)) := by
        rw [dot_eq]
        ring
      _ = (p.x * p.x + p.y * p.y + p.z * p.z + p.w * p.w) ^ 2 := by
        rw [same left.ww right.ww, same left.xx right.xx, same left.yy right.yy,
          same left.zz right.zz, same left.wx right.wx, same left.wy right.wy,
          same left.wz right.wz, same left.xy right.xy, same left.xz right.xz,
          same left.yz right.yz]
        ring
      _ = 1 := by rw [unit, one_pow]
  rcases mul_self_eq_one_iff.mp square with aligned | opposed
  · exact .inl (eq_of_dot_eq_one left.isUnit right.isUnit aligned)
  · right
    apply eq_of_dot_eq_one left.isUnit right.isUnit.opposite
    rw [dot_opposite, opposed, neg_neg]

/-- A unit quaternion has the products that the rows of its matrix ask for. -/
theorem spans_ofPose {pose : Pose ℝ} (unit : pose.rotation.IsUnit) :
    pose.rotation.Spans (Transform.ofPose pose).r₀ (Transform.ofPose pose).r₁
      (Transform.ofPose pose).r₂ := by
  have norm := isUnit_iff.mp unit
  rw [Transform.ofPose_eq]
  generalize pose.rotation = q at norm
  constructor
  case ww => linear_combination 4 * norm
  all_goals ring

theorem normalize_eq_self {q : Quaternion ℝ} (unit : q.IsUnit) : q.normalize = q := by
  have norm : q.norm = 1 := unit
  have large : (degenerateNorm : ℝ) < 1 := by
    unfold degenerateNorm
    norm_num
  unfold normalize
  rw [norm, if_pos ⟨rfl, large⟩]
  simp only [div_one]

section Pivot

variable {root square : ℝ}

private theorem pivot_mul_pivot (isRoot : root * root = square) :
    4 * (root / 2 * (root / 2)) = square := by
  linear_combination isRoot

private theorem pivot_mul (nonzero : root ≠ 0) (entry : ℝ) :
    4 * (root / 2 * (entry / (2 * root))) = entry := by
  field_simp
  ring

private theorem mul_pivot (nonzero : root ≠ 0) (entry : ℝ) :
    4 * (entry / (2 * root) * (root / 2)) = entry := by
  field_simp
  ring

private theorem other_mul_other (nonzero : root ≠ 0) (isRoot : root * root = square)
    {left right entry : ℝ} (minor : left * right = square * entry) :
    4 * (left / (2 * root) * (right / (2 * root))) = entry := by
  field_simp
  linear_combination 4 * minor - 4 * entry * isRoot

end Pivot

variable {a b c : Row ℝ} {root : ℝ}

theorem spans_of_w (rows : Transform.ProperRows a b c) (nonzero : root ≠ 0)
    (isRoot : root * root = 1 + a.x + b.y + c.z) :
    Spans ⟨(c.y - b.z) / (2 * root), (a.z - c.x) / (2 * root), (b.x - a.y) / (2 * root),
      root / 2⟩ a b c where
  ww := pivot_mul_pivot isRoot
  wx := pivot_mul nonzero _
  wy := pivot_mul nonzero _
  wz := pivot_mul nonzero _
  xx := other_mul_other nonzero isRoot (by
    linear_combination rows.yy + rows.zz - rows.aa + 2 * rows.ax)
  yy := other_mul_other nonzero isRoot (by
    linear_combination rows.xx + rows.zz - rows.bb + 2 * rows.yb)
  zz := other_mul_other nonzero isRoot (by
    linear_combination rows.aa + rows.bb - rows.zz + 2 * rows.cz)
  xy := other_mul_other nonzero isRoot (by
    linear_combination rows.ay + rows.bx - rows.xy - rows.ab)
  xz := other_mul_other nonzero isRoot (by
    linear_combination rows.az + rows.cx - rows.xz - rows.ac)
  yz := other_mul_other nonzero isRoot (by
    linear_combination rows.bz + rows.cy - rows.yz - rows.bc)

theorem spans_of_x (rows : Transform.ProperRows a b c) (nonzero : root ≠ 0)
    (isRoot : root * root = 1 + a.x - b.y - c.z) :
    Spans ⟨root / 2, (a.y + b.x) / (2 * root), (a.z + c.x) / (2 * root),
      (c.y - b.z) / (2 * root)⟩ a b c where
  xx := pivot_mul_pivot isRoot
  wx := mul_pivot nonzero _
  xy := pivot_mul nonzero _
  xz := pivot_mul nonzero _
  ww := other_mul_other nonzero isRoot (by
    linear_combination rows.yy + rows.zz - rows.aa + 2 * rows.ax)
  wy := other_mul_other nonzero isRoot (by
    linear_combination rows.az - rows.cx - rows.xz + rows.ac)
  wz := other_mul_other nonzero isRoot (by
    linear_combination rows.bx - rows.ay + rows.xy - rows.ab)
  yy := other_mul_other nonzero isRoot (by
    linear_combination rows.aa + rows.bb - rows.zz - 2 * rows.cz)
  yz := other_mul_other nonzero isRoot (by
    linear_combination rows.bz + rows.cy + rows.yz + rows.bc)
  zz := other_mul_other nonzero isRoot (by
    linear_combination rows.xx + rows.zz - rows.bb - 2 * rows.yb)

theorem spans_of_y (rows : Transform.ProperRows a b c) (nonzero : root ≠ 0)
    (isRoot : root * root = 1 + b.y - a.x - c.z) :
    Spans ⟨(a.y + b.x) / (2 * root), root / 2, (b.z + c.y) / (2 * root),
      (a.z - c.x) / (2 * root)⟩ a b c where
  yy := pivot_mul_pivot isRoot
  wy := mul_pivot nonzero _
  xy := mul_pivot nonzero _
  yz := pivot_mul nonzero _
  ww := other_mul_other nonzero isRoot (by
    linear_combination rows.xx + rows.zz - rows.bb + 2 * rows.yb)
  wx := other_mul_other nonzero isRoot (by
    linear_combination rows.cy - rows.bz + rows.yz - rows.bc)
  wz := other_mul_other nonzero isRoot (by
    linear_combination rows.bx - rows.ay - rows.xy + rows.ab)
  xx := other_mul_other nonzero isRoot (by
    linear_combination rows.aa + rows.bb - rows.zz - 2 * rows.cz)
  xz := other_mul_other nonzero isRoot (by
    linear_combination rows.az + rows.cx + rows.xz + rows.ac)
  zz := other_mul_other nonzero isRoot (by
    linear_combination rows.yy + rows.zz - rows.aa - 2 * rows.ax)

theorem spans_of_z (rows : Transform.ProperRows a b c) (nonzero : root ≠ 0)
    (isRoot : root * root = 1 + c.z - a.x - b.y) :
    Spans ⟨(a.z + c.x) / (2 * root), (b.z + c.y) / (2 * root), root / 2,
      (b.x - a.y) / (2 * root)⟩ a b c where
  zz := pivot_mul_pivot isRoot
  wz := mul_pivot nonzero _
  xz := mul_pivot nonzero _
  yz := mul_pivot nonzero _
  ww := other_mul_other nonzero isRoot (by
    linear_combination rows.aa + rows.bb - rows.zz + 2 * rows.cz)
  wx := other_mul_other nonzero isRoot (by
    linear_combination rows.cy - rows.bz - rows.yz + rows.bc)
  wy := other_mul_other nonzero isRoot (by
    linear_combination rows.az - rows.cx + rows.xz - rows.ac)
  xx := other_mul_other nonzero isRoot (by
    linear_combination rows.xx + rows.zz - rows.bb - 2 * rows.yb)
  xy := other_mul_other nonzero isRoot (by
    linear_combination rows.ay + rows.bx + rows.xy + rows.ab)
  yy := other_mul_other nonzero isRoot (by
    linear_combination rows.yy + rows.zz - rows.aa - 2 * rows.ax)

section Literals

theorem zero_literal : (0.0 : ℝ) = 0 := by
  norm_num

theorem one_literal : (1.0 : ℝ) = 1 := by
  norm_num

private theorem mul_half_div (entry root : ℝ) : entry * (0.5 / root) = entry / (2 * root) := by
  norm_num
  ring

private theorem quarter_div_half_div (root : ℝ) : 0.25 / (0.5 / root) = root / 2 := by
  rw [div_div_eq_mul_div]
  norm_num
  ring

private theorem quarter_mul_double (root : ℝ) : 0.25 * (2.0 * root) = root / 2 := by
  norm_num
  ring

private theorem div_double (entry root : ℝ) : entry / (2.0 * root) = entry / (2 * root) := by
  norm_num

end Literals

theorem pivot_of_pos {square : ℝ} (positive : 0 < square) :
    √square ≠ 0 ∧ √square * √square = square :=
  ⟨(Real.sqrt_pos.mpr positive).ne', Real.mul_self_sqrt positive.le⟩

theorem positivePart_of_pos {value : ℝ} (positive : 0 < value) :
    Scalar.positivePart value = value := by
  unfold Scalar.positivePart
  rw [if_pos]
  norm_num [positive]

theorem isRoot_positivePart {square : ℝ} (positive : 0 < square) :
    Scalar.sqrt (Scalar.positivePart square) ≠ 0 ∧
      Scalar.sqrt (Scalar.positivePart square) * Scalar.sqrt (Scalar.positivePart square) =
        square := by
  rw [positivePart_of_pos positive]
  exact pivot_of_pos positive

section Largest

variable {x y z : ℝ} (trace : ¬0 < x + y + z)

include trace

/-- Without a positive trace, the square of the largest coefficient is positive, whichever of
the diagonal entries selects it. -/
theorem square_x_pos (largest : y < x ∧ z < x) : 0 < 1 + x - y - z := by
  linarith [largest.1, largest.2]

theorem square_y_pos (notX : ¬(y < x ∧ z < x)) (larger : z < y) : 0 < 1 + y - x - z := by
  rcases not_and_or.mp notX with small | small <;> linarith

theorem square_z_pos (notX : ¬(y < x ∧ z < x)) (notY : ¬z < y) : 0 < 1 + z - x - y := by
  rcases not_and_or.mp notX with small | small <;> linarith

end Largest

/-- The quaternion read off the rows of a proper rotation has that rotation's products. -/
theorem spans_ofRows (rows : Transform.ProperRows a b c) :
    (ofRows a.block b.block c.block).Spans a b c := by
  simp only [ofRows, Row.block, zero_literal, one_literal, mul_half_div, quarter_div_half_div,
    quarter_mul_double, div_double]
  split_ifs with trace first second
  · have positive : 0 < a.x + b.y + c.z + 1 := by linarith
    obtain ⟨nonzero, isRoot⟩ := pivot_of_pos positive
    exact spans_of_w rows nonzero (by linear_combination isRoot)
  · obtain ⟨nonzero, isRoot⟩ := isRoot_positivePart (square_x_pos trace first)
    exact spans_of_x rows nonzero isRoot
  · obtain ⟨nonzero, isRoot⟩ := isRoot_positivePart (square_y_pos trace first second)
    exact spans_of_y rows nonzero isRoot
  · obtain ⟨nonzero, isRoot⟩ := isRoot_positivePart (square_z_pos trace first second)
    exact spans_of_z rows nonzero isRoot

end Quaternion

namespace Transform

variable {m : Transform ℝ}

theorem toPose_eq (rigid : m.IsRigid) :
    m.toPose = ⟨m.displacement, Quaternion.ofRows m.r₀.block m.r₁.block m.r₂.block⟩ := by
  have unit := (Quaternion.spans_ofRows rigid.properRows).isUnit
  unfold toPose Pose.ofQuaternion
  rw [Quaternion.normalize_eq_self unit]

theorem isUnit_toPose (rigid : m.IsRigid) : m.toPose.rotation.IsUnit := by
  rw [toPose_eq rigid]
  exact (Quaternion.spans_ofRows rigid.properRows).isUnit

/-- The pose read off a rigid motion has that motion as its matrix. -/
theorem ofPose_toPose (rigid : m.IsRigid) : ofPose m.toPose = m := by
  have spans := Quaternion.spans_ofRows rigid.properRows
  have unit := Quaternion.isUnit_iff.mp spans.isUnit
  rw [toPose_eq rigid, ofPose_eq]
  generalize Quaternion.ofRows m.r₀.block m.r₁.block m.r₂.block = q at spans unit
  ext
  case r₀.x => linear_combination (spans.xx + spans.ww) / 2 - 2 * unit
  case r₀.y => linear_combination (spans.xy - spans.wz) / 2
  case r₀.z => linear_combination (spans.xz + spans.wy) / 2
  case r₁.x => linear_combination (spans.xy + spans.wz) / 2
  case r₁.y => linear_combination (spans.yy + spans.ww) / 2 - 2 * unit
  case r₁.z => linear_combination (spans.yz - spans.wx) / 2
  case r₂.x => linear_combination (spans.xz - spans.wy) / 2
  case r₂.y => linear_combination (spans.yz + spans.wx) / 2
  case r₂.z => linear_combination (spans.zz + spans.ww) / 2 - 2 * unit
  case r₀.t => rfl
  case r₁.t => rfl
  case r₂.t => rfl
  all_goals simp only [rigid.last]

end Transform

end Kinematics
