import Kinematics.Proofs.Geometry.Decomposition

/-!
# Angles of a rotation

Roll, pitch and yaw are read off the first column and the last row of the matrix, which hold all
three unless the cosine of the pitch vanishes.  There, at a pitch of a quarter turn, these
entries vanish together, and the angles that are reported have lost what the others still hold.
-/

namespace Kinematics

attribute [ext] RollPitchYaw

namespace Transform

/-- The matrix of three angles turns about the first axis, then the second, then the third. -/
theorem ofPose_ofRollPitchYaw (position : Vec3 ℝ) (angles : RollPitchYaw ℝ) :
    ofPose (Pose.ofRollPitchYaw position angles) =
      { r₀ := ⟨Real.cos angles.yaw * Real.cos angles.pitch,
          Real.cos angles.yaw * Real.sin angles.pitch * Real.sin angles.roll -
            Real.sin angles.yaw * Real.cos angles.roll,
          Real.cos angles.yaw * Real.sin angles.pitch * Real.cos angles.roll +
            Real.sin angles.yaw * Real.sin angles.roll, position.x⟩
        r₁ := ⟨Real.sin angles.yaw * Real.cos angles.pitch,
          Real.sin angles.yaw * Real.sin angles.pitch * Real.sin angles.roll +
            Real.cos angles.yaw * Real.cos angles.roll,
          Real.sin angles.yaw * Real.sin angles.pitch * Real.cos angles.roll -
            Real.cos angles.yaw * Real.sin angles.roll, position.y⟩
        r₂ := ⟨-Real.sin angles.pitch, Real.cos angles.pitch * Real.sin angles.roll,
          Real.cos angles.pitch * Real.cos angles.roll, position.z⟩
        r₃ := ⟨0, 0, 0, 1⟩ } := by
  have circle (angle : ℝ) := Real.sin_sq_add_cos_sq (angle / 2)
  have sine (angle : ℝ) : Real.sin angle = 2 * Real.sin (angle / 2) * Real.cos (angle / 2) := by
    rw [← Real.sin_two_mul, mul_div_cancel₀ angle two_ne_zero]
  have cosine (angle : ℝ) :
      Real.cos angle = Real.cos (angle / 2) ^ 2 - Real.sin (angle / 2) ^ 2 := by
    rw [← Real.cos_two_mul', mul_div_cancel₀ angle two_ne_zero]
  have half : (2.0 : ℝ) = 2 := by norm_num
  have roll := circle angles.roll
  have pitch := circle angles.pitch
  have yaw := circle angles.yaw
  rw [ofPose_eq, sine angles.roll, sine angles.pitch, sine angles.yaw, cosine angles.roll,
    cosine angles.pitch, cosine angles.yaw]
  unfold Pose.ofRollPitchYaw Quaternion.ofRollPitchYaw
  simp only [Scalar.sin, Scalar.cos, half]
  generalize Real.sin (angles.roll / 2) = sr at *
  generalize Real.cos (angles.roll / 2) = cr at *
  generalize Real.sin (angles.pitch / 2) = sp at *
  generalize Real.cos (angles.pitch / 2) = cp at *
  generalize Real.sin (angles.yaw / 2) = sy at *
  generalize Real.cos (angles.yaw / 2) = cy at *
  ext
  case r₀.x =>
    linear_combination ((cy ^ 2 - sy ^ 2) * (cp ^ 2 - sp ^ 2) -
      (sp ^ 2 + cp ^ 2) * (sy ^ 2 + cy ^ 2)) * roll - (sy ^ 2 + cy ^ 2) * pitch - yaw
  case r₀.y => linear_combination -(2 * sy * cy) * (cr ^ 2 - sr ^ 2) * pitch
  case r₀.z => linear_combination (2 * sy * cy) * (2 * sr * cr) * pitch
  case r₁.x => linear_combination (2 * sy * cy) * (cp ^ 2 - sp ^ 2) * roll
  case r₁.y =>
    linear_combination ((cy ^ 2 - sy ^ 2) * (cr ^ 2 - sr ^ 2) - (sy ^ 2 + cy ^ 2)) * pitch -
      (sp ^ 2 + cp ^ 2) * (sy ^ 2 + cy ^ 2) * roll - yaw
  case r₁.z => linear_combination -(cy ^ 2 - sy ^ 2) * (2 * sr * cr) * pitch
  case r₂.x => linear_combination -(2 * sp * cp) * ((sy ^ 2 + cy ^ 2) * roll + yaw)
  case r₂.y => linear_combination (cp ^ 2 - sp ^ 2) * (2 * sr * cr) * yaw
  case r₂.z =>
    linear_combination ((cp ^ 2 - sp ^ 2) * (cr ^ 2 - sr ^ 2) - 1) * yaw -
      (sp ^ 2 + cp ^ 2) * (sy ^ 2 + cy ^ 2) * roll - (sy ^ 2 + cy ^ 2) * pitch
  all_goals rfl

/-- The first column and the last row determine a rotation, unless they meet in plus or minus
one. -/
theorem ProperRows.eq_of_edges {a b c d e : Row ℝ} (rows : ProperRows a b c)
    (others : ProperRows d e c) (first : d.x = a.x) (second : e.x = b.x)
    (nonzero : c.y * c.y + c.z * c.z ≠ 0) :
    d.y = a.y ∧ d.z = a.z ∧ e.y = b.y ∧ e.z = b.z := by
  refine ⟨?_, ?_, ?_, ?_⟩ <;> apply mul_right_cancel₀ nonzero
  · linear_combination c.y * (others.ac - rows.ac) - c.z * (others.bx - rows.bx) -
      c.x * c.y * first - c.z * second
  · linear_combination c.z * (others.ac - rows.ac) + c.y * (others.bx - rows.bx) -
      c.x * c.z * first + c.y * second
  · linear_combination c.y * (others.bc - rows.bc) + c.z * (others.ax - rows.ax) -
      c.x * c.y * second + c.z * first
  · linear_combination c.z * (others.bc - rows.bc) - c.y * (others.ax - rows.ax) -
      c.x * c.z * second - c.y * first

end Transform

/-- A point at a distance from the origin lies there at its own angle. -/
theorem polar_eq {u v distance : ℝ} (positive : 0 < distance)
    (circle : u * u + v * v = distance * distance) :
    distance * Real.cos (Complex.arg ⟨u, v⟩) = u ∧
      distance * Real.sin (Complex.arg ⟨u, v⟩) = v := by
  have norm : ‖(⟨u, v⟩ : ℂ)‖ = distance := by
    have square : u ^ 2 + v ^ 2 = distance ^ 2 := by linear_combination circle
    rw [Complex.norm_eq_sqrt_sq_add_sq]
    simp only [square, Real.sqrt_sq positive.le]
  have nonzero : (⟨u, v⟩ : ℂ) ≠ 0 := by
    rw [← norm_pos_iff, norm]
    exact positive
  rw [Complex.cos_arg nonzero, Complex.sin_arg, norm]
  constructor
  · exact mul_div_cancel₀ u positive.ne'
  · exact mul_div_cancel₀ v positive.ne'

namespace Quaternion

theorem roll_eq (q : Quaternion ℝ) :
    q.rollPitchYaw.roll =
      Complex.arg ⟨1 - 2 * (q.x * q.x + q.y * q.y), 2 * (q.y * q.z + q.w * q.x)⟩ := by
  unfold rollPitchYaw
  norm_num [Scalar.atan2, add_comm]

theorem yaw_eq (q : Quaternion ℝ) :
    q.rollPitchYaw.yaw =
      Complex.arg ⟨1 - 2 * (q.y * q.y + q.z * q.z), 2 * (q.x * q.y + q.w * q.z)⟩ := by
  unfold rollPitchYaw
  norm_num [Scalar.atan2, add_comm]

theorem pitch_of_lt {q : Quaternion ℝ} (below : |q.sinPitch| < 1) :
    q.rollPitchYaw.pitch = Real.arcsin q.sinPitch := by
  have two : (2.0 : ℝ) = 2 := by norm_num
  unfold rollPitchYaw
  rw [one_literal, two]
  exact if_neg (not_le.mpr below)

theorem pitch_of_quarter {q : Quaternion ℝ} (quarter : q.sinPitch = 1 ∨ q.sinPitch = -1) :
    q.rollPitchYaw.pitch = q.sinPitch * (Real.pi / 2) := by
  have two : (2.0 : ℝ) = 2 := by norm_num
  unfold sinPitch at *
  unfold rollPitchYaw
  rcases quarter with reached | reached
  · simp [one_literal, zero_literal, two, reached, Scalar.abs, Scalar.quarterTurn]
  · simp [one_literal, zero_literal, two, reached, Scalar.abs, Scalar.quarterTurn]

theorem ofRollPitchYaw_pitch (pitch : ℝ) :
    ofRollPitchYaw ⟨0, pitch, 0⟩ = ⟨0, Real.sin (pitch / 2), 0, Real.cos (pitch / 2)⟩ := by
  have two : (2.0 : ℝ) = 2 := by norm_num
  unfold ofRollPitchYaw
  simp [Scalar.sin, Scalar.cos, two]

theorem abs_sinPitch_le {q : Quaternion ℝ} (unit : q.IsUnit) : |q.sinPitch| ≤ 1 := by
  rw [isUnit_iff] at unit
  unfold sinPitch
  have upper := add_nonneg (mul_self_nonneg (q.w - q.y)) (mul_self_nonneg (q.z + q.x))
  have lower := add_nonneg (mul_self_nonneg (q.w + q.y)) (mul_self_nonneg (q.z - q.x))
  rw [abs_le]
  constructor
  · linear_combination lower + unit
  · linear_combination upper + unit

section Locked

variable {q : Quaternion ℝ} (unit : q.IsUnit) (locked : 1 ≤ |q.sinPitch|)

include unit locked

theorem sinPitch_of_locked : q.sinPitch = 1 ∨ q.sinPitch = -1 :=
  eq_or_eq_neg_of_abs_eq (le_antisymm (abs_sinPitch_le unit) locked)

theorem sinPitch_mul_self_of_locked : q.sinPitch * q.sinPitch = 1 :=
  mul_self_eq_one_iff.mpr (sinPitch_of_locked unit locked)

/-- Where the pitch reaches a quarter turn, two coefficients repeat the others. -/
theorem coefficients_of_locked : q.w = q.sinPitch * q.y ∧ q.z = -(q.sinPitch * q.x) := by
  have quarter := sinPitch_mul_self_of_locked unit locked
  have norm := isUnit_iff.mp unit
  have sine : q.sinPitch = 2 * (q.w * q.y - q.z * q.x) := rfl
  have vanishes : (q.w - q.sinPitch * q.y) * (q.w - q.sinPitch * q.y) +
      (q.z + q.sinPitch * q.x) * (q.z + q.sinPitch * q.x) = 0 := by
    linear_combination norm + (q.x * q.x + q.y * q.y - 1) * quarter + q.sinPitch * sine
  obtain ⟨scalar, vector⟩ := mul_self_add_mul_self_eq_zero.mp vanishes
  exact ⟨sub_eq_zero.mp scalar, eq_neg_of_add_eq_zero_left vector⟩

/-- There the angles say the pitch only. -/
theorem rollPitchYaw_of_locked : q.rollPitchYaw = ⟨0, q.sinPitch * (Real.pi / 2), 0⟩ := by
  have quarter := sinPitch_mul_self_of_locked unit locked
  have norm := isUnit_iff.mp unit
  have origin : Complex.arg ⟨0, 0⟩ = 0 := Complex.arg_zero
  obtain ⟨scalar, vector⟩ := coefficients_of_locked unit locked
  ext
  case roll =>
    have cosine : 1 - 2 * (q.x * q.x + q.y * q.y) = 0 := by
      rw [scalar, vector] at norm
      linear_combination (q.x * q.x + q.y * q.y) * quarter - norm
    have sine : 2 * (q.y * q.z + q.w * q.x) = 0 := by
      rw [scalar, vector]
      ring
    rw [roll_eq, cosine, sine, origin]
  case pitch => exact pitch_of_quarter (sinPitch_of_locked unit locked)
  case yaw =>
    have cosine : 1 - 2 * (q.y * q.y + q.z * q.z) = 0 := by
      rw [scalar, vector] at norm
      rw [vector]
      linear_combination (q.y * q.y - q.x * q.x) * quarter - norm
    have sine : 2 * (q.x * q.y + q.w * q.z) = 0 := by
      rw [scalar, vector]
      linear_combination -2 * q.x * q.y * quarter
    rw [yaw_eq, cosine, sine, origin]

end Locked

end Quaternion

namespace Pose

theorem isUnit_ofRollPitchYaw (position : Vec3 ℝ) (angles : RollPitchYaw ℝ) :
    (ofRollPitchYaw position angles).rotation.IsUnit :=
  Quaternion.isUnit_ofRollPitchYaw angles

section Unlocked

variable {pose : Pose ℝ} (unit : pose.rotation.IsUnit) (below : |pose.rotation.sinPitch| < 1)

theorem corner_eq (pose : Pose ℝ) :
    (Transform.ofPose pose).r₂.x = -pose.rotation.sinPitch := by
  rw [Transform.ofPose_eq]
  unfold Quaternion.sinPitch
  ring

include below

theorem sin_pitch : Real.sin pose.rollPitchYaw.pitch = pose.rotation.sinPitch := by
  obtain ⟨lower, upper⟩ := abs_lt.mp below
  have pitch : pose.rollPitchYaw.pitch = Real.arcsin pose.rotation.sinPitch :=
    Quaternion.pitch_of_lt below
  rw [pitch, Real.sin_arcsin lower.le upper.le]

theorem cos_pitch_pos : 0 < Real.cos pose.rollPitchYaw.pitch := by
  have pitch : pose.rollPitchYaw.pitch = Real.arcsin pose.rotation.sinPitch :=
    Quaternion.pitch_of_lt below
  rw [pitch, Real.cos_arcsin]
  apply Real.sqrt_pos.mpr
  rw [sub_pos, sq_lt_one_iff_abs_lt_one]
  exact below

include unit

/-- The last row is as long without its corner as the cosine of the pitch says, so its other
entries have the roll as their angle. -/
theorem last_row_eq :
    Real.cos pose.rollPitchYaw.pitch * Real.cos pose.rollPitchYaw.roll =
        (Transform.ofPose pose).r₂.z ∧
      Real.cos pose.rollPitchYaw.pitch * Real.sin pose.rollPitchYaw.roll =
        (Transform.ofPose pose).r₂.y := by
  have rows := (Transform.isRigid_ofPose unit).properRows
  have circle := Real.sin_sq_add_cos_sq pose.rollPitchYaw.pitch
  have roll : pose.rollPitchYaw.roll =
      Complex.arg ⟨(Transform.ofPose pose).r₂.z, (Transform.ofPose pose).r₂.y⟩ := by
    rw [Transform.ofPose_eq]
    exact Quaternion.roll_eq _
  rw [roll]
  apply polar_eq (cos_pitch_pos below)
  rw [sin_pitch below] at circle
  have cc := rows.cc
  rw [corner_eq] at cc
  linear_combination cc - circle

/-- So is the first column, whose other entries have the yaw as their angle. -/
theorem first_column_eq :
    Real.cos pose.rollPitchYaw.pitch * Real.cos pose.rollPitchYaw.yaw =
        (Transform.ofPose pose).r₀.x ∧
      Real.cos pose.rollPitchYaw.pitch * Real.sin pose.rollPitchYaw.yaw =
        (Transform.ofPose pose).r₁.x := by
  have rows := (Transform.isRigid_ofPose unit).properRows
  have circle := Real.sin_sq_add_cos_sq pose.rollPitchYaw.pitch
  have yaw : pose.rollPitchYaw.yaw =
      Complex.arg ⟨(Transform.ofPose pose).r₀.x, (Transform.ofPose pose).r₁.x⟩ := by
    rw [Transform.ofPose_eq]
    exact Quaternion.yaw_eq _
  rw [yaw]
  apply polar_eq (cos_pitch_pos below)
  rw [sin_pitch below] at circle
  have xx := rows.xx
  rw [corner_eq] at xx
  linear_combination xx - circle

/-- Short of a quarter turn, the angles give back the matrix. -/
theorem ofPose_rollPitchYaw :
    Transform.ofPose (ofRollPitchYaw pose.position pose.rollPitchYaw) =
      Transform.ofPose pose := by
  have matrix := Transform.ofPose_ofRollPitchYaw pose.position pose.rollPitchYaw
  have rigid : (Transform.ofPose pose).IsRigid := Transform.isRigid_ofPose unit
  have toldRigid :=
    Transform.isRigid_ofPose (isUnit_ofRollPitchYaw pose.position pose.rollPitchYaw)
  obtain ⟨rollCosine, rollSine⟩ := last_row_eq unit below
  obtain ⟨yawCosine, yawSine⟩ := first_column_eq unit below
  generalize Transform.ofPose (ofRollPitchYaw pose.position pose.rollPitchYaw) = told at *
  have lastRow : told.r₂ = (Transform.ofPose pose).r₂ := by
    rw [matrix]
    ext
    · exact (congrArg Neg.neg (sin_pitch below)).trans (corner_eq pose).symm
    · exact rollSine
    · exact rollCosine
    · rfl
  have first : told.r₀.x = (Transform.ofPose pose).r₀.x := by
    rw [matrix, ← yawCosine]
    exact mul_comm _ _
  have second : told.r₁.x = (Transform.ofPose pose).r₁.x := by
    rw [matrix, ← yawSine]
    exact mul_comm _ _
  have nonzero : (Transform.ofPose pose).r₂.y * (Transform.ofPose pose).r₂.y +
      (Transform.ofPose pose).r₂.z * (Transform.ofPose pose).r₂.z ≠ 0 := by
    have circle := Real.sin_sq_add_cos_sq pose.rollPitchYaw.roll
    have square : (Transform.ofPose pose).r₂.y * (Transform.ofPose pose).r₂.y +
        (Transform.ofPose pose).r₂.z * (Transform.ofPose pose).r₂.z =
        Real.cos pose.rollPitchYaw.pitch ^ 2 := by
      rw [← rollCosine, ← rollSine]
      linear_combination Real.cos pose.rollPitchYaw.pitch ^ 2 * circle
    rw [square]
    exact pow_ne_zero 2 (cos_pitch_pos below).ne'
  have others := toldRigid.properRows
  rw [lastRow] at others
  obtain ⟨ay, az, yb, bz⟩ := rigid.properRows.eq_of_edges others first second nonzero
  have displaced : told.displacement = pose.position := by rw [matrix]; rfl
  ext
  case r₀.x => exact first
  case r₀.y => exact ay
  case r₀.z => exact az
  case r₀.t => exact congrArg Vec3.x displaced
  case r₁.x => exact second
  case r₁.y => exact yb
  case r₁.z => exact bz
  case r₁.t => exact congrArg Vec3.y displaced
  case r₂.x | r₂.y | r₂.z | r₂.t => exact congrArg _ lastRow
  case r₃.x | r₃.y | r₃.z | r₃.t => rw [toldRigid.last, rigid.last]

/-- The angles give back the rotation, up to the sign of its quaternion. -/
theorem rotation_rollPitchYaw :
    (ofRollPitchYaw pose.position pose.rollPitchYaw).rotation = pose.rotation ∨
      (ofRollPitchYaw pose.position pose.rollPitchYaw).rotation = pose.rotation.opposite := by
  have spans := Quaternion.spans_ofPose
    (isUnit_ofRollPitchYaw pose.position pose.rollPitchYaw)
  rw [ofPose_rollPitchYaw unit below] at spans
  exact spans.eq_or_eq_opposite (Quaternion.spans_ofPose unit)

end Unlocked

/-- At a quarter turn, the angles stand for a turn about the second axis. -/
theorem rotation_of_locked {pose : Pose ℝ} (unit : pose.rotation.IsUnit)
    (locked : 1 ≤ |pose.rotation.sinPitch|) :
    (ofRollPitchYaw pose.position pose.rollPitchYaw).rotation =
      ⟨0, pose.rotation.sinPitch * (√2 / 2), 0, √2 / 2⟩ := by
  have angles : pose.rollPitchYaw = ⟨0, pose.rotation.sinPitch * (Real.pi / 2), 0⟩ :=
    Quaternion.rollPitchYaw_of_locked unit locked
  unfold ofRollPitchYaw
  rw [angles, Quaternion.ofRollPitchYaw_pitch]
  have half : Real.pi / 2 / 2 = Real.pi / 4 := by ring
  rcases Quaternion.sinPitch_of_locked unit locked with reached | reached
  · rw [reached, one_mul, one_mul, half, Real.sin_pi_div_four, Real.cos_pi_div_four]
  · rw [reached, neg_one_mul, neg_one_mul, neg_div, half, Real.sin_neg, Real.cos_neg,
      Real.sin_pi_div_four, Real.cos_pi_div_four]

theorem rotation_of_locked_iff {pose : Pose ℝ} (unit : pose.rotation.IsUnit)
    (locked : 1 ≤ |pose.rotation.sinPitch|) :
    ((ofRollPitchYaw pose.position pose.rollPitchYaw).rotation = pose.rotation ∨
        (ofRollPitchYaw pose.position pose.rollPitchYaw).rotation = pose.rotation.opposite) ↔
      pose.rotation.x = 0 ∧ pose.rotation.z = 0 := by
  rw [rotation_of_locked unit locked]
  have norm := Quaternion.isUnit_iff.mp unit
  have root : √2 * √2 = 2 := Real.mul_self_sqrt zero_le_two
  have quarter := Quaternion.sinPitch_mul_self_of_locked unit locked
  obtain ⟨scalar, -⟩ := Quaternion.coefficients_of_locked unit locked
  generalize pose.rotation = q at *
  constructor
  · rintro (same | opposed)
    · exact ⟨(congrArg Quaternion.x same).symm, (congrArg Quaternion.z same).symm⟩
    · exact ⟨neg_eq_zero.mp (congrArg Quaternion.x opposed).symm,
        neg_eq_zero.mp (congrArg Quaternion.z opposed).symm⟩
  · rintro ⟨x, z⟩
    have y : q.y = q.sinPitch * q.w := by linear_combination -q.y * quarter - q.sinPitch * scalar
    have square : q.w * q.w = √2 / 2 * (√2 / 2) := by
      rw [x, z, y] at norm
      linear_combination norm / 2 - q.w * q.w / 2 * quarter - root / 4
    rcases mul_self_eq_mul_self_iff.mp square with w | w
    · left
      ext
      · exact x.symm
      · rw [y, w]
      · exact z.symm
      · exact w.symm
    · right
      unfold Quaternion.opposite
      ext
      · rw [x, neg_zero]
      · rw [y, w, mul_neg, neg_neg]
      · rw [z, neg_zero]
      · rw [w, neg_neg]

/-- The angles that are told of a pose with a unit quaternion describe it, up to the sign of the
quaternion, exactly if its pitch is short of a quarter turn or it turns about the second axis
only.  At any other pitch of a quarter turn, roll and yaw are told as zero and are lost. -/
theorem rollPitchYaw_describes_iff (pose : Pose ℝ) (unit : pose.rotation.IsUnit) :
    let told := ofRollPitchYaw pose.position pose.rollPitchYaw
    told.position = pose.position ∧ told.rotation.IsUnit ∧
      (1 ≤ |pose.rotation.sinPitch| →
        pose.rollPitchYaw = ⟨0, pose.rotation.sinPitch * (Real.pi / 2), 0⟩) ∧
      ((told.rotation = pose.rotation ∨ told.rotation = pose.rotation.opposite) ↔
        |pose.rotation.sinPitch| < 1 ∨ pose.rotation.x = 0 ∧ pose.rotation.z = 0) := by
  intro told
  refine ⟨rfl, isUnit_ofRollPitchYaw _ _, Quaternion.rollPitchYaw_of_locked unit, ?_⟩
  rcases lt_or_ge |pose.rotation.sinPitch| 1 with below | locked
  · exact iff_of_true (rotation_rollPitchYaw unit below) (.inl below)
  · rw [or_iff_right (not_lt.mpr locked)]
    exact rotation_of_locked_iff unit locked

theorem rollPitchYaw_describes_diagonalTurn :
    diagonalTurn.rotation.IsUnit ∧
      ((ofRollPitchYaw diagonalTurn.position diagonalTurn.rollPitchYaw).rotation =
          diagonalTurn.rotation ∨
        (ofRollPitchYaw diagonalTurn.position diagonalTurn.rollPitchYaw).rotation =
          diagonalTurn.rotation.opposite) := by
  have unit : diagonalTurn.rotation.IsUnit := by
    rw [Quaternion.isUnit_iff]
    norm_num [diagonalTurn]
  have below : |diagonalTurn.rotation.sinPitch| < 1 := by
    norm_num [diagonalTurn, Quaternion.sinPitch]
  obtain ⟨-, -, -, describes⟩ := rollPitchYaw_describes_iff diagonalTurn unit
  exact ⟨unit, describes.mpr (.inl below)⟩

theorem rollPitchYaw_loses_lockedTurn :
    lockedTurn.rotation.IsUnit ∧
      ¬((ofRollPitchYaw lockedTurn.position lockedTurn.rollPitchYaw).rotation =
          lockedTurn.rotation ∨
        (ofRollPitchYaw lockedTurn.position lockedTurn.rollPitchYaw).rotation =
          lockedTurn.rotation.opposite) := by
  have unit : lockedTurn.rotation.IsUnit := by
    rw [Quaternion.isUnit_iff]
    norm_num [lockedTurn]
  have locked : 1 ≤ |lockedTurn.rotation.sinPitch| := by
    norm_num [lockedTurn, Quaternion.sinPitch]
  refine ⟨unit, ?_⟩
  rw [rotation_of_locked_iff unit locked]
  norm_num [lockedTurn]

end Pose

end Kinematics
