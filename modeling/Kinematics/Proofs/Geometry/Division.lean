import Kinematics.Proofs.Geometry.Decomposition

/-!
# Divisions in the exact geometry

A quotient of real numbers is defined for every divisor, so equations between real numbers
do not tell whether a computation divides by zero.  Checked numbers tell: a quotient by zero
and a root of a negative number are undefined, and so is everything computed from them.
-/

namespace Kinematics

/-- A real number, or what is left of a computation that was not defined. -/
inductive Checked where
  | number (value : ℝ)
  | undefined

namespace Checked

def lift (operation : ℝ → ℝ) : Checked → Checked
  | number value => number (operation value)
  | undefined => undefined

def liftTwo (operation : ℝ → ℝ → ℝ) : Checked → Checked → Checked
  | number left, number right => number (operation left right)
  | _, _ => undefined

open Classical in
/-- An operation that is defined only for some numbers. -/
noncomputable def guarded (domain : Set ℝ) (operation : ℝ → ℝ) : Checked → Checked
  | number value => if value ∈ domain then number (operation value) else undefined
  | undefined => undefined

open Classical in
/-- A quotient, which is defined unless the divisor is zero. -/
noncomputable def divide : Checked → Checked → Checked
  | number left, number right => if right = 0 then undefined else number (left / right)
  | _, _ => undefined

/-- A relation that holds of numbers only. -/
def both (relation : ℝ → ℝ → Prop) : Checked → Checked → Prop
  | number left, number right => relation left right
  | _, _ => False

noncomputable instance : Scalar Checked where
  add := liftTwo (· + ·)
  sub := liftTwo (· - ·)
  mul := liftTwo (· * ·)
  div := divide
  neg := lift (- ·)
  lt := both (· < ·)
  le := both (· ≤ ·)
  ofScientific digits negative exponent :=
    number (OfScientific.ofScientific digits negative exponent)
  decideLt := fun _ _ => Classical.propDecidable _
  decideLe := fun _ _ => Classical.propDecidable _
  ofInt := fun value => number value
  isFinite
    | number _ => true
    | undefined => false
  abs := lift (|·|)
  sqrt := guarded (Set.Ici 0) Real.sqrt
  sin := lift Real.sin
  cos := lift Real.cos
  asin := guarded (Set.Icc (-1) 1) Real.arcsin
  atan2 := liftTwo fun y x => Complex.arg ⟨x, y⟩
  quarterTurn := number Scalar.quarterTurn

variable (left right : ℝ)

theorem number_add : number left + number right = number (left + right) :=
  rfl

theorem number_sub : number left - number right = number (left - right) :=
  rfl

theorem number_mul : number left * number right = number (left * right) :=
  rfl

theorem number_lt : number left < number right ↔ left < right :=
  Iff.rfl

theorem number_ofScientific (digits : ℕ) (negative : Bool) (exponent : ℕ) :
    (OfScientific.ofScientific digits negative exponent : Checked) =
      number (OfScientific.ofScientific digits negative exponent) :=
  rfl

variable {left right}

theorem number_div (nonzero : right ≠ 0) : number left / number right = number (left / right) :=
  if_neg nonzero

theorem sqrt_number (nonneg : 0 ≤ left) : Scalar.sqrt (number left) = number (Scalar.sqrt left) :=
  if_pos nonneg

theorem positivePart_number (value : ℝ) :
    Scalar.positivePart (number value) = number (Scalar.positivePart value) := by
  unfold Scalar.positivePart
  simp only [number_ofScientific, number_lt]
  split <;> rfl

theorem sqrt_positivePart_number (value : ℝ) :
    Scalar.sqrt (Scalar.positivePart (number value)) =
      number (Scalar.sqrt (Scalar.positivePart value)) := by
  rw [positivePart_number]
  apply sqrt_number
  unfold Scalar.positivePart
  split
  · rename_i positive
    exact le_of_lt (by norm_num at positive; exact positive)
  · norm_num

end Checked

namespace Quaternion

def map {α β : Type} (convert : α → β) (q : Quaternion α) : Quaternion β :=
  ⟨convert q.x, convert q.y, convert q.z, convert q.w⟩

open Checked

private theorem divisor_ne_zero {square : ℝ} (positive : 0 < square) :
    2.0 * Scalar.sqrt (Scalar.positivePart square) ≠ 0 := by
  have nonzero := (isRoot_positivePart positive).1
  exact mul_ne_zero (by norm_num) nonzero

/-- Reading a quaternion off a matrix of numbers, whatever they are, divides by no zero. -/
theorem ofRows_number (a b c : Vec3 ℝ) :
    ofRows (a.map number) (b.map number) (c.map number) = (ofRows a b c).map number := by
  simp only [ofRows, Vec3.map, number_add, number_sub, number_mul, number_lt, number_ofScientific,
    sqrt_positivePart_number, zero_literal, one_literal]
  split_ifs with trace first second
  · have positive : 0 < a.x + b.y + c.z + 1 := by linarith
    have root := (pivot_of_pos positive).1
    have half : 0.5 / √(a.x + b.y + c.z + 1) ≠ 0 := div_ne_zero (by norm_num) root
    rw [sqrt_number positive.le]
    simp only [Scalar.sqrt, number_div root, number_div half, number_mul, map]
  · have divisor := divisor_ne_zero (square_x_pos trace first)
    simp only [number_div divisor, map]
  · have divisor := divisor_ne_zero (square_y_pos trace first second)
    simp only [number_div divisor, map]
  · have divisor := divisor_ne_zero (square_z_pos trace first second)
    simp only [number_div divisor, map]

end Quaternion

namespace Transform

open Checked (number)

/-- Every rigid motion is read exactly: no division by zero is met, the pose has the
displacement of the motion and a unit quaternion, and its matrix is the motion.  The pose
behind a matrix is thereby recovered up to the sign of its quaternion. -/
theorem toPose_exact :
    (∀ m : Transform ℝ, m.IsRigid →
      Quaternion.ofRows (m.r₀.block.map number) (m.r₁.block.map number) (m.r₂.block.map number) =
          (Quaternion.ofRows m.r₀.block m.r₁.block m.r₂.block).map number ∧
        m.toPose.position = m.displacement ∧ m.toPose.rotation.IsUnit ∧ ofPose m.toPose = m) ∧
    ∀ pose : Pose ℝ, pose.rotation.IsUnit →
      (ofPose pose).toPose.position = pose.position ∧
        ((ofPose pose).toPose.rotation = pose.rotation ∨
          (ofPose pose).toPose.rotation = pose.rotation.opposite) := by
  constructor
  · intro m rigid
    exact ⟨Quaternion.ofRows_number _ _ _, rfl, isUnit_toPose rigid, ofPose_toPose rigid⟩
  · intro pose unit
    have rigid := isRigid_ofPose unit
    have spans := Quaternion.spans_ofRows rigid.properRows
    refine ⟨by rw [ofPose_eq]; rfl, ?_⟩
    rw [toPose_eq rigid]
    exact spans.eq_or_eq_opposite (Quaternion.spans_ofPose unit)

/-- Half a turn about a diagonal: the trace is negative and two diagonal entries are equal. -/
def flip : Transform ℝ :=
  ⟨⟨0, 1, 0, 1⟩, ⟨1, 0, 0, 0⟩, ⟨0, 0, -1, -1⟩, ⟨0, 0, 0, 1⟩⟩

theorem isRigid_flip : flip.IsRigid := by
  apply isRigid_of_rows <;> norm_num

theorem toPose_exact_flip :
    let overturned : Pose ℝ := ⟨⟨1, 2, 3⟩, ⟨2 / 3, 0, 1 / 3, -(2 / 3)⟩⟩
    (flip.IsRigid ∧
      Quaternion.ofRows (Vec3.map number ⟨0, 1, 0⟩) (Vec3.map number ⟨1, 0, 0⟩)
          (Vec3.map number ⟨0, 0, -1⟩) =
        (Quaternion.ofRows ⟨0, 1, 0⟩ ⟨1, 0, 0⟩ ⟨0, 0, -1⟩).map number ∧
      flip.toPose.position = ⟨1, 0, -1⟩ ∧ flip.toPose.rotation.IsUnit ∧
      ofPose flip.toPose = flip) ∧
    (overturned.rotation.IsUnit ∧ (ofPose overturned).toPose.position = ⟨1, 2, 3⟩ ∧
      ((ofPose overturned).toPose.rotation = overturned.rotation ∨
        (ofPose overturned).toPose.rotation = overturned.rotation.opposite)) := by
  intro overturned
  have unit : overturned.rotation.IsUnit := by
    rw [Quaternion.isUnit_iff]
    norm_num [overturned]
  exact ⟨⟨isRigid_flip, toPose_exact.1 flip isRigid_flip⟩, unit, toPose_exact.2 overturned unit⟩

end Transform

end Kinematics
