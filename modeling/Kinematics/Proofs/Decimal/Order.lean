import Kinematics.Scalar

/-!
# The order of binary numbers

Numbers in binary are in order, infinities at the ends, except for what is not a number:
that is neither below nor above anything.  A test that fails says something only of numbers
that are defined.
-/

namespace Kinematics

open Float.Model (UnpackedFloat)

section Unpacked

variable {left right : UnpackedFloat}

theorem compare_swap (left right : UnpackedFloat) :
    right.compare left = (left.compare right).map Ordering.swap := by
  cases left with
  | notANumber => cases right <;> rfl
  | infinity sign =>
      cases right with
      | notANumber => cases sign <;> rfl
      | infinity rightSign => cases sign <;> cases rightSign <;> rfl
      | zero rightSign => cases sign <;> rfl
      | finite rightSign => cases sign <;> rfl
  | zero sign =>
      cases right with
      | notANumber => rfl
      | infinity rightSign => cases rightSign <;> rfl
      | zero rightSign => rfl
      | finite rightSign => cases rightSign <;> rfl
  | finite sign mantissa exponent =>
      cases right with
      | notANumber => cases sign <;> rfl
      | infinity rightSign => cases sign <;> cases rightSign <;> rfl
      | zero rightSign => cases sign <;> rfl
      | finite rightSign rightMantissa rightExponent =>
          have magnitudes :
              (compare rightExponent exponent).then (compare rightMantissa mantissa) =
                ((compare exponent rightExponent).then (compare mantissa rightMantissa)).swap := by
            rw [Ordering.swap_then, Int.compare_swap, Nat.compare_swap]
          cases sign with
          | positive =>
              cases rightSign with
              | positive => exact congrArg some magnitudes
              | negative => rfl
          | negative =>
              cases rightSign with
              | positive => rfl
              | negative => exact congrArg (some ∘ Ordering.swap) magnitudes

/-- All numbers can be compared, and nothing else can. -/
theorem isSome_compare (left right : UnpackedFloat) :
    (left.compare right).isSome = !(left.isNaN || right.isNaN) := by
  cases left with
  | notANumber => cases right <;> rfl
  | infinity sign =>
      cases right with
      | infinity rightSign => cases sign <;> cases rightSign <;> rfl
      | notANumber | zero | finite => cases sign <;> rfl
  | zero sign =>
      cases right with
      | infinity rightSign | finite rightSign => cases rightSign <;> rfl
      | notANumber | zero => rfl
  | finite sign mantissa exponent =>
      cases right with
      | infinity rightSign | finite rightSign => cases sign <;> cases rightSign <;> rfl
      | notANumber | zero => cases sign <;> rfl

theorem compare_eq_none_iff : left.compare right = none ↔ left.isNaN ∨ right.isNaN := by
  rw [← Option.not_isSome_iff_eq_none, isSome_compare, Bool.not_eq_true, Bool.not_eq_false',
    Bool.or_eq_true]

end Unpacked

section Numbers

variable {left right : Float}

theorem float_lt_iff :
    left < right ↔ left.toModel.unpack.compare right.toModel.unpack = some .lt := by
  change decide ((left.toModel.unpack.compare right.toModel.unpack == some .lt) = true) = true ↔ _
  simp

theorem float_le_iff :
    left ≤ right ↔
      ∃ order, left.toModel.unpack.compare right.toModel.unpack = some order ∧ order.isLE := by
  change decide ((left.toModel.unpack.compare right.toModel.unpack).any (·.isLE) = true) = true ↔ _
  simp [Option.any_eq_true]

theorem float_le_of_lt (less : left < right) : left ≤ right :=
  float_le_iff.mpr ⟨.lt, float_lt_iff.mp less, rfl⟩

/-- Only what is a number is at most anything, or at least anything. -/
theorem isNaN_of_float_le (atMost : left ≤ right) : left.isNaN = false ∧ right.isNaN = false := by
  obtain ⟨order, isOrder, -⟩ := float_le_iff.mp atMost
  have ordered : ¬(left.isNaN ∨ right.isNaN) := by
    intro undefined
    cases isOrder.symm.trans (compare_eq_none_iff.mpr undefined)
  simpa only [not_or, Bool.not_eq_true] using ordered

/-- Of two numbers, one is below the other or the other is at most the one. -/
theorem float_not_lt_iff_le (leftNumber : left.isNaN = false) (rightNumber : right.isNaN = false) :
    ¬left < right ↔ right ≤ left := by
  cases isOrder : left.toModel.unpack.compare right.toModel.unpack with
  | none =>
      have undefined : left.isNaN ∨ right.isNaN := compare_eq_none_iff.mp isOrder
      simp only [leftNumber, rightNumber, Bool.false_eq_true, or_self] at undefined
  | some order =>
      rw [float_lt_iff, float_le_iff, compare_swap left.toModel.unpack, isOrder]
      cases order <;> simp

theorem isNaN_of_isFinite (finite : left.isFinite = true) : left.isNaN = false := by
  change left.toModel.unpack.isFinite = true at finite
  change left.toModel.unpack.isNaN = false
  cases isUnpacked : left.toModel.unpack with
  | notANumber =>
      rw [isUnpacked] at finite
      cases finite
  | infinity | zero | finite => rfl

end Numbers

section Bounds

variable {value : Float}

def InUnitInterval (value : Float) : Prop :=
  (0.0 : Float) ≤ value ∧ value ≤ (1.0 : Float)

theorem nonneg_positivePart (value : Float) : (0.0 : Float) ≤ Scalar.positivePart value := by
  unfold Scalar.positivePart
  split
  · rename_i positive
    exact float_le_of_lt positive
  · decide

theorem clampUnit_of_isNaN (undefined : value.isNaN = true) : Scalar.clampUnit value = value := by
  have incomparable {left right : Float} (undefined : left.isNaN ∨ right.isNaN) :
      ¬left < right := by
    intro less
    obtain ⟨leftNumber, rightNumber⟩ := isNaN_of_float_le (float_le_of_lt less)
    simp only [leftNumber, rightNumber, Bool.false_eq_true, or_self] at undefined
  unfold Scalar.clampUnit
  rw [if_neg (incomparable (.inl undefined)), if_neg (incomparable (.inr undefined))]

/-- What is brought into the unit interval lies there, unless it is not a number. -/
theorem inUnitInterval_clampUnit_iff :
    InUnitInterval (Scalar.clampUnit value) ↔ value.isNaN = false := by
  cases undefined : value.isNaN with
  | true =>
      refine iff_of_false ?_ (by decide)
      rw [clampUnit_of_isNaN undefined]
      intro inside
      cases undefined.symm.trans (isNaN_of_float_le inside.1).2
  | false =>
      refine iff_of_true ?_ rfl
      unfold Scalar.clampUnit
      split
      · exact ⟨by decide, by decide⟩
      · rename_i notBelow
        split
        · exact ⟨by decide, by decide⟩
        · rename_i notAbove
          exact ⟨(float_not_lt_iff_le undefined rfl).mp notBelow,
            (float_not_lt_iff_le rfl undefined).mp notAbove⟩

end Bounds

end Kinematics
