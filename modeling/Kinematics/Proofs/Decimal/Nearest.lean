import Kinematics.Proofs.Decimal.Rounding

/-!
# The nearest word of a decimal

The numbers that round to one binary number form an interval around it, which ends half
way to its neighbours.  Whatever decimal lies in this interval is read as the word of
the binary number.
-/

namespace Kinematics

namespace BinaryFormat

open Decimal

variable {format : BinaryFormat} {significand : Nat} {exponent : Int}

/-- The bits below the sign of a number. -/
def magnitudeWord (format : BinaryFormat) (significand : Nat) (exponent : Int) : Nat :=
  (exponent - format.leastExponent).toNat * 2 ^ format.fractionBits + significand

/-- A significand and an exponent of a number of a format. -/
structure IsNumber (format : BinaryFormat) (significand : Nat) (exponent : Int) : Prop where
  short : significand < 2 ^ (format.fractionBits + 1)
  least : format.leastExponent ≤ exponent
  normal : format.leastExponent < exponent → 2 ^ format.fractionBits ≤ significand
  finite : format.magnitudeWord significand exponent < format.infinityWord

/-- How far down the numbers reach that round to a number, in units of its last bit. -/
def reachBelow (format : BinaryFormat) (significand : Nat) (exponent : Int) : ℚ :=
  if format.narrowBelow significand exponent then 1 / 4 else 1 / 2

/-- The numbers that round to a positive number of a format. -/
structure ReadsAs (format : BinaryFormat) (significand : Nat) (exponent : Int) (x : ℚ) :
    Prop where
  lower : (significand - format.reachBelow significand exponent) * 2 ^ exponent ≤ x
  upper : x ≤ (significand + 1 / 2) * 2 ^ exponent
  odd : significand % 2 = 1 →
    (significand - format.reachBelow significand exponent) * 2 ^ exponent < x ∧
      x < (significand + 1 / 2) * 2 ^ exponent

theorem narrowBelow_iff :
    format.narrowBelow significand exponent = true ↔
      significand = 2 ^ format.fractionBits ∧ format.leastExponent < exponent := by
  simp [narrowBelow]

/-- Formats of which no number lies beyond the powers of ten that are looked at. -/
structure IsUsual (format : BinaryFormat) : Prop where
  someFraction : 1 ≤ format.fractionBits
  fraction : format.fractionBits ≤ 52
  exponentLeast : -1074 ≤ format.leastExponent
  exponentGreatest : format.leastExponent + 2 ^ format.exponentBits ≤ 974

theorem isUsual_binary64 : IsUsual binary64 := by
  constructor <;> decide

theorem isUsual_binary32 : IsUsual binary32 := by
  constructor <;> decide

theorem reachBelow_le : format.reachBelow significand exponent ≤ 1 / 2 := by
  unfold reachBelow
  split_ifs <;> norm_num

/-- The exponent at which a fraction is rounded. -/
theorem roundingExponent_eq {numerator denominator : Nat} {power : Int}
    (positive : 0 < numerator) (nonzero : 0 < denominator)
    (least : format.leastExponent ≤ power)
    (lower : format.leastExponent < power →
      (2 : ℚ) ^ (format.fractionBits + power) ≤ numerator / denominator)
    (upper : (numerator / denominator : ℚ) < 2 ^ (format.fractionBits + power + 1)) :
    max (leadingBit numerator denominator - format.fractionBits) format.leastExponent = power := by
  obtain ⟨bitLower, bitUpper⟩ := zpow_leadingBit positive nonzero
  have notAbove : leadingBit numerator denominator < format.fractionBits + power + 1 :=
    (zpow_lt_zpow_iff_right₀ (one_lt_two (α := ℚ))).mp (bitLower.trans_lt upper)
  rcases least.eq_or_lt with equal | less
  · omega
  · have notBelow : format.fractionBits + power < leadingBit numerator denominator + 1 :=
      (zpow_lt_zpow_iff_right₀ (one_lt_two (α := ℚ))).mp ((lower less).trans_lt bitUpper)
    omega

theorem nearestWord_of_roundsTo {numerator denominator units : Nat} {power : Int}
    (positive : 0 < numerator) (nonzero : 0 < denominator)
    (least : format.leastExponent ≤ power)
    (lower : format.leastExponent < power →
      (2 : ℚ) ^ (format.fractionBits + power) ≤ numerator / denominator)
    (upper : (numerator / denominator : ℚ) < 2 ^ (format.fractionBits + power + 1))
    (rounds : RoundsTo (numerator / denominator / 2 ^ power) units) :
    format.nearestWord numerator denominator =
      min (format.magnitudeWord units power) format.infinityWord := by
  have scaled : 0 < twoNumerator denominator power := by
    rw [twoNumerator, Nat.pow_eq]
    positivity
  have rounded : roundHalfEven (twoNumerator numerator (-power)) (twoNumerator denominator power) =
      units := by
    apply roundHalfEven_of_roundsTo scaled
    rw [twoNumerator_div_twoNumerator]
    exact rounds
  rw [nearestWord, if_neg positive.ne']
  dsimp only
  rw [roundingExponent_eq positive nonzero least lower upper, rounded, Nat.pow_eq, magnitudeWord]

/-- What is read as a number is at most half a unit below it, or above the middle to a
neighbour that is only half as far away. -/
theorem ReadsAs.cases {x : ℚ} (reads : ReadsAs format significand exponent x) :
    ((significand - 1 / 2) * 2 ^ exponent ≤ x ∧
      (significand % 2 = 1 → (significand - 1 / 2) * 2 ^ exponent < x)) ∧
      (format.narrowBelow significand exponent → significand * 2 ^ exponent ≤ x) ∨
    format.narrowBelow significand exponent ∧
      (significand - 1 / 4) * 2 ^ exponent ≤ x ∧ x < significand * 2 ^ exponent := by
  have unit : (0 : ℚ) < 2 ^ exponent := by positivity
  obtain ⟨lower, -, odd⟩ := reads
  by_cases narrow : format.narrowBelow significand exponent
  · rw [reachBelow, if_pos narrow] at lower odd
    by_cases above : significand * 2 ^ exponent ≤ x
    · left
      exact ⟨⟨by linarith, fun _ => by linarith⟩, fun _ => above⟩
    · right
      exact ⟨narrow, lower, lt_of_not_ge above⟩
  · rw [reachBelow, if_neg narrow] at lower odd
    left
    exact ⟨⟨lower, fun isOdd => (odd isOdd).1⟩, fun holds => absurd holds narrow⟩

/-- What is read as a number has the word of the number. -/
theorem nearestWord_eq {numerator denominator : Nat}
    (number : IsNumber format significand exponent) (positive : 0 < numerator)
    (nonzero : 0 < denominator)
    (reads : ReadsAs format significand exponent (numerator / denominator)) :
    format.nearestWord numerator denominator = format.magnitudeWord significand exponent := by
  have unit : (0 : ℚ) < 2 ^ exponent := by positivity
  have short : (significand : ℚ) + 1 ≤ 2 ^ format.fractionBits * 2 := by
    exact_mod_cast (pow_succ 2 format.fractionBits) ▸ number.short
  have scaled (power : Int) : (2 : ℚ) ^ (format.fractionBits + power) =
      2 ^ format.fractionBits * 2 ^ power := by
    rw [zpow_add₀ two_ne_zero, zpow_natCast]
  have scaledTwice (power : Int) : (2 : ℚ) ^ (format.fractionBits + power + 1) =
      2 ^ format.fractionBits * 2 * 2 ^ power := by
    rw [zpow_add₀ two_ne_zero, scaled, zpow_one]
    ring
  obtain ⟨⟨lower, odd⟩, aboveNarrow⟩ | ⟨narrow, lower, upper⟩ := reads.cases
  · have rounds : RoundsTo (numerator / denominator / 2 ^ exponent) significand :=
      ⟨(le_div_iff₀ unit).mpr lower, (div_le_iff₀ unit).mpr reads.upper, fun isOdd =>
        ⟨(lt_div_iff₀ unit).mpr (odd isOdd), (div_lt_iff₀ unit).mpr (reads.odd isOdd).2⟩⟩
    rw [nearestWord_of_roundsTo positive nonzero number.least _ _ rounds,
      min_eq_left number.finite.le]
    · intro normal
      rw [scaled]
      rcases (number.normal normal).eq_or_lt with equal | more
      · have leading : (2 : ℚ) ^ format.fractionBits = significand := by exact_mod_cast equal
        rw [leading]
        exact aboveNarrow (narrowBelow_iff.mpr ⟨equal.symm, normal⟩)
      · have more' : (2 : ℚ) ^ format.fractionBits + 1 ≤ significand := by exact_mod_cast more
        exact le_trans (mul_le_mul_of_nonneg_right (by linarith) unit.le) lower
    · rw [scaledTwice]
      exact reads.upper.trans_lt (mul_lt_mul_of_pos_right (by linarith) unit)
  · -- below a power of two the units are half as large
    obtain ⟨leading, least⟩ := narrowBelow_iff.mp narrow
    have leading' : (significand : ℚ) = 2 ^ format.fractionBits := by exact_mod_cast leading
    have atLeastOne : (1 : ℚ) ≤ 2 ^ format.fractionBits := one_le_pow₀ one_le_two
    have half : (2 : ℚ) ^ (exponent - 1) = 2 ^ exponent / 2 := zpow_sub_one₀ two_ne_zero exponent
    have rounds : RoundsTo (numerator / denominator / 2 ^ (exponent - 1))
        (2 ^ (format.fractionBits + 1)) := by
      rw [leading'] at lower upper
      constructor
      · rw [half, le_div_iff₀ (by positivity), pow_succ]
        push_cast
        linarith
      · rw [half, div_le_iff₀ (by positivity), pow_succ]
        push_cast
        linarith
      · intro isOdd
        rw [pow_succ, Nat.mul_mod_left] at isOdd
        contradiction
    have word : format.magnitudeWord (2 ^ (format.fractionBits + 1)) (exponent - 1) =
        format.magnitudeWord significand exponent := by
      have steps : (exponent - format.leastExponent).toNat =
          (exponent - 1 - format.leastExponent).toNat + 1 := by omega
      rw [magnitudeWord, magnitudeWord, steps, leading, pow_succ]
      ring
    rw [nearestWord_of_roundsTo positive nonzero (by omega) _ _ rounds, word,
      min_eq_left number.finite.le]
    · intro
      rw [scaled, half]
      rw [leading'] at lower
      exact le_trans (by linarith [mul_le_mul_of_nonneg_right atLeastOne unit.le]) lower
    · rw [scaledTwice, half, mul_assoc, mul_div_cancel₀ _ two_ne_zero, ← leading']
      exact upper

theorem ReadsAs.le_pow {x : ℚ} (reads : ReadsAs format significand exponent x)
    (usual : IsUsual format) (number : IsNumber format significand exponent)
    (nonzero : significand ≠ 0) : (2 : ℚ) ^ (-1075 : Int) ≤ x := by
  have unit : (0 : ℚ) < 2 ^ exponent := by positivity
  have some : (1 : ℚ) ≤ significand := by
    exact_mod_cast Nat.one_le_iff_ne_zero.mpr nonzero
  have reach : format.reachBelow significand exponent ≤ 1 / 2 := reachBelow_le
  have least : -1074 ≤ exponent := usual.exponentLeast.trans number.least
  calc (2 : ℚ) ^ (-1075 : Int) ≤ 2 ^ (exponent - 1) :=
        zpow_le_zpow_right₀ one_le_two (by omega)
    _ = 1 / 2 * 2 ^ exponent := by rw [zpow_sub_one₀ two_ne_zero]; ring
    _ ≤ x := le_trans (mul_le_mul_of_nonneg_right (by linarith) unit.le) reads.lower

theorem IsNumber.exponent_le (number : IsNumber format significand exponent) :
    exponent ≤ format.leastExponent + 2 ^ format.exponentBits - 2 := by
  have finite := number.finite
  rw [magnitudeWord, infinityWord, Nat.pow_eq, Nat.pow_eq] at finite
  have steps : (exponent - format.leastExponent).toNat < 2 ^ format.exponentBits - 1 :=
    lt_of_mul_lt_mul_right ((Nat.le_add_right _ _).trans_lt finite) (Nat.zero_le _)
  zify [Nat.one_le_two_pow] at steps
  omega

theorem ReadsAs.lt_pow {x : ℚ} (reads : ReadsAs format significand exponent x)
    (usual : IsUsual format) (number : IsNumber format significand exponent) :
    x < (2 : ℚ) ^ (1025 : Int) := by
  have unit : (0 : ℚ) < 2 ^ exponent := by positivity
  have short : (significand : ℚ) + 1 ≤ 2 ^ (format.fractionBits + 1) := by
    exact_mod_cast number.short
  have greatest := number.exponent_le
  have fraction := usual.fraction
  have usualGreatest := usual.exponentGreatest
  calc x ≤ (significand + 1 / 2) * 2 ^ exponent := reads.upper
    _ < 2 ^ (format.fractionBits + 1) * 2 ^ exponent :=
        mul_lt_mul_of_pos_right (by linarith) unit
    _ = 2 ^ ((format.fractionBits + 1 : Nat) + exponent) := by
        rw [zpow_add₀ two_ne_zero, zpow_natCast]
    _ ≤ 2 ^ (1025 : Int) := zpow_le_zpow_right₀ one_le_two (by omega)

end BinaryFormat

namespace Decimal

theorem value_lt_pow (decimal : Decimal) :
    decimal.value < 10 ^ (decimal.exponent + digitCount decimal.digits) := by
  have bound : (decimal.digits : ℚ) < 10 ^ digitCount decimal.digits := by
    exact_mod_cast lt_pow_digitCount decimal.digits
  rw [value, add_comm, zpow_add₀ (by norm_num), zpow_natCast]
  exact mul_lt_mul_of_pos_right bound (by positivity)

theorem pow_le_value {decimal : Decimal} (positive : 0 < decimal.digits) :
    10 ^ (decimal.exponent + digitCount decimal.digits - 1) ≤ decimal.value := by
  have bound : (10 : ℚ) ^ (digitCount decimal.digits - 1) ≤ decimal.digits := by
    exact_mod_cast pow_digitCount_le positive
  rw [value, add_comm, add_sub_right_comm, zpow_add₀ (by norm_num),
    ← Int.natCast_pred_of_pos (digitCount_pos _), zpow_natCast]
  exact mul_le_mul_of_nonneg_right bound (by positivity)

theorem two_pow_le_ten_pow {binary decimal : Nat} (enough : binary ≤ 3 * decimal) :
    (2 : ℚ) ^ binary ≤ 10 ^ decimal := by
  calc (2 : ℚ) ^ binary ≤ 2 ^ (3 * decimal) := pow_le_pow_right₀ one_le_two enough
    _ = 8 ^ decimal := by rw [pow_mul]; norm_num
    _ ≤ 10 ^ decimal := pow_le_pow_left₀ (by norm_num) (by norm_num) decimal

theorem value_eq_div (decimal : Decimal) :
    decimal.value = ((decimal.digits * 10 ^ decimal.exponent.toNat : Nat) : ℚ) /
      ((10 ^ (-decimal.exponent).toNat : Nat) : ℚ) := by
  rw [value, zpow_eq_div (by norm_num), mul_div_assoc']
  push_cast
  rfl

end Decimal

namespace Word

open BinaryFormat Decimal

variable {format : BinaryFormat} {significand : Nat} {exponent : Int}

/-- A decimal that rounds to a number is read as its word. -/
theorem nearest_of_readsAs {decimal : Decimal} (usual : IsUsual format)
    (number : IsNumber format significand exponent) (nonzero : significand ≠ 0)
    (reads : ReadsAs format significand exponent decimal.value) :
    (nearest decimal : Word format) =
      ⟨BitVec.ofNat _ (format.magnitudeWord significand exponent)⟩ := by
  have lower := reads.le_pow usual number nonzero
  have upper := reads.lt_pow usual number
  have positive : 0 < decimal.digits := by
    by_contra none
    rw [value, Nat.eq_zero_of_not_pos none, Nat.cast_zero, zero_mul] at lower
    exact absurd lower (not_le_of_gt (by positivity))
  have notTiny : ¬decimal.exponent + digitCount decimal.digits < -extremePower := by
    intro tiny
    have bound := lower.trans_lt (value_lt_pow decimal)
    have power : (10 : ℚ) ^ (decimal.exponent + digitCount decimal.digits) ≤ 10 ^ (-401 : Int) :=
      zpow_le_zpow_right₀ (by norm_num) (by unfold extremePower at tiny; omega)
    have apart : (10 : ℚ) ^ (-401 : Int) ≤ 2 ^ (-1075 : Int) := by
      rw [zpow_neg, zpow_neg, zpow_ofNat, zpow_ofNat]
      exact inv_anti₀ (by positivity) (two_pow_le_ten_pow (by norm_num))
    exact absurd (bound.trans_le power) (not_lt_of_ge apart)
  have notHuge : ¬extremePower < decimal.exponent + digitCount decimal.digits := by
    intro huge
    have bound := (pow_le_value positive).trans_lt upper
    have power : (10 : ℚ) ^ (400 : Int) ≤
        10 ^ (decimal.exponent + digitCount decimal.digits - 1) :=
      zpow_le_zpow_right₀ (by norm_num) (by unfold extremePower at huge; omega)
    have apart : (2 : ℚ) ^ (1025 : Int) ≤ 10 ^ (400 : Int) := by
      rw [zpow_ofNat, zpow_ofNat]
      exact two_pow_le_ten_pow (by norm_num)
    exact absurd (power.trans_lt bound) (not_lt_of_ge apart)
  rw [nearest, if_neg (not_or.mpr ⟨positive.ne', notTiny⟩), if_neg notHuge]
  rw [value_eq_div] at reads
  rw [Nat.pow_eq, Nat.pow_eq, nearestWord_eq number (by positivity) (by positivity) reads]

end Word

end Kinematics
