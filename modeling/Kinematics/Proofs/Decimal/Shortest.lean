import Kinematics.Decimal.Shortest
import Kinematics.Proofs.Decimal.Nearest
import Mathlib.Tactic.Qify

/-!
# Shortest decimals are read back

Every multiple of a power of ten that is taken lies in the rounding interval.  With
seventeen digits the multiples are closer to each other than the ends of the interval, so
one of them is found.
-/

namespace Kinematics

namespace RoundingInterval

variable {interval : RoundingInterval} {tie : Tie} {power : Int} {digits : Nat}

/-- The numbers of the interval. -/
structure Contains (interval : RoundingInterval) (x : ℚ) : Prop where
  lower : interval.value - interval.below ≤ x * interval.denominator
  upper : x * interval.denominator ≤ interval.value + interval.above
  strict : interval.closed = false →
    interval.value - interval.below < x * interval.denominator ∧
      x * interval.denominator < interval.value + interval.above

/-- Intervals that reach to both sides. -/
structure IsProper (interval : RoundingInterval) : Prop where
  below : 0 < interval.below
  above : 0 < interval.above
  denominator : 0 < interval.denominator

/-- The multiple of a power of ten below the number, in units of this power. -/
def whole (interval : RoundingInterval) (power : Int) : Nat :=
  interval.value * 10 ^ (-power).toNat / (interval.denominator * 10 ^ power.toNat)

/-- The scaled distance down to the multiple below the number. -/
def down (interval : RoundingInterval) (power : Int) : Nat :=
  interval.value * 10 ^ (-power).toNat % (interval.denominator * 10 ^ power.toNat)

/-- The scaled distance up to the next multiple. -/
def up (interval : RoundingInterval) (power : Int) : Nat :=
  interval.denominator * 10 ^ power.toNat - interval.down power

theorem multiple?_eq : interval.multiple? tie power =
    match interval.reaches (interval.down power) (interval.below * 10 ^ (-power).toNat),
        interval.reaches (interval.up power) (interval.above * 10 ^ (-power).toNat) with
    | true, true =>
      if interval.down power < interval.up power then some (interval.whole power)
      else if interval.up power < interval.down power then some (interval.whole power + 1)
      else match tie with
        | .up => some (interval.whole power + 1)
        | .even => some (interval.whole power + interval.whole power % 2)
    | true, false => some (interval.whole power)
    | false, true => some (interval.whole power + 1)
    | false, false => none := rfl

theorem multiple?_eq_some (found : interval.multiple? tie power = some digits) :
    digits = interval.whole power ∧
        interval.reaches (interval.down power) (interval.below * 10 ^ (-power).toNat) ∨
      digits = interval.whole power + 1 ∧
        interval.reaches (interval.up power) (interval.above * 10 ^ (-power).toNat) := by
  rw [multiple?_eq] at found
  split at found
  · rename_i lower upper
    rw [lower, upper]
    simp only [and_true]
    split_ifs at found
    · exact .inl (Option.some.inj found).symm
    · exact .inr (Option.some.inj found).symm
    · cases tie with
      | up => exact .inr (Option.some.inj found).symm
      | even =>
        have even := Option.some.inj found
        omega
  · rename_i lower upper
    exact .inl ⟨(Option.some.inj found).symm, lower⟩
  · rename_i lower upper
    exact .inr ⟨(Option.some.inj found).symm, upper⟩
  · contradiction

theorem multiple?_eq_none (missed : interval.multiple? tie power = none) :
    interval.below * 10 ^ (-power).toNat ≤ interval.down power ∧
      interval.above * 10 ^ (-power).toNat ≤ interval.up power := by
  rw [multiple?_eq] at missed
  split at missed
  · split_ifs at missed
    cases tie <;> contradiction
  · contradiction
  · contradiction
  · rename_i lower upper
    simp only [reaches, Bool.or_eq_false_iff, decide_eq_false_iff_not, Nat.not_lt] at lower upper
    exact ⟨lower.1, upper.1⟩

theorem reaches_iff {distance limit : Nat} :
    interval.reaches distance limit ↔
      distance ≤ limit ∧ (interval.closed = false → distance < limit) := by
  cases closed : interval.closed <;> simp [reaches, closed] <;> omega

/-- What is reached, without the scale of the power of ten. -/
theorem div_le_of_reaches {distance limit places : Nat}
    (reached : interval.reaches distance (limit * 10 ^ places)) :
    (distance / 10 ^ places : ℚ) ≤ limit ∧
      (interval.closed = false → (distance / 10 ^ places : ℚ) < limit) := by
  have scale : (0 : ℚ) < 10 ^ places := by positivity
  obtain ⟨near, strict⟩ := reaches_iff.mp reached
  rw [div_le_iff₀ scale, div_lt_iff₀ scale]
  exact ⟨by exact_mod_cast near, fun isOpen => by exact_mod_cast strict isOpen⟩

/-- What the divisions of `multiple?` say. -/
theorem whole_mul_pow (power : Int) (proper : interval.IsProper) :
    interval.whole power * 10 ^ power * interval.denominator =
        interval.value - (interval.down power / 10 ^ (-power).toNat : ℚ) ∧
      (interval.whole power + 1) * 10 ^ power * interval.denominator =
        interval.value + (interval.up power / 10 ^ (-power).toNat : ℚ) := by
  have scale : (0 : ℚ) < 10 ^ (-power).toNat := by positivity
  have step : 0 < interval.denominator * 10 ^ power.toNat :=
    Nat.mul_pos proper.denominator (by positivity)
  have split : interval.denominator * 10 ^ power.toNat * interval.whole power +
      interval.down power = interval.value * 10 ^ (-power).toNat := Nat.div_add_mod _ _
  have small : interval.down power < interval.denominator * 10 ^ power.toNat :=
    Nat.mod_lt _ step
  have rest : interval.up power + interval.down power = interval.denominator * 10 ^ power.toNat :=
    Nat.sub_add_cancel small.le
  qify at split rest
  rw [Decimal.zpow_eq_div (by norm_num)]
  constructor
  · field_simp
    linarith
  · field_simp
    linarith

theorem contains_of_multiple? (proper : interval.IsProper)
    (found : interval.multiple? tie power = some digits) :
    interval.Contains (digits * 10 ^ power) := by
  have below : (0 : ℚ) < interval.below := by exact_mod_cast proper.below
  have above : (0 : ℚ) < interval.above := by exact_mod_cast proper.above
  have downNonneg : (0 : ℚ) ≤ interval.down power / 10 ^ (-power).toNat := by positivity
  have upNonneg : (0 : ℚ) ≤ interval.up power / 10 ^ (-power).toNat := by positivity
  obtain ⟨lower, upper⟩ := whole_mul_pow power proper
  obtain ⟨rfl, reached⟩ | ⟨rfl, reached⟩ := multiple?_eq_some found
  · obtain ⟨near, strict⟩ := div_le_of_reaches reached
    refine ⟨by linarith, by linarith, fun isOpen => ⟨?_, by linarith⟩⟩
    linarith [strict isOpen]
  · obtain ⟨near, strict⟩ := div_le_of_reaches reached
    rw [Nat.cast_add_one]
    refine ⟨by linarith, by linarith, fun isOpen => ⟨by linarith, ?_⟩⟩
    linarith [strict isOpen]

/-- A power of ten with a multiple in the interval is found as soon as its multiples are
closer to each other than the ends. -/
theorem exists_multiple? (proper : interval.IsProper)
    (fine : interval.denominator * (10 : ℚ) ^ power < interval.below + interval.above) :
    ∃ digits, interval.multiple? tie power = some digits := by
  cases found : interval.multiple? tie power with
  | some digits => exact ⟨digits, rfl⟩
  | none =>
    have scale : (0 : ℚ) < 10 ^ (-power).toNat := by positivity
    obtain ⟨below, above⟩ := multiple?_eq_none found
    obtain ⟨lower, upper⟩ := whole_mul_pow power proper
    have below' : (interval.below : ℚ) ≤ interval.down power / 10 ^ (-power).toNat := by
      rw [le_div_iff₀ scale]
      exact_mod_cast below
    have above' : (interval.above : ℚ) ≤ interval.up power / 10 ^ (-power).toNat := by
      rw [le_div_iff₀ scale]
      exact_mod_cast above
    linarith

section Binary

open Decimal BinaryFormat

variable {format : BinaryFormat} {significand : Nat} {exponent : Int}

theorem isProper_ofBinary : (ofBinary format significand exponent).IsProper := by
  constructor
  · dsimp only [ofBinary]
    rw [twoNumerator, Nat.pow_eq]
    split_ifs <;> positivity
  · dsimp only [ofBinary]
    rw [twoNumerator, Nat.pow_eq]
    positivity
  · dsimp only [ofBinary]
    rw [twoDenominator, Nat.pow_eq]
    positivity

/-- The interval in units of the last bit of the number. -/
theorem cast_ofBinary (format : BinaryFormat) (significand : Nat) (exponent : Int) :
    ((ofBinary format significand exponent).value : ℚ) =
        significand * 2 ^ exponent * (ofBinary format significand exponent).denominator ∧
      ((ofBinary format significand exponent).below : ℚ) =
        format.reachBelow significand exponent * 2 ^ exponent *
          (ofBinary format significand exponent).denominator ∧
      ((ofBinary format significand exponent).above : ℚ) =
        1 / 2 * 2 ^ exponent * (ofBinary format significand exponent).denominator := by
  have denominator : (0 : ℚ) < (ofBinary format significand exponent).denominator := by
    exact_mod_cast isProper_ofBinary.denominator
  have quarter : (2 : ℚ) ^ (exponent - 2) = 2 ^ exponent / 4 := by
    rw [zpow_sub₀ two_ne_zero]
    norm_num
  have units (n : Nat) : (twoNumerator n (exponent - 2) : ℚ) =
      n * (2 ^ exponent / 4) * (ofBinary format significand exponent).denominator := by
    rw [← quarter, ← twoNumerator_div_twoDenominator]
    exact (div_mul_cancel₀ _ denominator.ne').symm
  refine ⟨?_, ?_, ?_⟩
  · refine (units (4 * significand)).trans ?_
    push_cast
    ring
  · refine (units _).trans ?_
    rw [reachBelow]
    split_ifs
    · push_cast
      ring
    · push_cast
      ring
  · refine (units 2).trans ?_
    push_cast
    ring

theorem Contains.readsAs {x : ℚ} (inside : (ofBinary format significand exponent).Contains x) :
    ReadsAs format significand exponent x := by
  have denominator : (0 : ℚ) < (ofBinary format significand exponent).denominator := by
    exact_mod_cast isProper_ofBinary.denominator
  obtain ⟨value, below, above⟩ := cast_ofBinary format significand exponent
  obtain ⟨lower, upper, strict⟩ := inside
  simp only [value, below, above, ← sub_mul, ← add_mul] at lower upper strict
  refine ⟨le_of_mul_le_mul_right lower denominator, le_of_mul_le_mul_right upper denominator,
    fun isOdd => ?_⟩
  obtain ⟨strictLower, strictUpper⟩ := strict (by simp [ofBinary, isOdd])
  exact ⟨lt_of_mul_lt_mul_right strictLower denominator.le,
    lt_of_mul_lt_mul_right strictUpper denominator.le⟩

end Binary

end RoundingInterval

namespace Decimal

open BinaryFormat RoundingInterval

variable {format : BinaryFormat} {significand : Nat} {exponent : Int} {tie : Tie}

theorem value_trim (decimal : Decimal) : decimal.trim.value = decimal.value := by
  induction decimal using trim.induct with
  | case1 decimal positive zero induction =>
    have tens : (decimal.digits : ℚ) = (decimal.digits / 10 : Nat) * 10 := by
      exact_mod_cast (Nat.div_mul_cancel (Nat.dvd_of_mod_eq_zero zero)).symm
    rw [trim, dif_pos positive, if_pos zero, induction, value, value, tens,
      zpow_add_one₀ (by norm_num)]
    ring
  | case2 decimal positive nonzero => rw [trim, dif_pos positive, if_neg nonzero]
  | case3 decimal none => rw [trim, dif_neg none]

/-- The significand of a number is small against the digits that suffice. -/
theorem significand_lt (usual : IsUsual format) (number : IsNumber format significand exponent) :
    (significand : ℚ) < 10 ^ 16 * (format.reachBelow significand exponent + 1 / 2) := by
  have wide : (2 : ℚ) ^ format.fractionBits ≤ 2 ^ 52 :=
    pow_le_pow_right₀ one_le_two usual.fraction
  rw [reachBelow]
  split_ifs with narrow
  · have leading : (significand : ℚ) = 2 ^ format.fractionBits := by
      exact_mod_cast (narrowBelow_iff.mp narrow).1
    have bound : (2 : ℚ) ^ 52 < 10 ^ 16 * (1 / 4 + 1 / 2) := by norm_num
    linarith
  · have short : (significand : ℚ) < 2 ^ format.fractionBits * 2 := by
      exact_mod_cast (pow_succ 2 format.fractionBits) ▸ number.short
    have bound : (2 : ℚ) ^ 52 * 2 < 10 ^ 16 * (1 / 2 + 1 / 2) := by norm_num
    linarith

/-- A multiple of the power of ten after the leading sixteen digits rounds to the number. -/
theorem exists_digits (tie : Tie) (usual : IsUsual format)
    (number : IsNumber format significand exponent) (nonzero : significand ≠ 0) :
    ∃ digits, (ofBinary format significand exponent).multiple? tie
      (leadingPower (ofBinary format significand exponent).value
        (ofBinary format significand exponent).denominator - 16) = some digits := by
  have proper : (ofBinary format significand exponent).IsProper := isProper_ofBinary
  have denominator : (0 : ℚ) < (ofBinary format significand exponent).denominator := by
    exact_mod_cast proper.denominator
  have unit : (0 : ℚ) < 2 ^ exponent := by positivity
  obtain ⟨value, below, above⟩ := cast_ofBinary format significand exponent
  have positive : 0 < (ofBinary format significand exponent).value := by
    have some : (0 : ℚ) < significand := by exact_mod_cast Nat.pos_of_ne_zero nonzero
    have product : (0 : ℚ) < (ofBinary format significand exponent).value := by
      rw [value]
      positivity
    exact_mod_cast product
  have leading := zpow_leadingPower_le positive proper.denominator
  rw [value, mul_div_assoc, div_self denominator.ne', mul_one] at leading
  apply exists_multiple? proper
  rw [below, above, ← add_mul, ← add_mul, mul_comm, zpow_sub₀ (by norm_num)]
  apply mul_lt_mul_of_pos_right _ denominator
  rw [div_lt_iff₀ (by positivity)]
  have small := mul_lt_mul_of_pos_right (significand_lt usual number) unit
  rw [zpow_ofNat]
  linarith

/-- The shortest decimal of a number rounds to it, with enough digits or with fewer. -/
theorem readsAs_shortest (usual : IsUsual format) (number : IsNumber format significand exponent)
    (nonzero : significand ≠ 0) :
    ReadsAs format significand exponent (shortest format tie significand exponent).value := by
  rw [shortest]
  dsimp only
  cases found : List.findSome? _ (List.range enoughDigits) with
  | some decimal =>
    obtain ⟨count, -, taken⟩ := List.exists_of_findSome?_eq_some found
    obtain ⟨digits, multiple, rfl⟩ := Option.map_eq_some_iff.mp taken
    rw [Option.getD_some, value_trim]
    exact (contains_of_multiple? isProper_ofBinary multiple).readsAs
  | none =>
    obtain ⟨digits, multiple⟩ := exists_digits tie usual number nonzero
    have missed := List.findSome?_eq_none_iff.mp found 16 (by decide)
    rw [Option.map_eq_none_iff] at missed
    exact absurd (multiple.symm.trans missed) (by simp)

end Decimal

end Kinematics
