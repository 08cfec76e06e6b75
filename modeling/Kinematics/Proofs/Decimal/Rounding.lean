import Kinematics.Decimal.Word
import Mathlib.Algebra.Order.Field.Power
import Mathlib.Data.Rat.Cast.Order
import Mathlib.Tactic.FieldSimp
import Mathlib.Tactic.Linarith
import Mathlib.Tactic.NormNum
import Mathlib.Tactic.Positivity
import Mathlib.Tactic.Ring

/-!
# Rounding as arithmetic of rationals

What the divisions of natural numbers say about the fractions they stand for: which
whole number is the nearest one, and between which powers of two and of ten a fraction
lies.
-/

namespace Kinematics

namespace Decimal

def value (decimal : Decimal) : ℚ :=
  decimal.digits * 10 ^ decimal.exponent

/-- A number is at most one half away from a whole one, and less if that is odd. -/
structure RoundsTo (x : ℚ) (n : Nat) : Prop where
  lower : n - 1 / 2 ≤ x
  upper : x ≤ n + 1 / 2
  odd : n % 2 = 1 → n - 1 / 2 < x ∧ x < n + 1 / 2

theorem roundHalfEven_eq {numerator denominator n : Nat} (positive : 0 < denominator)
    (lower : 2 * (n * denominator) ≤ 2 * numerator + denominator)
    (upper : 2 * numerator ≤ 2 * (n * denominator) + denominator)
    (odd : n % 2 = 1 → 2 * (n * denominator) < 2 * numerator + denominator ∧
      2 * numerator < 2 * (n * denominator) + denominator) :
    roundHalfEven numerator denominator = n := by
  have split : denominator * (numerator / denominator) + numerator % denominator = numerator :=
    Nat.div_add_mod numerator denominator
  have small : numerator % denominator < denominator := Nat.mod_lt _ positive
  unfold roundHalfEven
  generalize numerator / denominator = whole at split ⊢
  generalize numerator % denominator = remainder at split small ⊢
  have near : n = whole ∨ n = whole + 1 := by
    have notBelow : whole ≤ n := by
      by_contra below
      nlinarith
    have notAbove : n ≤ whole + 1 := by
      by_contra above
      nlinarith
    omega
  rcases near with rfl | rfl
  · rw [Nat.mul_comm] at split
    dsimp only
    split_ifs with lessThanHalf moreThanHalf
    · rfl
    · omega
    · omega
  · have product : (whole + 1) * denominator = denominator * whole + denominator := by ring
    rw [product] at lower upper odd
    dsimp only
    split_ifs with lessThanHalf moreThanHalf
    · omega
    · rfl
    · omega

theorem roundHalfEven_of_roundsTo {numerator denominator n : Nat} (positive : 0 < denominator)
    (rounds : RoundsTo (numerator / denominator) n) : roundHalfEven numerator denominator = n := by
  obtain ⟨lower, upper, odd⟩ := rounds
  have positive' : (0 : ℚ) < denominator := by exact_mod_cast positive
  rw [le_div_iff₀ positive'] at lower
  rw [div_le_iff₀ positive'] at upper
  rw [lt_div_iff₀ positive', div_lt_iff₀ positive'] at odd
  apply roundHalfEven_eq positive
  · have exact : (2 * (n * denominator) : ℚ) ≤ 2 * numerator + denominator := by linarith
    exact_mod_cast exact
  · have exact : (2 * numerator : ℚ) ≤ 2 * (n * denominator) + denominator := by linarith
    exact_mod_cast exact
  · intro isOdd
    obtain ⟨above, below⟩ := odd isOdd
    have exactAbove : (2 * (n * denominator) : ℚ) < 2 * numerator + denominator := by linarith
    have exactBelow : (2 * numerator : ℚ) < 2 * (n * denominator) + denominator := by linarith
    exact ⟨by exact_mod_cast exactAbove, by exact_mod_cast exactBelow⟩

theorem cast_twoNumerator (n : Nat) (exponent : Int) :
    (twoNumerator n exponent : ℚ) = n * 2 ^ exponent.toNat := by
  rw [twoNumerator, Nat.pow_eq]
  push_cast
  rfl

theorem zpow_eq_div {base : ℚ} (nonzero : base ≠ 0) (exponent : Int) :
    base ^ exponent = base ^ exponent.toNat / base ^ (-exponent).toNat := by
  have split : exponent = (exponent.toNat : Int) - ((-exponent).toNat : Int) := by omega
  conv_lhs => rw [split, zpow_sub₀ nonzero, zpow_natCast, zpow_natCast]

theorem twoNumerator_div_twoDenominator (n : Nat) (exponent : Int) :
    (twoNumerator n exponent : ℚ) / twoDenominator exponent = n * 2 ^ exponent := by
  rw [cast_twoNumerator, zpow_eq_div two_ne_zero, mul_div_assoc, twoDenominator, Nat.pow_eq]
  push_cast
  rfl

/-- A fraction divided by a power of two. -/
theorem twoNumerator_div_twoNumerator (numerator denominator : Nat) (exponent : Int) :
    (twoNumerator numerator (-exponent) : ℚ) / twoNumerator denominator exponent =
      numerator / denominator / 2 ^ exponent := by
  rw [cast_twoNumerator, cast_twoNumerator, zpow_eq_div two_ne_zero exponent]
  field_simp

theorem digitCount_pos (n : Nat) : 0 < digitCount n := by
  unfold digitCount
  split <;> omega

theorem pow_digitCount_le {n : Nat} (positive : 0 < n) : 10 ^ (digitCount n - 1) ≤ n := by
  induction n using digitCount.induct with
  | case1 n small =>
    rw [digitCount, if_pos small]
    exact positive
  | case2 n large induction =>
    have rest := induction (by omega)
    have some := digitCount_pos (n / 10)
    rw [digitCount, if_neg large, Nat.add_sub_cancel]
    calc 10 ^ digitCount (n / 10) = 10 ^ (digitCount (n / 10) - 1) * 10 := by
          rw [← pow_succ, Nat.sub_add_cancel some]
      _ ≤ n := by omega

theorem lt_pow_digitCount (n : Nat) : n < 10 ^ digitCount n := by
  induction n using digitCount.induct with
  | case1 n small =>
    rw [digitCount, if_pos small]
    omega
  | case2 n large induction =>
    rw [digitCount, if_neg large, pow_succ]
    omega

theorem le_pow_timesTenToReach {numerator denominator : Nat} (positive : 0 < numerator) :
    denominator ≤ numerator * 10 ^ timesTenToReach numerator denominator positive := by
  induction numerator, positive using timesTenToReach.induct denominator with
  | case1 numerator positive reached =>
    rw [timesTenToReach, if_pos reached]
    omega
  | case2 numerator positive short induction =>
    rw [timesTenToReach, if_neg short, pow_succ]
    linarith

theorem zpow_leadingPower_le {numerator denominator : Nat} (positive : 0 < numerator)
    (nonzero : 0 < denominator) :
    (10 : ℚ) ^ leadingPower numerator denominator ≤ numerator / denominator := by
  have nonzero' : (0 : ℚ) < denominator := by exact_mod_cast nonzero
  rw [le_div_iff₀ nonzero', leadingPower]
  split_ifs with reached
  · have whole : 0 < numerator / denominator := Nat.div_pos reached nonzero
    have counted := digitCount_pos (numerator / denominator)
    have bound : 10 ^ (digitCount (numerator / denominator) - 1) * denominator ≤ numerator :=
      (Nat.mul_le_mul_right _ (pow_digitCount_le whole)).trans (Nat.div_mul_le_self _ _)
    rw [← Int.natCast_pred_of_pos counted, zpow_natCast]
    exact_mod_cast bound
  · have bound : denominator ≤
        numerator * 10 ^ timesTenToReach numerator denominator positive :=
      le_pow_timesTenToReach positive
    rw [zpow_neg, zpow_natCast, inv_mul_le_iff₀ (by positivity), mul_comm]
    exact_mod_cast bound

end Decimal

namespace BinaryFormat

open Decimal

theorem log2_bounds {n : Nat} (positive : 0 < n) :
    (2 : ℚ) ^ n.log2 ≤ n ∧ (n : ℚ) < 2 ^ (n.log2 + 1) := by
  have bounds := Nat.log2_self_le positive.ne'
  have above : n < 2 ^ (n.log2 + 1) := Nat.lt_log2_self
  exact ⟨by exact_mod_cast bounds, by exact_mod_cast above⟩

theorem zpow_leadingBit {numerator denominator : Nat} (positive : 0 < numerator)
    (nonzero : 0 < denominator) :
    (2 : ℚ) ^ leadingBit numerator denominator ≤ numerator / denominator ∧
      (numerator / denominator : ℚ) < 2 ^ (leadingBit numerator denominator + 1) := by
  have nonzero' : (0 : ℚ) < denominator := by exact_mod_cast nonzero
  obtain ⟨above, below⟩ := log2_bounds positive
  obtain ⟨above', below'⟩ := log2_bounds nonzero
  have shifted (power : Int) : twoNumerator denominator power ≤ twoNumerator numerator (-power) ↔
      (2 : ℚ) ^ power ≤ numerator / denominator := by
    have scaled : (0 : ℚ) < twoNumerator denominator power := by
      rw [cast_twoNumerator]
      positivity
    rw [← one_le_div₀ (zpow_pos two_pos power : (0 : ℚ) < 2 ^ power),
      ← twoNumerator_div_twoNumerator, one_le_div₀ scaled]
    exact_mod_cast Iff.rfl
  have upper : (numerator / denominator : ℚ) <
      2 ^ ((numerator.log2 : Int) - denominator.log2 + 1) := by
    have product := mul_lt_mul below above' (by positivity) (by positivity)
    rw [sub_add_eq_add_sub, zpow_sub₀ two_ne_zero, div_lt_div_iff₀ nonzero' (by positivity)]
    exact_mod_cast product
  have lower : (2 : ℚ) ^ ((numerator.log2 : Int) - denominator.log2 - 1) ≤
      numerator / denominator := by
    have product := mul_le_mul above below'.le (by positivity) (by positivity)
    rw [sub_sub, zpow_sub₀ two_ne_zero, div_le_div_iff₀ (by positivity) nonzero']
    exact_mod_cast product
  simp only [leadingBit, shifted]
  split_ifs with reached
  · exact ⟨reached, upper⟩
  · rw [sub_add_cancel]
    exact ⟨lower, lt_of_not_ge reached⟩

end BinaryFormat

end Kinematics
