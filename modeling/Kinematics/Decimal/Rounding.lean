import Kinematics.Decimal.Binary

/-!
# Rounding to a decimal grid

Exact division of natural numbers, rounded to the nearest whole one, and the place of
the leading decimal digit of a fraction.  A half goes to the even neighbour.
-/

namespace Kinematics

namespace Decimal

/-- A fraction of two natural numbers rounded to the nearest natural number, a half to
the even one. -/
def roundHalfEven (numerator denominator : Nat) : Nat :=
  let whole := numerator / denominator
  let twice := 2 * (numerator % denominator)
  if twice < denominator then whole
  else if denominator < twice then whole + 1
  else whole + whole % 2

/-- How many decimal digits a natural number has, zero having one. -/
def digitCount (n : Nat) : Nat :=
  if n < 10 then 1 else digitCount (n / 10) + 1

/-- How often a numerator has to be multiplied by ten to reach a denominator. -/
def timesTenToReach (numerator denominator : Nat) (positive : 0 < numerator) : Nat :=
  if denominator ≤ numerator then 0
  else timesTenToReach (10 * numerator) denominator (by omega) + 1
  termination_by denominator - numerator

/-- The power of ten of the leading digit of a positive fraction; zero for zero. -/
def leadingPower (numerator denominator : Nat) : Int :=
  if denominator ≤ numerator then
    (digitCount (numerator / denominator) : Int) - 1
  else if positive : 0 < numerator then
    -(timesTenToReach numerator denominator positive : Int)
  else
    0

/-- Numerator of `n * 2 ^ exponent` as a fraction whose denominator is
`twoDenominator exponent`. -/
def twoNumerator (n : Nat) (exponent : Int) : Nat :=
  n * Nat.pow 2 exponent.toNat

def twoDenominator (exponent : Int) : Nat :=
  Nat.pow 2 (-exponent).toNat

/-- `significand * 2 ^ exponent / 10 ^ power`, rounded. -/
def roundAt (significand : Nat) (exponent power : Int) : Nat :=
  roundHalfEven (twoNumerator significand exponent * Nat.pow 10 (-power).toNat)
    (twoDenominator exponent * Nat.pow 10 power.toNat)

end Decimal

/-- The number `digits * 10 ^ exponent`. -/
structure Decimal where
  digits : Nat
  exponent : Int
  deriving DecidableEq

namespace Decimal

/-- The same number without zeros at the end of its digits. -/
def trim (decimal : Decimal) : Decimal :=
  if _positive : 0 < decimal.digits then
    if decimal.digits % 10 = 0 then
      trim ⟨decimal.digits / 10, decimal.exponent + 1⟩
    else
      decimal
  else
    decimal
  termination_by decimal.digits

/-- A positive binary number to a given count of leading digits, rounded on its exact
value.  Rounding up to the next power of ten keeps the count. -/
def ofSignificant (count : Nat) (significand : Nat) (exponent : Int) : Decimal :=
  let leading :=
    leadingPower (twoNumerator significand exponent) (twoDenominator exponent)
  let power := leading - (count - 1 : Nat)
  let digits := roundAt significand exponent power
  if digits = Nat.pow 10 count then ⟨Nat.pow 10 (count - 1), power + 1⟩ else ⟨digits, power⟩

end Decimal

end Kinematics
