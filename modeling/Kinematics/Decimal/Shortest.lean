import Kinematics.Decimal.Rounding

/-!
# Shortest decimals

Among the decimals that read back as a given binary number, the ones with the fewest
digits, and of these the nearest.  The numbers that read back form an interval around
the binary number that reaches half way to its two neighbours; the ends belong to it
when the significand is even.
-/

namespace Kinematics

/-- Which of two equally near decimals is taken: the larger one, or the one with an even
last digit. -/
inductive Tie where
  | up
  | even
  deriving DecidableEq

/-- The reals that round to one binary number, as fractions of a common denominator:
from `value - below` to `value + above`. -/
structure RoundingInterval where
  value : Nat
  below : Nat
  above : Nat
  denominator : Nat
  /-- Whether the ends round to the number as well. -/
  closed : Bool

namespace RoundingInterval

/-- The interval of a positive number of a format. -/
def ofBinary (format : BinaryFormat) (significand : Nat) (exponent : Int) : RoundingInterval :=
  let quarter := exponent - 2
  { value := Decimal.twoNumerator (4 * significand) quarter
    below := Decimal.twoNumerator (if format.narrowBelow significand exponent then 1 else 2) quarter
    above := Decimal.twoNumerator 2 quarter
    denominator := Decimal.twoDenominator quarter
    closed := significand % 2 == 0 }

/-- Whether a point lies within an end of the interval, by its distance from the number
and the distance of the end. -/
def reaches (interval : RoundingInterval) (distance limit : Nat) : Bool :=
  decide (distance < limit) || (interval.closed && distance == limit)

/-- The multiple of `10 ^ power` that lies in the interval, the nearest if there are
two next to the number. -/
def multiple? (interval : RoundingInterval) (tie : Tie) (power : Int) : Option Nat :=
  let scale := Nat.pow 10 (-power).toNat
  let step := interval.denominator * Nat.pow 10 power.toNat
  let whole := interval.value * scale / step
  let down := interval.value * scale % step
  let up := step - down
  match interval.reaches down (interval.below * scale),
      interval.reaches up (interval.above * scale) with
  | true, true =>
    if down < up then some whole
    else if up < down then some (whole + 1)
    else match tie with
      | .up => some (whole + 1)
      | .even => some (whole + whole % 2)
  | true, false => some whole
  | false, true => some (whole + 1)
  | false, false => none

end RoundingInterval

namespace Decimal

/-- Digits that always suffice for words of 64 bits. -/
def enoughDigits : Nat := 17

/-- The shortest decimal that reads back as a positive number of a format. -/
def shortest (format : BinaryFormat) (tie : Tie) (significand : Nat) (exponent : Int) : Decimal :=
  let interval := RoundingInterval.ofBinary format significand exponent
  let leading := leadingPower interval.value interval.denominator
  let atCount (count : Nat) : Option Decimal :=
    let power := leading - count
    (interval.multiple? tie power).map fun digits => Decimal.trim ⟨digits, power⟩
  ((List.range enoughDigits).findSome? atCount).getD
    (ofSignificant enoughDigits significand exponent)

end Decimal

end Kinematics
