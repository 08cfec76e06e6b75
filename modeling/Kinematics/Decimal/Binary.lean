/-!
# Binary words as numbers

A word of a binary floating-point format is an infinity, no number at all, or a whole
number times a power of two.  Every decimal text of this library starts from that
exact value.
-/

namespace Kinematics

/-- The number that a floating-point word stands for. -/
inductive Binary where
  | undefined (negative : Bool)
  | infinite (negative : Bool)
  /-- `significand * 2 ^ exponent`, negated or not.  A zero has a sign as well. -/
  | finite (negative : Bool) (significand : Nat) (exponent : Int)
  deriving DecidableEq

/-- The two fields of a floating-point word below its sign bit. -/
structure BinaryFormat where
  fractionBits : Nat
  exponentBits : Nat

namespace BinaryFormat

def binary64 : BinaryFormat := ⟨52, 11⟩

def binary32 : BinaryFormat := ⟨23, 8⟩

/-- What the exponent field is larger by than the exponent it stands for. -/
def bias (format : BinaryFormat) : Nat :=
  Nat.pow 2 (format.exponentBits - 1) - 1

/-- Power of two of the last fraction bit of the smallest numbers. -/
def leastExponent (format : BinaryFormat) : Int :=
  1 - (format.bias : Int) - format.fractionBits

/-- The number of a word.  An exponent field of ones marks what is not finite, one of
zeros the numbers too small for a leading one. -/
def decode (format : BinaryFormat) (word : Nat) : Binary :=
  let hidden := Nat.pow 2 format.fractionBits
  let fields := Nat.pow 2 format.exponentBits
  let fraction := word % hidden
  let field := word / hidden % fields
  let negative := word / (hidden * fields) % 2 == 1
  if field = fields - 1 then
    if fraction = 0 then .infinite negative else .undefined negative
  else if field = 0 then
    .finite negative fraction format.leastExponent
  else
    .finite negative (hidden + fraction) (format.leastExponent + (field - 1))

/-- Whether the next smaller number of the format is only half as far away as the next
larger one, as it is at powers of two with smaller exponents below them. -/
def narrowBelow (format : BinaryFormat) (significand : Nat) (exponent : Int) : Bool :=
  significand == Nat.pow 2 format.fractionBits && decide (format.leastExponent < exponent)

end BinaryFormat

namespace Binary

/-- Whether two numbers are equal: what is not a number equals nothing, and a zero equals
the other one. -/
def isEqual : Binary → Binary → Bool
  | undefined _, _ | _, undefined _ => false
  | finite _ 0 _, finite _ 0 _ => true
  | left, right => decide (left = right)

end Binary

end Kinematics
