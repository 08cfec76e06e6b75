import Kinematics.Decimal.Rounding

/-!
# Words of floating-point formats

A word has a sign bit, an exponent field and a fraction.  It says more than the number
that is calculated with: a word that is not a number has a sign as well, which
calculations do not keep.  Documents hold words, so that they can be written as they were
read.
-/

namespace Kinematics

namespace BinaryFormat

/-- Bits of a word. -/
def width (format : BinaryFormat) : Nat :=
  format.fractionBits + format.exponentBits + 1

/-- The word of the positive infinity, above which no positive number lies. -/
def infinityWord (format : BinaryFormat) : Nat :=
  (Nat.pow 2 format.exponentBits - 1) * Nat.pow 2 format.fractionBits

/-- Power of two of the leading bit of a positive fraction.  It is the difference of the
leading bits of numerator and denominator, or one less. -/
def leadingBit (numerator denominator : Nat) : Int :=
  let power : Int := (numerator.log2 : Int) - denominator.log2
  if Decimal.twoNumerator denominator power ≤ Decimal.twoNumerator numerator (-power) then power
  else power - 1

/-- The word of the number closest to a fraction, a half to the even word.  Words of
positive numbers are ordered as the numbers are, so rounding up past the last number of an
exponent leads to the first of the next one, and at the end to infinity. -/
def nearestWord (format : BinaryFormat) (numerator denominator : Nat) : Nat :=
  if numerator = 0 then 0
  else
    let exponent :=
      max (leadingBit numerator denominator - format.fractionBits) format.leastExponent
    let units :=
      Decimal.roundHalfEven (Decimal.twoNumerator numerator (-exponent))
        (Decimal.twoNumerator denominator exponent)
    let steps := (exponent - format.leastExponent).toNat
    min (steps * Nat.pow 2 format.fractionBits + units) format.infinityWord

end BinaryFormat

/-- A word of a floating-point format. -/
structure Word (format : BinaryFormat) where
  bits : BitVec format.width

namespace Word

variable {format : BinaryFormat}

def toBinary (word : Word format) : Binary :=
  format.decode word.bits.toNat

instance : BEq (Word format) where
  beq left right := left.toBinary.isEqual right.toBinary

def infinity : Word format :=
  ⟨BitVec.ofNat _ format.infinityWord⟩

/-- The positive word that stands for what is not a number, with the first bit of its
fraction set. -/
def undefined : Word format :=
  ⟨BitVec.ofNat _ (format.infinityWord + Nat.pow 2 (format.fractionBits - 1))⟩

def negate (word : Word format) : Word format :=
  ⟨word.bits ^^^ BitVec.intMin _⟩

/-- The word itself, or the one with the opposite sign. -/
def withSign (word : Word format) (negative : Bool) : Word format :=
  if negative then word.negate else word

/-- A power of ten beyond the range of all formats, as is its inverse. -/
def extremePower : Int := 400

/-- The word of the number closest to a decimal. -/
def nearest (decimal : Decimal) : Word format :=
  let leading := decimal.exponent + Decimal.digitCount decimal.digits
  if decimal.digits = 0 ∨ leading < -extremePower then ⟨0⟩
  else if extremePower < leading then infinity
  else
    ⟨BitVec.ofNat _
      (format.nearestWord (decimal.digits * Nat.pow 10 decimal.exponent.toNat)
        (Nat.pow 10 (-decimal.exponent).toNat))⟩

end Word

/-- A word of 64 bits. -/
abbrev Double : Type := Word .binary64

namespace Double

def ofFloat (value : Float) : Double :=
  ⟨value.toBits.toBitVec⟩

def toFloat (word : Double) : Float :=
  Float.ofBits ⟨word.bits⟩

end Double

/-- A word of 32 bits. -/
abbrev Single : Type := Word .binary32

namespace Single

def ofFloat32 (value : Float32) : Single :=
  ⟨value.toBits.toBitVec⟩

end Single

def Binary.ofFloat (value : Float) : Binary :=
  (Double.ofFloat value).toBinary

end Kinematics
