import Kinematics.Decimal.Shortest
import Kinematics.Decimal.Word

/-!
# Decimal texts

How a number is laid out once its digits are known: with a point among the digits, or
as a digit string and a power of ten.  A `Layout` holds the choices that differ
between one kind of text and another.
-/

namespace Kinematics

namespace Decimal

def digitChars (n : Nat) : List Char :=
  Nat.toDigits 10 n

/-- A decimal with a point and at least one digit on each side of it. -/
def positional (decimal : Decimal) : List Char :=
  let digits := digitChars decimal.digits
  if 0 ≤ decimal.exponent then
    digits ++ List.replicate decimal.exponent.toNat '0' ++ ['.', '0']
  else
    let places := (-decimal.exponent).toNat
    let padded := List.replicate (places + 1 - digits.length) '0' ++ digits
    padded.take (padded.length - places) ++ '.' :: padded.drop (padded.length - places)

/-- Power of ten of the first digit. -/
def firstPower (decimal : Decimal) : Int :=
  decimal.exponent + ((digitChars decimal.digits).length - 1 : Nat)

/-- One digit, the others after a point, and the power of ten of the first one.  A
positive power is written with or without its sign. -/
def scientificChars (signed : Bool) (digits : List Char) (power : Int) : List Char :=
  let mantissa := match digits with
    | first :: second :: rest => first :: '.' :: second :: rest
    | digits => digits
  let sign := if power < 0 then ['-'] else if signed then ['+'] else []
  mantissa ++ 'e' :: (sign ++ digitChars power.natAbs)

/-- A decimal as a digit string and a power of ten. -/
def scientific (signed : Bool) (decimal : Decimal) : List Char :=
  scientificChars signed (digitChars decimal.digits) decimal.firstPower

end Decimal

/-- The choices of one kind of number text. -/
structure Layout where
  tie : Tie
  /-- Whether a number is written with a point among its digits, by the power of ten of
  its first digit. -/
  isPositional : Int → Bool
  signedPower : Bool
  undefined : Bool → String
  infinite : Bool → String

namespace Layout

def infinity (negative : Bool) : String :=
  if negative then "-inf" else "inf"

/-- Numbers inside messages: positional from `1e-4` up to `1e16`, and a half goes up. -/
def message : Layout where
  tie := .up
  isPositional power := decide (-4 ≤ power) && decide (power < 16)
  signedPower := false
  undefined _ := "NaN"
  infinite := infinity

/-- Numbers inside documents: always positional, and with the sign also of what is not a
number. -/
def document : Layout :=
  { message with
    isPositional := fun _ => true
    undefined := fun negative => if negative then "-NaN" else "NaN" }

/-- Numbers inside structured reports: positional from `1e-5` up to `1e16`, powers of
ten signed, a half to the even digit, and nothing to say of numbers that are not finite. -/
def report : Layout where
  tie := .even
  isPositional power := decide (-5 ≤ power) && decide (power < 16)
  signedPower := true
  undefined _ := "null"
  infinite _ := "null"

def signChars (negative : Bool) : List Char :=
  if negative then ['-'] else []

/-- A number of a format with its shortest digits. -/
def render (layout : Layout) (format : BinaryFormat) : Binary → String
  | .undefined negative => layout.undefined negative
  | .infinite negative => layout.infinite negative
  | .finite negative 0 _ => String.ofList (signChars negative ++ Decimal.positional ⟨0, 0⟩)
  | .finite negative significand exponent =>
    let decimal := Decimal.shortest format layout.tie significand exponent
    let text :=
      if layout.isPositional decimal.firstPower then decimal.positional
      else decimal.scientific layout.signedPower
    String.ofList (signChars negative ++ text)

/-- The number of a word with its shortest digits. -/
def renderWord {format : BinaryFormat} (layout : Layout) (word : Word format) : String :=
  layout.render format word.toBinary

def renderFloat (layout : Layout) (value : Float) : String :=
  layout.renderWord (Double.ofFloat value)

end Layout

namespace Binary

/-- A number with a fixed count of decimal places.  The sign stays when all digits are
zero. -/
def renderFixed (places : Nat) : Binary → String
  | .undefined _ => "NaN"
  | .infinite negative => Layout.infinity negative
  | .finite negative significand exponent =>
    let units := Decimal.roundAt significand exponent (-(places : Int))
    String.ofList (Layout.signChars negative ++ Decimal.positional ⟨units, -(places : Int)⟩)

/-- A number with one digit before the point, a fixed count of places after it and a
power of ten. -/
def renderScientific (places : Nat) : Binary → String
  | .undefined _ => "NaN"
  | .infinite negative => Layout.infinity negative
  | .finite negative significand exponent =>
    let text :=
      if significand = 0 then
        Decimal.scientificChars false (List.replicate (places + 1) '0') 0
      else
        (Decimal.ofSignificant (places + 1) significand exponent).scientific false
    String.ofList (Layout.signChars negative ++ text)

end Binary

end Kinematics
