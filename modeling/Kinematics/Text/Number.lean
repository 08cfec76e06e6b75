import Kinematics.Decimal.Layout
import Kinematics.Text.Quoted

/-!
# Written numbers

Whole numbers in bases two, eight, ten and sixteen, and decimals with an exponent,
with underscores among the digits.  A number may end in the name of its own type.  A
decimal is rounded once, from its exact value.
-/

namespace Kinematics

namespace Text

/-- A decimal with a sign of its own. -/
structure SignedDecimal where
  negative : Bool
  magnitude : Decimal

def digitsValue (digits : List Char) : Nat :=
  digits.foldl (fun value c => 10 * value + (c.toNat - '0'.toNat)) 0

def splitSign : List Char → Bool × List Char
  | '-' :: rest => (true, rest)
  | '+' :: rest => (false, rest)
  | text => (false, text)

/-- The power of ten after an exponent mark. -/
def exponentValue? (text : List Char) : Option Int :=
  let (negative, digits) := splitSign text
  if digits.isEmpty || !digits.all Char.isDigit then none
  else some (if negative then -(digitsValue digits : Int) else digitsValue digits)

/-- The number of a whole text: digits with at most one point among them, and possibly
an exponent. -/
def signedDecimal? (text : List Char) : Option SignedDecimal :=
  let (negative, text) := splitSign text
  let whole := text.takeWhile Char.isDigit
  let text := text.dropWhile Char.isDigit
  let (places, text) := match text with
    | '.' :: rest => (rest.takeWhile Char.isDigit, rest.dropWhile Char.isDigit)
    | rest => ([], rest)
  let finish (power : Int) : SignedDecimal :=
    ⟨negative, ⟨digitsValue (whole ++ places), power - places.length⟩⟩
  if whole.isEmpty && places.isEmpty then none
  else match text with
    | [] => some (finish 0)
    | c :: rest => if c = 'e' ∨ c = 'E' then (exponentValue? rest).map finish else none

/-- A floating-point number as it is written. -/
inductive FloatText where
  | undefined (negative : Bool)
  | infinite (negative : Bool)
  | finite (value : SignedDecimal)

def FloatText.toWord {format : BinaryFormat} : FloatText → Word format
  | .undefined negative => Word.undefined.withSign negative
  | .infinite negative => Word.infinity.withSign negative
  | .finite value => (Word.nearest value.magnitude).withSign value.negative

/-- The name of a floating-point type, in which a written number may end. -/
def floatTypeName (format : BinaryFormat) : List Char :=
  'f' :: Decimal.digitChars format.width

/-- The names of all floating-point types. -/
def floatTypeNames : List (List Char) :=
  [floatTypeName .binary32, floatTypeName .binary64]

/-- The types that a written whole number may name. -/
structure IntegerKind where
  typeName : List Char
  least : Int
  greatest : Int

namespace IntegerKind

def signed (bits : Nat) : IntegerKind :=
  ⟨'i' :: Decimal.digitChars bits, -(Nat.pow 2 (bits - 1)), Nat.pow 2 (bits - 1) - 1⟩

def unsigned (bits : Nat) : IntegerKind :=
  ⟨'u' :: Decimal.digitChars bits, 0, Nat.pow 2 bits - 1⟩

def all : List IntegerKind :=
  [8, 16, 32, 64].map signed ++ [8, 16, 32, 64].map unsigned

def holds (kind : IntegerKind) (value : Int) : Bool :=
  decide (kind.least ≤ value) && decide (value ≤ kind.greatest)

end IntegerKind

/-- Whether a character belongs to the digits of a whole number in some base. -/
def isIntegerChar (c : Char) : Bool :=
  (hexValue? c).isSome || c == '_'

/-- Whether a character belongs to a decimal. -/
def isFloatChar (c : Char) : Bool :=
  c.isDigit || c == 'e' || c == 'E' || c == '.' || c == '+' || c == '-' || c == '_'

/-- The value of digits in a base, underscores passed over; none for a digit outside
of the base. -/
def digitsIn? (base : Nat) (digits : List Char) : Option Nat :=
  (digits.filter (· != '_')).foldlM
    (fun value c =>
      match hexValue? c with
      | some digit => if digit < base then some (base * value + digit) else none
      | none => none)
    0

/-- A decimal text without its underscores.  One may stand after a digit or an exponent
mark, possibly with a sign between, but not after a point. -/
def dropUnderscores (allowed : Bool) : List Char → Option (List Char)
  | [] => some []
  | '_' :: rest => if allowed then dropUnderscores allowed rest else none
  | c :: rest =>
    let allowed := if c.isDigit || c == 'e' || c == 'E' then true
      else if c == '.' then false else allowed
    (dropUnderscores allowed rest).map (c :: ·)

namespace Reader

/-- The base that a number announces. -/
def base : Reader Nat := do
  if ← take? ['0', 'x'] then return 16
  else if ← take? ['0', 'b'] then return 2
  else if ← take? ['0', 'o'] then return 8
  else return 10

def sign : Reader Bool := do
  if ← take? ['-'] then return true
  else
    let _ ← take? ['+']
    return false

/-- The integer type named next, if one is. -/
def integerType? : List IntegerKind → Reader (Option IntegerKind)
  | [] => return none
  | kind :: others => do
    if ← word? kind.typeName then return some kind else integerType? others

/-- A whole number, and the type that it names.  A type can be named only in bases whose
mark consists of characters that are digits in some base. -/
def typedInteger : Reader (Int × Option IntegerKind) := do
  let negative ← sign
  let base ← base
  let digits ← takeWhile isIntegerChar
  if digits.isEmpty || digits.head? == some '_' then failure
  match digitsIn? base digits with
  | none => failure
  | some size =>
    let value : Int := if negative then -size else size
    if base = 2 ∨ base = 10 then return (value, ← integerType? IntegerKind.all)
    else return (value, none)

/-- A whole number of a type.  If it names a type, it has to be this one. -/
def integer (kind : IntegerKind) : Reader Int := do
  let (value, named) ← typedInteger
  if named.all (·.typeName == kind.typeName) && kind.holds value then return value
  else failure

/-- A decimal, possibly followed by the name of one of the given types. -/
def decimal (typeNames : List (List Char)) : Reader SignedDecimal := do
  let text ← takeWhile isFloatChar
  match (dropUnderscores false text).bind signedDecimal? with
  | none => failure
  | some value =>
    let _ ← typeNames.anyM word?
    return value

/-- A word, possibly followed by the name of one of the given types. -/
def literal? (word : List Char) (typeNames : List (List Char)) : Reader Bool :=
  ([] :: typeNames).anyM fun typeName => word? (word ++ typeName)

/-- A floating-point number that may name one of the given types. -/
def floatText (typeNames : List (List Char)) : Reader FloatText := do
  if ← literal? ['i', 'n', 'f'] typeNames then return .infinite false
  else if ← literal? ['+', 'i', 'n', 'f'] typeNames then return .infinite false
  else if ← literal? ['-', 'i', 'n', 'f'] typeNames then return .infinite true
  else if ← literal? ['N', 'a', 'N'] typeNames then return .undefined false
  else if ← literal? ['+', 'N', 'a', 'N'] typeNames then return .undefined false
  else if ← literal? ['-', 'N', 'a', 'N'] typeNames then return .undefined true
  else return .finite (← decimal typeNames)

/-- A floating-point number of a format.  If it names a type, it has to be this one. -/
def float (format : BinaryFormat) : Reader (Word format) :=
  return (← floatText [floatTypeName format]).toWord

/-- Whether what is next is a decimal rather than a whole number: it goes on for longer
as the one than as the other. -/
def isDecimalNext : Reader Bool := do
  let text := (splitSign (← get)).2
  return decide ((text.takeWhile isIntegerChar).length < (text.takeWhile isFloatChar).length)

/-- A number of any type, which is of no interest. -/
def skipNumber : Reader Unit := do
  let anyFloat : Reader Unit := do
    let _ ← floatText floatTypeNames
  let anyInteger : Reader Unit := do
    let (value, named) ← typedInteger
    match named with
    | some kind => unless kind.holds value do failure
    | none =>
      unless (IntegerKind.signed 64).holds value || (IntegerKind.unsigned 64).holds value do
        failure
  if ← isDecimalNext then anyFloat else anyInteger <|> anyFloat

end Reader

end Text

end Kinematics
