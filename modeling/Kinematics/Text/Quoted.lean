import Kinematics.Text.Printable
import Kinematics.Text.Reader

/-!
# Quoted text

Text in quotes, with escapes for the quotes themselves and for characters that are not
shown as themselves.  Reading understands more than writing produces: escapes by
bytes, and raw text between hash marks.
-/

namespace Kinematics

namespace Text

def hexDigits (n : Nat) : List Char :=
  Nat.toDigits 16 n

def hexValue? (c : Char) : Option Nat :=
  if c.isDigit then some (c.toNat - '0'.toNat)
  else if decide ('a' ≤ c) && decide (c ≤ 'f') then some (c.toNat - 'a'.toNat + 10)
  else if decide ('A' ≤ c) && decide (c ≤ 'F') then some (c.toNat - 'A'.toNat + 10)
  else none

/-- The written form of a character inside quotes. -/
def escapeChar (c : Char) : List Char :=
  if c = '\x00' then ['\\', '0']
  else if c = '\t' then ['\\', 't']
  else if c = '\r' then ['\\', 'r']
  else if c = '\n' then ['\\', 'n']
  else if c = '"' ∨ c = '\'' ∨ c = '\\' then ['\\', c]
  else if isPrintable c then [c]
  else ['\\', 'u', '\x7b'] ++ hexDigits c.toNat ++ ['\x7d']

def quote (text : List Char) : List Char :=
  '"' :: text.flatMap escapeChar ++ ['"']

/-- The character of a code point, if there is one. -/
def charOfCode? (code : Nat) : Option Char :=
  if code.isValidChar then some (Char.ofNat code) else none

/-- The character of a whole sequence of bytes in UTF-8. -/
def charOfBytes? : List Nat → Option Char
  | [a] => if a < 0x80 then charOfCode? a else none
  | [a, b] =>
    if 0xC2 ≤ a ∧ a < 0xE0 ∧ b / 0x40 = 2 then charOfCode? (a % 0x20 * 0x40 + b % 0x40)
    else none
  | [a, b, c] =>
    let code := a % 0x10 * 0x1000 + b % 0x40 * 0x40 + c % 0x40
    if a / 0x10 = 0xE ∧ b / 0x40 = 2 ∧ c / 0x40 = 2 ∧ 0x800 ≤ code then charOfCode? code
    else none
  | [a, b, c, d] =>
    let code := a % 8 * 0x40000 + b % 0x40 * 0x1000 + c % 0x40 * 0x40 + d % 0x40
    if a / 8 = 0x1E ∧ b / 0x40 = 2 ∧ c / 0x40 = 2 ∧ d / 0x40 = 2 ∧ 0x10000 ≤ code then
      charOfCode? code
    else none
  | _ => none

namespace Reader

def hexByte : Reader Nat := do
  match hexValue? (← anyChar), hexValue? (← anyChar) with
  | some high, some low => return 16 * high + low
  | _, _ => failure

/-- The character of bytes read so far and at most so many more, each escaped on its
own. -/
def moreBytes : Nat → List Nat → Reader Char
  | 0, bytes =>
    match charOfBytes? bytes with
    | some c => return c
    | none => failure
  | bound + 1, bytes =>
    match charOfBytes? bytes with
    | some c => return c
    | none => do
      take ['\\', 'x']
      moreBytes bound (bytes ++ [← hexByte])

/-- Up to a number of digits in base sixteen, ended by a closing brace. -/
def codeDigits : Nat → Nat → Reader Nat
  | 0, code => do
    take ['\x7d']
    return code
  | bound + 1, code => do
    if ← take? ['\x7d'] then return code
    match hexValue? (← anyChar) with
    | some digit => codeDigits bound (16 * code + digit)
    | none => failure

/-- What the characters after a backslash stand for.  A character that is not of ASCII
may be given by more escaped bytes, if more are allowed. -/
def escape (moreAllowed : Nat) : Reader Char := do
  match ← anyChar with
  | '\'' => return '\''
  | '"' => return '"'
  | '\\' => return '\\'
  | 'n' => return '\n'
  | 'r' => return '\r'
  | 't' => return '\t'
  | '0' => return '\x00'
  | 'x' => moreBytes moreAllowed [← hexByte]
  | 'u' =>
    take ['\x7b']
    if ← isNext ['\x7d'] then failure
    match charOfCode? (← codeDigits 6 0) with
    | some c => return c
    | none => failure
  | _ => failure

/-- Text up to the closing quote, of fewer characters than there are in a budget. -/
def quotedWithin (escaped : Reader Char) : List Char → Reader (List Char)
  | [] => failure
  | _ :: budget => do
    match ← anyChar with
    | '"' => return []
    | '\\' =>
      let c ← escaped
      return c :: (← quotedWithin escaped budget)
    | c => return c :: (← quotedWithin escaped budget)

/-- Text up to the closing quote, which is itself one of the characters ahead. -/
def quoted (escaped : Reader Char) : Reader (List Char) := do
  quotedWithin escaped (← get)

/-- Text up to a closing mark, of fewer characters than there are in a budget. -/
def untilWithin (mark : List Char) : List Char → Reader (List Char)
  | [] => failure
  | _ :: budget => do
    if ← take? mark then return []
    let c ← anyChar
    return c :: (← untilWithin mark budget)

/-- Raw text after its opening letter: as many hash marks as there are, a quote, and all
characters up to a quote with as many hash marks. -/
def raw : Reader (List Char) := do
  let hashes ← takeWhile (· == '#')
  take ['"']
  untilWithin ('"' :: hashes) (← get)

def string : Reader (List Char) := do
  if ← take? ['"'] then quoted (escape 3)
  else if ← take? ['r'] then raw
  else failure

/-- Whether quoted text, after its opening quote and of fewer characters than there are in
a budget, has no quote that closes it.  Where an escape cannot be read, any quote further
on counts. -/
def isUnclosedWithin (escaped : Reader Char) : List Char → List Char → Bool
  | _ :: budget, '\\' :: chars =>
    match escaped.run chars with
    | some (_, rest) => isUnclosedWithin escaped budget rest
    | none => !chars.contains '"'
  | _ :: budget, c :: chars => c != '"' && isUnclosedWithin escaped budget chars
  | _, _ => true

/-- Takes quoted text after given characters if it can be read, and nothing if not.  Fails
where no quote closes it. -/
def attemptQuoted (opening : List Char) (escaped : Reader Char) : Reader Unit := do
  if ← isNext opening then
    let chars := (← get).drop opening.length
    if isUnclosedWithin escaped (← get) chars then failure
    attempt do
      take opening
      quoted escaped

/-- Takes raw text after given characters, and nothing where hash marks and a quote do not
follow.  Fails where the text is not closed. -/
def attemptRaw (opening : List Char) : Reader Unit := do
  let chars := (← get).drop opening.length
  if (← isNext opening) && ['"'].isPrefixOf (chars.dropWhile (· == '#')) then
    take opening
    let _ ← raw

/-- Takes text that is in quotes or raw and can be read.  Fails where it is not closed. -/
def attemptString : Reader Unit := do
  if ← isNext ['"'] then attemptQuoted ['"'] (escape 3) else attemptRaw ['r']

def character : Reader Char := do
  take ['\'']
  let c ← anyChar
  let c ← if c = '\\' then escape 0 else pure c
  take ['\'']
  return c

/-- An escape inside a string of bytes, where a byte needs no character of its own. -/
def byteEscape : Reader Char := do
  if ← take? ['x'] then return Char.ofNat (← hexByte)
  else escape 0

/-- The bytes of a string of bytes, in quotes or raw. -/
def byteString : Reader (List Char) := do
  take ['b']
  if ← take? ['"'] then quoted byteEscape
  else if ← take? ['r'] then raw
  else failure

/-- Takes a string of bytes that can be read.  Fails where it is not closed. -/
def attemptByteString : Reader Unit := do
  if ← isNext ['b', '"'] then attemptQuoted ['b', '"'] byteEscape else attemptRaw ['b', 'r']

def byteLiteral : Reader Nat := do
  take ['b', '\'']
  let c ← anyChar
  let c ← if c = '\\' then
      (do if ← take? ['x'] then return Char.ofNat (← hexByte) else if ← isNext ['u'] then failure
          else escape 0)
    else if c.toNat < 0x80 then pure c
    else failure
  take ['\'']
  return c.toNat

end Reader

end Text

end Kinematics
