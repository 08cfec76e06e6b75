import Kinematics.Decimal.Layout
import Kinematics.Text.Quoted

/-!
# JSON reports

A JSON text with one item or field a line, two spaces deeper at each level.  Fields
stay in the order they are given.  A number that is not finite is written as `null`,
for which JSON has no number.
-/

namespace Kinematics

/-- A JSON value of a report. -/
inductive Json where
  | number (value : Float)
  | string (text : String)
  | array (items : List Json)
  | object (fields : List (String × Json))

namespace Json

/-- A character inside a JSON text.  Only quotes, backslashes and control characters are
escaped. -/
def escapeChar (c : Char) : List Char :=
  match c with
  | '"' => ['\\', '"']
  | '\\' => ['\\', '\\']
  | '\x08' => ['\\', 'b']
  | '\x0c' => ['\\', 'f']
  | '\n' => ['\\', 'n']
  | '\r' => ['\\', 'r']
  | '\t' => ['\\', 't']
  | c =>
    if c.toNat < 0x20 then
      let digits := Text.hexDigits c.toNat
      '\\' :: 'u' :: (List.replicate (4 - digits.length) '0' ++ digits)
    else
      [c]

def quote (text : String) : List Char :=
  '"' :: (text.toList.flatMap escapeChar ++ ['"'])

/-- The start of a line at a depth. -/
def newline (depth : Nat) : List Char :=
  '\n' :: List.replicate (2 * depth) ' '

/-- Entries between brackets, each on a line of its own. -/
def bracketed (opening closing : Char) (depth : Nat) (entries : List (List Char)) : List Char :=
  if entries.isEmpty then
    [opening, closing]
  else
    opening :: ([','].intercalate (entries.map (newline (depth + 1) ++ ·)) ++
      newline depth ++ [closing])

mutual

/-- The text of a value whose first line stands at a depth. -/
def chars (depth : Nat) : Json → List Char
  | number value => (Layout.report.renderFloat value).toList
  | string text => quote text
  | array items => bracketed '[' ']' depth (itemChars (depth + 1) items)
  | object fields => bracketed '\x7b' '\x7d' depth (fieldChars (depth + 1) fields)

/-- The texts of the items of a list. -/
def itemChars (depth : Nat) : List Json → List (List Char)
  | [] => []
  | item :: rest => chars depth item :: itemChars depth rest

/-- The texts of fields with their names. -/
def fieldChars (depth : Nat) : List (String × Json) → List (List Char)
  | [] => []
  | (name, value) :: rest =>
    (quote name ++ ':' :: ' ' :: chars depth value) :: fieldChars depth rest

end

def render (value : Json) : String :=
  String.ofList (chars 0 value)

end Json

end Kinematics
