import Kinematics.Text.Identifier

/-!
# Readers

A reader takes a value from the front of a list of characters, or fails.  Values are
set apart by blanks: white space, comments up to the end of a line, and comments in
brackets, which may be nested.
-/

namespace Kinematics

namespace Text

/-- A function from characters to a value and the characters after it. -/
abbrev Reader := StateT (List Char) Option

namespace Reader

def isNext (text : List Char) : Reader Bool :=
  return text.isPrefixOf (← get)

/-- Takes given characters if they are next. -/
def take? (text : List Char) : Reader Bool := do
  if ← isNext text then
    modify (·.drop text.length)
    return true
  else
    return false

/-- Takes given characters, which have to be next. -/
def take (text : List Char) : Reader Unit := do
  unless ← take? text do failure

/-- What a reader finds ahead, which is left in place. -/
def lookAhead {β : Type} (reader : Reader β) : Reader β := fun chars =>
  (reader.run chars).map fun (value, _) => (value, chars)

/-- Takes what a reader takes, or nothing where it fails. -/
def attempt {β : Type} (reader : Reader β) : Reader Unit :=
  (do let _ ← reader) <|> pure ()

def anyChar : Reader Char := do
  match ← get with
  | [] => failure
  | c :: rest =>
    set rest
    return c

/-- Takes the characters ahead as long as they belong to a class. -/
def takeWhile (belongs : Char → Bool) : Reader (List Char) := do
  let chars ← get
  set (chars.dropWhile belongs)
  return chars.takeWhile belongs

/-- The next character, left in place. -/
def peek? : Reader (Option Char) :=
  return (← get).head?

/-- Takes a whole word if it is next, that is if no name character follows it. -/
def word? (word : List Char) : Reader Bool := do
  let chars ← get
  if word.isPrefixOf chars && !(chars.drop word.length).head?.any isNameContinue then
    set (chars.drop word.length)
    return true
  else
    return false

end Reader

def isBlankChar (c : Char) : Bool :=
  c == ' ' || (decide (0x09 ≤ c.toNat) && decide (c.toNat ≤ 0x0D)) || c.toNat == 0x85 ||
    c.toNat == 0x200E || c.toNat == 0x200F || c.toNat == 0x2028 || c.toNat == 0x2029

/-- Where the blank before a value has got to.  Bracketed comments nest. -/
inductive BlankState where
  | between
  | line
  | bracketed (outer : Nat)

/-- What follows the blank at the front; none for a slash that starts no comment and
for a bracketed comment without an end. -/
def dropBlank : BlankState → List Char → Option (List Char)
  | .between, [] => some []
  | .between, '/' :: '/' :: rest => dropBlank .line rest
  | .between, '/' :: '*' :: rest => dropBlank (.bracketed 0) rest
  | .between, c :: rest =>
    if c = '/' then none
    else if isBlankChar c then dropBlank .between rest
    else some (c :: rest)
  | .line, [] => some []
  | .line, c :: rest => dropBlank (if c = '\n' then .between else .line) rest
  | .bracketed _, [] => none
  | .bracketed outer, '/' :: '*' :: rest => dropBlank (.bracketed (outer + 1)) rest
  | .bracketed outer, '*' :: '/' :: rest =>
    match outer with
    | 0 => dropBlank .between rest
    | outer + 1 => dropBlank (.bracketed outer) rest
  | .bracketed outer, _ :: rest => dropBlank (.bracketed outer) rest

namespace Reader

/-- Takes the blank ahead. -/
def blank : Reader Unit := fun chars =>
  (dropBlank .between chars).map fun rest => ((), rest)

/-- Takes a comma if one is next, and the blanks around it. -/
def comma? : Reader Bool := do
  blank
  if ← take? [','] then
    blank
    return true
  else
    return false

/-- Items with commas between them, up to a closing character, which is left in place;
fewer items than there are characters in a budget. -/
def separatedWithin {β : Type} (close : Char) (item : Reader β) : List Char → Reader (List β)
  | [] => failure
  | _ :: budget => do
    blank
    if ← isNext [close] then return []
    let first ← item
    if ← comma? then
      return first :: (← separatedWithin close item budget)
    else if ← isNext [close] then
      return [first]
    else
      failure

/-- Items with commas between them, and possibly one after the last, up to a closing
character, which is left in place.  Every item but the last takes a comma, and the
closing character remains, so there are no more items than characters. -/
def separated {β : Type} (close : Char) (item : Reader β) : Reader (List β) := do
  separatedWithin close item (← get)

/-- A given number of items with commas between them.  One comma after the last is taken
as well, but not what follows it. -/
def exactly {β : Type} (item : Reader β) : Nat → Reader (List β)
  | 0 => return []
  | count + 1 => do
    blank
    let first ← item
    let another ← comma?
    if count = 0 ∨ another then return first :: (← exactly item count) else failure

/-- The openings of quoted text, which no name starts with. -/
def quoteOpenings : List (List Char) :=
  [['b', '"'], ['b', '\''], ['b', 'r', '#'], ['b', 'r', '"'], ['r', '"'], ['r', '#', '"'],
    ['r', '#', '#']]

/-- A name, or one that is marked as raw and may then hold points and signs.  Raw
characters right after a name that is not marked are an error. -/
def name : Reader (List Char) := do
  let chars ← get
  if quoteOpenings.any (·.isPrefixOf chars) then failure
  if ['r', '#'].isPrefixOf chars then
    take ['r', '#']
    let raw ← takeWhile isRawNameChar
    if raw.isEmpty then failure
    return raw
  else
    unless chars.head?.any isNameStart do failure
    if (chars.dropWhile isNameContinue).head?.any isRawNameChar then failure
    takeWhile isNameContinue

end Reader

end Text

end Kinematics
