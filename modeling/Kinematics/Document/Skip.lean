import Kinematics.Document.Dialect

/-!
# Values of no interest

Documents may hold fields that nobody asks for.  Their values are read past, whatever
they are: words, numbers, texts, and groups of them in brackets of all kinds.  Where the
dialect lets a group inside another bracket stand without brackets of its own, what is
between the brackets of an optional value is told apart by looking ahead.
-/

namespace Kinematics

namespace Document

open Text

/-- A name at the front, marked as raw or not. -/
def skipName? : Reader Bool := fun chars =>
  if Reader.quoteOpenings.any (·.isPrefixOf chars) then some (false, chars)
  else if ['r', '#'].isPrefixOf chars then
    let raw := (chars.drop 2).takeWhile isRawNameChar
    if raw.isEmpty then some (false, chars) else some (true, chars.drop (2 + raw.length))
  else if chars.head?.any isNameStart then some (true, chars.dropWhile isNameContinue)
  else some (false, chars)

/-- Whether a name and a colon are ahead. -/
def hasFieldName : Reader Bool := Reader.lookAhead do
  Reader.blank
  if ← skipName? then
    Reader.blank
    Reader.isNext [':']
  else return false

/-- A key, a colon and a value, with their blanks. -/
def skipEntry (key value : Reader Unit) : Reader Unit := do
  key
  Reader.blank
  Reader.take [':']
  Reader.blank
  value

/-- Items up to a closing bracket, which is left in place, if the group may be entered. -/
def skipItems (mayEnter : Bool) (closing : Char) (item : Reader Unit) : Reader Unit := do
  unless mayEnter do failure
  let _ ← Reader.separated closing item
  Reader.blank

/-- Fields with names up to a closing bracket, if the record may be entered. -/
def skipFields (mayEnter : Bool) (item : Reader Unit) : Reader Unit :=
  let name : Reader Unit := do let _ ← Reader.name
  skipItems mayEnter ')' (skipEntry name item)

/-- A group in brackets, of which the opening one is next, if it may be entered. -/
def skipGroup (mayEnter : Bool) (opening closing : Char) (item : Reader Unit) : Reader Unit := do
  Reader.take [opening]
  skipItems mayEnter closing item
  Reader.take [closing]

/-- What may follow a name, or stand on its own: nothing, fields with names, or items. -/
def skipRecord (mayEnter : Bool) (item : Reader Unit) : Reader Unit := do
  if ← Reader.take? ['('] then
    if ← hasFieldName then skipFields mayEnter item else skipItems mayEnter ')' item
    Reader.take [')']

/-- What stands between the brackets of an optional value. -/
inductive OptionalContent where
  | empty
  | fields
  | items
  | value

/-- Whether an item follows after a comma before the bracket closes that is open, with so
many more brackets open inside of it.  Quoted text on the way counts as a whole where it
can be read as such, and ends the reading where nothing closes it.  A step takes at least
one of the characters in a budget. -/
def hasMoreItemsWithin : Nat → List Char → Reader Bool
  | _, [] => failure
  | inner, _ :: budget => do
    Reader.blank
    Reader.attempt Reader.character
    Reader.attemptString
    Reader.attemptByteString
    match ← Reader.anyChar with
    | '(' | '[' | '{' => hasMoreItemsWithin (inner + 1) budget
    | ')' | ']' | '}' =>
      match inner with
      | 0 => return false
      | inner + 1 => hasMoreItemsWithin inner budget
    | ',' =>
      if inner = 0 then
        Reader.blank
        return !(← Reader.isNext [')'])
      else hasMoreItemsWithin inner budget
    | _ => hasMoreItemsWithin inner budget

/-- Whether an item follows after a comma before the open bracket closes. -/
def hasMoreItems : Reader Bool := do
  hasMoreItemsWithin 0 (← get)

/-- What is ahead between the brackets of an optional value, which may lack brackets of
its own.  A name at the front mostly decides; otherwise the whole of it is looked through. -/
def optionalContent : Reader OptionalContent := Reader.lookAhead do
  if ← Reader.isNext [')'] then return .empty
  if ← hasFieldName then return .fields
  Reader.blank
  let _ ← skipName?
  return if ← hasMoreItems then .items else .value

/-- Any value in full, given whether a group may be entered, a reader for what is in an
optional value with or without brackets, and one for items. -/
def skipValue (dialect : Dialect) (mayEnter : Bool) (optional : Bool → Reader Unit)
    (item : Reader Unit) : Reader Unit := do
  if ← Reader.word? ['t', 'r', 'u', 'e'] then return
  if ← Reader.word? ['f', 'a', 'l', 's', 'e'] then return
  if ← Reader.word? ['N', 'o', 'n', 'e'] then return
  if ← Reader.word? ['S', 'o', 'm', 'e'] then
    Reader.blank
    if ← Reader.take? ['('] then
      Reader.blank
      optional dialect.unwrapVariants
      let _ ← Reader.comma?
      Reader.take [')']
    else if dialect.implicitSome then optional false
    else failure
  else if ← Reader.take? ['(', ')'] then return
  else if ← Reader.literal? ['i', 'n', 'f'] floatTypeNames then return
  else if ← Reader.literal? ['-', 'i', 'n', 'f'] floatTypeNames then return
  else if ← Reader.literal? ['N', 'a', 'N'] floatTypeNames then return
  else if ← skipName? then
    Reader.blank
    skipRecord mayEnter item
  else
    match ← Reader.peek? with
    | some '(' => skipRecord mayEnter item
    | some '[' => skipGroup mayEnter '[' ']' item
    | some '{' => skipGroup mayEnter '{' '}' (skipEntry item item)
    | some '"' | some 'r' => do let _ ← Reader.string
    | some '\'' => do let _ ← Reader.character
    | some 'b' => do
      if ← Reader.isNext ['b', '\''] then
        let _ ← Reader.byteLiteral
      else
        let _ ← Reader.byteString
    | some _ => Reader.skipNumber
    | none => failure

/-- Any value, which may be a group without brackets of its own. -/
def skipWith (dialect : Dialect) (bare mayEnter : Bool) (optional : Bool → Reader Unit)
    (item : Reader Unit) : Reader Unit := do
  match ← if bare then optionalContent else pure .value with
  | .empty => return
  | .fields => skipFields mayEnter item
  | .items => skipItems mayEnter ')' item
  | .value => skipValue dialect mayEnter optional item

/-- Any value within so many levels, with or without brackets of its own.  What is in an
optional value takes one level, an item of a group two. -/
def skip (dialect : Dialect) (bare : Bool) : Nat → Reader Unit
  | 0 => skipWith dialect bare false (fun _ => failure) failure
  | 1 => skipWith dialect bare true (fun bare => skip dialect bare 0) failure
  | levels + 2 =>
    skipWith dialect bare true (fun bare => skip dialect bare (levels + 1))
      (skip dialect false levels)

end Document

end Kinematics
