import Kinematics.Document.Element
import Kinematics.Document.Skip

/-!
# Reading documents

A document is one element, written as a record with named fields.  Only its kind has
to be given.  Fields of other names are passed over, a field given twice is an error,
and an attribute given twice takes its last value.
-/

namespace Kinematics

namespace Document

open Text

/-- Items in brackets, each two levels further down than the group. -/
def group {β : Type} (opening closing : Char) (levels : Nat) (item : Nat → Reader β) :
    Reader (List β) := do
  Reader.take [opening]
  nested levels fun levels => do
    let items ← Reader.separated closing (nested levels item)
    Reader.blank
    Reader.take [closing]
    return items

/-- A key, a colon and a value. -/
def entry {κ β : Type} (key : Reader κ) (value : κ → Reader β) : Reader β := do
  let key ← key
  Reader.blank
  Reader.take [':']
  Reader.blank
  value key

/-- The fields of a record, whose name may be left out unless the dialect asks for it. -/
def record {β : Type} (dialect : Dialect) (recordName : List Char) (levels : Nat)
    (field : Nat → List Char → Reader β) : Reader (List β) := do
  if (← Reader.peek?).any isNameContinue then
    unless (← Reader.name) == recordName do failure
  else if dialect.explicitNames then failure
  Reader.blank
  group '(' ')' levels fun levels => entry Reader.name (field levels)

def boolean : Reader Bool := do
  if ← Reader.word? ['t', 'r', 'u', 'e'] then return true
  else if ← Reader.word? ['f', 'a', 'l', 's', 'e'] then return false
  else failure

/-- So many numbers in round brackets, or without them where the dialect has them left
out. -/
def numbers (dialect : Dialect) (format : BinaryFormat) (count levels : Nat) :
    Reader (List (Word format)) := do
  unless dialect.unwrapVariants do Reader.take ['(']
  nested levels fun levels => do
    let items ← Reader.exactly (nested levels fun _ => Reader.float format) count
    Reader.blank
    unless dialect.unwrapVariants do Reader.take [')']
    return items

/-- The content of a value, after the name of its type. -/
def content (dialect : Dialect) (typeName : List Char) (levels : Nat) : Reader (Value Double) :=
  match String.ofList typeName with
  | "Bool" => return .bool (← boolean)
  | "Int" => return .int (Int64.ofInt (← Reader.integer (.signed 64)))
  | "Double" => return .double (← Reader.float .binary64)
  | "String" => return .string (String.ofList (← Reader.string))
  | "Vector3" => do
    match ← numbers dialect .binary64 3 levels with
    | [x, y, z] => return .vector3 ⟨x, y, z⟩
    | _ => failure
  | "Color" => do
    match ← numbers dialect .binary32 4 levels with
    | [red, green, blue, alpha] => return .color ⟨red, green, blue, alpha⟩
    | _ => failure
  | "Pose" => do
    match ← numbers dialect .binary64 6 levels with
    | [x, y, z, roll, pitch, yaw] => return .pose ⟨⟨x, y, z⟩, ⟨roll, pitch, yaw⟩⟩
    | _ => failure
  | _ => failure

/-- A value: the name of its type, and its content in brackets. -/
def value (dialect : Dialect) (levels : Nat) : Reader (Value Double) :=
  nested levels fun levels => do
    Reader.blank
    let typeName ← nested levels fun _ => Reader.name
    Reader.blank
    Reader.take ['(']
    Reader.blank
    let value ← nested levels (content dialect typeName)
    let _ ← Reader.comma?
    Reader.take [')']
    return value

def optionalValue (dialect : Dialect) (levels : Nat) : Reader (Option (Value Double)) := do
  if ← Reader.word? ['N', 'o', 'n', 'e'] then return none
  let wrapped ← do
    if ← Reader.word? ['S', 'o', 'm', 'e'] then
      Reader.blank
      Reader.take? ['(']
    else
      pure false
  if wrapped then
    Reader.blank
    let value ← nested levels (value dialect)
    let _ ← Reader.comma?
    Reader.take [')']
    return some value
  else if dialect.implicitSome then
    return some (← nested levels (value dialect))
  else
    failure

/-- Attributes in braces, each a name in quotes with its value. -/
def attributes (dialect : Dialect) (levels : Nat) : Reader (Attributes Double) := do
  let entries ← group '{' '}' levels fun levels => entry Reader.string fun name =>
    return (String.ofList name, ← value dialect levels)
  return Attributes.ofList entries

/-- A field of an element. -/
inductive ElementField where
  | kind (kind : String)
  | attributes (attributes : Attributes Double)
  | value (value : Option (Value Double))
  | children (children : List (Element Double))
  | other

namespace ElementField

def kind? : ElementField → Option String
  | .kind name => some name
  | _ => none

def attributes? : ElementField → Option (Attributes Double)
  | .attributes entries => some entries
  | _ => none

def value? : ElementField → Option (Option (Value Double))
  | .value content => some content
  | _ => none

def children? : ElementField → Option (List (Element Double))
  | .children elements => some elements
  | _ => none

end ElementField

/-- The only content of fields, or a default if there is none. -/
def single {φ β : Type} (fields : List φ) (content? : φ → Option β) (default : Option β) :
    Option β :=
  match fields.filterMap content? with
  | [] => default
  | [only] => some only
  | _ => none

/-- The element of given fields, unless one is given twice or the kind is missing. -/
def elementOfFields? (fields : List ElementField) : Option (Element Double) := do
  let kind ← single fields ElementField.kind? none
  let attributes ← single fields ElementField.attributes? (some .empty)
  let value ← single fields ElementField.value? (some none)
  let children ← single fields ElementField.children? (some [])
  return { kind, attributes, value, children }

/-- The content of a field, after its name, given a reader for the children. -/
def elementField (dialect : Dialect) (child : Reader (Element Double)) (levels : Nat)
    (name : List Char) : Reader ElementField :=
  match String.ofList name with
  | "kind" => return .kind (String.ofList (← Reader.string))
  | "attributes" => return .attributes (← attributes dialect levels)
  | "value" => return .value (← optionalValue dialect levels)
  | "children" => return .children (← group '[' ']' levels fun _ => child)
  | _ => do
    skip dialect false levels
    return .other

/-- An element, given a reader for its children. -/
def elementWith (dialect : Dialect) (levels : Nat) (child : Reader (Element Double)) :
    Reader (Element Double) := do
  let fields ← record dialect ['E', 'l', 'e', 'm', 'e', 'n', 't'] levels
    (elementField dialect child)
  match elementOfFields? fields with
  | some element => return element
  | none => failure

/-- An element within so many levels.  Its record, the field of its children, their list
and the place in it take one each, so the children have four levels less. -/
def element (dialect : Dialect) : Nat → Reader (Element Double)
  | levels + 4 => elementWith dialect (levels + 4) (element dialect levels)
  | levels => elementWith dialect levels failure

/-- A whole text: switches, a value, and nothing but blanks around them. -/
def whole? {β : Type} (body : Dialect → Nat → Reader β) (text : String) : Option β :=
  let reader : Reader β := do
    let dialect ← Dialect.read
    let value ← body dialect nestingLimit
    Reader.blank
    return value
  match reader.run text.toList with
  | some (value, []) => some value
  | _ => none

end Document

/-- The element that a text describes, if it is well formed. -/
def Element.ofText? (text : String) : Option (Element Double) :=
  Document.whole? Document.element text

end Kinematics
