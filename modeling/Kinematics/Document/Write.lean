import Kinematics.Document.Read

/-!
# Writing documents

Elements are written in full, one field, attribute or child to a line, indented by
four spaces for each record and list around it.  Writing has a nesting limit of its
own, under which every value, item and optional value takes one level.
-/

namespace Kinematics

namespace Document

open Text

/-- The blanks in front of a line. -/
def indentation (depth : Nat) : List Char :=
  List.replicate (4 * depth) ' '

/-- Lines between brackets, each one deeper than the brackets and with a comma after it;
brackets right next to each other if there are none. -/
def block (opening closing : Char) (depth : Nat) (lines : List (List Char)) : List Char :=
  if lines.isEmpty then [opening, closing]
  else
    opening :: '\n' ::
      lines.flatMap (fun line => indentation (depth + 1) ++ line ++ [',', '\n']) ++
      indentation depth ++ [closing]

def fieldText (name content : List Char) : List Char :=
  name ++ [':', ' '] ++ content

def numbersText (numbers : List String) : List Char :=
  '(' :: [',', ' '].intercalate (numbers.map String.toList) ++ [')']

def typeNameOf {α : Type} : Value α → String
  | .bool _ => "Bool"
  | .int _ => "Int"
  | .double _ => "Double"
  | .string _ => "String"
  | .vector3 _ => "Vector3"
  | .color _ => "Color"
  | .pose _ => "Pose"

def contentText : Value Double → List Char
  | .bool value => (if value then "true" else "false").toList
  | .int value => (toString value.toInt).toList
  | .double value => (Layout.document.renderWord value).toList
  | .string value => quote value.toList
  | .vector3 value => numbersText (value.toList.map Layout.document.renderWord)
  | .color value => numbersText (value.toList.map Layout.document.renderWord)
  | .pose value => numbersText (value.toList.map Layout.document.renderWord)

/-- A value: the name of its type, and its content in brackets. -/
def valueText (value : Value Double) : List Char :=
  (typeNameOf value).toList ++ '(' :: contentText value ++ [')']

def optionalText : Option (Value Double) → List Char
  | none => "None".toList
  | some value => "Some(".toList ++ valueText value ++ [')']

def attributesText (depth : Nat) (attributes : Attributes Double) : List Char :=
  block '\x7b' '\x7d' depth
    (attributes.entries.map fun entry => fieldText (quote entry.1.toList) (valueText entry.2))

mutual

def elementText (depth : Nat) : Element Double → List Char
  | ⟨kind, attributes, value, children⟩ =>
    block '(' ')' depth
      [fieldText "kind".toList (quote kind.toList),
       fieldText "attributes".toList (attributesText (depth + 1) attributes),
       fieldText "value".toList (optionalText value),
       fieldText "children".toList (block '[' ']' (depth + 1) (elementTexts (depth + 2) children))]

def elementTexts (depth : Nat) : List (Element Double) → List (List Char)
  | [] => []
  | element :: rest => elementText depth element :: elementTexts depth rest

end

/-- Levels that the content of a value takes. -/
def contentLevels {α : Type} : Value α → Nat
  | .vector3 _ | .color _ | .pose _ => 1
  | _ => 0

/-- Whether a value in a field fits within so many levels: its place in the field takes
one, the content of the variant another. -/
def valueFits {α : Type} (levels : Nat) (value : Value α) : Bool :=
  decide (2 + contentLevels value ≤ levels)

def elementFits {α : Type} (levels : Nat) (element : Element α) : Bool :=
  match levels with
  | 0 => false
  | levels + 1 =>
    element.attributes.entries.all (fun entry => valueFits levels entry.2) &&
      element.value.all (valueFits levels) &&
      match levels with
      | 0 => element.children.isEmpty
      | levels + 1 => element.children.all (elementFits levels)

end Document

/-- The text of an element, unless it is nested too deeply. -/
def Element.toText? (element : Element Double) : Option String :=
  if Document.elementFits Document.nestingLimit element then
    some (String.ofList (Document.elementText 0 element))
  else
    none

end Kinematics
