import Kinematics.Text.Number

/-!
# Document dialects

A document may begin with switches that relax or tighten how it is written.  The
nesting of what it holds is limited: entering a bracket, an item, an entry or an
optional value takes one of a fixed number of levels.
-/

namespace Kinematics

namespace Document

open Text

/-- The switches that matter to documents: optional values may lack their wrapper, groups
inside variants may lack brackets of their own, and records must begin with their name. -/
structure Dialect where
  implicitSome : Bool
  unwrapVariants : Bool
  explicitNames : Bool

namespace Dialect

def plain : Dialect := ⟨false, false, false⟩

def union (first second : Dialect) : Dialect :=
  ⟨first.implicitSome || second.implicitSome, first.unwrapVariants || second.unwrapVariants,
    first.explicitNames || second.explicitNames⟩

/-- The switch of a name.  One of them is about records of a single field, of which
documents have none. -/
def ofName? (name : String) : Option Dialect :=
  if name = "implicit_some" then some { plain with implicitSome := true }
  else if name = "unwrap_variant_newtypes" then some { plain with unwrapVariants := true }
  else if name = "explicit_struct_names" then some { plain with explicitNames := true }
  else if name = "unwrap_newtypes" then some plain
  else none

/-- Names of switches with commas between them, at least one, of at most a bounded
number. -/
def namesUpTo : Nat → Reader Dialect
  | 0 => failure
  | bound + 1 => do
    match ofName? (String.ofList (← Reader.name)) with
    | none => failure
    | some switch =>
      let another ← Reader.comma?
      if (← Reader.peek?).any isNameStart then
        if another then return switch.union (← namesUpTo bound) else failure
      else
        return switch

/-- Symbols in order, with blanks after each of them. -/
def symbols : List (List Char) → Reader Unit
  | [] => return
  | symbol :: rest => do
    Reader.take symbol
    Reader.blank
    symbols rest

/-- The switches at the front of a document, in at most a bounded number of groups. -/
def readUpTo : Nat → Reader Dialect
  | 0 => failure
  | bound + 1 => do
    Reader.blank
    if ← Reader.isNext ['#'] then
      symbols [['#'], ['!'], ['['], ['e', 'n', 'a', 'b', 'l', 'e'], ['(']]
      let switches ← namesUpTo ((← get).length + 1)
      Reader.blank
      symbols [[')'], [']']]
      return switches.union (← readUpTo bound)
    else
      return plain

def read : Reader Dialect := do
  readUpTo ((← get).length + 1)

end Dialect

/-- How deep a document may be nested. -/
def nestingLimit : Nat := 128

/-- A reader one level further down, where one is left. -/
def nested {β : Type} (levels : Nat) (body : Nat → Reader β) : Reader β :=
  match levels with
  | 0 => failure
  | levels + 1 => body levels

end Document

end Kinematics
