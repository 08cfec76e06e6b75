import Kinematics.Document.Value

/-!
# Document elements

A document is a tree of elements.  An element has a kind, attributes with distinct
names in the order they were first set, possibly a value, and child elements in order.
A named value of an element is an attribute or, where there is no such attribute, the
value of the first child of that kind.
-/

namespace Kinematics

/-- Values under distinct names, in the order the names were first set. -/
structure Attributes (α : Type) where
  entries : List (String × Value α)
  distinct : (entries.map Prod.fst).Nodup

namespace Attributes

variable {α : Type}

instance [BEq α] : BEq (Attributes α) where
  beq left right := left.entries == right.entries

def empty : Attributes α := ⟨[], List.nodup_nil⟩

instance : Inhabited (Attributes α) := ⟨empty⟩

def get? (attributes : Attributes α) (name : String) : Option (Value α) :=
  attributes.entries.lookup name

/-- Entries after one has been set: in its old place if the name was there. -/
def setEntry (name : String) (value : Value α) :
    List (String × Value α) → List (String × Value α)
  | [] => [(name, value)]
  | entry :: rest =>
    if entry.1 = name then (name, value) :: rest else entry :: setEntry name value rest

theorem map_fst_setEntry (name : String) (value : Value α)
    (entries : List (String × Value α)) :
    (setEntry name value entries).map Prod.fst =
      if name ∈ entries.map Prod.fst then entries.map Prod.fst
      else entries.map Prod.fst ++ [name] := by
  induction entries with
  | nil => simp [setEntry]
  | cons entry rest induction =>
    by_cases same : entry.1 = name
    · simp [setEntry, same]
    · have other : ¬name = entry.1 := fun equal => same equal.symm
      by_cases later : name ∈ rest.map Prod.fst
      · simp only [setEntry, same, if_false, List.map_cons, induction, later, if_true,
          List.mem_cons, or_true]
      · simp only [setEntry, same, if_false, List.map_cons, induction, later,
          List.mem_cons, other, or_self, List.cons_append]

theorem nodup_setEntry {entries : List (String × Value α)} (name : String) (value : Value α)
    (distinct : (entries.map Prod.fst).Nodup) :
    ((setEntry name value entries).map Prod.fst).Nodup := by
  rw [map_fst_setEntry]
  split
  · exact distinct
  · rename_i absent
    exact List.nodup_append.mpr
      ⟨distinct, by simp, fun first member second only => by
        rw [List.mem_singleton.mp only]
        exact fun equal => absent (equal ▸ member)⟩

/-- The attributes after one has been set.  A name keeps its first place. -/
def set (attributes : Attributes α) (name : String) (value : Value α) : Attributes α :=
  ⟨setEntry name value attributes.entries, nodup_setEntry name value attributes.distinct⟩

def map {β : Type} (convert : α → β) (attributes : Attributes α) : Attributes β :=
  ⟨attributes.entries.map fun entry => (entry.1, entry.2.map convert), by
    simpa only [List.map_map, Function.comp_def] using attributes.distinct⟩

def ofList (entries : List (String × Value α)) : Attributes α :=
  entries.foldl (fun attributes entry => attributes.set entry.1 entry.2) empty

end Attributes

/-- A node of a document. -/
structure Element (α : Type) where
  kind : String
  attributes : Attributes α
  value : Option (Value α)
  children : List (Element α)
  deriving BEq

namespace Element

variable {α : Type}

def ofKind (kind : String) : Element α := ⟨kind, .empty, none, []⟩

instance : Inhabited (Element α) := ⟨ofKind ""⟩

mutual

def map {β : Type} (convert : α → β) : Element α → Element β
  | ⟨kind, attributes, value, children⟩ =>
    ⟨kind, attributes.map convert, value.map (·.map convert), mapAll convert children⟩

def mapAll {β : Type} (convert : α → β) : List (Element α) → List (Element β)
  | [] => []
  | element :: rest => element.map convert :: mapAll convert rest

end

def elements (element : Element α) (kind : String) : List (Element α) :=
  element.children.filter (·.kind == kind)

def first? (element : Element α) (kind : String) : Option (Element α) :=
  element.children.find? (·.kind == kind)

def has (element : Element α) (kind : String) : Bool :=
  element.children.any (·.kind == kind)

/-- The value under a name: an attribute or else the value of the first child of that
kind.  A first child without a value hides later ones. -/
def lookup? (element : Element α) (name : String) : Option (Value α) :=
  (element.attributes.get? name).or ((element.first? name).bind Element.value)

/-- The value under a name, read as a type.  A value of another type hides children of
that kind. -/
def read? {β : Type} (element : Element α) (view : Value α → Option β) (name : String) :
    Option β :=
  (element.lookup? name).bind view

def readD {β : Type} (element : Element α) (view : Value α → Option β) (name : String)
    (default : β) : β :=
  (element.read? view name).getD default

def name? (element : Element α) : Option String :=
  element.read? Value.toString? "name"

/-- A pose together with the name of the frame it is given in, empty if none is named. -/
structure LocatedPose (α : Type) where
  pose : Pose α
  frame : String

/-- The pose of an element, from its first `pose` child.  The frame is named by
`relative_to`, or by `frame` in older documents. -/
def locatedPose? [Scalar α] (element : Element α) : Option (LocatedPose α) :=
  (element.first? "pose").map fun child =>
    { pose := (child.value.bind Value.toPose?).getD Pose.identity
      frame :=
        (child.read? Value.toString? "relative_to").getD (child.readD Value.toString? "frame" "") }

end Element

/-- Names in double underscores are reserved for implicit frames. -/
def isReservedName (name : String) : Bool :=
  decide (4 ≤ name.utf8ByteSize) && name.startsWith "__" && name.endsWith "__"

end Kinematics
