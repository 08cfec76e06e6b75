import Kinematics.Proofs.Document.Reading

/-!
# Documents are read back

Every element without undefined numbers is read back from its text as it was, as long as
its nesting stays within the limit of the reader, which is the narrower one.
-/

namespace Kinematics

namespace Element

mutual

/-- Whether all numbers of an element are defined. -/
def isDefined : Element Double → Bool
  | ⟨_, attributes, value, children⟩ =>
    attributes.entries.all (fun entry => entry.2.isDefined) && value.all Value.isDefined &&
      allDefined children

def allDefined : List (Element Double) → Bool
  | [] => true
  | element :: rest => element.isDefined && allDefined rest

end

theorem isDefined_of_allDefined {elements : List (Element Double)} (defined : allDefined elements)
    {element : Element Double} (member : element ∈ elements) : element.isDefined := by
  induction elements with
  | nil => contradiction
  | cons first rest induction =>
    rw [allDefined, Bool.and_eq_true] at defined
    rcases List.mem_cons.mp member with rfl | later
    · exact defined.1
    · exact induction defined.2 later

theorem isDefined_of_mem_children {element child : Element Double} (defined : element.isDefined)
    (member : child ∈ element.children) : child.isDefined := by
  obtain ⟨_, _, _, children⟩ := element
  rw [isDefined, Bool.and_eq_true] at defined
  exact isDefined_of_allDefined defined.2 member

end Element

namespace Document

open Text Reader

/-- Whether an element can be read within so many levels.  Its record, the place of a field
and the braces of the attributes take one each, and the children have four levels less. -/
def elementReadable {α : Type} (levels : Nat) (element : Element α) : Bool :=
  decide (3 ≤ levels) &&
    element.attributes.entries.all (fun entry => decide (4 + valueLevels entry.2 ≤ levels)) &&
    element.value.all (fun value => decide (3 + valueLevels value ≤ levels)) &&
    match levels with
    | levels + 4 => element.children.all (elementReadable levels)
    | _ => element.children.isEmpty

theorem elementReadable_iff {α : Type} {levels : Nat} {element : Element α} :
    elementReadable levels element ↔
      3 ≤ levels ∧ (∀ entry ∈ element.attributes.entries, 4 + valueLevels entry.2 ≤ levels) ∧
        (∀ value ∈ element.value, 3 + valueLevels value ≤ levels) ∧
          ∀ child ∈ element.children, 4 ≤ levels ∧ elementReadable (levels - 4) child := by
  by_cases many : 4 ≤ levels
  · obtain ⟨spare, rfl⟩ := Nat.exists_eq_add_of_le' many
    simp [elementReadable, and_assoc, Option.all_eq_true]
  · rw [elementReadable]
    · simp [and_assoc, many, List.eq_nil_iff_forall_not_mem, Option.all_eq_true]
    · rintro spare rfl
      omega

variable {rest : List Char}

theorem elementTexts_eq_map (depth : Nat) (elements : List (Element Double)) :
    elementTexts depth elements = elements.map (elementText depth) := by
  induction elements with
  | nil => rfl
  | cons element elements induction => rw [elementTexts, induction, List.map_cons]

theorem startsSolid_block {opening closing : Char} (depth : Nat) (lines : List (List Char))
    (solid : isSolid opening) : startsSolid (block opening closing depth lines ++ rest) := by
  obtain ⟨_, text⟩ := exists_block_cons opening closing depth lines rest
  rw [text]
  exact solid

theorem startsSolid_optionalText (value : Option (Value Double)) :
    startsSolid (optionalText value ++ rest) := by
  cases value <;> rfl

section Fields

variable {child : Reader (Element Double)} {levels : Nat}

def namedField (child : Reader (Element Double)) (levels : Nat) : Reader ElementField :=
  entry Reader.name (elementField .plain child levels)

theorem run_namedField {name text : List Char} (plain : isPlainName name)
    (solid : startsSolid (text ++ rest)) :
    (namedField child levels).run (fieldText name text ++ rest) =
      (elementField .plain child levels name).run (text ++ rest) :=
  run_entry (run_name plain rfl) solid

theorem takesItem_kind (kind : String) :
    TakesItem (nested (levels + 1) (namedField child)) ')'
      (fieldText "kind".toList (quote kind.toList)) (.kind kind) := by
  refine ⟨fun rest _ => ?_, rfl⟩
  refine (run_namedField (by decide) rfl).trans ?_
  rw [elementField, String.ofList_toList]
  simp only
  rw [run_bind_of_run (run_string _ _), String.ofList_toList]
  rfl

theorem takesItem_attributes {attributes : Attributes Double} (depth : Nat)
    (defined : attributes.entries.all fun entry => entry.2.isDefined)
    (enough : attributes.entries.all fun entry => decide (1 + valueLevels entry.2 ≤ levels)) :
    TakesItem (nested (levels + 2) (namedField child)) ')'
      (fieldText "attributes".toList (attributesText depth attributes))
      (.attributes attributes) := by
  refine ⟨fun rest _ => ?_, rfl⟩
  refine (run_namedField (by decide) (startsSolid_block _ _ rfl)).trans ?_
  rw [elementField, String.ofList_toList]
  exact run_bind_of_run (run_attributes defined enough depth)

theorem takesItem_value {value : Option (Value Double)} (defined : value.all Value.isDefined)
    (enough : value.all fun value => decide (1 + valueLevels value ≤ levels)) :
    TakesItem (nested (levels + 1) (namedField child)) ')'
      (fieldText "value".toList (optionalText value)) (.value value) := by
  refine ⟨fun rest ends => ?_, rfl⟩
  refine (run_namedField (by decide) (startsSolid_optionalText value)).trans ?_
  rw [elementField, String.ofList_toList]
  exact run_bind_of_run (takes_optionalValue defined enough rest ends)

theorem takesItem_children {lines : List (List Char)} {children : List (Element Double)}
    (depth : Nat)
    (taken : List.Forall₂ (TakesItem (nested levels fun _ => child) ']') lines children) :
    TakesItem (nested (levels + 2) (namedField child)) ')'
      (fieldText "children".toList (block '[' ']' depth lines)) (.children children) := by
  refine ⟨fun rest _ => ?_, rfl⟩
  refine (run_namedField (by decide) (startsSolid_block _ _ rfl)).trans ?_
  rw [elementField, String.ofList_toList]
  exact run_bind_of_run (run_group '[' depth levels rfl taken)

/-- An element is read back if its children are. -/
theorem run_elementWith {element : Element Double} (depth : Nat) (defined : element.isDefined)
    (attributes : element.attributes.entries.all fun entry =>
      decide (1 + valueLevels entry.2 ≤ levels))
    (value : element.value.all fun value => decide (1 + valueLevels value ≤ levels + 1))
    (children : List.Forall₂ (TakesItem (nested levels fun _ => child) ']')
      (element.children.map (elementText (depth + 2))) element.children) :
    (elementWith .plain (levels + 3) child).run (elementText depth element ++ rest) =
      some (element, rest) := by
  obtain ⟨kind, attributes', value', children'⟩ := element
  simp only [Element.isDefined, Bool.and_eq_true] at defined
  obtain ⟨⟨definedAttributes, definedValue⟩, -⟩ := defined
  have fields : List.Forall₂ (TakesItem (nested (levels + 2) (namedField child)) ')') _ _ :=
    .cons (takesItem_kind kind)
      (.cons (takesItem_attributes (depth + 1) definedAttributes attributes)
        (.cons (takesItem_value definedValue value)
          (.cons (takesItem_children (depth + 1) children) .nil)))
  rw [elementWith, elementText, elementTexts_eq_map]
  exact run_bind_of_run
    ((run_record _ depth _ _).trans (run_group '(' depth (levels + 2) rfl fields))

end Fields

theorem startsOtherThan_elementText (depth : Nat) (element : Element Double) {close : Char}
    (other : '(' ≠ close) : startsOtherThan close (elementText depth element) := by
  obtain ⟨_, _, _, _⟩ := element
  rw [elementText]
  exact bne_iff_ne.mpr other

/-- An element is read back within enough levels, whatever comes after it. -/
theorem run_element {element : Element Double} (defined : element.isDefined) {levels : Nat}
    (readable : elementReadable levels element) (depth : Nat) (rest : List Char) :
    (Document.element .plain levels).run (elementText depth element ++ rest) =
      some (element, rest) := by
  induction levels using Nat.strongRecOn generalizing element depth rest with
  | ind levels induction =>
    obtain ⟨three, attributes, value, children⟩ := elementReadable_iff.mp readable
    obtain ⟨spare, rfl⟩ := Nat.exists_eq_add_of_le' three
    have attributes' : element.attributes.entries.all fun entry =>
        decide (1 + valueLevels entry.2 ≤ spare) := by
      rw [List.all_eq_true]
      intro entry member
      have enough := attributes entry member
      exact decide_eq_true (by omega)
    have value' : element.value.all fun value => decide (1 + valueLevels value ≤ spare + 1) := by
      rw [Option.all_eq_true]
      intro value' member
      have enough := value value' member
      exact decide_eq_true (by omega)
    cases spare with
    | zero =>
      have noChildren : element.children = [] := by
        rw [List.eq_nil_iff_forall_not_mem]
        intro child member
        exact absurd (children child member).1 (by omega)
      exact run_elementWith depth defined attributes' value' (by rw [noChildren]; exact .nil)
    | succ levels =>
      refine run_elementWith depth defined attributes' value' ?_
      rw [List.forall₂_map_left_iff, List.forall₂_same]
      intro child member
      have readableChild := (children child member).2
      have definedChild := Element.isDefined_of_mem_children defined member
      rw [Nat.add_assoc, Nat.add_sub_cancel] at readableChild
      exact ⟨fun rest _ => induction levels (by omega) definedChild readableChild _ rest,
        startsOtherThan_elementText _ child (by decide)⟩

/-- What can be read within so many levels can be written within them. -/
theorem elementFits_of_elementReadable {α : Type} {element : Element α} {levels more : Nat}
    (readable : elementReadable levels element) (enough : levels ≤ more) :
    elementFits more element := by
  induction levels using Nat.strongRecOn generalizing element more with
  | ind levels induction =>
    obtain ⟨three, attributes, value, children⟩ := elementReadable_iff.mp readable
    obtain ⟨more, rfl⟩ := Nat.exists_eq_add_of_le' (three.trans enough)
    rw [elementFits]
    simp only [Bool.and_eq_true, List.all_eq_true, Option.all_eq_true, valueFits,
      decide_eq_true_eq]
    refine ⟨⟨fun entry member => ?_, fun value' member => ?_⟩, fun child member => ?_⟩
    · have needed := attributes entry member
      rw [valueLevels] at needed
      omega
    · have needed := value value' member
      rw [valueLevels] at needed
      omega
    · obtain ⟨four, readableChild⟩ := children child member
      exact induction (levels - 4) (by omega) readableChild (by omega)

theorem run_read {text : List Char} (starts : startsOtherThan '#' text) :
    Dialect.read.run text = some (.plain, text) := by
  have solid : startsSolid text := by simpa using startsSolid_of_startsOtherThan starts []
  have noSwitch : (isNext ['#']).run text = some (false, text) := by
    simpa using run_isNext_of_startsOtherThan starts []
  rw [Dialect.read, run_bind_of_run (StateT.run_get text), Dialect.readUpTo,
    run_bind_of_run (run_blank_of_solid solid), run_if_of_false noSwitch]
  rfl

/-- A text without switches in front is what its body is read as. -/
theorem whole?_of_run {β : Type} {body : Dialect → Nat → Reader β} {text : List Char} {value : β}
    (starts : startsOtherThan '#' text)
    (taken : (body .plain nestingLimit).run text = some (value, [])) :
    whole? body (String.ofList text) = some value := by
  rw [whole?, String.toList_ofList, run_bind_of_run (run_read starts), run_bind_of_run taken]
  rfl

end Document

open Document Text in
/-- A document is read back as it was written. -/
theorem Element.ofText?_toText? (element : Element Double) (defined : element.isDefined)
    (readable : elementReadable nestingLimit element) :
    ∃ text, element.toText? = some text ∧ Element.ofText? text = some element := by
  refine ⟨String.ofList (elementText 0 element), ?_, ?_⟩
  · rw [toText?, if_pos (elementFits_of_elementReadable readable le_rfl)]
  · have taken := run_element defined readable 0 []
    rw [List.append_nil] at taken
    exact whole?_of_run (startsOtherThan_elementText 0 element (by decide)) taken

namespace Element

/-- A link with a quote, a line break and a hidden character in its name, the least whole
number, a negative zero and an infinity, and a child with a pose and a color. -/
def signalMast : Element Double where
  kind := "link"
  attributes := ⟨[("name", .string "mast \"A\"\n\u200b"), ("mass", .double ⟨0x4025000000000000⟩),
    ("offset", .vector3 ⟨⟨0x8000000000000000⟩, ⟨0x7FF0000000000000⟩, ⟨0x3FB999999999999A⟩⟩),
    ("serial", .int (-9223372036854775808))], by decide⟩
  value := some (.bool true)
  children := [
    { kind := "lamp"
      attributes := ⟨[("tint", .color ⟨⟨0x3DCCCCCD⟩, ⟨0x00000001⟩, ⟨0xFF7FFFFF⟩, ⟨0x3F800000⟩⟩)],
        by decide⟩
      value := some (.pose ⟨⟨⟨0x0000000000000001⟩, ⟨0x7FEFFFFFFFFFFFFF⟩, ⟨0⟩⟩,
        ⟨⟨0⟩, ⟨0⟩, ⟨0xFFF0000000000000⟩⟩⟩)
      children := [] }]

open Document in
theorem ofText?_toText?_signalMast :
    signalMast.isDefined ∧ elementReadable nestingLimit signalMast ∧
      ∃ text, signalMast.toText? = some text ∧ Element.ofText? text = some signalMast := by
  have defined : signalMast.isDefined := by decide +kernel
  have readable : elementReadable nestingLimit signalMast := by decide +kernel
  exact ⟨defined, readable, ofText?_toText? signalMast defined readable⟩

end Element

end Kinematics
