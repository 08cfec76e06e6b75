import Kinematics.Proofs.Document.RoundTrip

/-!
# Documents that are nested too deeply

The reader counts more levels than the writer, so some documents are written and cannot
be read back.  These are exactly the ones that need more levels than there are.
-/

namespace Kinematics

namespace Document

open Text Reader

variable {β κ : Type} {chars rest : List Char}

theorem run_group_zero {opening closing : Char} {item : Nat → Reader β} :
    (group opening closing 0 item).run chars = none :=
  run_bind_of_fails fun _ _ => rfl

theorem run_group_of_fails {levels : Nat} {item : Nat → Reader β} {closing : Char}
    {goods : List (List Char)} {values : List β} {bad : List Char} (opening : Char) (depth : Nat)
    (solid : isSolid closing)
    (items : List.Forall₂ (TakesItem (nested levels item) closing) goods values)
    (starts : startsOtherThan closing bad) (fails : (nested levels item).Fails bad)
    (others : List (List Char)) :
    (group opening closing (levels + 1) item).run
      (block opening closing depth (goods ++ bad :: others) ++ rest) = none := by
  obtain ⟨blanks, before, after, first, space, spaceAfter, text⟩ :=
    exists_itemLines_block opening closing depth (goods ++ bad :: others)
  rw [text, group, run_bind_of_run run_take_cons]
  change (separated closing (nested levels item) >>= _).run _ = _
  exact run_bind_of_none
    (run_separated_of_fails first space spaceAfter solid items starts fails others)

theorem exists_first_not {values : List β} {good : β → Bool} (notAll : values.all good = false) :
    ∃ goods bad others, values = goods ++ bad :: others ∧ (∀ value ∈ goods, good value) ∧
      good bad = false := by
  induction values with
  | nil => contradiction
  | cons value values induction =>
    cases isGood : good value with
    | false => exact ⟨[], value, values, rfl, by simp, isGood⟩
    | true =>
      rw [List.all_cons, isGood, Bool.true_and] at notAll
      obtain ⟨goods, bad, others, rfl, allGood, notGood⟩ := induction notAll
      exact ⟨value :: goods, bad, others, rfl, by simpa [isGood] using allGood, notGood⟩

/-- A list of which not all items are taken is not taken, as the first of the others is
reached. -/
theorem run_group_of_not_all {levels : Nat} {item : Nat → Reader β} {closing : Char}
    {values : List β} {text : β → List Char} {good : β → Bool} (opening : Char) (depth : Nat)
    (solid : isSolid closing) (starts : ∀ value, startsOtherThan closing (text value))
    (taken : ∀ value ∈ values, good value → (nested levels item).Takes (text value) value)
    (fails : ∀ value ∈ values, good value = false → (nested levels item).Fails (text value))
    (notAll : values.all good = false) :
    (group opening closing (levels + 1) item).run
      (block opening closing depth (values.map text) ++ rest) = none := by
  obtain ⟨goods, bad, others, rfl, allGood, notGood⟩ := exists_first_not notAll
  have items : List.Forall₂ (TakesItem (nested levels item) closing) (goods.map text) goods := by
    rw [List.forall₂_map_left_iff, List.forall₂_same]
    exact fun value member =>
      ⟨taken value (List.mem_append_left _ member) (allGood value member), starts value⟩
  rw [List.map_append, List.map_cons]
  exact run_group_of_fails opening depth solid items (starts bad)
    (fails bad (by simp) notGood) _

theorem run_numbers_of_few {format : BinaryFormat} {count levels : Nat} (few : levels < 2) :
    (numbers .plain format (count + 1) levels).run chars = none := by
  refine run_bind_of_fails fun _ chars => ?_
  obtain rfl | rfl : levels = 0 ∨ levels = 1 := by omega
  · rfl
  · -- within one level the brackets are entered, but no number
    exact run_bind_of_none (run_bind_of_fails fun _ _ => rfl)

theorem run_content_of_few {value : Value Double} {levels : Nat}
    (few : levels < 2 * contentLevels value) :
    (content .plain (typeNameOf value).toList levels).run chars = none := by
  cases value with
  | vector3 v =>
    rw [typeNameOf, content, String.ofList_toList]
    exact run_bind_of_none (run_numbers_of_few few)
  | color c =>
    rw [typeNameOf, content, String.ofList_toList]
    exact run_bind_of_none (run_numbers_of_few few)
  | pose p =>
    rw [typeNameOf, content, String.ofList_toList]
    exact run_bind_of_none (run_numbers_of_few few)
  | bool | int | double | string => contradiction

theorem run_value_of_few {value : Value Double} (defined : value.isDefined) {levels : Nat}
    (few : levels < valueLevels value) :
    (Document.value .plain levels).run (valueText value ++ rest) = none := by
  match levels with
  | 0 => rfl
  | 1 => exact run_bind_of_fails fun _ _ => rfl
  | levels + 2 =>
    rw [run_value_eq defined]
    apply run_bind_of_none
    apply run_content_of_few
    rw [valueLevels] at few
    omega

theorem optionalValue_fails {value : Value Double} (defined : value.isDefined) {levels : Nat}
    (few : levels < 1 + valueLevels value) :
    (optionalValue .plain levels).Fails (optionalText (some value)) := by
  intro rest _
  rw [run_optionalValue_eq]
  apply run_bind_of_none
  cases levels with
  | zero => rfl
  | succ levels => exact run_value_of_few defined (by omega)

theorem namedValue_fails {entry : String × Value Double} (defined : entry.2.isDefined)
    {levels : Nat} (few : levels < 1 + valueLevels entry.2) :
    (nested levels (namedValue .plain)).Fails (namedValueText entry) := by
  intro rest _
  cases levels with
  | zero => rfl
  | succ levels =>
    refine (run_entry (run_string _ _) (startsSolid_valueText entry.2)).trans ?_
    exact run_bind_of_none (run_value_of_few defined (by omega))

theorem attributes_fails {attributes : Attributes Double} {levels : Nat}
    (defined : attributes.entries.all fun entry => entry.2.isDefined)
    (few : (attributes.entries.all fun entry => decide (1 + valueLevels entry.2 ≤ levels)) = false)
    (depth : Nat) :
    (Document.attributes .plain (levels + 1)).run (attributesText depth attributes ++ rest) =
      none := by
  apply run_bind_of_none
  refine run_group_of_not_all '\x7b' depth (by rfl) (fun _ => rfl) (fun entry member good => ?_)
    (fun entry member bad => ?_) few
  · exact takes_namedValue (List.all_eq_true.mp defined entry member) (of_decide_eq_true good)
  · exact namedValue_fails (List.all_eq_true.mp defined entry member)
      (Nat.lt_of_not_le (of_decide_eq_false bad))

theorem run_attributes_zero :
    (Document.attributes .plain 0).run chars = none :=
  run_bind_of_none run_group_zero

section Fields

variable {child : Reader (Element Double)} {levels : Nat}

/-- An element of which a field is not read. -/
theorem run_elementWith_of_fails {goods : List (List Char)} {name text : List Char}
    {fields : List ElementField} (depth : Nat)
    (items : List.Forall₂ (TakesItem (nested (levels + 1) (namedField child)) ')') goods fields)
    (plain : isPlainName name) (starts : startsOtherThan ')' name)
    (solid : ∀ rest, startsSolid (text ++ rest))
    (fails : (elementField .plain child levels name).Fails text) (others : List (List Char)) :
    (elementWith .plain (levels + 2) child).run
      (block '(' ')' depth (goods ++ fieldText name text :: others) ++ rest) = none := by
  have startsField : startsOtherThan ')' (fieldText name text) := by
    obtain ⟨c, tail, rfl, -⟩ := exists_of_startsOtherThan starts
    exact starts
  apply run_bind_of_none
  rw [run_record]
  exact run_group_of_fails '(' depth rfl items startsField
    (fun rest ends => (run_namedField plain (solid rest)).trans (fails rest ends)) others

/-- An element of which an attribute, the value or a child needs more levels. -/
theorem run_elementWith_of_unreadable {element : Element Double} {good : Element Double → Bool}
    (depth : Nat) (defined : element.isDefined)
    (taken : ∀ child' ∈ element.children, good child' →
      (nested levels fun _ => child).Takes (elementText (depth + 2) child') child')
    (fails : ∀ child' ∈ element.children, good child' = false →
      (nested levels fun _ => child).Fails (elementText (depth + 2) child'))
    (unreadable : (element.attributes.entries.all (fun entry =>
          decide (1 + valueLevels entry.2 ≤ levels)) &&
        element.value.all (fun value => decide (1 + valueLevels value ≤ levels + 1)) &&
        element.children.all good) = false) :
    (elementWith .plain (levels + 3) child).run (elementText depth element ++ rest) = none := by
  obtain ⟨kind, attributes, value, children⟩ := element
  simp only [Element.isDefined, Bool.and_eq_true] at defined
  obtain ⟨⟨definedAttributes, definedValue⟩, -⟩ := defined
  rw [elementText, elementTexts_eq_map]
  cases attributesFit : attributes.entries.all fun entry =>
      decide (1 + valueLevels entry.2 ≤ levels) with
  | false =>
    refine run_elementWith_of_fails depth (.cons (takesItem_kind kind) .nil) (by decide) rfl
      (fun _ => startsSolid_block _ _ rfl) (fun rest _ => ?_) _
    rw [elementField, String.ofList_toList]
    exact run_bind_of_none (attributes_fails definedAttributes attributesFit _)
  | true =>
    have attributesTaken : TakesItem (nested (levels + 2) (namedField child)) ')' _ _ :=
      takesItem_attributes (depth + 1) definedAttributes attributesFit
    cases valueFits : value.all fun value => decide (1 + valueLevels value ≤ levels + 1) with
    | false =>
      refine run_elementWith_of_fails depth
        (.cons (takesItem_kind kind) (.cons attributesTaken .nil)) (by decide) rfl
        (fun _ => startsSolid_optionalText value) (fun rest ends => ?_) _
      rw [elementField, String.ofList_toList]
      cases value with
      | none => contradiction
      | some value =>
        exact run_bind_of_none (optionalValue_fails definedValue
          (Nat.lt_of_not_le (of_decide_eq_false valueFits)) rest ends)
    | true =>
      rw [attributesFit, valueFits, Bool.true_and, Bool.true_and] at unreadable
      refine run_elementWith_of_fails depth (.cons (takesItem_kind kind)
        (.cons attributesTaken (.cons (takesItem_value definedValue valueFits) .nil)))
        (by decide) rfl (fun _ => startsSolid_block _ _ rfl) (fun rest _ => ?_) _
      rw [elementField, String.ofList_toList]
      exact run_bind_of_none (run_group_of_not_all '[' _ rfl
        (fun child' => startsOtherThan_elementText _ child' (by decide)) taken fails unreadable)

/-- An element has attributes and so takes three levels at least. -/
theorem run_elementWith_of_few (depth : Nat) (element : Element Double) (few : levels < 3) :
    (elementWith .plain levels child).run (elementText depth element ++ rest) = none := by
  obtain ⟨kind, attributes, value, children⟩ := element
  rw [elementText]
  obtain rfl | rfl | rfl : levels = 0 ∨ levels = 1 ∨ levels = 2 := by omega
  · exact run_bind_of_none ((run_record _ depth 0 _).trans run_group_zero)
  · apply run_bind_of_none
    rw [run_record]
    exact run_group_of_fails '(' depth rfl .nil rfl (fun _ _ => rfl) _
  · refine run_elementWith_of_fails depth (.cons (takesItem_kind kind) .nil) (by decide) rfl
      (fun _ => startsSolid_block _ _ rfl) (fun rest _ => ?_) _
    rw [elementField, String.ofList_toList]
    exact run_bind_of_none run_attributes_zero

end Fields

theorem element_of_few {levels : Nat} (few : levels < 4) :
    Document.element .plain levels = elementWith .plain levels failure := by
  rw [Document.element]
  rintro spare rfl
  omega

theorem not_fits_of_unreadable {element : Element Double} {levels : Nat}
    (good : Element Double → Bool) (unreadable : elementReadable (levels + 3) element = false)
    (goodReadable : ∀ child, good child → 1 ≤ levels ∧ elementReadable (levels - 1) child) :
    (element.attributes.entries.all (fun entry => decide (1 + valueLevels entry.2 ≤ levels)) &&
      element.value.all (fun value => decide (1 + valueLevels value ≤ levels + 1)) &&
      element.children.all good) = false := by
  rw [Bool.eq_false_iff] at unreadable ⊢
  intro fits
  simp only [Bool.and_eq_true, List.all_eq_true, Option.all_eq_true, decide_eq_true_eq] at fits
  obtain ⟨⟨attributes, value⟩, children⟩ := fits
  refine unreadable (elementReadable_iff.mpr ⟨by omega, fun entry member => ?_,
    fun value' member => ?_, fun child member => ?_⟩)
  · have enough := attributes entry member
    omega
  · have enough := value value' member
    omega
  · obtain ⟨some, readable⟩ := goodReadable child (children child member)
    exact ⟨by omega, readable⟩

/-- An element is not read back within fewer levels than it needs. -/
theorem run_element_of_unreadable {element : Element Double} (defined : element.isDefined)
    {levels : Nat} (unreadable : elementReadable levels element = false) (depth : Nat)
    (rest : List Char) :
    (Document.element .plain levels).run (elementText depth element ++ rest) = none := by
  induction levels using Nat.strongRecOn generalizing element depth rest with
  | ind levels induction =>
    by_cases few : levels < 3
    · rw [element_of_few (by omega)]
      exact run_elementWith_of_few depth element few
    · obtain ⟨levels, rfl⟩ := Nat.exists_eq_add_of_le' (Nat.le_of_not_lt few)
      cases levels with
      | zero =>
        -- the list of the children is entered, but no place in it
        have notFits := not_fits_of_unreadable (fun _ => false) unreadable (by simp)
        rw [element_of_few (by omega)]
        exact run_elementWith_of_unreadable depth defined (by simp) (fun _ _ _ _ _ => rfl) notFits
      | succ levels =>
        have notFits := not_fits_of_unreadable (elementReadable levels) unreadable (by simp)
        refine run_elementWith_of_unreadable depth defined (fun child member readable rest _ => ?_)
          (fun child member unreadable rest _ => ?_) notFits
        · exact run_element (Element.isDefined_of_mem_children defined member) readable _ rest
        · exact induction levels (by omega) (Element.isDefined_of_mem_children defined member)
            unreadable _ rest

theorem whole?_of_none {body : Dialect → Nat → Reader β} {text : List Char}
    (starts : startsOtherThan '#' text) (failed : (body .plain nestingLimit).run text = none) :
    whole? body (String.ofList text) = none := by
  rw [whole?, String.toList_ofList, run_bind_of_run (run_read starts), run_bind_of_none failed]

end Document

open Document Text in
/-- Of the documents that are written, exactly those within the limit of the reader are read
back. -/
theorem Element.ofText?_eq_some_iff {element : Element Double} (defined : element.isDefined)
    {text : String} (written : element.toText? = some text) :
    Element.ofText? text = some element ↔ elementReadable nestingLimit element := by
  have isText : text = String.ofList (elementText 0 element) := by
    rw [toText?] at written
    split_ifs at written
    exact (Option.some.inj written).symm
  have starts : startsOtherThan '#' (elementText 0 element) :=
    startsOtherThan_elementText 0 element (by decide)
  rw [isText]
  constructor
  · intro read
    by_contra unreadable
    have failed := run_element_of_unreadable defined (Bool.eq_false_iff.mpr unreadable) 0 []
    rw [List.append_nil] at failed
    rw [Element.ofText?, whole?_of_none starts failed] at read
    contradiction
  · intro readable
    have taken := run_element defined readable 0 []
    rw [List.append_nil] at taken
    exact whole?_of_run starts taken

end Kinematics
