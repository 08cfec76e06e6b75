import Kinematics.Document.Write
import Kinematics.Proofs.Text.Number
import Kinematics.Proofs.Text.Quoted

/-!
# Values are read back

Groups, records and values, each read back from the text that is written for it.  The
reader counts the levels of a value otherwise than the writer: besides its place and its
content, every bracket and every item takes one.
-/

namespace Kinematics

namespace Document

open Text Reader

variable {β κ : Type} {rest : List Char} {lines : List (List Char)} {values : List β}

theorem isBlank_indentation (depth : Nat) : (indentation depth).all isBlankChar := by
  rw [indentation, List.all_eq_true]
  intro c member
  rw [List.eq_of_mem_replicate member]
  rfl

/-- The brackets, blanks and items of a block. -/
theorem exists_itemLines_block (opening closing : Char) (depth : Nat) (lines : List (List Char)) :
    ∃ blanks before after, blanks.all isBlankChar ∧ before.all isBlankChar ∧
      after.all isBlankChar ∧ ∀ rest, block opening closing depth lines ++ rest =
        opening :: (blanks ++ (itemLines before after lines ++ closing :: rest)) := by
  cases lines with
  | nil => exact ⟨[], [], [], rfl, rfl, rfl, fun _ => rfl⟩
  | cons line lines =>
    refine ⟨['\n'], indentation (depth + 1), indentation depth, rfl, isBlank_indentation _,
      isBlank_indentation _, fun rest => ?_⟩
    simp [block, itemLines]

theorem exists_block_cons (opening closing : Char) (depth : Nat) (lines : List (List Char))
    (rest : List Char) :
    ∃ inside, block opening closing depth lines ++ rest = opening :: inside := by
  obtain ⟨_, _, _, -, -, -, text⟩ := exists_itemLines_block opening closing depth lines
  exact ⟨_, text rest⟩

theorem run_group {item : Nat → Reader β} {closing : Char} (opening : Char) (depth levels : Nat)
    (solid : isSolid closing)
    (items : List.Forall₂ (TakesItem (nested levels item) closing) lines values) :
    (group opening closing (levels + 1) item).run (block opening closing depth lines ++ rest) =
      some (values, rest) := by
  obtain ⟨blanks, before, after, first, space, spaceAfter, text⟩ :=
    exists_itemLines_block opening closing depth lines
  rw [text, group, run_bind_of_run run_take_cons]
  change (separated closing (nested levels item) >>= _).run _ = _
  rw [run_bind_of_run (run_separated first space spaceAfter solid items),
    run_bind_of_run (run_blank_cons solid), run_bind_of_run run_take_cons]
  rfl

/-- A field of a record, or a named value, is as good as its content. -/
theorem run_entry {key : Reader κ} {content : κ → Reader β} {name text : List Char} {k : κ}
    (named : key.run (name ++ ':' :: ' ' :: (text ++ rest)) =
      some (k, ':' :: ' ' :: (text ++ rest)))
    (solid : startsSolid (text ++ rest)) :
    (entry key content).run (fieldText name text ++ rest) = (content k).run (text ++ rest) := by
  have space : blank.run (' ' :: (text ++ rest)) = some ((), text ++ rest) := by
    rw [← List.singleton_append, run_blank_append (by rfl), run_blank_of_solid solid]
  rw [fieldText, List.append_assoc, List.append_assoc, List.cons_append, List.singleton_append,
    entry, run_bind_of_run named, run_bind_of_run (run_blank_cons (by rfl)),
    run_bind_of_run run_take_cons, run_bind_of_run space]

theorem run_record {field : Nat → List Char → Reader β} (name : List Char) (depth levels : Nat)
    (lines : List (List Char)) :
    (record .plain name levels field).run (block '(' ')' depth lines ++ rest) =
      (group '(' ')' levels fun levels => entry Reader.name (field levels)).run
        (block '(' ')' depth lines ++ rest) := by
  obtain ⟨inside, text⟩ := exists_block_cons '(' ')' depth lines rest
  have noName : peek?.run ('(' :: inside) = some (some '(', '(' :: inside) := rfl
  rw [text, record, run_bind_of_run noName]
  change (blank >>= _).run _ = _
  rw [run_bind_of_run (run_blank_cons (by rfl))]

/-- A record that begins with its name is a group of fields. -/
theorem run_record_named {field : Nat → List Char → Reader β} {name : List Char}
    (plain : isPlainName name) (depth levels : Nat) (lines : List (List Char)) :
    (record .plain name levels field).run (name ++ (block '(' ')' depth lines ++ rest)) =
      (group '(' ')' levels fun levels => entry Reader.name (field levels)).run
        (block '(' ')' depth lines ++ rest) := by
  obtain ⟨inside, text⟩ := exists_block_cons '(' ')' depth lines rest
  have ahead : peek?.run (name ++ '(' :: inside) =
      some ((name ++ '(' :: inside).head?, name ++ '(' :: inside) := rfl
  have begins : (name ++ '(' :: inside).head?.any isNameContinue := by
    cases name with
    | nil => contradiction
    | cons first tail =>
        simp only [isPlainName, List.all_cons, Bool.and_eq_true] at plain
        exact plain.1.2.1
  rw [text, record, run_bind_of_run ahead, if_pos begins,
    run_bind_of_run (run_name plain (by rfl)), if_pos (beq_self_eq_true name),
    run_bind_of_run (run_blank_cons (by rfl))]

theorem takes_boolean (value : Bool) :
    boolean.Takes (if value then "true" else "false").toList value := by
  intro rest ends
  cases value with
  | true => exact run_if_of_true (run_word?_of_endsItem ['t', 'r', 'u', 'e'] ends)
  | false =>
    have notTrue : (word? ['t', 'r', 'u', 'e']).run (['f', 'a', 'l', 's', 'e'] ++ rest) =
        some (false, ['f', 'a', 'l', 's', 'e'] ++ rest) :=
      run_word?_of_apart (by simp [List.isPrefixOf])
    exact (run_if_of_false notTrue).trans
      (run_if_of_true (run_word?_of_endsItem ['f', 'a', 'l', 's', 'e'] ends))

theorem run_numbers {format : BinaryFormat} (usual : format.IsUsual) {words : List (Word format)}
    (defined : words.all Word.isDefined) (levels : Nat) :
    (numbers .plain format words.length (levels + 2)).run
      (numbersText (words.map Layout.document.renderWord) ++ rest) = some (words, rest) := by
  have items : List.Forall₂ (TakesItem (nested (levels + 1) fun _ => Reader.float format) ')')
      ((words.map Layout.document.renderWord).map String.toList) words := by
    rw [List.map_map, List.forall₂_map_left_iff, List.forall₂_same]
    exact fun word member => takesItem_float usual (List.all_eq_true.mp defined word member)
  have taken : (exactly (nested (levels + 1) fun _ => Reader.float format) words.length).run
      ([',', ' '].intercalate ((words.map Layout.document.renderWord).map String.toList) ++
        ')' :: rest) = some (words, ')' :: rest) := by
    simpa only [List.length_map] using run_exactly items
  rw [numbersText, List.cons_append, List.cons_append, List.append_assoc, List.singleton_append,
    numbers]
  change (take ['('] >>= _).run _ = _
  rw [run_bind_of_run run_take_cons]
  change (exactly _ _ >>= _).run _ = _
  rw [run_bind_of_run taken, run_bind_of_run (run_blank_cons (by rfl))]
  change (take [')'] >>= _).run _ = _
  rw [run_bind_of_run run_take_cons]
  rfl

end Document

open Document Text

namespace Value

/-- Whether all numbers of a value are defined. -/
def isDefined : Value Double → Bool
  | .double value => value.isDefined
  | .vector3 value => value.toList.all Word.isDefined
  | .color value => value.toList.all Word.isDefined
  | .pose value => value.toList.all Word.isDefined
  | _ => true

end Value

namespace Document

open Reader

variable {rest : List Char}

theorem holds_toInt (n : Int64) : (IntegerKind.signed 64).holds n.toInt := by
  have lower := n.le_toInt
  have upper := n.toInt_lt
  simp only [IntegerKind.holds, IntegerKind.signed, Bool.and_eq_true]
  norm_num at lower upper ⊢
  omega

theorem takes_content {value : Value Double} (defined : value.isDefined) (levels : Nat) :
    (content .plain (typeNameOf value).toList (2 * contentLevels value + levels)).Takes
      (contentText value) value := by
  intro rest ends
  cases value with
  | bool b =>
    have taken := takes_boolean b rest ends
    rw [typeNameOf, content, String.ofList_toList, contentText]
    simp only
    rw [run_bind_of_run taken]
    rfl
  | int n =>
    have taken := takes_integer (holds_toInt n) rest ends
    rw [typeNameOf, content, String.ofList_toList, contentText, toList_toString_int]
    simp only
    rw [run_bind_of_run taken, Int64.ofInt_toInt]
    rfl
  | double word =>
    have taken := (takesItem_float BinaryFormat.isUsual_binary64 defined).taken rest ends
    rw [typeNameOf, content, String.ofList_toList, contentText]
    simp only
    rw [run_bind_of_run taken]
    rfl
  | string text =>
    rw [typeNameOf, content, String.ofList_toList, contentText]
    simp only
    rw [run_bind_of_run (run_string _ _), String.ofList_toList]
    rfl
  | vector3 v =>
    have taken : (numbers .plain .binary64 3 (levels + 2)).run
        (numbersText (v.toList.map Layout.document.renderWord) ++ rest) = some (v.toList, rest) :=
      run_numbers BinaryFormat.isUsual_binary64 defined levels
    rw [typeNameOf, content, String.ofList_toList, contentText, contentLevels, Nat.add_comm]
    simp only
    rw [run_bind_of_run taken]
    rfl
  | color c =>
    have taken : (numbers .plain .binary32 4 (levels + 2)).run
        (numbersText (c.toList.map Layout.document.renderWord) ++ rest) = some (c.toList, rest) :=
      run_numbers BinaryFormat.isUsual_binary32 defined levels
    rw [typeNameOf, content, String.ofList_toList, contentText, contentLevels, Nat.add_comm]
    simp only
    rw [run_bind_of_run taken]
    rfl
  | pose p =>
    have taken : (numbers .plain .binary64 6 (levels + 2)).run
        (numbersText (p.toList.map Layout.document.renderWord) ++ rest) = some (p.toList, rest) :=
      run_numbers BinaryFormat.isUsual_binary64 defined levels
    rw [typeNameOf, content, String.ofList_toList, contentText, contentLevels, Nat.add_comm]
    simp only
    rw [run_bind_of_run taken]
    rfl

theorem startsSolid_integerText (value : Int) : startsSolid (integerText value ++ rest) := by
  obtain ⟨first, tail, split⟩ :=
    List.exists_cons_of_ne_nil (Decimal.digitChars_ne_nil value.natAbs)
  have member : first ∈ Decimal.digitChars value.natAbs := by simp [split]
  have digit : first.isDigit := Decimal.isDigit_of_mem_digitChars member
  rw [integerText, split]
  exact startsSolid_of_startsOtherThan (starts_of_digit _ tail digit) _

theorem startsSolid_contentText {value : Value Double} (defined : value.isDefined) :
    startsSolid (contentText value ++ rest) := by
  cases value with
  | bool b => cases b <;> rfl
  | int n =>
    rw [contentText, toList_toString_int]
    exact startsSolid_integerText n.toInt
  | double word =>
    exact startsSolid_of_startsOtherThan
      (takesItem_float BinaryFormat.isUsual_binary64 defined).starts _
  | string text => rfl
  | vector3 v => rfl
  | color c => rfl
  | pose p => rfl

theorem isPlainName_typeNameOf (value : Value Double) : isPlainName (typeNameOf value).toList := by
  cases value <;> (rw [typeNameOf]; decide)

theorem startsSolid_typeNameOf (value : Value Double) :
    startsSolid ((typeNameOf value).toList ++ rest) := by
  cases value <;> (rw [typeNameOf]; rfl)

/-- Levels that reading a value takes: one for its place, one for its variant, and for
numbers in brackets one each for the brackets and an item. -/
def valueLevels {α : Type} (value : Value α) : Nat :=
  2 + 2 * contentLevels value

/-- A value is as good as its content, if there are levels for the name of its type. -/
theorem run_value_eq {value : Value Double} (defined : value.isDefined) (levels : Nat) :
    (Document.value .plain (levels + 2)).run (valueText value ++ rest) =
      (do
        let value ← content .plain (typeNameOf value).toList levels
        let _ ← comma?
        take [')']
        return value : Reader (Value Double)).run (contentText value ++ ')' :: rest) := by
  have named : (nested (levels + 1) fun _ => Reader.name).run
      ((typeNameOf value).toList ++ '(' :: (contentText value ++ ')' :: rest)) =
        some ((typeNameOf value).toList, '(' :: (contentText value ++ ')' :: rest)) :=
    run_name (isPlainName_typeNameOf value) rfl
  rw [valueText, List.append_assoc, List.append_assoc, List.cons_append, List.singleton_append]
  change (blank >>= _).run _ = _
  rw [run_bind_of_run (run_blank_of_solid (startsSolid_typeNameOf value)), run_bind_of_run named,
    run_bind_of_run (run_blank_cons (by rfl)), run_bind_of_run run_take_cons,
    run_bind_of_run (run_blank_of_solid (startsSolid_contentText defined))]
  rfl

theorem run_value {value : Value Double} (defined : value.isDefined) {levels : Nat}
    (enough : valueLevels value ≤ levels) :
    (Document.value .plain levels).run (valueText value ++ rest) = some (value, rest) := by
  obtain ⟨spare, rfl⟩ := Nat.exists_eq_add_of_le' enough
  have split : spare + valueLevels value = 2 * contentLevels value + spare + 2 := by
    rw [valueLevels]
    omega
  have taken := takes_content defined spare (')' :: rest) rfl
  rw [split, run_value_eq defined, run_bind_of_run taken, run_bind_of_run run_comma?_bracket,
    run_bind_of_run run_take_cons]
  rfl

theorem startsSolid_valueText (value : Value Double) : startsSolid (valueText value ++ rest) := by
  rw [valueText, List.append_assoc, List.append_assoc]
  exact startsSolid_typeNameOf value

theorem run_optionalValue_eq (value : Value Double) (levels : Nat) :
    (optionalValue .plain levels).run (optionalText (some value) ++ rest) =
      (do
        let value ← nested levels (Document.value .plain)
        let _ ← comma?
        take [')']
        return some value : Reader (Option (Value Double))).run
          (valueText value ++ ')' :: rest) := by
  have text : optionalText (some value) ++ rest =
      ['S', 'o', 'm', 'e'] ++ '(' :: (valueText value ++ ')' :: rest) := by
    change ['S', 'o', 'm', 'e', '('] ++ valueText value ++ [')'] ++ rest = _
    simp
  have notNone : (word? ['N', 'o', 'n', 'e']).run
      (['S', 'o', 'm', 'e'] ++ '(' :: (valueText value ++ ')' :: rest)) =
        some (false, ['S', 'o', 'm', 'e'] ++ '(' :: (valueText value ++ ')' :: rest)) :=
    run_word?_of_apart (by simp [List.isPrefixOf])
  have isSome : (word? ['S', 'o', 'm', 'e']).run
      (['S', 'o', 'm', 'e'] ++ '(' :: (valueText value ++ ')' :: rest)) =
        some (true, '(' :: (valueText value ++ ')' :: rest)) := rfl
  rw [text, optionalValue, run_if_of_false notNone, run_bind_of_run isSome]
  change (blank >>= _).run _ = _
  rw [run_bind_of_run (run_blank_cons (by rfl)), run_bind_of_run run_take?_cons]
  change (blank >>= _).run _ = _
  rw [run_bind_of_run (run_blank_of_solid (startsSolid_valueText value))]

theorem takes_optionalValue {value : Option (Value Double)} (defined : value.all Value.isDefined)
    {levels : Nat} (enough : value.all fun value => decide (1 + valueLevels value ≤ levels)) :
    (optionalValue .plain levels).Takes (optionalText value) value := by
  intro rest ends
  cases value with
  | none => exact run_if_of_true (run_word?_of_endsItem ['N', 'o', 'n', 'e'] ends)
  | some value =>
    rw [Option.all_some] at defined enough
    obtain ⟨spare, rfl⟩ := Nat.exists_eq_add_of_le' (of_decide_eq_true enough)
    have split : spare + (1 + valueLevels value) = spare + valueLevels value + 1 := by omega
    have taken : (nested (spare + valueLevels value + 1) (Document.value .plain)).run
        (valueText value ++ ')' :: rest) = some (value, ')' :: rest) :=
      run_value defined (Nat.le_add_left _ _)
    rw [split, run_optionalValue_eq, run_bind_of_run taken, run_bind_of_run run_comma?_bracket,
      run_bind_of_run run_take_cons]
    rfl

end Document

namespace Attributes

variable {α : Type}

theorem setEntry_of_not_mem {name : String} {value : Value α} {entries : List (String × Value α)}
    (absent : name ∉ entries.map Prod.fst) :
    setEntry name value entries = entries ++ [(name, value)] := by
  induction entries with
  | nil => rfl
  | cons entry entries induction =>
    rw [List.map_cons, List.mem_cons, not_or] at absent
    rw [setEntry, if_neg (Ne.symm absent.1), induction absent.2, List.cons_append]

theorem entries_foldl_set (entries : List (String × Value α)) (attributes : Attributes α)
    (distinct : ((attributes.entries ++ entries).map Prod.fst).Nodup) :
    (entries.foldl (fun attributes entry => attributes.set entry.1 entry.2) attributes).entries =
      attributes.entries ++ entries := by
  induction entries generalizing attributes with
  | nil => simp
  | cons entry entries induction =>
    have absent : entry.1 ∉ attributes.entries.map Prod.fst := by
      intro member
      rw [List.map_append, List.nodup_append] at distinct
      exact distinct.2.2 _ member _ (by simp) rfl
    have grown : (attributes.set entry.1 entry.2).entries = attributes.entries ++ [entry] :=
      setEntry_of_not_mem absent
    rw [List.foldl_cons, induction _ (by simpa [grown] using distinct), grown, List.append_assoc,
      List.singleton_append]

/-- Attributes are read in their order, as none occurs twice. -/
theorem ofList_entries (attributes : Attributes α) : ofList attributes.entries = attributes := by
  have entries : (ofList attributes.entries).entries = attributes.entries :=
    entries_foldl_set attributes.entries .empty attributes.distinct
  cases attributes
  cases read : ofList _
  simp_all

end Attributes

namespace Document

open Reader

variable {rest : List Char}

def namedValue (dialect : Dialect) (levels : Nat) : Reader (String × Value Double) :=
  entry Reader.string fun name => return (String.ofList name, ← Document.value dialect levels)

def namedValueText (entry : String × Value Double) : List Char :=
  fieldText (quote entry.1.toList) (valueText entry.2)

theorem takes_namedValue {entry : String × Value Double} (defined : entry.2.isDefined)
    {levels : Nat} (enough : 1 + valueLevels entry.2 ≤ levels) :
    (nested levels (namedValue .plain)).Takes (namedValueText entry) entry := by
  intro rest _
  obtain ⟨spare, rfl⟩ := Nat.exists_eq_add_of_le' enough
  have split : spare + (1 + valueLevels entry.2) = spare + valueLevels entry.2 + 1 := by omega
  have taken : (Document.value .plain (spare + valueLevels entry.2)).run
      (valueText entry.2 ++ rest) = some (entry.2, rest) :=
    run_value defined (Nat.le_add_left _ _)
  rw [split]
  refine (run_entry (run_string _ _) (startsSolid_valueText entry.2)).trans ?_
  rw [run_bind_of_run taken, String.ofList_toList]
  rfl

theorem run_attributes {attributes : Attributes Double}
    (defined : attributes.entries.all fun entry => entry.2.isDefined) {levels : Nat}
    (enough : attributes.entries.all fun entry => decide (1 + valueLevels entry.2 ≤ levels))
    (depth : Nat) :
    (Document.attributes .plain (levels + 1)).run (attributesText depth attributes ++ rest) =
      some (attributes, rest) := by
  have items : List.Forall₂ (TakesItem (nested levels (namedValue .plain)) '\x7d')
      (attributes.entries.map namedValueText) attributes.entries := by
    rw [List.forall₂_map_left_iff, List.forall₂_same]
    intro entry member
    exact ⟨takes_namedValue (List.all_eq_true.mp defined entry member)
      (of_decide_eq_true (List.all_eq_true.mp enough entry member)), rfl⟩
  have read := congrArg (fun attributes => some (attributes, rest)) attributes.ofList_entries
  exact (run_bind_of_run (run_group '\x7b' depth levels rfl items)).trans read

end Document

end Kinematics
