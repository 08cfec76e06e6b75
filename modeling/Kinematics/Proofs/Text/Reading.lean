import Kinematics.Text.Reader
import Mathlib.Data.List.Forall2

/-!
# What readers take

Each reader of the library is told by what it leaves of the characters ahead.  Text that
was written is read piece by piece: a reader takes its piece, whatever comes after it, or
whatever comes after it that ends an item.
-/

namespace Kinematics

namespace Text

/-- Whether a character ends a blank. -/
def isSolid (c : Char) : Bool :=
  !isBlankChar c && c != '/'

/-- Whether no blank is ahead. -/
def startsSolid (chars : List Char) : Bool :=
  chars.head?.all isSolid

/-- Whether a text starts with a character that is neither a blank nor a given one. -/
def startsOtherThan (close : Char) (text : List Char) : Bool :=
  text.head?.any fun c => isSolid c && c != close

theorem exists_of_startsOtherThan {close : Char} {text : List Char}
    (starts : startsOtherThan close text) :
    ∃ c tail, text = c :: tail ∧ isSolid c ∧ c ≠ close := by
  cases text with
  | nil => contradiction
  | cons c tail => exact ⟨c, tail, rfl, by simpa [startsOtherThan] using starts⟩

theorem startsSolid_of_startsOtherThan {close : Char} {text : List Char}
    (starts : startsOtherThan close text) (rest : List Char) : startsSolid (text ++ rest) := by
  obtain ⟨c, tail, rfl, solid, -⟩ := exists_of_startsOtherThan starts
  exact solid

/-- Whether characters start with what follows an item. -/
def endsItem (chars : List Char) : Bool :=
  chars.head? == some ',' || chars.head? == some ')'

theorem exists_of_endsItem {chars : List Char} (ends : endsItem chars) :
    ∃ c rest, chars = c :: rest ∧ (c = ',' ∨ c = ')') := by
  cases chars with
  | nil => contradiction
  | cons c rest => exact ⟨c, rest, rfl, by simpa [endsItem] using ends⟩

namespace Reader

variable {β γ : Type} {chars rest text : List Char} {value : β}

/-- A reader takes a text as a value wherever an item may end after it. -/
def Takes (reader : Reader β) (text : List Char) (value : β) : Prop :=
  ∀ rest, endsItem rest → reader.run (text ++ rest) = some (value, rest)

/-- A reader fails on a text wherever an item may end after it. -/
def Fails (reader : Reader β) (text : List Char) : Prop :=
  ∀ rest, endsItem rest → reader.run (text ++ rest) = none

theorem run_bind_of_run {reader : Reader β} {next : β → Reader γ}
    (taken : reader.run chars = some (value, rest)) :
    (reader >>= next).run chars = (next value).run rest := by
  rw [StateT.run_bind, taken]
  rfl

theorem run_bind_of_none {reader : Reader β} {next : β → Reader γ}
    (failed : reader.run chars = none) : (reader >>= next).run chars = none := by
  rw [StateT.run_bind, failed]
  rfl

theorem run_bind_of_fails {reader : Reader β} {next : β → Reader γ}
    (failed : ∀ value chars, (next value).run chars = none) :
    (reader >>= next).run chars = none := by
  rw [StateT.run_bind]
  cases reader.run chars with
  | none => rfl
  | some taken => exact failed taken.1 taken.2

theorem run_if_of_true {test : Reader Bool} {yes no : Reader β}
    (taken : test.run chars = some (true, rest)) :
    (test >>= fun holds => if holds = true then yes else no).run chars = yes.run rest :=
  run_bind_of_run taken

theorem run_if_of_false {test : Reader Bool} {yes no : Reader β}
    (taken : test.run chars = some (false, rest)) :
    (test >>= fun holds => if holds = true then yes else no).run chars = no.run rest :=
  run_bind_of_run taken

@[simp]
theorem run_isNext : (isNext text).run chars = some (text.isPrefixOf chars, chars) := rfl

theorem run_take? : (take? text).run chars =
    if text.isPrefixOf chars then some (true, chars.drop text.length) else some (false, chars) := by
  rw [take?, run_bind_of_run run_isNext]
  split <;> rfl

@[simp]
theorem run_take?_cons {c d : Char} : (take? [c]).run (d :: rest) =
    if c = d then some (true, rest) else some (false, d :: rest) := by
  rw [run_take?]
  simp

@[simp]
theorem run_take_cons {c : Char} : (take [c]).run (c :: rest) = some ((), rest) := by
  have taken : (take? [c]).run (c :: rest) = some (true, rest) := by simp
  rw [take, run_bind_of_run taken]
  rfl

@[simp]
theorem run_takeWhile {belongs : Char → Bool} : (takeWhile belongs).run chars =
    some (chars.takeWhile belongs, chars.dropWhile belongs) := rfl

@[simp]
theorem run_anyChar_cons {c : Char} : anyChar.run (c :: rest) = some (c, rest) := rfl

theorem run_word? : (word? text).run chars =
    if text.isPrefixOf chars && !(chars.drop text.length).head?.any isNameContinue then
      some (true, chars.drop text.length)
    else some (false, chars) := by
  rw [word?, run_bind_of_run (StateT.run_get chars)]
  split <;> rfl

theorem dropBlank_cons {c : Char} (noComment : c ≠ '/') : dropBlank .between (c :: rest) =
    if isBlankChar c then dropBlank .between rest else some (c :: rest) := by
  rw [dropBlank]
  · rw [if_neg noComment]
  · intro _ slash
    exact absurd slash noComment
  · intro _ slash
    exact absurd slash noComment

theorem run_blank_of_solid (solid : startsSolid chars) : blank.run chars = some ((), chars) := by
  cases chars with
  | nil => rfl
  | cons c rest =>
    simp only [startsSolid, List.head?_cons, Option.all_some, isSolid, Bool.and_eq_true,
      Bool.not_eq_true', bne_iff_ne] at solid
    change (dropBlank .between (c :: rest)).map _ = _
    rw [dropBlank_cons solid.2, solid.1]
    rfl

theorem run_blank_cons {c : Char} (solid : isSolid c) :
    blank.run (c :: rest) = some ((), c :: rest) := run_blank_of_solid solid

theorem run_blank_append {blanks : List Char} (space : blanks.all isBlankChar) :
    blank.run (blanks ++ chars) = blank.run chars := by
  induction blanks with
  | nil => rfl
  | cons c blanks induction =>
    rw [List.all_cons, Bool.and_eq_true] at space
    have noComment : c ≠ '/' := by
      rintro rfl
      exact absurd space.1 (by decide)
    rw [← induction space.2]
    change (dropBlank .between (c :: (blanks ++ chars))).map _ = _
    rw [dropBlank_cons noComment, if_pos space.1]
    rfl

/-- A comma and the blanks after it. -/
theorem run_comma?_of_comma {blanks : List Char} (space : blanks.all isBlankChar)
    (solid : startsSolid rest) : comma?.run (',' :: (blanks ++ rest)) = some (true, rest) := by
  have after : blank.run (blanks ++ rest) = some ((), rest) := by
    rw [run_blank_append space, run_blank_of_solid solid]
  rw [comma?, run_bind_of_run (run_blank_of_solid (by rfl)), run_bind_of_run run_take?_cons]
  exact run_bind_of_run after

theorem run_comma?_of_no_comma {c : Char} (solid : startsSolid (c :: rest)) (other : c ≠ ',') :
    comma?.run (c :: rest) = some (false, c :: rest) := by
  have notTaken : (take? [',']).run (c :: rest) = some (false, c :: rest) := by
    rw [run_take?_cons, if_neg other.symm]
  rw [comma?, run_bind_of_run (run_blank_of_solid solid), run_bind_of_run notTaken]
  rfl

theorem run_comma?_bracket : comma?.run (')' :: rest) = some (false, ')' :: rest) :=
  run_comma?_of_no_comma rfl (by decide)

/-- Items up to a closing character do not depend on blanks in front of them. -/
theorem run_separatedWithin_append {close : Char} {item : Reader β} {blanks budget : List Char}
    (space : blanks.all isBlankChar) :
    (separatedWithin close item budget).run (blanks ++ chars) =
      (separatedWithin close item budget).run chars := by
  cases budget with
  | nil => rfl
  | cons c budget => rw [separatedWithin, StateT.run_bind, StateT.run_bind, run_blank_append space]

/-- Items that end in commas, with blanks around them. -/
def itemLines (before after : List Char) (lines : List (List Char)) : List Char :=
  lines.flatMap (fun line => before ++ line ++ [',', '\n']) ++ after

theorem itemLines_cons_append (before after line : List Char) (lines : List (List Char)) :
    itemLines before after (line :: lines) ++ rest =
      before ++ (line ++ ',' :: '\n' :: (itemLines before after lines ++ rest)) := by
  simp [itemLines]

/-- A reader takes a text as an item of a group, which starts neither with a blank nor as
the group is closed. -/
structure TakesItem (item : Reader β) (close : Char) (text : List Char) (value : β) : Prop where
  taken : item.Takes text value
  starts : startsOtherThan close text

theorem TakesItem.run_blank {item : Reader β} {close : Char}
    (isItem : TakesItem item close text value) :
    blank.run (text ++ rest) = some ((), text ++ rest) :=
  run_blank_of_solid (startsSolid_of_startsOtherThan isItem.starts _)

theorem run_isNext_of_startsOtherThan {close : Char} (starts : startsOtherThan close text)
    (rest : List Char) : (isNext [close]).run (text ++ rest) = some (false, text ++ rest) := by
  obtain ⟨c, tail, rfl, -, differs⟩ := exists_of_startsOtherThan starts
  have apart : (close == c) = false := by simpa using differs.symm
  simp [List.isPrefixOf, apart]

theorem exists_itemLines (rest : List Char) {before after : List Char} {lines : List (List Char)}
    {close : Char} (space : before.all isBlankChar) (spaceAfter : after.all isBlankChar)
    (solid : isSolid close) (starts : ∀ line ∈ lines.head?, startsOtherThan close line) :
    ∃ blanks next, blanks.all isBlankChar ∧ startsSolid next ∧
      itemLines before after lines ++ close :: rest = blanks ++ next := by
  cases lines with
  | nil => exact ⟨after, close :: rest, spaceAfter, solid, rfl⟩
  | cons line lines =>
    exact ⟨before, line ++ _, space, startsSolid_of_startsOtherThan (starts line rfl) _,
      itemLines_cons_append ..⟩

theorem startsOtherThan_of_head? {lines : List (List Char)} {values : List β} {item : Reader β}
    {close : Char} (items : List.Forall₂ (TakesItem item close) lines values) :
    ∀ line ∈ lines.head?, startsOtherThan close line := by
  intro line isFirst
  cases items with
  | nil => contradiction
  | cons first others =>
    obtain rfl := Option.some.inj isFirst
    exact first.starts

/-- The first item and its comma. -/
theorem run_separatedWithin_cons {before after line : List Char} {lines : List (List Char)}
    {item : Reader β} {close c : Char} {budget : List Char} (space : before.all isBlankChar)
    (spaceAfter : after.all isBlankChar) (solid : isSolid close)
    (first : TakesItem item close line value)
    (starts : ∀ line ∈ lines.head?, startsOtherThan close line) :
    (separatedWithin close item (c :: budget)).run
        (itemLines before after (line :: lines) ++ close :: rest) =
      ((separatedWithin close item budget).run
        (itemLines before after lines ++ close :: rest)).map fun taken =>
          (value :: taken.1, taken.2) := by
  obtain ⟨blanks, next, spaceNext, solidNext, split⟩ :=
    exists_itemLines rest space spaceAfter solid starts
  have spaceLine : ('\n' :: blanks).all isBlankChar := by
    rw [List.all_cons, spaceNext]
    rfl
  have comma : comma?.run (',' :: '\n' :: (blanks ++ next)) = some (true, next) :=
    run_comma?_of_comma spaceLine solidNext
  rw [itemLines_cons_append, run_separatedWithin_append space, split,
    run_separatedWithin_append spaceNext, separatedWithin, run_bind_of_run first.run_blank,
    run_bind_of_run (run_isNext_of_startsOtherThan first.starts _)]
  change (item >>= _).run _ = _
  rw [run_bind_of_run (first.taken _ rfl), run_bind_of_run comma]
  change (separatedWithin close item budget >>= _).run next = _
  rw [StateT.run_bind]
  cases (separatedWithin close item budget).run next with
  | none => rfl
  | some taken => rfl

theorem run_separatedWithin {before after : List Char} {lines : List (List Char)}
    {values : List β} {item : Reader β} {close : Char} (space : before.all isBlankChar)
    (spaceAfter : after.all isBlankChar) (solid : isSolid close)
    (items : List.Forall₂ (TakesItem item close) lines values) (budget : List Char)
    (enough : lines.length < budget.length) :
    (separatedWithin close item budget).run (itemLines before after lines ++ close :: rest) =
      some (values, close :: rest) := by
  induction items generalizing budget with
  | nil =>
    obtain ⟨_, budget, rfl⟩ := List.exists_cons_of_length_pos (Nat.zero_lt_of_lt enough)
    change (separatedWithin close item _).run (after ++ close :: rest) = _
    rw [run_separatedWithin_append spaceAfter, separatedWithin,
      run_bind_of_run (run_blank_cons solid), run_bind_of_run run_isNext]
    simp
  | @cons line value lines values first others induction =>
    obtain ⟨_, budget, rfl⟩ := List.exists_cons_of_length_pos (Nat.zero_lt_of_lt enough)
    have more := induction budget (Nat.lt_of_succ_lt_succ enough)
    rw [run_separatedWithin_cons space spaceAfter solid first (startsOtherThan_of_head? others),
      more]
    rfl

/-- One item that fails is enough. -/
theorem run_separatedWithin_of_fails {before after bad : List Char}
    {goods : List (List Char)} {values : List β} {item : Reader β} {close : Char}
    (space : before.all isBlankChar) (spaceAfter : after.all isBlankChar) (solid : isSolid close)
    (items : List.Forall₂ (TakesItem item close) goods values)
    (starts : startsOtherThan close bad) (fails : item.Fails bad) (others : List (List Char))
    (budget : List Char) :
    (separatedWithin close item budget).run
      (itemLines before after (goods ++ bad :: others) ++ close :: rest) = none := by
  induction items generalizing budget with
  | nil =>
    cases budget with
    | nil => rfl
    | cons c budget =>
      rw [List.nil_append, itemLines_cons_append, run_separatedWithin_append space,
        separatedWithin,
        run_bind_of_run (run_blank_of_solid (startsSolid_of_startsOtherThan starts _)),
        run_bind_of_run (run_isNext_of_startsOtherThan starts _)]
      exact run_bind_of_none (fails _ rfl)
  | @cons line value goods values first items induction =>
    cases budget with
    | nil => rfl
    | cons c budget =>
      have startsNext : ∀ line ∈ (goods ++ bad :: others).head?, startsOtherThan close line := by
        cases items with
        | nil => simpa using starts
        | cons second items => simpa using second.starts
      rw [List.cons_append, run_separatedWithin_cons space spaceAfter solid first startsNext,
        induction budget]
      rfl

theorem length_lt_itemLines (before after rest : List Char) (lines : List (List Char))
    (close : Char) : lines.length < (itemLines before after lines ++ close :: rest).length := by
  induction lines with
  | nil =>
    simp only [List.length_nil, List.length_append, List.length_cons]
    omega
  | cons line lines induction =>
    rw [itemLines_cons_append]
    simp only [List.length_append, List.length_cons] at induction ⊢
    omega

theorem run_separated {blanks before after : List Char} {lines : List (List Char)}
    {values : List β} {item : Reader β} {close : Char} (spaceFirst : blanks.all isBlankChar)
    (space : before.all isBlankChar) (spaceAfter : after.all isBlankChar) (solid : isSolid close)
    (items : List.Forall₂ (TakesItem item close) lines values) :
    (separated close item).run (blanks ++ (itemLines before after lines ++ close :: rest)) =
      some (values, close :: rest) := by
  have enough := length_lt_itemLines before after rest lines close
  rw [separated, run_bind_of_run (StateT.run_get _), run_separatedWithin_append spaceFirst]
  apply run_separatedWithin space spaceAfter solid items
  rw [List.length_append]
  exact Nat.lt_add_left _ enough

theorem run_separated_of_fails {blanks before after bad : List Char} {goods : List (List Char)}
    {values : List β} {item : Reader β} {close : Char} (spaceFirst : blanks.all isBlankChar)
    (space : before.all isBlankChar) (spaceAfter : after.all isBlankChar) (solid : isSolid close)
    (items : List.Forall₂ (TakesItem item close) goods values)
    (starts : startsOtherThan close bad) (fails : item.Fails bad) (others : List (List Char)) :
    (separated close item).run
      (blanks ++ (itemLines before after (goods ++ bad :: others) ++ close :: rest)) = none := by
  rw [separated, run_bind_of_run (StateT.run_get _), run_separatedWithin_append spaceFirst]
  exact run_separatedWithin_of_fails space spaceAfter solid items starts fails others _

theorem exists_intercalate (separator text : List Char) (texts : List (List Char)) :
    ∃ more, separator.intercalate (text :: texts) = text ++ more := by
  cases texts with
  | nil => exact ⟨[], by simp⟩
  | cons second texts => exact ⟨_, by rw [List.intercalate_cons_cons, List.append_assoc]⟩

theorem run_exactly {item : Reader β} {texts : List (List Char)} {values : List β}
    (items : List.Forall₂ (TakesItem item ')') texts values) :
    (exactly item texts.length).run ([',', ' '].intercalate texts ++ ')' :: rest) =
      some (values, ')' :: rest) := by
  induction items with
  | nil => rfl
  | @cons text value texts values first others induction =>
    cases others with
    | nil =>
      rw [List.intercalate_singleton, List.length_singleton, exactly,
        run_bind_of_run first.run_blank, run_bind_of_run (first.taken _ rfl),
        run_bind_of_run run_comma?_bracket]
      rfl
    | @cons second _ texts values isItem others =>
      obtain ⟨c, tail, rfl, solid, -⟩ := exists_of_startsOtherThan isItem.starts
      obtain ⟨more, split⟩ := exists_intercalate [',', ' '] (c :: tail) texts
      have comma : comma?.run ([',', ' '] ++
          ([',', ' '].intercalate ((c :: tail) :: texts) ++ ')' :: rest)) =
            some (true, [',', ' '].intercalate ((c :: tail) :: texts) ++ ')' :: rest) := by
        rw [split]
        exact run_comma?_of_comma (show [' '].all isBlankChar from rfl) solid
      rw [List.intercalate_cons_cons, List.append_assoc, List.append_assoc, List.length_cons,
        exactly, run_bind_of_run first.run_blank, run_bind_of_run (first.taken _ rfl),
        run_bind_of_run comma]
      change (exactly item _ >>= _).run _ = _
      rw [run_bind_of_run induction]
      rfl

/-- A name that cannot be taken for the beginning of a quote or of a raw name. -/
def isPlainName (text : List Char) : Bool :=
  text.head?.any isNameStart && text.all isNameContinue &&
    (['r', '#'] :: quoteOpenings).all fun opening =>
      !opening.isPrefixOf text && !text.isPrefixOf opening

theorem not_opening_of_isPlainName {opening : List Char} (plain : isPlainName text)
    (member : opening ∈ ['r', '#'] :: quoteOpenings) : ¬opening.isPrefixOf (text ++ rest) := by
  rw [isPlainName, Bool.and_eq_true, List.all_eq_true] at plain
  have apart := plain.2 opening member
  simp only [Bool.and_eq_true, Bool.not_eq_true', Bool.eq_false_iff, ne_eq,
    List.isPrefixOf_iff_prefix] at apart ⊢
  intro isPrefix
  rcases List.prefix_or_prefix_of_prefix isPrefix (List.prefix_append text rest) with left | right
  · exact apart.1 left
  · exact apart.2 right

theorem isRawNameChar_of_isNameContinue {c : Char} (belongs : isNameContinue c) :
    isRawNameChar c := by
  simp [isRawNameChar, belongs]

/-- A name before a character that belongs to no name. -/
theorem run_name {c : Char} (plain : isPlainName text) (ends : isRawNameChar c = false) :
    name.run (text ++ c :: rest) = some (text, c :: rest) := by
  have notQuoted : quoteOpenings.any (·.isPrefixOf (text ++ c :: rest)) = false :=
    List.any_eq_false.mpr fun opening member =>
      not_opening_of_isPlainName plain (List.mem_cons_of_mem _ member)
  have notRaw : ¬['r', '#'].isPrefixOf (text ++ c :: rest) :=
    not_opening_of_isPlainName plain List.mem_cons_self
  simp only [isPlainName, Bool.and_eq_true] at plain
  obtain ⟨⟨start, others⟩, -⟩ := plain
  have outside : isNameContinue c = false := by
    by_contra belongs
    rw [isRawNameChar_of_isNameContinue (by simpa using belongs)] at ends
    contradiction
  have started : (text ++ c :: rest).head?.any isNameStart := by
    cases text with
    | nil => contradiction
    | cons first tail => exact start
  have taken : (text ++ c :: rest).takeWhile isNameContinue = text := by
    rw [List.takeWhile_append_of_pos (by simpa using others)]
    simp [outside]
  have left : (text ++ c :: rest).dropWhile isNameContinue = c :: rest := by
    rw [List.dropWhile_append_of_pos (by simpa using others)]
    simp [outside]
  rw [name, run_bind_of_run (StateT.run_get _), notQuoted]
  change (if _ then _ else _ : Reader (List Char)).run _ = _
  rw [if_neg notRaw, started, left]
  change (if (some c).any isRawNameChar then _ else _ : Reader (List Char)).run _ = _
  rw [Option.any_some, ends]
  change some _ = _
  rw [taken, left]

end Reader

end Text

end Kinematics
