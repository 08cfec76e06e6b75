import Kinematics.Proofs.Decimal.Shortest
import Kinematics.Proofs.Decimal.Words
import Kinematics.Proofs.Text.Reading
import Kinematics.Text.Number
import Mathlib.Data.List.TakeWhile

/-!
# Numbers are read back

The digits of a number are read as the number, with a point among them or not.  A
floating-point word is written with the shortest decimal, and this lies among the
decimals that are read as the word.
-/

namespace Kinematics

open Decimal

theorem Decimal.isDigit_of_mem_digitChars {n : Nat} {c : Char} (member : c ∈ digitChars n) :
    c.isDigit :=
  Nat.isDigit_of_mem_toDigits (by decide) (by decide) member

theorem Decimal.digitChars_ne_nil (n : Nat) : digitChars n ≠ [] :=
  Nat.toDigits_ne_nil

namespace Text

theorem digitsValue_digitChars (n : Nat) : digitsValue (digitChars n) = n :=
  Nat.ofDigitChars_toDigits (by decide) (by decide)

theorem digitsValue_append_zeros (digits : List Char) (count : Nat) :
    digitsValue (digits ++ List.replicate count '0') = 10 ^ count * digitsValue digits := by
  change Nat.ofDigitChars 10 (digits ++ _) 0 = 10 ^ count * Nat.ofDigitChars 10 digits 0
  rw [Nat.ofDigitChars_append, Nat.ofDigitChars_replicate_zero]

theorem digitsValue_zeros_append (digits : List Char) (count : Nat) :
    digitsValue (List.replicate count '0' ++ digits) = digitsValue digits := by
  change Nat.ofDigitChars 10 (_ ++ digits) 0 = Nat.ofDigitChars 10 digits 0
  rw [Nat.ofDigitChars_append, Nat.ofDigitChars_replicate_zero, Nat.mul_zero]

/-- A decimal with a point, as what is before and after it. -/
structure IsPointed (text : List Char) (decimal : Decimal) (whole places : List Char) : Prop where
  split : text = whole ++ '.' :: places
  nonempty : whole ≠ []
  wholeDigits : ∀ c ∈ whole, c.isDigit
  placesDigits : ∀ c ∈ places, c.isDigit
  value : (⟨digitsValue (whole ++ places), -places.length⟩ : Decimal).value = decimal.value

theorem isDigit_of_mem_zeros {count : Nat} {c : Char} (member : c ∈ List.replicate count '0') :
    c.isDigit := by
  rw [List.eq_of_mem_replicate member]
  rfl

theorem isPointed_of_nonneg {decimal : Decimal} (nonneg : 0 ≤ decimal.exponent) :
    IsPointed decimal.positional decimal
      (digitChars decimal.digits ++ List.replicate decimal.exponent.toNat '0') ['0'] where
  split := by
    rw [positional]
    simp [nonneg]
  nonempty := by simp [digitChars_ne_nil]
  wholeDigits c member := by
    rcases List.mem_append.mp member with digit | zero
    · exact isDigit_of_mem_digitChars digit
    · exact isDigit_of_mem_zeros zero
  placesDigits c member := isDigit_of_mem_zeros (show c ∈ List.replicate 1 '0' from member)
  value := by
    have zeros : digitChars decimal.digits ++ List.replicate decimal.exponent.toNat '0' ++ ['0'] =
        digitChars decimal.digits ++ List.replicate (decimal.exponent.toNat + 1) '0' := by
      rw [List.append_assoc, List.replicate_succ']
    have power : (10 : ℚ) ^ decimal.exponent = 10 ^ decimal.exponent.toNat := by
      rw [← zpow_natCast, Int.toNat_of_nonneg nonneg]
    rw [value, value, zeros, digitsValue_append_zeros, digitsValue_digitChars, power, pow_succ]
    push_cast
    norm_num
    ring

theorem exists_isPointed_of_neg {decimal : Decimal} (negative : decimal.exponent < 0) :
    ∃ whole places, IsPointed decimal.positional decimal whole places := by
  let padded :=
    List.replicate ((-decimal.exponent).toNat + 1 - (digitChars decimal.digits).length) '0' ++
      digitChars decimal.digits
  have long : (-decimal.exponent).toNat < padded.length := by
    simp only [padded, List.length_append, List.length_replicate]
    omega
  have digits : ∀ c ∈ padded, c.isDigit := by
    intro c member
    rcases List.mem_append.mp member with zero | digit
    · exact isDigit_of_mem_zeros zero
    · exact isDigit_of_mem_digitChars digit
  refine ⟨padded.take (padded.length - (-decimal.exponent).toNat),
    padded.drop (padded.length - (-decimal.exponent).toNat), ?_, ?_,
    fun c member => digits c (List.mem_of_mem_take member),
    fun c member => digits c (List.mem_of_mem_drop member), ?_⟩
  · rw [positional]
    simp [not_le_of_gt negative, padded]
  · rw [← List.length_pos_iff, List.length_take]
    omega
  · have places : ((padded.drop (padded.length - (-decimal.exponent).toNat)).length : Int) =
        -decimal.exponent := by
      rw [List.length_drop]
      omega
    rw [List.take_append_drop, places, neg_neg, digitsValue_zeros_append, digitsValue_digitChars]

theorem exists_isPointed (decimal : Decimal) :
    ∃ whole places, IsPointed decimal.positional decimal whole places := by
  by_cases nonneg : 0 ≤ decimal.exponent
  · exact ⟨_, _, isPointed_of_nonneg nonneg⟩
  · exact exists_isPointed_of_neg (lt_of_not_ge nonneg)

theorem splitSign_signChars {negative : Bool} {first : Char} {tail : List Char}
    (digit : first.isDigit) :
    splitSign (Layout.signChars negative ++ first :: tail) = (negative, first :: tail) := by
  cases negative with
  | true => rfl
  | false =>
    change splitSign (first :: tail) = _
    rw [splitSign]
    · rintro rest ⟨⟩
      contradiction
    · rintro rest ⟨⟩
      contradiction

theorem signedDecimal?_eq {whole places : List Char} (negative : Bool) (nonempty : whole ≠ [])
    (wholeDigits : ∀ c ∈ whole, c.isDigit) (placesDigits : ∀ c ∈ places, c.isDigit) :
    signedDecimal? (Layout.signChars negative ++ (whole ++ '.' :: places)) =
      some ⟨negative, ⟨digitsValue (whole ++ places), -places.length⟩⟩ := by
  obtain ⟨first, tail, rfl⟩ := List.exists_cons_of_ne_nil nonempty
  have sign : splitSign (Layout.signChars negative ++ (first :: tail ++ '.' :: places)) =
      (negative, first :: tail ++ '.' :: places) :=
    splitSign_signChars (wholeDigits first List.mem_cons_self)
  have allTaken : places.takeWhile Char.isDigit = places :=
    List.takeWhile_eq_self_iff.mpr placesDigits
  have noneLeft : places.dropWhile Char.isDigit = [] := List.dropWhile_eq_nil_iff.mpr placesDigits
  rw [signedDecimal?, sign]
  dsimp only
  rw [List.takeWhile_append_of_pos wholeDigits, List.dropWhile_append_of_pos wholeDigits,
    List.takeWhile_cons_of_neg (by decide), List.dropWhile_cons_of_neg (by decide)]
  simp only [allTaken, noneLeft, List.append_nil, zero_sub]
  rfl

theorem floatChar_of_digit {c : Char} (digit : c.isDigit) : isFloatChar c ∧ c ≠ '_' := by
  refine ⟨by simp [isFloatChar, digit], ?_⟩
  rintro rfl
  contradiction

theorem takeWhile_of_endsItem {text rest : List Char} {belongs : Char → Bool}
    (all : ∀ c ∈ text, belongs c) (comma : belongs ',' = false) (bracket : belongs ')' = false)
    (ends : endsItem rest) :
    (text ++ rest).takeWhile belongs = text ∧ (text ++ rest).dropWhile belongs = rest := by
  obtain ⟨c, rest, rfl, which⟩ := exists_of_endsItem ends
  have outside : belongs c = false := by
    obtain rfl | rfl := which
    · exact comma
    · exact bracket
  rw [List.takeWhile_append_of_pos all, List.dropWhile_append_of_pos all]
  simp [outside]

theorem dropUnderscores_eq {text : List Char} (allowed : Bool) (none : '_' ∉ text) :
    dropUnderscores allowed text = some text := by
  induction text generalizing allowed with
  | nil => rfl
  | cons c text induction =>
    rw [List.mem_cons, not_or] at none
    rw [dropUnderscores, induction _ none.2]
    · rfl
    · rintro rfl
      exact none.1 rfl

namespace Reader

variable {chars rest : List Char}

theorem run_word?_of_apart {word : List Char} (apart : ¬word.isPrefixOf chars) :
    (word? word).run chars = some (false, chars) := by
  rw [run_word?, Bool.eq_false_iff.mpr apart]
  rfl

theorem run_word?_of_endsItem (word : List Char) (ends : endsItem rest) :
    (word? word).run (word ++ rest) = some (true, rest) := by
  obtain ⟨c, rest, rfl, which⟩ := exists_of_endsItem ends
  have outside : isNameContinue c = false := by
    obtain rfl | rfl := which
    · rfl
    · rfl
  have isPrefix : word.isPrefixOf (word ++ c :: rest) :=
    List.isPrefixOf_iff_prefix.mpr (List.prefix_append _ _)
  rw [run_word?, isPrefix, List.drop_left, List.head?_cons, Option.any_some, outside]
  rfl

theorem not_prefix_of_endsItem {c : Char} {word : List Char} (comma : c ≠ ',') (bracket : c ≠ ')')
    (ends : endsItem rest) : ¬(c :: word).isPrefixOf rest := by
  obtain ⟨d, rest, rfl, which⟩ := exists_of_endsItem ends
  intro isPrefix
  simp only [List.isPrefixOf, Bool.and_eq_true, beq_iff_eq] at isPrefix
  obtain rfl | rfl := which
  · exact comma isPrefix.1
  · exact bracket isPrefix.1

theorem run_anyM_of_apart {names : List (List Char)} {spell : List Char → List Char}
    (apart : ∀ name ∈ names, ¬(spell name).isPrefixOf chars) :
    (names.anyM fun name => word? (spell name)).run chars = some (false, chars) := by
  induction names with
  | nil => rfl
  | cons name names induction =>
    rw [List.anyM, run_bind_of_run (run_word?_of_apart (apart name List.mem_cons_self))]
    exact induction fun name member => apart name (List.mem_cons_of_mem _ member)

theorem run_literal?_of_apart {word : List Char} (names : List (List Char))
    (apart : ¬word.isPrefixOf chars) :
    (literal? word names).run chars = some (false, chars) := by
  apply run_anyM_of_apart
  intro name _ isPrefix
  rw [List.isPrefixOf_iff_prefix] at apart isPrefix
  exact apart ((List.prefix_append word name).trans isPrefix)

theorem run_literal?_of_endsItem (word : List Char) (names : List (List Char))
    (ends : endsItem rest) : (literal? word names).run (word ++ rest) = some (true, rest) := by
  have found : (word? (word ++ [])).run (word ++ rest) = some (true, rest) := by
    rw [List.append_nil, run_word?_of_endsItem word ends]
  rw [literal?, List.anyM, run_bind_of_run found]
  rfl

/-- No word is the beginning of a number. -/
theorem not_prefix_of_digit {c d first : Char} {word more : List Char} (negative : Bool)
    (digit : first.isDigit) (letter : c.isDigit = false) (letter' : d.isDigit = false) :
    ¬(c :: d :: word).isPrefixOf (Layout.signChars negative ++ first :: more) := by
  intro isPrefix
  cases negative with
  | true =>
    simp only [Layout.signChars, if_true, List.singleton_append, List.isPrefixOf, Bool.and_eq_true,
      beq_iff_eq] at isPrefix
    rw [isPrefix.2.1, digit] at letter'
    contradiction
  | false =>
    change (c :: d :: word).isPrefixOf (first :: more) at isPrefix
    simp only [List.isPrefixOf, Bool.and_eq_true, beq_iff_eq] at isPrefix
    rw [isPrefix.1, digit] at letter
    contradiction

/-- A decimal with a point. -/
theorem takes_decimal {text whole places : List Char} {decimal : Decimal} (negative : Bool)
    (format : BinaryFormat) (pointed : IsPointed text decimal whole places) :
    (Reader.decimal [floatTypeName format]).Takes (Layout.signChars negative ++ text)
      ⟨negative, digitsValue (whole ++ places), -places.length⟩ := by
  intro rest ends
  obtain ⟨rfl, nonempty, wholeDigits, placesDigits, -⟩ := pointed
  have chars : ∀ c ∈ Layout.signChars negative ++ (whole ++ '.' :: places),
      isFloatChar c ∧ c ≠ '_' := by
    intro c member
    simp only [List.mem_append, List.mem_cons] at member
    obtain sign | digit | rfl | digit := member
    · have minus : c = '-' := by
        cases negative <;> simp_all [Layout.signChars]
      rw [minus]
      decide
    · exact floatChar_of_digit (wholeDigits c digit)
    · decide
    · exact floatChar_of_digit (placesDigits c digit)
  obtain ⟨taken, left⟩ := takeWhile_of_endsItem (fun c member => (chars c member).1)
    (by rfl) (by rfl) ends
  have noUnderscore := dropUnderscores_eq false fun member => (chars _ member).2 rfl
  have noType : ([floatTypeName format].anyM word?).run rest = some (false, rest) := by
    apply run_anyM_of_apart
    intro name member
    rw [List.mem_singleton.mp member]
    exact not_prefix_of_endsItem (by decide) (by decide) ends
  rw [Reader.decimal, run_bind_of_run run_takeWhile, taken, left, noUnderscore, Option.bind_some,
    signedDecimal?_eq negative nonempty wholeDigits placesDigits]
  change (_ >>= _ : Reader SignedDecimal).run rest = _
  rw [run_bind_of_run noType]
  rfl

theorem run_floatText_of_digit {first : Char} {more : List Char} (names : List (List Char))
    (negative : Bool) (digit : first.isDigit) :
    (floatText names).run (Layout.signChars negative ++ first :: more) =
      (FloatText.finite <$> decimal names).run (Layout.signChars negative ++ first :: more) := by
  have apart {c d : Char} {word : List Char} (letter : c.isDigit = false)
      (letter' : d.isDigit = false) :
      (literal? (c :: d :: word) names).run (Layout.signChars negative ++ first :: more) =
        some (false, Layout.signChars negative ++ first :: more) :=
    run_literal?_of_apart names (not_prefix_of_digit negative digit letter letter')
  rw [floatText, run_if_of_false (apart rfl rfl), run_if_of_false (apart rfl rfl),
    run_if_of_false (apart rfl rfl), run_if_of_false (apart rfl rfl),
    run_if_of_false (apart rfl rfl), run_if_of_false (apart rfl rfl)]
  rfl

theorem starts_of_digit {first : Char} (negative : Bool) (tail : List Char)
    (digit : first.isDigit) :
    startsOtherThan ')' (Layout.signChars negative ++ first :: tail) := by
  cases negative with
  | true => rfl
  | false =>
    obtain ⟨lower, upper⟩ := Char.isDigit_iff_toNat.mp digit
    simp only [startsOtherThan, Layout.signChars, Bool.false_eq_true, if_false, List.nil_append,
      List.head?_cons, Option.any_some]
    simp [isSolid, isBlankChar, ← Char.toNat_inj] at lower upper ⊢
    omega

theorem takesItem_float_of_finite {format : BinaryFormat} {word : Word format} {negative : Bool}
    (decimal : Decimal)
    (reads : ∀ same : Decimal, same.value = decimal.value →
      (Word.nearest same : Word format).withSign negative = word) :
    TakesItem (float format) ')' (Layout.signChars negative ++ decimal.positional) word := by
  obtain ⟨whole, places, pointed⟩ := exists_isPointed decimal
  obtain ⟨first, tail, split⟩ := List.exists_cons_of_ne_nil pointed.nonempty
  have digit : first.isDigit := pointed.wholeDigits first (by simp [split])
  have start : decimal.positional = first :: (tail ++ '.' :: places) := by
    rw [pointed.split, split, List.cons_append]
  constructor
  · intro rest ends
    have taken := takes_decimal negative format pointed rest ends
    rw [start, List.append_assoc, List.cons_append] at taken ⊢
    rw [float, StateT.run_bind, run_floatText_of_digit _ negative digit, StateT.run_map, taken]
    exact congrArg (fun word => some (word, rest)) (reads _ pointed.value)
  · rw [start]
    exact starts_of_digit negative _ digit

theorem takes_float_of_infinite {format : BinaryFormat} {word : Word format} {negative : Bool}
    (signed : Word.infinity.withSign negative = word) :
    (float format).Takes (Layout.infinity negative).toList word := by
  intro rest ends
  cases negative with
  | false =>
    have literal := run_literal?_of_endsItem ['i', 'n', 'f'] [floatTypeName format] ends
    have text : (Layout.infinity false).toList = ['i', 'n', 'f'] := by decide
    rw [text, float, floatText, StateT.run_bind, run_if_of_true literal]
    exact congrArg (fun word => some (word, rest)) signed
  | true =>
    have literal := run_literal?_of_endsItem ['-', 'i', 'n', 'f'] [floatTypeName format] ends
    have notPlain : (literal? ['i', 'n', 'f'] [floatTypeName format]).run
        (['-', 'i', 'n', 'f'] ++ rest) = some (false, ['-', 'i', 'n', 'f'] ++ rest) :=
      run_literal?_of_apart _ (by simp [List.isPrefixOf])
    have notPlus : (literal? ['+', 'i', 'n', 'f'] [floatTypeName format]).run
        (['-', 'i', 'n', 'f'] ++ rest) = some (false, ['-', 'i', 'n', 'f'] ++ rest) :=
      run_literal?_of_apart _ (by simp [List.isPrefixOf])
    have text : (Layout.infinity true).toList = ['-', 'i', 'n', 'f'] := by decide
    rw [text, float, floatText, StateT.run_bind, run_if_of_false notPlain,
      run_if_of_false notPlus, run_if_of_true literal]
    exact congrArg (fun word => some (word, rest)) signed

/-- A floating-point word is read back, unless it is not a number. -/
theorem takesItem_float {format : BinaryFormat} (usual : format.IsUsual) {word : Word format}
    (defined : word.isDefined) :
    TakesItem (float format) ')' (Layout.document.renderWord word).toList word := by
  rw [Layout.renderWord]
  rw [Word.isDefined] at defined
  cases binary : word.toBinary with
  | undefined negative =>
    rw [binary] at defined
    contradiction
  | infinite negative =>
    rw [Layout.render]
    refine ⟨takes_float_of_infinite (Word.withSign_infinity binary), ?_⟩
    cases negative <;> decide
  | finite negative significand exponent =>
    cases significand with
    | zero =>
      rw [Layout.render, String.toList_ofList]
      apply takesItem_float_of_finite
      intro same equal
      exact Word.withSign_nearest_zero binary (equal.trans (by simp [Decimal.value]))
    | succ significand =>
      have nonzero := Nat.succ_ne_zero significand
      have number := (BinaryFormat.decode_eq_finite word.bits.isLt binary).1
      rw [Layout.render, String.toList_ofList]
      · apply takesItem_float_of_finite
        intro same equal
        apply Word.withSign_nearest usual binary nonzero
        rw [equal]
        exact readsAs_shortest usual number nonzero
      · exact nonzero

def integerText (value : Int) : List Char :=
  Layout.signChars (decide (value < 0)) ++ digitChars value.natAbs

theorem integerText_natCast (n : Nat) : integerText n = digitChars n := by
  rw [integerText, decide_eq_false (by omega)]
  rfl

theorem toList_toString_int (value : Int) : (toString value).toList = integerText value := by
  rw [Int.toString_eq_repr, Int.repr_eq_if]
  split_ifs with nonneg
  · obtain ⟨n, rfl⟩ := Int.eq_ofNat_of_zero_le nonneg
    rw [Nat.repr_eq_ofList_toDigits, String.toList_ofList]
    rfl
  · have negative : value < 0 := lt_of_not_ge nonneg
    have size : (-value).toNat = value.natAbs := by omega
    rw [Nat.repr_eq_ofList_toDigits, String.toList_append, String.toList_ofList,
      String.toList_ofList, integerText, size, decide_eq_true negative]
    rfl

theorem hexValue?_of_isDigit {c : Char} (digit : c.isDigit) :
    hexValue? c = some (c.toNat - '0'.toNat) := by
  rw [hexValue?, if_pos digit]

theorem digitsIn?_eq {digits : List Char} (all : ∀ c ∈ digits, c.isDigit) :
    digitsIn? 10 digits = some (digitsValue digits) := by
  have plain : digits.filter (· != '_') = digits := by
    rw [List.filter_eq_self]
    intro c member
    simpa using (floatChar_of_digit (all c member)).2
  rw [digitsIn?, plain, digitsValue]
  clear plain
  generalize 0 = value
  induction digits generalizing value with
  | nil => rfl
  | cons c digits induction =>
    have digit := all c List.mem_cons_self
    have small : c.toNat - '0'.toNat < 10 := by
      have bounds := Char.isDigit_iff_toNat.mp digit
      simp at bounds ⊢
      omega
    rw [List.foldlM_cons, List.foldl_cons, hexValue?_of_isDigit digit]
    dsimp only
    rw [if_pos small]
    exact induction (fun c member => all c (List.mem_cons_of_mem _ member)) _

theorem isIntegerChar_of_isDigit {c : Char} (digit : c.isDigit) : isIntegerChar c := by
  rw [isIntegerChar, hexValue?_of_isDigit digit]
  rfl

/-- A mark of a base is not what whole numbers in base ten start with. -/
theorem not_base_of_digits {digits : List Char} {mark : Char} (nonempty : digits ≠ [])
    (all : ∀ c ∈ digits, c.isDigit) (letter : mark.isDigit = false) (comma : mark ≠ ',')
    (bracket : mark ≠ ')') (ends : endsItem rest) :
    (take? ['0', mark]).run (digits ++ rest) = some (false, digits ++ rest) := by
  have apart : ¬['0', mark].isPrefixOf (digits ++ rest) := by
    obtain ⟨first, tail, rfl⟩ := List.exists_cons_of_ne_nil nonempty
    intro isPrefix
    have isNext : [mark].isPrefixOf (tail ++ rest) := by
      rw [List.cons_append, List.isPrefixOf, Bool.and_eq_true] at isPrefix
      exact isPrefix.2
    cases tail with
    | nil => exact not_prefix_of_endsItem comma bracket ends isNext
    | cons second tail =>
      simp only [List.cons_append, List.isPrefixOf, Bool.and_true, beq_iff_eq] at isNext
      have digit := all second (by simp)
      rw [← isNext, letter] at digit
      contradiction
  rw [run_take?, if_neg apart]

theorem run_base {digits : List Char} (nonempty : digits ≠ []) (all : ∀ c ∈ digits, c.isDigit)
    (ends : endsItem rest) : base.run (digits ++ rest) = some (10, digits ++ rest) := by
  rw [base, run_if_of_false (not_base_of_digits nonempty all rfl (by decide) (by decide) ends),
    run_if_of_false (not_base_of_digits nonempty all rfl (by decide) (by decide) ends),
    run_if_of_false (not_base_of_digits nonempty all rfl (by decide) (by decide) ends)]
  rfl

theorem run_sign {first : Char} (negative : Bool) (tail : List Char) (digit : first.isDigit) :
    sign.run (Layout.signChars negative ++ first :: tail) = some (negative, first :: tail) := by
  have notSign {mark : Char} (letter : mark.isDigit = false) :
      (take? [mark]).run (first :: tail) = some (false, first :: tail) := by
    rw [run_take?_cons, if_neg]
    rintro rfl
    rw [digit] at letter
    contradiction
  cases negative with
  | true => rfl
  | false =>
    change sign.run (first :: tail) = _
    rw [sign, run_if_of_false (notSign rfl), run_bind_of_run (notSign rfl)]
    rfl

theorem run_integerType? {kinds : List IntegerKind}
    (named : ∀ kind ∈ kinds, ∃ c name, kind.typeName = c :: name ∧ c ≠ ',' ∧ c ≠ ')')
    (ends : endsItem rest) : (integerType? kinds).run rest = some (none, rest) := by
  induction kinds with
  | nil => rfl
  | cons kind kinds induction =>
    obtain ⟨c, name, spelled, comma, bracket⟩ := named kind List.mem_cons_self
    rw [integerType?, spelled,
      run_if_of_false (run_word?_of_apart (not_prefix_of_endsItem comma bracket ends))]
    exact induction fun kind member => named kind (List.mem_cons_of_mem _ member)

theorem run_integerType?_all (ends : endsItem rest) :
    (integerType? IntegerKind.all).run rest = some (none, rest) := by
  refine run_integerType? (fun kind member => ?_) ends
  rcases List.mem_append.mp member with isSigned | isUnsigned
  · obtain ⟨bits, -, rfl⟩ := List.mem_map.mp isSigned
    exact ⟨'i', digitChars bits, rfl, by decide, by decide⟩
  · obtain ⟨bits, -, rfl⟩ := List.mem_map.mp isUnsigned
    exact ⟨'u', digitChars bits, rfl, by decide, by decide⟩

theorem run_typedInteger (value : Int) (ends : endsItem rest) :
    typedInteger.run (integerText value ++ rest) = some ((value, none), rest) := by
  have all : ∀ c ∈ digitChars value.natAbs, c.isDigit := fun c => isDigit_of_mem_digitChars
  have nonempty := digitChars_ne_nil value.natAbs
  obtain ⟨first, tail, split⟩ := List.exists_cons_of_ne_nil nonempty
  have digit : first.isDigit := all first (by simp [split])
  have signed : sign.run (integerText value ++ rest) =
      some (decide (value < 0), digitChars value.natAbs ++ rest) := by
    rw [integerText, split, List.append_assoc, List.cons_append, run_sign _ _ digit]
  obtain ⟨taken, left⟩ := takeWhile_of_endsItem
    (fun c member => isIntegerChar_of_isDigit (all c member)) (by rfl) (by rfl) ends
  have notEmpty : ((digitChars value.natAbs).isEmpty ||
      (digitChars value.natAbs).head? == some '_') = false := by
    rw [split]
    simpa using (floatChar_of_digit digit).2
  have size : (if decide (value < 0) = true then -(value.natAbs : Int) else value.natAbs) =
      value := by
    split_ifs with negative
    · have below := of_decide_eq_true negative
      omega
    · have notBelow := of_decide_eq_false (Bool.eq_false_iff.mpr negative)
      omega
  rw [typedInteger, run_bind_of_run signed, run_bind_of_run (run_base nonempty all ends),
    run_bind_of_run run_takeWhile, taken, left, notEmpty, digitsIn?_eq all,
    digitsValue_digitChars]
  change (integerType? IntegerKind.all >>= _).run rest = _
  rw [run_bind_of_run (run_integerType?_all ends)]
  exact congrArg (fun value => some ((value, none), rest)) size

/-- A whole number that belongs to its type is read back. -/
theorem takes_integer {kind : IntegerKind} {value : Int} (holds : kind.holds value) :
    (integer kind).Takes (integerText value) value := by
  intro rest ends
  rw [integer, run_bind_of_run (run_typedInteger value ends)]
  dsimp only
  rw [holds]
  rfl

end Reader

end Text

end Kinematics
