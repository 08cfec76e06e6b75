import Kinematics.Proofs.Text.Reading
import Kinematics.Text.Quoted

/-!
# Quoted text is read back

A character in quotes stands for itself, or for an escape after a backslash.  An escape
by code point has at most six digits, as many as the reader takes.
-/

namespace Kinematics

namespace Text

variable {rest : List Char}

theorem hexValue?_digitChar {digit : Nat} (small : digit < 16) :
    hexValue? digit.digitChar = some digit := by
  revert digit
  decide

theorem digitChar_ne_brace {digit : Nat} (small : digit < 16) : '\x7d' ≠ digit.digitChar := by
  revert digit
  decide

theorem hexDigits_of_lt {n : Nat} (small : n < 16) : hexDigits n = [n.digitChar] :=
  Nat.toDigits_of_lt_base small

theorem hexDigits_of_le {n : Nat} (large : 16 ≤ n) :
    hexDigits n = hexDigits (n / 16) ++ [(n % 16).digitChar] :=
  Nat.toDigits_of_base_le (by decide) large

theorem exists_hexDigits (n : Nat) :
    ∃ digit tail, digit < 16 ∧ hexDigits n = digit.digitChar :: tail := by
  induction n using Nat.strongRecOn with
  | ind n induction =>
    by_cases small : n < 16
    · exact ⟨n, [], small, hexDigits_of_lt small⟩
    · obtain ⟨digit, tail, isDigit, split⟩ := induction (n / 16) (by omega)
      exact ⟨digit, tail ++ [(n % 16).digitChar], isDigit, by
        rw [hexDigits_of_le (Nat.le_of_not_lt small), split, List.cons_append]⟩

namespace Reader

theorem run_codeDigits_digit {bound code digit : Nat} (small : digit < 16) :
    (codeDigits (bound + 1) code).run (digit.digitChar :: rest) =
      (codeDigits bound (16 * code + digit)).run rest := by
  have notClosed : (take? ['\x7d']).run (digit.digitChar :: rest) =
      some (false, digit.digitChar :: rest) := by
    rw [run_take?_cons, if_neg (digitChar_ne_brace small)]
  rw [codeDigits, run_bind_of_run notClosed]
  change (anyChar >>= _).run _ = _
  rw [run_bind_of_run run_anyChar_cons, hexValue?_digitChar small]

theorem run_codeDigits_hexDigits (n bound : Nat) (rest : List Char) :
    (codeDigits ((hexDigits n).length + bound) 0).run (hexDigits n ++ rest) =
      (codeDigits bound n).run rest := by
  induction n using Nat.strongRecOn generalizing bound rest with
  | ind n induction =>
    by_cases small : n < 16
    · rw [hexDigits_of_lt small, List.length_singleton, Nat.add_comm, List.singleton_append,
        run_codeDigits_digit small, Nat.mul_zero, Nat.zero_add]
    · have large := Nat.le_of_not_lt small
      rw [hexDigits_of_le large, List.length_append, List.length_singleton, List.append_assoc,
        Nat.add_assoc, Nat.add_comm 1, induction (n / 16) (by omega), List.singleton_append,
        run_codeDigits_digit (Nat.mod_lt _ (by decide)), Nat.div_add_mod]

theorem run_codeDigits_close (bound code : Nat) :
    (codeDigits bound code).run ('\x7d' :: rest) = some (code, rest) := by
  cases bound with
  | zero => rfl
  | succ bound => rfl

theorem length_hexDigits_le (c : Char) : (hexDigits c.toNat).length ≤ 6 := by
  have valid : c.toNat.isValidChar := c.valid
  rw [hexDigits, Nat.length_toDigits_le_iff (by decide) (by decide)]
  rcases valid with low | ⟨-, high⟩ <;> omega

/-- The escape of a code point. -/
theorem run_escape_code (moreAllowed : Nat) (c : Char) (rest : List Char) :
    (escape moreAllowed).run ('u' :: '\x7b' :: (hexDigits c.toNat ++ '\x7d' :: rest)) =
      some (c, rest) := by
  have digits : (codeDigits 6 0).run (hexDigits c.toNat ++ '\x7d' :: rest) =
      some (c.toNat, rest) := by
    obtain ⟨more, six⟩ := Nat.exists_eq_add_of_le (length_hexDigits_le c)
    rw [six, run_codeDigits_hexDigits, run_codeDigits_close]
  have notClosed : (isNext ['\x7d']).run (hexDigits c.toNat ++ '\x7d' :: rest) =
      some (false, hexDigits c.toNat ++ '\x7d' :: rest) := by
    obtain ⟨digit, tail, small, split⟩ := exists_hexDigits c.toNat
    rw [run_isNext, split]
    simp [List.isPrefixOf, digitChar_ne_brace small]
  have char : charOfCode? c.toNat = some c := by
    have valid : c.toNat.isValidChar := c.valid
    rw [charOfCode?, if_pos valid, Char.ofNat_toNat]
  rw [escape, run_bind_of_run run_anyChar_cons]
  change (take ['\x7b'] >>= _).run _ = _
  rw [run_bind_of_run run_take_cons, run_bind_of_run notClosed]
  change (codeDigits 6 0 >>= _).run _ = _
  rw [run_bind_of_run digits, char]
  rfl

end Reader

/-- How a character is written in quotes: as itself, or after a backslash. -/
theorem escapeChar_cases (c : Char) :
    escapeChar c = [c] ∧ c ≠ '"' ∧ c ≠ '\\' ∨
      ∃ escaped, escapeChar c = '\\' :: escaped ∧
        ∀ moreAllowed rest, (Reader.escape moreAllowed).run (escaped ++ rest) = some (c, rest) := by
  rw [escapeChar]
  split_ifs with zero tab return' newline special printable
  · exact .inr ⟨['0'], rfl, fun _ _ => zero ▸ rfl⟩
  · exact .inr ⟨['t'], rfl, fun _ _ => tab ▸ rfl⟩
  · exact .inr ⟨['r'], rfl, fun _ _ => return' ▸ rfl⟩
  · exact .inr ⟨['n'], rfl, fun _ _ => newline ▸ rfl⟩
  · obtain rfl | rfl | rfl := special
    · exact .inr ⟨['"'], rfl, fun _ _ => rfl⟩
    · exact .inr ⟨['\''], rfl, fun _ _ => rfl⟩
    · exact .inr ⟨['\\'], rfl, fun _ _ => rfl⟩
  · exact .inl ⟨rfl, fun quote => special (.inl quote), fun slash => special (.inr (.inr slash))⟩
  · exact .inr ⟨'u' :: '\x7b' :: (hexDigits c.toNat ++ ['\x7d']), by simp, fun _ _ => by
      simpa using Reader.run_escape_code _ c _⟩

theorem length_le_flatMap (text : List Char) : text.length ≤ (text.flatMap escapeChar).length := by
  induction text with
  | nil => exact Nat.le_refl _
  | cons c text induction =>
    have some : 1 ≤ (escapeChar c).length := by
      obtain ⟨shown, -⟩ | ⟨_, shown, -⟩ := escapeChar_cases c
      · simp [shown]
      · simp [shown]
    rw [List.flatMap_cons, List.length_cons, List.length_append]
    omega

namespace Reader

theorem run_quotedWithin (text budget : List Char) (moreAllowed : Nat)
    (enough : text.length < budget.length) :
    (quotedWithin (escape moreAllowed) budget).run (text.flatMap escapeChar ++ '"' :: rest) =
      some (text, rest) := by
  induction text generalizing budget with
  | nil =>
    obtain ⟨_, budget, rfl⟩ := List.exists_cons_of_length_pos (Nat.zero_lt_of_lt enough)
    rfl
  | cons c text induction =>
    obtain ⟨_, budget, rfl⟩ := List.exists_cons_of_length_pos (Nat.zero_lt_of_lt enough)
    have more := induction budget (Nat.lt_of_succ_lt_succ enough)
    rw [List.flatMap_cons, List.append_assoc]
    obtain ⟨shown, notQuote, notSlash⟩ | ⟨escaped, shown, read⟩ := escapeChar_cases c
    · rw [shown, List.singleton_append, quotedWithin, run_bind_of_run run_anyChar_cons]
      split
      · contradiction
      · contradiction
      · rw [run_bind_of_run more]
        rfl
    · rw [shown, List.cons_append, quotedWithin, run_bind_of_run run_anyChar_cons]
      change (escape moreAllowed >>= _).run _ = _
      rw [run_bind_of_run (read moreAllowed _), run_bind_of_run more]
      rfl

/-- Text in quotes is read back whatever follows it. -/
theorem run_string (text rest : List Char) :
    string.run (quote text ++ rest) = some (text, rest) := by
  have enough : text.length < (text.flatMap escapeChar ++ '"' :: rest).length := by
    have long := length_le_flatMap text
    rw [List.length_append, List.length_cons]
    omega
  rw [quote, List.append_assoc, List.cons_append, List.singleton_append, string,
    run_bind_of_run run_take?_cons]
  change (get >>= _ : Reader (List Char)).run _ = _
  rw [run_bind_of_run (StateT.run_get _)]
  exact run_quotedWithin text _ 3 enough

end Reader

end Text

end Kinematics
