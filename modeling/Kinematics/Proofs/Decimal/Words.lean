import Kinematics.Proofs.Decimal.Nearest

/-!
# Words from their numbers

A word that is a number is determined by it: its bits are the sign, and below it the
exponent and the fraction, which together count the numbers from zero on.
-/

namespace Kinematics

namespace BinaryFormat

variable {format : BinaryFormat} {word significand : Nat} {exponent : Int} {negative : Bool}

def signBit (format : BinaryFormat) (negative : Bool) : Nat :=
  if negative then 2 ^ (format.fractionBits + format.exponentBits) else 0

/-- A word of a format as its three fields. -/
theorem word_eq_fields (bounded : word < 2 ^ format.width) :
    word = format.signBit
        (word / (2 ^ format.fractionBits * 2 ^ format.exponentBits) % 2 == 1) +
      (word / 2 ^ format.fractionBits % 2 ^ format.exponentBits * 2 ^ format.fractionBits +
        word % 2 ^ format.fractionBits) := by
  have fields : 2 ^ format.fractionBits * (word / 2 ^ format.fractionBits) +
      word % 2 ^ format.fractionBits = word := Nat.div_add_mod _ _
  have upper : 2 ^ format.exponentBits *
      (word / 2 ^ format.fractionBits / 2 ^ format.exponentBits) +
      word / 2 ^ format.fractionBits % 2 ^ format.exponentBits =
        word / 2 ^ format.fractionBits := Nat.div_add_mod _ _
  rw [Nat.div_div_eq_div_mul] at upper
  have sign : word / (2 ^ format.fractionBits * 2 ^ format.exponentBits) < 2 := by
    rw [Nat.div_lt_iff_lt_mul (by positivity)]
    rwa [width, pow_succ, pow_add, Nat.mul_comm] at bounded
  rw [signBit, pow_add]
  generalize word / (2 ^ format.fractionBits * 2 ^ format.exponentBits) = top at *
  generalize word / 2 ^ format.fractionBits % 2 ^ format.exponentBits = field at *
  rw [← upper] at fields
  obtain rfl | rfl : top = 0 ∨ top = 1 := by omega
  · rw [mul_zero, zero_add, Nat.mul_comm] at fields
    simpa using fields.symm
  · rw [mul_one, Nat.mul_add, Nat.add_assoc, Nat.mul_comm _ field] at fields
    simpa using fields.symm

/-- The fields of a word that stands for a number. -/
theorem decode_eq_finite (bounded : word < 2 ^ format.width)
    (decoded : format.decode word = .finite negative significand exponent) :
    IsNumber format significand exponent ∧
      word = format.signBit negative + format.magnitudeWord significand exponent := by
  have fields := word_eq_fields bounded
  have fractionBound : word % 2 ^ format.fractionBits < 2 ^ format.fractionBits :=
    Nat.mod_lt _ (by positivity)
  have fieldBound : word / 2 ^ format.fractionBits % 2 ^ format.exponentBits <
      2 ^ format.exponentBits := Nat.mod_lt _ (by positivity)
  simp only [decode, Nat.pow_eq] at decoded
  generalize word / 2 ^ format.fractionBits % 2 ^ format.exponentBits = field at *
  generalize word % 2 ^ format.fractionBits = fraction at *
  have finite (ordinary : field ≠ 2 ^ format.exponentBits - 1) :
      field * 2 ^ format.fractionBits + fraction < format.infinityWord := by
    have less : (field + 1) * 2 ^ format.fractionBits ≤
        (2 ^ format.exponentBits - 1) * 2 ^ format.fractionBits :=
      Nat.mul_le_mul_right _ (by omega)
    rw [infinityWord, Nat.pow_eq, Nat.pow_eq]
    linarith
  split_ifs at decoded with special empty subnormal
  · obtain ⟨rfl, rfl, rfl⟩ := Binary.finite.inj decoded
    have bits : format.magnitudeWord fraction format.leastExponent =
        field * 2 ^ format.fractionBits + fraction := by
      simp [magnitudeWord, subnormal]
    refine ⟨⟨?_, le_rfl, fun less => absurd less (lt_irrefl _), bits ▸ finite special⟩, ?_⟩
    · rw [pow_succ]
      omega
    · rw [bits]
      exact fields
  · obtain ⟨rfl, rfl, rfl⟩ := Binary.finite.inj decoded
    have bits : format.magnitudeWord (2 ^ format.fractionBits + fraction)
        (format.leastExponent + (field - 1)) = field * 2 ^ format.fractionBits + fraction := by
      obtain ⟨steps, rfl⟩ := Nat.exists_eq_add_one_of_ne_zero subnormal
      rw [magnitudeWord, add_sub_cancel_left, Nat.cast_add_one, add_sub_cancel_right,
        Int.toNat_natCast]
      ring
    refine ⟨⟨?_, by omega, fun _ => Nat.le_add_right _ _, bits ▸ finite special⟩, ?_⟩
    · rw [pow_succ]
      omega
    · rw [bits]
      exact fields

theorem decode_eq_infinite (bounded : word < 2 ^ format.width)
    (decoded : format.decode word = .infinite negative) :
    word = format.signBit negative + format.infinityWord := by
  have fields := word_eq_fields bounded
  simp only [decode, Nat.pow_eq] at decoded
  split_ifs at decoded with special zero
  obtain rfl := Binary.infinite.inj decoded
  rw [special, zero, add_zero] at fields
  rw [infinityWord, Nat.pow_eq, Nat.pow_eq]
  exact fields

theorem infinityWord_lt :
    format.infinityWord < 2 ^ (format.fractionBits + format.exponentBits) := by
  rw [infinityWord, Nat.pow_eq, Nat.pow_eq, pow_add, mul_comm]
  exact Nat.mul_lt_mul_of_pos_left (Nat.sub_lt (by positivity) one_pos) (by positivity)

end BinaryFormat

theorem xor_two_pow {bits n : Nat} (short : n < 2 ^ bits) : n ^^^ 2 ^ bits = 2 ^ bits + n := by
  have quotient : (n ^^^ 2 ^ bits) / 2 ^ bits = 1 := by
    rw [Nat.xor_div_two_pow, Nat.div_eq_of_lt short, Nat.div_self (by positivity), Nat.zero_xor]
  have remainder : (n ^^^ 2 ^ bits) % 2 ^ bits = n := by
    rw [Nat.xor_mod_two_pow, Nat.mod_eq_of_lt short, Nat.mod_self, Nat.xor_zero]
  calc n ^^^ 2 ^ bits = 2 ^ bits * ((n ^^^ 2 ^ bits) / 2 ^ bits) + (n ^^^ 2 ^ bits) % 2 ^ bits :=
        (Nat.div_add_mod _ _).symm
    _ = 2 ^ bits + n := by rw [quotient, remainder, Nat.mul_one]

namespace Word

open BinaryFormat

variable {format : BinaryFormat}

/-- Whether a word stands for a number or an infinity. -/
def isDefined (word : Word format) : Bool :=
  match word.toBinary with
  | .undefined _ => false
  | _ => true

/-- A word with a sign, from its bits below the sign. -/
theorem withSign_ofNat {magnitude : Nat} (negative : Bool)
    (short : magnitude < 2 ^ (format.fractionBits + format.exponentBits)) :
    (⟨BitVec.ofNat _ magnitude⟩ : Word format).withSign negative =
      ⟨BitVec.ofNat _ (format.signBit negative + magnitude)⟩ := by
  cases negative with
  | false => simp [withSign, signBit]
  | true =>
    have width : 2 ^ format.width = 2 ^ (format.fractionBits + format.exponentBits) * 2 :=
      pow_succ 2 _
    have top : 2 ^ (format.width - 1) = 2 ^ (format.fractionBits + format.exponentBits) := by
      rw [BinaryFormat.width, Nat.add_sub_cancel]
    rw [withSign, if_pos rfl, negate, signBit, if_pos rfl]
    congr 1
    apply BitVec.eq_of_toNat_eq
    rw [BitVec.toNat_xor, BitVec.toNat_ofNat, BitVec.toNat_intMin, BitVec.toNat_ofNat, top,
      Nat.mod_eq_of_lt (a := magnitude) (by omega), Nat.mod_eq_of_lt (by omega), xor_two_pow short,
      Nat.mod_eq_of_lt (by omega)]

/-- A word that stands for a number, from any decimal that is read as this number. -/
theorem withSign_nearest {word : Word format} {negative : Bool} {significand : Nat} {exponent : Int}
    {decimal : Decimal} (usual : IsUsual format)
    (number : word.toBinary = .finite negative significand exponent) (nonzero : significand ≠ 0)
    (reads : ReadsAs format significand exponent decimal.value) :
    (nearest decimal : Word format).withSign negative = word := by
  obtain ⟨isNumber, bits⟩ := decode_eq_finite word.bits.isLt number
  rw [nearest_of_readsAs usual isNumber nonzero reads,
    withSign_ofNat negative (isNumber.finite.trans infinityWord_lt), ← bits, BitVec.ofNat_toNat,
    BitVec.setWidth_eq]

theorem withSign_nearest_zero {word : Word format} {negative : Bool} {exponent : Int}
    {decimal : Decimal} (number : word.toBinary = .finite negative 0 exponent)
    (zero : decimal.value = 0) : (nearest decimal : Word format).withSign negative = word := by
  obtain ⟨isNumber, bits⟩ := decode_eq_finite word.bits.isLt number
  have least : exponent = format.leastExponent := by
    by_contra other
    have leading := isNumber.normal (lt_of_le_of_ne isNumber.least (Ne.symm other))
    exact absurd leading (by simp)
  have noDigits : decimal.digits = 0 := by
    rw [Decimal.value, mul_eq_zero] at zero
    exact_mod_cast zero.resolve_right (by positivity)
  have read : (nearest decimal : Word format) = ⟨BitVec.ofNat _ 0⟩ := by
    simp [nearest, noDigits]
  rw [magnitudeWord, least, sub_self, Int.toNat_zero, zero_mul] at bits
  rw [read, withSign_ofNat negative (by positivity), ← zero_add 0, ← bits, BitVec.ofNat_toNat,
    BitVec.setWidth_eq]

theorem withSign_infinity {word : Word format} {negative : Bool}
    (infinite : word.toBinary = .infinite negative) :
    (infinity : Word format).withSign negative = word := by
  have bits := decode_eq_infinite word.bits.isLt infinite
  rw [infinity, withSign_ofNat negative infinityWord_lt, ← bits, BitVec.ofNat_toNat,
    BitVec.setWidth_eq]

end Word

end Kinematics
