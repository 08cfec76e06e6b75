import Kinematics.Proofs.Document.RoundTrip
import Kinematics.Settings

/-!
# Settings are read back

Saved settings are a record that begins with its name.  They are read back as they were, unless
their version is later than the one that is understood.  Settings of a later version are never
read, however they are written.
-/

namespace Kinematics

namespace Settings

open Document Text Reader

variable {levels : Nat}

def namedField (levels : Nat) : Reader Field :=
  entry Reader.name (field .plain levels)

theorem run_namedField {name text rest : List Char} (plain : isPlainName name)
    (solid : startsSolid (text ++ rest)) :
    (namedField levels).run (fieldText name text ++ rest) =
      (field .plain levels name).run (text ++ rest) :=
  run_entry (run_name plain rfl) solid

theorem takesItem_version (version : UInt32) :
    TakesItem (nested (levels + 1) namedField) ')'
      (fieldText "version".toList (Decimal.digitChars version.toNat)) (.version version) := by
  have holds : (IntegerKind.unsigned 32).holds (version.toNat : Int) := by
    have bound := version.toNat_lt
    simp only [IntegerKind.holds, IntegerKind.unsigned, Bool.and_eq_true]
    norm_num at bound ⊢
    omega
  rw [← integerText_natCast]
  refine ⟨fun rest ends => ?_, rfl⟩
  refine (run_namedField (by decide) (startsSolid_integerText _)).trans ?_
  rw [field, String.ofList_toList]
  simp only
  rw [run_bind_of_run (takes_integer holds rest ends), Int.toNat_natCast, UInt32.ofNat_toNat]
  rfl

theorem takesItem_rootFrame (name : String) :
    TakesItem (nested (levels + 1) namedField) ')'
      (fieldText "root_frame".toList (quote name.toList)) (.rootFrame name) := by
  refine ⟨fun rest _ => ?_, rfl⟩
  refine (run_namedField (by decide) rfl).trans ?_
  rw [field, String.ofList_toList]
  simp only
  rw [run_bind_of_run (run_string _ _), String.ofList_toList]
  rfl

theorem takesItem_strictReferences (strict : Bool) :
    TakesItem (nested (levels + 1) namedField) ')'
      (fieldText "strict_frame_references".toList (if strict then "true" else "false").toList)
      (.strictReferences strict) := by
  refine ⟨fun rest ends => ?_, rfl⟩
  have solid : startsSolid ((if strict then "true" else "false").toList ++ rest) := by
    cases strict <;> rfl
  refine (run_namedField (by decide) solid).trans ?_
  rw [field, String.ofList_toList]
  simp only
  rw [run_bind_of_run (takes_boolean strict rest ends)]
  rfl

/-- Settings of any version are taken, whatever comes after them. -/
theorem run_reader (settings : Settings) (levels : Nat) (rest : List Char) :
    (reader .plain (levels + 3)).run (settings.toText.toList ++ rest) = some (settings, rest) := by
  have fields : List.Forall₂ (TakesItem (nested (levels + 2) namedField) ')') _ _ :=
    .cons (takesItem_version settings.version)
      (.cons (takesItem_rootFrame settings.rootFrame)
        (.cons (takesItem_strictReferences settings.strictReferences) .nil))
  rw [toText, String.toList_ofList, List.append_assoc, reader]
  exact run_bind_of_run
    ((run_record_named (by decide) 0 _ _).trans (run_group '(' 0 (levels + 2) rfl fields))

theorem whole?_toText (settings : Settings) : whole? reader settings.toText = some settings := by
  have starts : startsOtherThan '#' settings.toText.toList := by
    rw [toText, String.toList_ofList]
    rfl
  have taken := run_reader settings 125 []
  rw [List.append_nil] at taken
  have read : whole? reader (String.ofList settings.toText.toList) = some settings :=
    whole?_of_run starts taken
  rwa [String.ofList_toList] at read

/-- Settings are read back as they were written if their version is understood, and refused as
newer otherwise.  No text at all is read as settings of a newer version. -/
theorem ofText_toText :
    (∀ settings : Settings, ofText settings.toText =
      if settings.version ≤ currentVersion then .ok settings
      else .error (.newerVersion settings.version)) ∧
    ∀ text settings, ofText text = .ok settings → settings.version ≤ currentVersion := by
  constructor
  · intro settings
    simp only [ofText, whole?_toText, ← UInt32.not_lt, ite_not]
  · intro text settings accepted
    unfold ofText at accepted
    split at accepted
    · cases accepted
    · split at accepted
      · cases accepted
      · rename_i notNewer
        cases accepted
        exact UInt32.not_lt.mp notNewer

/-- Strict settings of an earlier version, with a quote and a line break in the name of the root,
are saved and read back. -/
theorem ofText_toText_quoted :
    let settings : Settings := ⟨0, "the \"root\"\n", true⟩
    ofText settings.toText = .ok settings ∧ settings.version ≤ currentVersion := by
  intro settings
  have understood : settings.version ≤ currentVersion := by decide
  have accepted : ofText settings.toText = .ok settings := by
    rw [ofText_toText.1, if_pos understood]
  exact ⟨accepted, ofText_toText.2 settings.toText settings accepted⟩

end Settings

end Kinematics
