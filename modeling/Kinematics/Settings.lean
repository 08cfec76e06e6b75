import Kinematics.Document.Write
import Kinematics.Frame.Graph

/-!
# Loader settings

Settings say how documents are loaded.  They are saved as a record of three fields, of
which a saved text may leave out any; what is left out has its default.
-/

namespace Kinematics

/-- How documents are loaded. -/
structure Settings where
  version : UInt32
  rootFrame : String
  strictReferences : Bool
  deriving DecidableEq

/-- Why a text holds no settings. -/
inductive SettingsError where
  | malformed
  | newerVersion (version : UInt32)
  deriving DecidableEq

namespace Settings

/-- The version of the format that is understood and written. -/
def currentVersion : UInt32 := 1

/-- The name of the root frame where nothing else is set. -/
def defaultRootFrame : String := "__model__"

def default : Settings := ⟨currentVersion, defaultRootFrame, false⟩

instance : Inhabited Settings := ⟨default⟩

/-- What a shared name stands for. -/
def tieBreak (settings : Settings) : TieBreak :=
  if settings.strictReferences then .unique else .firstInserted

/-- A field of saved settings. -/
inductive Field where
  | version (version : UInt32)
  | rootFrame (name : String)
  | strictReferences (strict : Bool)
  | other

namespace Field

def version? : Field → Option UInt32
  | .version number => some number
  | _ => none

def rootFrame? : Field → Option String
  | .rootFrame name => some name
  | _ => none

def strictReferences? : Field → Option Bool
  | .strictReferences strict => some strict
  | _ => none

end Field

open Document Text in
def field (dialect : Dialect) (levels : Nat) (name : List Char) : Reader Field :=
  match String.ofList name with
  | "version" => return .version (UInt32.ofNat (← Reader.integer (.unsigned 32)).toNat)
  | "root_frame" => return .rootFrame (String.ofList (← Reader.string))
  | "strict_frame_references" => return .strictReferences (← boolean)
  | _ => do
    skip dialect false levels
    return .other

def recordName : String := "LoaderSettings"

/-- The settings of given fields, unless one is given twice. -/
def ofFields? (fields : List Field) : Option Settings := do
  let version ← Document.single fields Field.version? (some default.version)
  let rootFrame ← Document.single fields Field.rootFrame? (some default.rootFrame)
  let strictReferences ←
    Document.single fields Field.strictReferences? (some default.strictReferences)
  return { version, rootFrame, strictReferences }

open Document Text in
def reader (dialect : Dialect) (levels : Nat) : Reader Settings := do
  match ofFields? (← record dialect recordName.toList levels (field dialect)) with
  | some settings => return settings
  | none => failure

/-- The settings of a text, refused if they were written in a later version. -/
def ofText (text : String) : Except SettingsError Settings :=
  match Document.whole? reader text with
  | none => .error .malformed
  | some settings =>
    if currentVersion < settings.version then .error (.newerVersion settings.version)
    else .ok settings

open Document Text in
/-- The text of settings, with the name of the record in front. -/
def toText (settings : Settings) : String :=
  String.ofList (recordName.toList ++
    block '(' ')' 0
      [fieldText "version".toList (Decimal.digitChars settings.version.toNat),
       fieldText "root_frame".toList (quote settings.rootFrame.toList),
       fieldText "strict_frame_references".toList
         (if settings.strictReferences then "true" else "false").toList])

end Settings

namespace SettingsError

/-- The error in words.  The place of a fault in a malformed text is not told. -/
def message : SettingsError → String
  | malformed => "malformed text"
  | newerVersion version =>
    s!"Settings version {version.toNat} is newer than supported version " ++
      toString Settings.currentVersion.toNat

end SettingsError

end Kinematics
