import Kinematics.Command.Files
import Kinematics.Command.Help
import Kinematics.Report.PoseJson

/-!
# Running the tool

A run reads the settings first, then the document, and ends with an error or a report.
The report says also whether all is well: a document that loads with faults, or an
entity without a pose, makes the run fail although it was carried out.
-/

namespace Kinematics

namespace Command

/-- Why a run was not carried out. -/
inductive CommandError where
  | usage (error : UsageError)
  | file (path : String) (problem : FileProblem)
  | pose (error : PoseError)
  deriving DecidableEq

namespace CommandError

def message : CommandError → String
  | usage error => error.message
  | file path problem => s!"{path}: {problem.message}"
  | pose error => s!"Pose query failed: {error.message}"

end CommandError

/-- What a run tells. -/
structure Report where
  text : String
  clean : Bool

namespace Report

def ofLines (lines : List String) (clean : Bool) : Report :=
  ⟨String.join (lines.map fun line => line ++ "\n"), clean⟩

end Report

def exitCode : Except CommandError Report → Nat
  | .ok report => if report.clean then 0 else 1
  | .error (.usage _) => 2
  | .error _ => 1

/-- A loaded model, the graphs, and the faults of its document. -/
abbrev LoadedModel : Type := Loaded Float (Model Float)

/-- What a check of a document tells. -/
def checkReport (document : String) (loaded : LoadedModel) : Report :=
  if loaded.diagnostics.isEmpty then
    let model := loaded.entity
    let counts :=
      s!"{model.links.length} links, {model.joints.length} joints, {model.lights.length} lights"
    .ofLines [s!"{document}: model '{model.name}' loaded cleanly ({counts})"] true
  else
    .ofLines
      (loaded.diagnostics.map (fun diagnostic => s!"{document}: {diagnostic.render}") ++
        [s!"{loaded.diagnostics.length} diagnostic(s)"])
      false

def posesReport (loaded : LoadedModel) (frame : Option String) (json : Bool) : Report :=
  let frame := frame.getD (loaded.entity.rootFrame loaded.store)
  let records := loaded.entity.poseRecords loaded.store frame
  let lines :=
    if json then [(Json.array (records.map PoseRecord.toJson)).render]
    else records.map PoseRecord.tableLine
  .ofLines lines (records.all PoseRecord.isResolved)

/-- The pose of one frame of a model in another. -/
def poseReport (loaded : LoadedModel) (source target : String) (json : Bool) :
    Except CommandError Report :=
  match loaded.entity.poseInFrame loaded.store source target with
  | .error error => .error (.pose error)
  | .ok pose =>
    let line := if json then pose.toJson.render else s!"{source} in {target}: {pose.tableText}"
    .ok (.ofLines [line] true)

section Reading

variable {m : Type → Type} [Monad m] [Files m]

def readSettings (path : Option String) : ExceptT CommandError m Settings := do
  match path with
  | none => return Settings.default
  | some path =>
    match ← (Files.read path : m _) with
    | .error error => throw (.file path (.system error))
    | .ok text =>
      match Settings.ofText text with
      | .error error => throw (.file path (.settings error))
      | .ok settings => return settings

def readModel (path : String) (settings : Settings) : ExceptT CommandError m LoadedModel := do
  match ← (Files.read path : m _) with
  | .error error => throw (.file path (.system error))
  | .ok text =>
    match Element.ofText? text with
    | none => throw (.file path .document)
    | some element => return Model.load (element.map Double.toFloat) settings .empty

def act (action : Action) (settings : Settings) : ExceptT CommandError m Report := do
  match action with
  | .check document => return checkReport document (← readModel document settings)
  | .poses document frame json => return posesReport (← readModel document settings) frame json
  | .pose document source target json =>
    match poseReport (← readModel document settings) source target json with
    | .error error => throw error
    | .ok report => return report
  | .saveSettings output =>
    match ← (Files.write output settings.toText : m _) with
    | .error error => throw (.file output (.system error))
    | .ok () => return ⟨"", true⟩

def invoke (invocation : Invocation) : ExceptT CommandError m Report := do
  act invocation.action (← readSettings invocation.settings)

end Reading

/-- A run of the tool. -/
def run {m : Type → Type} [Monad m] [Files m] (arguments : List String) :
    m (Except CommandError Report) :=
  match Request.ofArguments arguments with
  | .error error => return .error (.usage error)
  | .ok (.help command) => return .ok (.ofLines (helpLines command) true)
  | .ok (.version command) => return .ok (.ofLines [s!"{versionName command} {toolVersion}"] true)
  | .ok (.run invocation) => (invoke invocation).run

end Command

end Kinematics
