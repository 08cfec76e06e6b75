import Kinematics.Command.Argument

/-!
# Invocations

What the tool is asked to do: to check a document, to tell poses, or to save settings.
Options of the tool may stand before the command or after it.  If one stands on both
sides, the one after the command counts.  Whether the last option before the command will
do matters only once the arguments after the command have been read.
-/

namespace Kinematics

namespace Command

/-- The commands of the tool. -/
inductive CommandName where
  | check
  | poses
  | pose
  | settings
  deriving DecidableEq

namespace CommandName

def all : List CommandName := [check, poses, pose, settings]

def text : CommandName → String
  | check => "check"
  | poses => "poses"
  | pose => "pose"
  | settings => "settings"

def ofText? (name : String) : Option CommandName :=
  all.find? fun command => command.text == name

def summary : CommandName → String
  | check => "Load a document and print its diagnostics"
  | poses => "Print the pose of every link, joint and light"
  | pose => "Print the pose of one frame expressed in another"
  | settings => "Write the default loader settings to a file"

def ownOptions : CommandName → List OptionName
  | check | settings => []
  | poses => [.frame, .json]
  | pose => [.json]

/-- The document that most commands begin with. -/
def document : Positional := ⟨"DOCUMENT", "Model document (RON)", true⟩

def positionals : CommandName → List Positional
  | check | poses => [document]
  | pose =>
    [document, ⟨"SOURCE", "Frame whose pose is wanted", false⟩,
      ⟨"TARGET", "Frame to express it in", false⟩]
  | settings => [⟨"OUTPUT", "Output path", true⟩]

end CommandName

def sharedOptions : List OptionName := [.settings, .verbose, .help, .version]

/-- What stands before a command. -/
def toolGrammar : Grammar := ⟨sharedOptions, []⟩

/-- What stands after a command. -/
def CommandName.grammar (command : CommandName) : Grammar :=
  ⟨command.ownOptions ++ sharedOptions, command.positionals⟩

/-- What the tool does. -/
inductive Action where
  | check (document : String)
  | poses (document : String) (frame : Option String) (json : Bool)
  | pose (document source target : String) (json : Bool)
  | saveSettings (output : String)
  deriving DecidableEq

/-- An action and the settings for it. -/
structure Invocation where
  settings : Option String
  verbose : Bool
  action : Action
  deriving DecidableEq

/-- What is asked of the tool. -/
inductive Request where
  | run (invocation : Invocation)
  | help (command : Option CommandName)
  | version (command : Option CommandName)
  deriving DecidableEq

/-- What to do, once all arguments of a command have been read. -/
def CommandName.action (command : CommandName) (given : Given) : Except UsageError Action :=
  match command, given.plain with
  | check, [document] => .ok (.check document)
  | poses, [document] => .ok (.poses document (given.value? .frame) (given.has .json))
  | pose, [document, source, target] =>
    .ok (.pose document source target (given.has .json))
  | settings, [output] => .ok (.saveSettings output)
  | command, plain =>
    .error (match command.positionals[plain.length]? with
      | some positional => .argumentMissing positional.name
      | none => .argumentUnexpected (plain.getLastD ""))

namespace Request

/-- What is asked where reading stopped. -/
def ofStop (command : Option CommandName) : Stop → Except UsageError Request
  | .usage error => .error error
  | .help => .ok (.help command)
  | .version => .ok (.version command)

/-- What is asked by the arguments after a command. -/
def ofCommand (before : Progress) (command : CommandName) (arguments : List String) :
    Except UsageError Request :=
  match Progress.read command.grammar false none .nothing arguments with
  | .error stop => ofStop (some command) stop
  | .ok ⟨given, _, _⟩ => do
    let action ← command.action given
    match before.settled with
    | .error stop => ofStop none stop
    | .ok before =>
      return .run
        { settings := (given.value? .settings).or (before.value? .settings)
          verbose := given.has .verbose || before.has .verbose
          action }

/-- What is asked by the arguments after `help`, which is no command of its own. -/
def ofHelp : List String → Except UsageError Request
  | [] | ["help"] => .ok (.help none)
  | [name] =>
    match CommandName.ofText? name with
    | some command => .ok (.help (some command))
    | none => .error (.commandUnknown name)
  | _ :: name :: _ => .error (.commandUnknown name)

def ofArguments (arguments : List String) : Except UsageError Request :=
  match Progress.read toolGrammar true none .nothing arguments with
  | .error stop => ofStop none stop
  | .ok before =>
    match before.rest with
    | [] => .error .commandMissing
    | "help" :: rest => ofHelp rest
    | name :: rest =>
      match CommandName.ofText? name with
      | some command => ofCommand before command rest
      | none => .error (.commandUnknown name)

end Request

end Command

end Kinematics
