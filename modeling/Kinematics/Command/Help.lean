import Kinematics.Command.Invocation
import Kinematics.Report.PoseTable

/-!
# Help

How the tool and its commands are used: a sentence, a usage line, and sections of two
columns each.  The second columns of a section are aligned.
-/

namespace Kinematics

namespace Command

def toolName : String := "framekit"

def toolVersion : String := "0.1.0"

def toolSummary : String := "Load kinematic documents and resolve frame poses"

/-- The name that a command is told under in the version of the tool. -/
def versionName : Option CommandName → String
  | none => toolName
  | some command => s!"{toolName}-{command.text}"

/-- What an option of the tool or of a command is for. -/
def optionSummary (command : Option CommandName) : OptionName → String
  | .settings => "Loader settings file (RON)"
  | .verbose => "Enable debug logging"
  | .frame => "Frame to express poses in (default: the model's root frame)"
  | .json =>
    if command = some .pose then "Print JSON instead of text" else "Print JSON instead of a table"
  | .help => "Print help"
  | .version => "Print version"

/-- How an option is written. -/
def optionUsage (option : OptionName) : String :=
  let letter :=
    match option.letter? with
    | some letter => String.ofList ['-', letter, ',', ' ']
    | none => "    "
  let value := if option.takesValue then s!" <{option.text.toUpper}>" else ""
  letter ++ "--" ++ option.text ++ value

/-- A section of two columns, after an empty line; nothing if it has no lines. -/
def helpSection (title : String) (lines : List (String × String)) : List String :=
  if lines.isEmpty then []
  else
    let width := (lines.map fun line => line.1.length).foldl max 0
    "" :: title :: lines.map fun (left, right) => "  " ++ padded width left ++ "  " ++ right

def optionLines (command : Option CommandName) (options : List OptionName) : List String :=
  helpSection "Options:"
    (options.map fun option => (optionUsage option, optionSummary command option))

def positionalUsage (positional : Positional) : String :=
  s!"<{positional.name}>"

/-- How the tool or one of its commands is used. -/
def helpLines : Option CommandName → List String
  | none =>
    [toolSummary, "", s!"Usage: {toolName} [OPTIONS] <COMMAND>"] ++
      helpSection "Commands:"
        (CommandName.all.map (fun command => (command.text, command.summary)) ++
          [("help", "Print this message or the help of the given subcommand(s)")]) ++
      optionLines none sharedOptions
  | some command =>
    let usage :=
      ["Usage:", toolName, command.text, "[OPTIONS]"] ++ command.positionals.map positionalUsage
    [command.summary, "", " ".intercalate usage] ++
      helpSection "Arguments:"
        (command.positionals.map fun positional =>
          (positionalUsage positional, positional.summary)) ++
      optionLines (some command) command.grammar.options

end Command

end Kinematics
