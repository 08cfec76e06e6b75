/-!
# Arguments

A command line is a list of arguments: options that begin with a hyphen, and plain
arguments, which are all that follows `--`.  What options a command knows, and how many
plain arguments it takes, is its `Grammar`.  Arguments are read from left to right, and
the first one that is wrong, or asks for help or the version, ends the reading.
-/

namespace Kinematics

namespace Command

/-- The form of an argument. -/
inductive Argument where
  | separator
  | long (name : String) (value : Option String)
  | short (letters : List Char)
  | plain (text : String)
  deriving DecidableEq

/-- The form of an argument as it is written. -/
def Argument.ofText (text : String) : Argument :=
  match text.toList with
  | ['-', '-'] => .separator
  | '-' :: '-' :: rest =>
    let name := String.ofList (rest.takeWhile (· != '='))
    match rest.dropWhile (· != '=') with
    | [] => .long name none
    | _ :: value => .long name (some (String.ofList value))
  | '-' :: letter :: rest => .short (letter :: rest)
  | _ => .plain text

def Argument.isPlain (text : String) : Bool :=
  ofText text == .plain text

/-- The options of the tool. -/
inductive OptionName where
  | settings
  | verbose
  | frame
  | json
  | help
  | version
  deriving DecidableEq

namespace OptionName

def text : OptionName → String
  | settings => "settings"
  | verbose => "verbose"
  | frame => "frame"
  | json => "json"
  | help => "help"
  | version => "version"

def letter? : OptionName → Option Char
  | settings | json => none
  | verbose => some 'v'
  | frame => some 'f'
  | help => some 'h'
  | version => some 'V'

def takesValue (option : OptionName) : Bool :=
  option == settings || option == frame

/-- Whether the value is a path, which is never empty. -/
def takesPath (option : OptionName) : Bool :=
  option == settings

end OptionName

/-- A plain argument that a command takes. -/
structure Positional where
  name : String
  summary : String
  isPath : Bool
  deriving DecidableEq

/-- What is wrong with a command line. -/
inductive UsageError where
  | unknownOption (text : String)
  | valueMissing (option : OptionName)
  | valueUnexpected (option : OptionName)
  | optionRepeated (option : OptionName)
  | argumentUnexpected (text : String)
  | argumentMissing (name : String)
  | commandUnknown (name : String)
  | commandMissing
  deriving DecidableEq

namespace UsageError

def message : UsageError → String
  | unknownOption text => s!"unknown option '{text}'"
  | valueMissing option => s!"a value is required for '--{option.text}'"
  | valueUnexpected option => s!"'--{option.text}' takes no value"
  | optionRepeated option => s!"'--{option.text}' is given more than once"
  | argumentUnexpected text => s!"unexpected argument '{text}'"
  | argumentMissing name => s!"<{name}> is required"
  | commandUnknown name => s!"there is no command '{name}'"
  | commandMissing => "a command is required"

end UsageError

/-- Why reading ends before the end of the arguments. -/
inductive Stop where
  | usage (error : UsageError)
  | help
  | version
  deriving DecidableEq

/-- What a command reads. -/
structure Grammar where
  options : List OptionName
  positionals : List Positional

namespace Grammar

def ofName? (grammar : Grammar) (name : String) : Option OptionName :=
  grammar.options.find? fun option => option.text == name

def ofLetter? (grammar : Grammar) (letter : Char) : Option OptionName :=
  grammar.options.find? fun option => option.letter? == some letter

end Grammar

/-- What has been read of a command line. -/
structure Given where
  options : List (OptionName × String)
  plain : List String

namespace Given

def nothing : Given := ⟨[], []⟩

def value? (given : Given) (option : OptionName) : Option String :=
  given.options.lookup option

def has (given : Given) (option : OptionName) : Bool :=
  (given.value? option).isSome

def addOption (given : Given) (option : OptionName) (value : String) : Except Stop Given :=
  match option with
  | .help => .error .help
  | .version => .error .version
  | option =>
    if given.has option then .error (.usage (.optionRepeated option))
    else if option.takesPath && value.isEmpty then .error (.usage (.valueMissing option))
    else .ok { given with options := given.options ++ [(option, value)] }

def addPlain (grammar : Grammar) (given : Given) (text : String) : Except Stop Given :=
  match grammar.positionals[given.plain.length]? with
  | none => .error (.usage (.argumentUnexpected text))
  | some positional =>
    if positional.isPath && text.isEmpty then
      .error (.usage (.argumentMissing positional.name))
    else
      .ok { given with plain := given.plain ++ [text] }

/-- The options of a group of letters.  The rest of the group is the value of an option
that takes one; if nothing is left, the option itself is given back. -/
def addLetters (grammar : Grammar) (given : Given) :
    List Char → Except Stop (Given × Option OptionName)
  | [] => .ok (given, none)
  | letter :: rest =>
    match grammar.ofLetter? letter with
    | none => .error (.usage (.unknownOption (String.ofList ['-', letter])))
    | some option =>
      if option.takesValue then
        match rest with
        | [] => .ok (given, some option)
        | '=' :: value => (given.addOption option (String.ofList value)).map (·, none)
        | value => (given.addOption option (String.ofList value)).map (·, none)
      else
        match given.addOption option "" with
        | .error stop => .error stop
        | .ok given => addLetters grammar given rest

/-- The options that an argument of one or two hyphens gives, and the one that still
lacks its value. -/
def addArgument (grammar : Grammar) (given : Given) :
    Argument → Except Stop (Given × Option OptionName)
  | .separator => .ok (given, none)
  | .plain text => (given.addPlain grammar text).map (·, none)
  | .short letters => given.addLetters grammar letters
  | .long name value =>
    match grammar.ofName? name with
    | none => .error (.usage (.unknownOption ("--" ++ name)))
    | some option =>
      match value, option.takesValue with
      | some value, true => (given.addOption option value).map (·, none)
      | some _, false => .error (.usage (.valueUnexpected option))
      | none, false => (given.addOption option "").map (·, none)
      | none, true => .ok (given, some option)

end Given

/-- How far a command line has been read. -/
structure Progress where
  given : Given
  last : Option (OptionName × String)
  rest : List String

namespace Progress

/-- All that is given, once the last option will do. -/
def settled (progress : Progress) : Except Stop Given :=
  match progress.last with
  | none => .ok progress.given
  | some (option, value) => progress.given.addOption option value

/-- What is given up to the end of the arguments.  A value that is an argument of its own
does not look like an option.  If `stopAtPlain` is set, reading ends before the first
plain argument that is no value.  An option whose value comes right before it is left
open: the arguments that follow come first. -/
def read (grammar : Grammar) (stopAtPlain : Bool) :
    Option OptionName → Given → List String → Except Stop Progress
  | none, given, [] => .ok ⟨given, none, []⟩
  | some option, _, [] => .error (.usage (.valueMissing option))
  | some option, given, value :: rest =>
    if !Argument.isPlain value then .error (.usage (.valueMissing option))
    else if stopAtPlain && rest.head?.any Argument.isPlain then
      .ok ⟨given, some (option, value), rest⟩
    else
      match given.addOption option value with
      | .error stop => .error stop
      | .ok given => read grammar stopAtPlain none given rest
  | none, given, text :: rest =>
    match Argument.ofText text with
    | .separator => (rest.foldlM (Given.addPlain grammar) given).map (⟨·, none, []⟩)
    | argument =>
      if stopAtPlain && Argument.isPlain text then .ok ⟨given, none, text :: rest⟩
      else
        match given.addArgument grammar argument with
        | .error stop => .error stop
        | .ok (given, pending) => read grammar stopAtPlain pending given rest

end Progress

end Command

end Kinematics
