import Kinematics.Command.Run

/-!
# Command line

The tool on real files.  Reports go to standard output, errors to standard error.
-/

namespace Kinematics

namespace Command

/-- The error of an error number, which may come with the opposite sign. -/
def SystemError.ofCode (code : UInt32) (description : String) : SystemError :=
  let number := if code.toNat < 0x80000000 then code.toNat else 0x100000000 - code.toNat
  match number with
  | 2 => .notFound
  | 20 => .notDirectory
  | 21 => .isDirectory
  | 36 => .nameTooLong
  | number => .other number description

/-- The error behind an exception of the runtime.  One without a number is about the text
of a file. -/
def SystemError.ofException : IO.Error → SystemError
  | .noFileOrDirectory _ code details | .otherError code details
  | .permissionDenied _ code details | .inappropriateType _ code details
  | .invalidArgument _ code details | .resourceExhausted _ code details => .ofCode code details
  | _ => .notText

instance : Files IO where
  read path := do
    match ← (IO.FS.readFile path).toBaseIO with
    | .ok text => return .ok text
    | .error error => return .error (.ofException error)
  write path text := do
    match ← (IO.FS.writeFile path text).toBaseIO with
    | .ok () => return .ok ()
    | .error error => return .error (.ofException error)

end Command

end Kinematics

open Kinematics Command in
def main (arguments : List String) : IO UInt32 := do
  let outcome : Except CommandError Report ← run arguments
  match outcome with
  | .ok report => IO.print report.text
  | .error error => IO.eprintln error.message
  return UInt32.ofNat (exitCode outcome)
