import Kinematics.Settings

/-!
# Files

How the tool gets at files.  It works over any monad with `Files`, so that it can be run
on real files and on a table of files alike.
-/

namespace Kinematics

namespace Command

/-- Why a file could not be read or written. -/
inductive SystemError where
  | notFound
  | notDirectory
  | isDirectory
  | nameTooLong
  | notText
  | other (code : Nat) (description : String)
  deriving DecidableEq

namespace SystemError

/-- An error of the operating system, with its number. -/
def numbered (description : String) (code : Nat) : String :=
  s!"{description} (os error {code})"

def message : SystemError → String
  | notFound => numbered "No such file or directory" 2
  | notDirectory => numbered "Not a directory" 20
  | isDirectory => numbered "Is a directory" 21
  | nameTooLong => numbered "File name too long" 36
  | notText => "stream did not contain valid UTF-8"
  | other code description => numbered description code

end SystemError

/-- Reading and writing of files. -/
class Files (m : Type → Type) where
  read : String → m (Except SystemError String)
  write : String → String → m (Except SystemError Unit)

/-- Why a file could not be used. -/
inductive FileProblem where
  | system (error : SystemError)
  | document
  | settings (error : SettingsError)
  deriving DecidableEq

namespace FileProblem

def message : FileProblem → String
  | system error => error.message
  | document => "malformed text"
  | settings error => error.message

end FileProblem

end Command

end Kinematics
