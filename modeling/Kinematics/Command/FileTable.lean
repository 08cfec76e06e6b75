import Kinematics.Command.Files

/-!
# Tables of files

Files in memory, in a directory that paths start from.  A directory is there as long as a
file is in it; so are the directories above the starting one and those at the root that
every system has.  Lengths are limited as a system limits them.
-/

namespace Kinematics

namespace Command

/-- Where a path sets out. -/
inductive Origin where
  | root
  /-- The starting directory, or one so many levels above it. -/
  | above (levels : Nat)
  deriving DecidableEq

/-- The place of a file or a directory. -/
structure Location where
  origin : Origin
  names : List String
  deriving DecidableEq

namespace Location

def start : Location := ⟨.above 0, []⟩

def child (directory : Location) (name : String) : Location :=
  { directory with names := directory.names ++ [name] }

/-- The directory that a directory is in.  The root is in itself. -/
def parent : Location → Location
  | ⟨.root, names⟩ => ⟨.root, names.dropLast⟩
  | ⟨.above levels, []⟩ => ⟨.above (levels + 1), []⟩
  | ⟨.above levels, names⟩ => ⟨.above levels, names.dropLast⟩

def isInside (inner outer : Location) : Bool :=
  decide (inner.origin = outer.origin) && outer.names.isPrefixOf inner.names &&
    decide (outer.names.length < inner.names.length)

end Location

/-- Files by their places. -/
structure FileTable where
  files : List (Location × String)

namespace FileTable

/-- Directories at the root that are there on every system. -/
def systemDirectories : List String :=
  ["bin", "boot", "dev", "etc", "home", "lib", "media", "mnt", "opt", "proc", "root", "run",
    "sbin", "srv", "sys", "tmp", "usr", "var"]

def nullFile : Location := ⟨.root, ["dev", "null"]⟩

/-- Bytes that the name of a file or a directory may have. -/
def nameLimit : Nat := 255

def pathLimit : Nat := 4095

/-- The parts of a path between slashes.  Empty ones say nothing. -/
def parts (path : String) : List String :=
  (path.splitOn "/").filter fun part => !part.isEmpty

def ofList (files : List (String × String)) : FileTable :=
  ⟨(files.map fun (path, text) => (⟨.above 0, parts path⟩, text)) ++ [(nullFile, "")]⟩

def file? (table : FileTable) (location : Location) : Option String :=
  table.files.lookup location

def isDirectory (table : FileTable) (location : Location) : Bool :=
  location.names.isEmpty ||
    systemDirectories.any (fun name => decide (location = ⟨.root, [name]⟩)) ||
    table.files.any fun (file, _) => file.isInside location

/-- The directory that is reached through parts of a path. -/
def enter (table : FileTable) : Location → List String → Except SystemError Location
  | directory, [] => .ok directory
  | directory, part :: rest =>
    if part = "." then enter table directory rest
    else if part = ".." then enter table directory.parent rest
    else if nameLimit < part.utf8ByteSize then .error .nameTooLong
    else if (table.file? (directory.child part)).isSome then .error .notDirectory
    else if table.isDirectory (directory.child part) then enter table (directory.child part) rest
    else .error .notFound

/-- Where a path leads, if it names an entry of a directory. -/
def locate (table : FileTable) (path : String) : Except SystemError Location :=
  let origin : Location := if path.startsWith "/" then ⟨.root, []⟩ else .start
  if pathLimit < path.utf8ByteSize then .error .nameTooLong
  else
    match (parts path).getLast? with
    | none => .error (if path.isEmpty then .notFound else .isDirectory)
    | some last =>
      if last = "." ∨ last = ".." then
        match table.enter origin (parts path) with
        | .error problem => .error problem
        | .ok _ => .error .isDirectory
      else
        match table.enter origin (parts path).dropLast with
        | .error problem => .error problem
        | .ok directory => .ok (directory.child last)

/-- What keeps a place from being that of a file. -/
def problemAt? (table : FileTable) (location : Location) : Option SystemError :=
  if location.names.any fun name => decide (nameLimit < name.utf8ByteSize) then some .nameTooLong
  else if table.isDirectory location then some .isDirectory
  else none

/-- The text of a file.  A path that ends in a slash is not that of a file. -/
def read (table : FileTable) (path : String) : Except SystemError String :=
  match table.locate path with
  | .error problem => .error problem
  | .ok location =>
    match table.problemAt? location with
    | some problem => .error problem
    | none =>
      match table.file? location with
      | none => .error .notFound
      | some text => if path.endsWith "/" then .error .notDirectory else .ok text

/-- A table with a file written.  A path that ends in a slash is that of a directory. -/
def write (table : FileTable) (path text : String) : Except SystemError FileTable :=
  match table.locate path with
  | .error problem => .error problem
  | .ok location =>
    if path.endsWith "/" then .error .isDirectory
    else
      match table.problemAt? location with
      | some problem => .error problem
      | none => .ok ⟨(location, text) :: table.files.filter fun (file, _) => file != location⟩

instance : Files (StateM FileTable) where
  read path := do return (← get).read path
  write path text := do
    match (← get).write path text with
    | .error problem => return .error problem
    | .ok table =>
      set table
      return .ok ()

end FileTable

end Command

end Kinematics
