/-!
# Files

A `FileError` says why a file cannot be read as text. A `FileTree` holds files and directories in
memory, so that a run can be followed without a disk: paths are walked from the working directory,
name by name, and every name but the last has to be that of a directory.
-/

namespace GrantList

/-- Why a file cannot be read as text. -/
inductive FileError where
  /-- There is nothing at the path. -/
  | notFound
  /-- There is a directory at the path. -/
  | isDirectory
  /-- The path goes on after a file. -/
  | notADirectory
  /-- The path, or a name in it, is too long. -/
  | nameTooLong
  /-- The path holds a character that no name has. -/
  | badName
  /-- The file does not hold text. -/
  | notText
  /-- The system gives another reason. -/
  | other (message : String)
deriving DecidableEq, Repr

/-- The message for a file that cannot be read. -/
def FileError.message : FileError → String
  | .notFound => "No such file or directory (os error 2)"
  | .isDirectory => "Is a directory (os error 21)"
  | .notADirectory => "Not a directory (os error 20)"
  | .nameTooLong => "File name too long (os error 36)"
  | .badName => "file name contained an unexpected NUL byte"
  | .notText => "stream did not contain valid UTF-8"
  | .other message => message

/-- The text that the content of a file holds. -/
def FileError.decode (content : ByteArray) : Except FileError String :=
  match String.fromUTF8? content with
  | some s => .ok s
  | none => .error .notText

/-- Files and directories below a working directory. -/
structure FileTree where
  /-- The directories, by the names on the way to them. -/
  directories : List (List String) := []
  /-- The contents of the files, by the names on the way to them. -/
  files : List (List String × ByteArray) := []

namespace FileTree

/-- The names of a path. -/
def names (path : String) : List String :=
  ((path.toList.splitOn '/').map String.ofList).filter (· != "")

/-- Whether there is a directory at the end of the given names. The working directory itself and
all that lies on the way to a file or a directory are directories. -/
def isDirectory (t : FileTree) (l : List String) : Bool :=
  l.isEmpty || t.directories.any l.isPrefixOf
    || t.files.any fun f => f.1 != l && l.isPrefixOf f.1

/-- The place a path leads to. -/
inductive Place where
  /-- The place at the end of the given names below the working directory. -/
  | inside (names : List String)
  /-- A directory above the working directory, of which nothing else is known. -/
  | outside

/-- Whether a name takes more octets than a name may. -/
def isTooLong (name : String) : Bool :=
  name.utf8ByteSize > 255

/-- Takes one step from a directory. -/
def step (t : FileTree) : Place → String → Except FileError Place
  | place, "." => .ok place
  | .outside, ".." => .ok .outside
  | .outside, name => .error (if isTooLong name then .nameTooLong else .notFound)
  | .inside l, ".." => .ok (if l.isEmpty then .outside else .inside l.dropLast)
  | .inside l, name =>
    if isTooLong name then .error .nameTooLong
    else
      let l := l ++ [name]
      if t.isDirectory l || t.files.any (·.1 == l) then .ok (.inside l) else .error .notFound

/-- Takes the steps of a path one after the other. All places on the way must be directories. -/
def walk (t : FileTree) (place : Place) : List String → Except FileError Place
  | [] => .ok place
  | name :: l =>
    match place with
    | .inside names =>
      if t.isDirectory names then (t.step place name).bind (t.walk · l)
      else .error .notADirectory
    | .outside => (t.step place name).bind (t.walk · l)

/-- Reads the file at a path as text. -/
def read (t : FileTree) (path : String) : Except FileError String := do
  if '\x00' ∈ path.toList then throw .badName
  if path.isEmpty then throw .notFound
  if path.utf8ByteSize ≥ 4096 then throw .nameTooLong
  let start := if path.startsWith "/" then Place.outside else .inside []
  match ← t.walk start (names path) with
  | .outside => throw .isDirectory
  | .inside l =>
    match t.files.lookup l with
    | some content => if path.endsWith "/" then throw .notADirectory else FileError.decode content
    | none => throw .isDirectory

end FileTree

end GrantList
