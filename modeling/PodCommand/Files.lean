import PodCommand.Files.Path
import PodCommand.Session.Failure
import PodCommand.Text.Utf8

namespace PodCommand

/-- Why a file cannot be read or written. -/
inductive FileError
  | notFound
  | notADirectory
  | isADirectory
  | alreadyExists
  | nameTooLong
  | nulInName
  /-- The content is no well-formed text. -/
  | notText
  deriving DecidableEq, Repr

namespace FileError

/-- The error in words. -/
def message : FileError → String
  | notFound => "No such file or directory (os error 2)"
  | notADirectory => "Not a directory (os error 20)"
  | isADirectory => "Is a directory (os error 21)"
  | alreadyExists => "File exists (os error 17)"
  | nameTooLong => "File name too long (os error 36)"
  | nulInName => "file name contained an unexpected NUL byte"
  | notText => "stream did not contain valid UTF-8"

/-- The kind of failure that the error is. -/
def kind : FileError → FailureKind
  | notFound => .notFound
  | notADirectory => .notADirectory
  | isADirectory => .isADirectory
  | alreadyExists => .alreadyExists
  | nameTooLong => .invalidFilename
  | nulInName => .invalidInput
  | notText => .invalidData

end FileError

/-- What stands at a place in a file tree. -/
inductive FileEntry
  | file (content : Bytes)
  | directory
  deriving DecidableEq, Repr

/-- A file tree: what stands at each place below the root.  Of two entries for one place the first
counts. -/
structure Files where
  entries : List (List String × FileEntry)
  deriving Repr, Inhabited

namespace Files

/-!
A file tree without links.  A path is followed component by component: whatever is not the end of
it has to be a directory.  A path that ends in a slash or a dot names a directory.
-/

/-- The tree that has nothing but its root. -/
def empty : Files := ⟨[]⟩

/-- What stands at a place; the root is always a directory. -/
def entry? (files : Files) (place : List String) : Option FileEntry :=
  if place.isEmpty then some .directory
  else (files.entries.find? (·.1 == place)).map (·.2)

/-- The tree with something else at a place. -/
def put (files : Files) (place : List String) (entry : FileEntry) : Files :=
  ⟨(place, entry) :: files.entries.filter (·.1 != place)⟩

/-- The longest name of a file, in octets. -/
def maxNameLength : Nat := 255

/-- The longest path, in octets. -/
def maxPathLength : Nat := 4095

/-- Follows names from a place; the last one need not exist. -/
def follow (files : Files) (place : List String) : List String → Except FileError (List String)
  | [] => .ok place
  | name :: rest =>
    match files.entry? place with
    | none => .error .notFound
    | some (.file _) => .error .notADirectory
    | some .directory =>
      if name = "." then follow files place rest
      else if name = ".." then follow files place.dropLast rest
      else if maxNameLength < name.utf8ByteSize then .error .nameTooLong
      else follow files (place ++ [name]) rest

/-- Whether a path names a directory by its form. -/
def endsInSlash (path : String) : Bool :=
  path.toList.getLast? == some '/'

/-- The place that a path names; nothing need stand there. -/
def locate (files : Files) (path : String) : Except FileError (List String) :=
  if path.toList.contains '\x00' then .error .nulInName
  else if path.isEmpty then .error .notFound
  else if maxPathLength < path.utf8ByteSize then .error .nameTooLong
  else files.follow [] (Path.names path ++ if endsInSlash path then ["."] else [])

/-- What stands at a path. -/
def lookup (files : Files) (path : String) : Except FileError FileEntry := do
  let place ← files.locate path
  match files.entry? place with
  | some entry => return entry
  | none => throw .notFound

/-- Whether something stands at a path. -/
def pathExists (files : Files) (path : String) : Bool :=
  (files.lookup path).toOption.isSome

/-- The content of the file at a path. -/
def read (files : Files) (path : String) : Except FileError Bytes := do
  match ← files.lookup path with
  | .file content => return content
  | .directory => throw .isADirectory

/-- The text of the file at a path. -/
def readText (files : Files) (path : String) : Except FileError (List Char) := do
  match Text.Utf8.decode? (← files.read path) with
  | some text => return text
  | none => throw .notText

/-- The tree after a file has been written at a path. -/
def write (files : Files) (path : String) (content : Bytes) : Except FileError Files := do
  let place ← match files.locate path with
    | .error .notFound =>
      -- A new file cannot be named as a directory.
      if endsInSlash path && (files.locate (String.ofList (path.toList.dropLast))).isOk then
        throw .isADirectory
      else throw .notFound
    | located => located
  match files.entry? place with
  | some .directory => throw .isADirectory
  | _ => return files.put place (.file content)

/-- The tree after a directory has been made at a path. -/
def makeDirectory (files : Files) (path : String) : Except FileError Files := do
  let bare := String.ofList ((path.toList.reverse.dropWhile (· = '/')).reverse)
  let place ← files.locate (if bare.isEmpty then path else bare)
  match files.entry? place with
  | some _ => throw .alreadyExists
  | none => return files.put place .directory

/-- Whether a directory stands at a path. -/
def isDirectory (files : Files) (path : String) : Bool :=
  match files.lookup path with
  | .ok .directory => true
  | _ => false

/-- The tree after a directory has been made, if it is missing; `above` makes those above it where
they are missing too. -/
def makeBelow (above : String → Except FileError Files) (files : Files) (path : String) :
    Except FileError Files :=
  if path.isEmpty then .ok files
  else
    match files.makeDirectory path with
    | .ok made => .ok made
    | .error .notFound =>
      match Path.parent? path with
      | none => .error .notFound
      | some parent => do
        let files ← above parent
        match files.makeDirectory path with
        | .ok made => return made
        | .error error => if files.isDirectory path then return files else throw error
    | .error error => if files.isDirectory path then .ok files else .error error

/-- The tree after a directory and all directories above it have been made, as far as they are
missing; the fuel bounds the number of those above. -/
def makeDirectories (files : Files) (path : String) : Nat → Except FileError Files
  | 0 => makeBelow (fun _ => .error .notFound) files path
  | fuel + 1 => makeBelow (files.makeDirectories · fuel) files path

end Files
end PodCommand
