import PodCommand.Text.Pieces
import PodCommand.Text.Quoted

namespace PodCommand
namespace Path

/-!
File paths.  A path is a text; repeated slashes, a slash at the end and a `.` within it say nothing
about the file, so two paths are compared by their components.
-/

/-- A component of a path. -/
inductive Component
  | root
  /-- A dot at the beginning of a relative path. -/
  | here
  | parent
  | name (text : String)
  deriving DecidableEq, Repr

/-- Whether a path starts at the root. -/
def isAbsolute (path : String) : Bool :=
  path.toList.head? == some '/'

/-- The non-empty pieces of a path between slashes. -/
def names (path : String) : List String :=
  ((Text.pieces '/' path.toList).filter (fun piece => !piece.isEmpty)).map String.ofList

/-- The components of a path. -/
def components (path : String) : List Component :=
  let component (text : String) : Component := if text = ".." then .parent else .name text
  let inner (texts : List String) : List Component :=
    (texts.filter (· ≠ ".")).map component
  if isAbsolute path then .root :: inner (names path)
  else
    match names path with
    | "." :: rest => .here :: inner rest
    | texts => inner texts

/-- Whether two paths have the same components. -/
def same (left right : String) : Bool :=
  components left == components right

/-- A path inside a directory; an absolute path stays as it is. -/
def join (directory path : String) : String :=
  if isAbsolute path || directory.isEmpty then path
  else if directory.toList.getLast? == some '/' then directory ++ path
  else directory ++ "/" ++ path

/-- The text without the slashes, and the dots between slashes, at its end. -/
def trimSeparators (fuel : Nat) (path : List Char) : List Char :=
  match fuel with
  | 0 => path
  | fuel + 1 =>
    match path.reverse with
    | '/' :: rest@(_ :: _) => trimSeparators fuel rest.reverse
    | '.' :: '/' :: rest => trimSeparators fuel ('/' :: rest).reverse
    | _ => path

/-- The path without its last component; none if it has no component but the root. -/
def parent? (path : String) : Option String :=
  match (components path).getLast? with
  | none | some .root => none
  | some _ =>
    let trimmed := trimSeparators path.length path.toList
    let before := (trimmed.reverse.dropWhile (· ≠ '/')).reverse
    some (String.ofList (trimSeparators path.length before))

/-- A path between quotes, as messages show it. -/
def quoted (path : String) : String :=
  Text.QuoteStyle.path.quote path

end Path
end PodCommand
