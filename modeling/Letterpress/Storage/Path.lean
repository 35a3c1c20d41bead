import Letterpress.Text.Escape
import Letterpress.Text.Join

/-!
# Paths

A path is a root, which may be empty, and a list of names. Empty names and names
that stand for the directory they are in are left out when a path is read, so that
equal paths have equal texts; a step up is kept.

## Main definitions

* `Path`: A path.
* `Path.ofText`, `Path.text`: Reading and writing paths.
* `Path.join`: A path below another one.
* `Path.name`, `Path.parent`: The last name, and the path without it.
* `FileProblem`: What can go wrong with a path.
* `FileError`: A problem and its path.
-/

namespace Letterpress

/-- A path: its root and the names below it. -/
structure Path where
  root : String
  names : List String
  deriving DecidableEq, Repr

namespace Path

/-- The root that a text starts with. Two slashes are a root of their own; three or
    more are one. -/
def rootOf : List Char → String
  | '/' :: '/' :: '/' :: _ => "/"
  | '/' :: '/' :: _ => "//"
  | '/' :: _ => "/"
  | _ => ""

/-- The names in a text. -/
def namesOf (s : List Char) : List String :=
  ((Text.splitOn (· = '/') s).filter fun name => name ≠ [] && name ≠ ['.']).map String.ofList

/-- The path that a text denotes. -/
def ofText (s : String) : Path :=
  ⟨rootOf s.toList, namesOf s.toList⟩

/-- The text of a path. -/
def text (p : Path) : String :=
  if p.root.isEmpty && p.names.isEmpty then "."
  else p.root ++ Text.joinWith "/" p.names

/-- The second path as seen from the first. A path with a root is seen the same way
    from everywhere. -/
def join (p q : Path) : Path :=
  if q.root.isEmpty then ⟨p.root, p.names ++ q.names⟩ else q

/-- The last name of a path, empty if it has none. -/
def name (p : Path) : String :=
  p.names.getLast?.getD ""

/-- The path without its last name. -/
def parent (p : Path) : Path :=
  { p with names := p.names.dropLast }

end Path

/-- What can go wrong with a path. -/
inductive FileProblem where
  | missing
  | present
  | notADirectory
  | isADirectory
  deriving DecidableEq, Repr

/-- A problem and the path that has it. -/
structure FileError where
  problem : FileProblem
  path : String
  deriving DecidableEq, Repr

/-- The problem in words, with its number. -/
def FileProblem.message : FileProblem → String
  | missing => "[Errno 2] No such file or directory"
  | present => "[Errno 17] File exists"
  | notADirectory => "[Errno 20] Not a directory"
  | isADirectory => "[Errno 21] Is a directory"

/-- The error in words. -/
def FileError.message (e : FileError) : String :=
  e.problem.message ++ ": " ++ Text.quoted e.path

end Letterpress
