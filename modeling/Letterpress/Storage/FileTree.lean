import Letterpress.Storage.Content
import Letterpress.Storage.Path

/-!
# File Trees

The directory that a job works in, with all that lies around it. Paths are followed
name by name from there or from the root; every name but the last has to be a
directory.

## Main definitions

* `Place`: Where a file or directory is.
* `Entry`, `FileTree`: A file or directory, and the entries at their places.
* `FileTree.locate`: The place that a path leads to.
* `FileTree.read`, `FileTree.write`, `FileTree.remove`: Single files.
* `FileTree.makeDirectory`, `FileTree.ensureDirectory`: Directories.
* `FileTree.ensureDirectories`: A directory with all directories above it.
* `Filing`: A series of steps that change a file tree.
-/

namespace Letterpress

/-- The names that lead to a file or directory. The first one may be a root. Steps up
    come before all other names: they lead out of the directory that a job works in. -/
abbrev Place := List String

namespace Place

/-- The place of a root, which is the empty place if there is none. -/
def ofRoot (root : String) : Place :=
  if root.isEmpty then [] else [root]

/-- The place is a root. -/
def isRoot (place : Place) : Bool :=
  place = ["/"] || place = ["//"]

/-- There is always a directory at the place: it is a root, or the directory that a job
    works in, or above that. -/
def isGiven (place : Place) : Bool :=
  place.isRoot || place.all (· = "..")

/-- The place one name further. Two periods lead back; nothing is above a root. -/
def step (place : Place) (name : String) : Place :=
  if name ≠ ".." then place ++ [name]
  else if place.isRoot then place
  else if place.isGiven then place ++ [name]
  else place.dropLast

/-- The path that leads to a place. -/
def path : Place → Path
  | first :: rest => if isRoot [first] then ⟨first, rest⟩ else ⟨"", first :: rest⟩
  | [] => ⟨"", []⟩

end Place

/-- What can be at a place. -/
inductive Entry where
  | directory
  | file (content : Content)

/-- The files and directories at their places. Directories that are always there need no
    entry. -/
structure FileTree where
  entries : List (Place × Entry) := []

namespace FileTree

/-- What is at a place. -/
def find? (t : FileTree) (place : Place) : Option Entry :=
  if place.isGiven then some .directory else t.entries.lookup place

/-- The list of entries with one of them replaced, or added at the end. -/
def putEntry (place : Place) (entry : Entry) : List (Place × Entry) → List (Place × Entry)
  | [] => [(place, entry)]
  | (p, e) :: rest =>
    if p = place then (place, entry) :: rest else (p, e) :: putEntry place entry rest

/-- The tree with something at a place. -/
def put (t : FileTree) (place : Place) (entry : Entry) : FileTree :=
  ⟨putEntry place entry t.entries⟩

/-- The tree with nothing at a place. -/
def erase (t : FileTree) (place : Place) : FileTree :=
  ⟨t.entries.filter fun e => e.1 ≠ place⟩

/-- The place that names lead to from another one. There has to be a directory at every
    place on the way, but there may be nothing at its end. -/
def follow (t : FileTree) (place : Place) : List String → Except FileProblem Place
  | [] => return place
  | name :: rest =>
    match t.find? place with
    | some .directory => t.follow (place.step name) rest
    | some (.file _) => throw .notADirectory
    | none => throw .missing

/-- The place that a path leads to. -/
def locate (t : FileTree) (p : Path) : Except FileError Place :=
  (t.follow (.ofRoot p.root) p.names).mapError fun problem =>
    ⟨problem, p.text⟩

/-- What a path leads to; nothing if it leads nowhere. -/
def lookup? (t : FileTree) (p : Path) : Option Entry :=
  match t.locate p with
  | .ok place => t.find? place
  | .error _ => none

/-- The path leads to something. -/
def has (t : FileTree) (p : Path) : Bool :=
  (t.lookup? p).isSome

/-- The path leads to a directory. -/
def hasDirectory (t : FileTree) (p : Path) : Bool :=
  match t.lookup? p with
  | some .directory => true
  | _ => false

/-- The content of a file. -/
def read (t : FileTree) (p : Path) : Except FileError Content := do
  match t.find? (← t.locate p) with
  | some (.file content) => return content
  | some .directory => throw ⟨.isADirectory, p.text⟩
  | none => throw ⟨.missing, p.text⟩

/-- The tree with a file replaced or added. -/
def write (t : FileTree) (p : Path) (content : Content) : Except FileError FileTree := do
  let place ← t.locate p
  match t.find? place with
  | some .directory => throw ⟨.isADirectory, p.text⟩
  | _ => return t.put place (.file content)

/-- The tree without a file. -/
def remove (t : FileTree) (p : Path) : Except FileError FileTree := do
  let place ← t.locate p
  match t.find? place with
  | some (.file _) => return t.erase place
  | some .directory => throw ⟨.isADirectory, p.text⟩
  | none => throw ⟨.missing, p.text⟩

/-- The tree with a new directory. -/
def makeDirectory (t : FileTree) (p : Path) : Except FileError FileTree := do
  let place ← t.locate p
  match t.find? place with
  | some _ => throw ⟨.present, p.text⟩
  | none => return t.put place .directory

/-- The tree with a directory that may have been there before. -/
def ensureDirectory (t : FileTree) (p : Path) : Except FileError FileTree :=
  match t.makeDirectory p with
  | .ok t => return t
  | .error e => if t.hasDirectory p then return t else throw e

/-- The tree with a directory at the end of the names, given from last to first, and
    with all directories on the way. -/
def ensureNames (t : FileTree) (root : String) : List String → Except FileError FileTree
  | [] => t.ensureDirectory ⟨root, []⟩
  | name :: above =>
    let p : Path := ⟨root, (name :: above).reverse⟩
    match t.makeDirectory p with
    | .ok t => return t
    | .error ⟨.missing, _⟩ => do
      let t ← t.ensureNames root above
      t.ensureDirectory p
    | .error e => if t.hasDirectory p then return t else throw e

/-- The tree with a directory that may have been there before, and with all directories
    above it. -/
def ensureDirectories (t : FileTree) (p : Path) : Except FileError FileTree :=
  t.ensureNames p.root p.names.reverse

/-- The files of a tree with their places. -/
def files (t : FileTree) : List (Place × Content) :=
  t.entries.filterMap fun
    | (place, .file content) => some (place, content)
    | (_, .directory) => none

end FileTree

/-- A series of steps that change a file tree. What is done before a step fails stays
    done. -/
abbrev Filing := ExceptT FileError (StateM FileTree)

namespace Filing

/-- A step that changes the tree. -/
def change (f : FileTree → Except FileError FileTree) : Filing Unit := fun t =>
  match f t with
  | .ok after => (.ok (), after)
  | .error e => (.error e, t)

/-- Writes a file. -/
def write (p : Path) (content : Content) : Filing Unit :=
  change fun t => t.write p content

/-- Makes sure that a directory is there. -/
def ensureDirectory (p : Path) : Filing Unit :=
  change fun t => t.ensureDirectory p

/-- Makes sure that a directory and all directories above it are there. -/
def ensureDirectories (p : Path) : Filing Unit :=
  change fun t => t.ensureDirectories p

end Filing

end Letterpress
