import Letterpress.CommandLine.Run
import Letterpress.Picture.Encoding

/-!
# The Program

A command works on a tree of the files that it may look at. It is run once to learn
which places it writes to. What is at these places is added to the tree, and the command
is run again. Only then is anything written.

## Main definitions

* `Program.observe`: A tree with what is on the way to a path.
* `Program.commit`: Writing what has changed in a tree.
* `main`: The program.
-/

namespace Letterpress.Program

open CommandLine

/-- What is at a place. -/
def entryAt (place : Place) : IO (Option Entry) := do
  try
    let data ← IO.FS.readBinFile place.path.text
    return some (.file (.ofFile data.toList))
  catch
    | .inappropriateType .. => return some .directory
    | _ => return none

/-- The tree with what is on the way from a place along some names. -/
def observeNames (place : Place) (t : FileTree) : List String → IO FileTree
  | [] => return t
  | name :: rest => do
    let place := place.step name
    if place.isGiven then observeNames place t rest
    else
      match ← entryAt place with
      | some .directory => observeNames place (t.put place .directory) rest
      | some (.file content) => return t.put place (.file content)
      | none => return t

/-- The tree with what is on the way to a path. -/
def observe (t : FileTree) (p : Path) : IO FileTree :=
  observeNames (.ofRoot p.root) t p.names

/-- The tree with what is at the paths that options name. -/
def observeNamed (o : Options) : IO FileTree :=
  o.paths.foldlM observe {}

/-- The tree with the images of a design, if there is one to be exported. -/
def observeImages (o : Options) (t : FileTree) : IO FileTree :=
  match o.command with
  | .mail e =>
    match DesignFile.load t (.ofText e.input) with
    | .ok design => (design.images.map Prod.snd).foldlM observe t
    | .error _ => return t
  | _ => return t

/-- The tree with what is at the places of another one. -/
def observePlaces (t after : FileTree) : IO FileTree :=
  (after.entries.map fun entry => entry.1.path).foldlM observe t

/-- The tree that a command works on. -/
def observeAll (arguments : List String) : IO FileTree := do
  match Options.read arguments with
  | .error _ => return {}
  | .ok o =>
    let t ← observeImages o (← observeNamed o)
    let (_, session) := (run arguments).start t
    observePlaces t session.world

/-- Writes an entry of a tree if it is not there yet. -/
def commitEntry (before : FileTree) : Place × Entry → IO Unit
  | (place, .directory) =>
    match before.find? place with
    | some .directory => return
    | _ => IO.FS.createDir place.path.text
  | (place, .file content) => do
    let data := content.toFile
    let isThere : Bool := match before.find? place with
      | some (.file old) => old.toFile = data
      | _ => false
    unless isThere do IO.FS.writeBinFile place.path.text ⟨data.toArray⟩

/-- Writes what has changed in a tree. Directories come before what is in them. -/
def commit (before after : FileTree) : IO Unit :=
  after.entries.forM (commitEntry before)

/-- Shows the notices that the options let through. -/
def showNotices (arguments : List String) (journal : List Notice) : IO Unit :=
  match Options.read arguments with
  | .ok o => (o.shown journal).forM fun line => IO.eprintln line
  | .error _ => return

/-- Prints a report; the exit code. -/
def finish : Except Fault Report → IO UInt32
  | .ok report => do
    report.output.forM fun line => IO.println line
    report.errors.forM fun line => IO.eprintln line
    return report.code.toUInt32
  | .error fault => do
    IO.eprintln fault.message
    return 1

end Letterpress.Program

open Letterpress Letterpress.Program

/-- The program. -/
def main (arguments : List String) : IO UInt32 := do
  let before ← observeAll arguments
  let (result, session) := (CommandLine.run arguments).start before
  commit before session.world
  showNotices arguments session.journal
  finish result
