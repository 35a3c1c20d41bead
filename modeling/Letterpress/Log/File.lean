import Letterpress.Storage.FileTree

/-!
# Log Files

A log file is moved out of the way when it grows too long. Moved files carry a number,
and the oldest one is lost when there are too many.

## Main definitions

* `LogFile`: A log file and its limits.
* `LogFile.rotate`: Moving the files.
* `LogFile.append`: Writing a line.
-/

namespace Letterpress

/-- The file with a name that has something added. -/
def Path.extended (p : Path) (suffix : String) : Path :=
  { p with names := p.names.dropLast ++ [p.name ++ suffix] }

/-- The tree with a file moved; unchanged if there is no such file. -/
def FileTree.move (t : FileTree) (source target : Path) : FileTree :=
  match t.read source with
  | .error _ => t
  | .ok content =>
    match (t.remove source).bind fun t => t.write target content with
    | .ok t => t
    | .error _ => t

/-- A log file, the length in bytes that it must not reach, and how many older files
    are kept. A limit that is not positive is none. -/
structure LogFile where
  path : Path
  limit : Int
  backups : Int

namespace LogFile

/-- The path of the log file that was moved so many times. -/
def backup (f : LogFile) (n : Nat) : Path :=
  f.path.extended ("." ++ toString n)

/-- Moves the numbered files up by one, from the given number downwards. -/
def shift (f : LogFile) : Nat → FileTree → FileTree
  | 0, t => t
  | n + 1, t => f.shift n (t.move (f.backup (n + 1)) (f.backup (n + 2)))

/-- Moves all files up by one. Without older files there is nowhere to move to. -/
def rotate (f : LogFile) (t : FileTree) : FileTree :=
  if 0 < f.backups then (f.shift (f.backups.toNat - 1) t).move f.path (f.backup 1) else t

/-- The bytes in the log file. -/
def bytes (f : LogFile) (t : FileTree) : List UInt8 :=
  match t.read f.path with
  | .ok (.bytes data) => data
  | _ => []

/-- A line would make the file reach its limit. -/
def isFull (f : LogFile) (line : String) (t : FileTree) : Bool :=
  0 < f.limit && f.limit ≤ (f.bytes t).length + line.length + 1

/-- Opens the file, which makes it if it is not there. -/
def opened (f : LogFile) : Filing Unit := fun t =>
  match t.lookup? f.path with
  | some (.file _) => (.ok (), t)
  | _ => Filing.write f.path (.bytes []) t

/-- The tree with a line written to the file. -/
def append (f : LogFile) (line : String) (t : FileTree) : FileTree :=
  let t := if f.isFull line t then f.rotate t else t
  match t.write f.path (.bytes (f.bytes t ++ Text.encodeUtf8 (line ++ "\n"))) with
  | .ok t => t
  | .error _ => t

end LogFile

end Letterpress
