import Letterpress.Fault
import Letterpress.Json.Reader
import Letterpress.Storage.FileTree
import Letterpress.Text.Join

/-!
# Reading Files

## Main definitions

* `FileTree.readText`: A file as text.
* `FileTree.readJson`: A file as structured data.
* `Fault.isUnreadable`: A fault that comes from a file or from what it holds or should hold.
-/

namespace Letterpress

namespace FileTree

/-- A file as text, with unified line ends. -/
def readText (t : FileTree) (p : Path) : Except Fault String := do
  let content ← (t.read p).mapError Fault.file
  let text ← content.text.mapError Fault.encoding
  return String.ofList (Text.unifyLineEnds text.toList)

/-- A file as structured data. -/
def readJson (t : FileTree) (p : Path) : Except Fault Json := do
  let text ← t.readText p
  (Json.read text).mapError Fault.json

end FileTree

/-- The fault comes from a file, from what it holds, or from a numeral that it should hold. -/
def Fault.isUnreadable : Fault → Bool
  | .file _ | .encoding _ | .json _ | .numeral _ => true
  | _ => false

end Letterpress
