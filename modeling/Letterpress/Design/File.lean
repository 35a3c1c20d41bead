import Letterpress.Design.Reader
import Letterpress.Storage.Read

/-!
# Design Files

A design file holds a design tree, alone or as a member beside a table of the images
that its references mean. Images lie where the table says, seen from the directory of
the design file.

## Main definitions

* `DesignFile`: A design tree and its images.
* `DesignFile.load`: The design in a file.
-/

namespace Letterpress

/-- A design tree and the paths of its images. -/
structure DesignFile where
  root : Node Float
  images : List (String × Path)

namespace DesignFile

/-- Where an image lies, seen from the directory of its design. -/
def imagePath (directory : Path) (j : Json) : Except Fault Path :=
  match j with
  | .str s => return directory.join (Path.ofText s)
  | _ => throw (.notAPath j.typeName)

/-- The table of images. -/
def imageTable (directory : Path) (j : Json) : Except Fault (List (String × Path)) :=
  match j with
  | .obj members => members.mapM fun (ref, value) => do return (ref, ← imagePath directory value)
  | _ => if j.truthy then throw (.missingPart j.typeName "items") else return []

/-- The design that the content of a file describes. -/
def ofJson (directory : Path) (j : Json) : Except Fault DesignFile :=
  match j with
  | .obj members => do
    let images ← imageTable directory (Design.memberOf members "images")
    let root ← Design.readNode (Design.memberOr members "document" j)
    return ⟨root, images⟩
  | _ => throw (.missingPart j.typeName "get")

/-- The structured data in a design file. -/
def readPayload (t : FileTree) (p : Path) : Except Fault Json :=
  (t.readJson p).mapError fun fault => .unreadableDesign p.text fault.message

/-- The design in a file. -/
def load (t : FileTree) (p : Path) : Except Fault DesignFile := do
  ofJson p.parent (← readPayload t p)

end DesignFile

end Letterpress
