import Letterpress.Preview.Painting
import Letterpress.Session
import Letterpress.Storage.FileTree

/-!
# Static Hosts

A design tool that works from files alone: images are files, fonts are a list of
families, and pictures of nodes are painted here.

## Main definitions

* `StaticHost`: The images and fonts that are known.
* `StaticHost.rasterize`: The picture of a node.
* `StaticHost.host`: The design tool.
-/

namespace Letterpress

/-- The images and font families that are known. Without a list of families all fonts
    are available. -/
structure StaticHost where
  images : List (String × Path)
  families : Option (List String)

namespace StaticHost

variable {K : Type} [Scalar K]

/-- The font is available. -/
def hasFont (h : StaticHost) (font : FontName) : Bool :=
  match h.families with
  | none => true
  | some families => families.contains font.family

/-- Makes a font available. -/
def loadFont (h : StaticHost) (font : FontName) : Except Fault Unit :=
  if h.hasFont font then return else throw (.font font.family font.style)

/-- The file of an image. A file that cannot be read is noted, and counts as unknown. -/
def imageBytes (h : StaticHost) (ref : String) (t : FileTree) :
    Outcome FileTree (Option Content) :=
  match h.images.lookup ref with
  | none => { result := .ok none, world := t }
  | some path =>
    match t.read path with
    | .ok content => { result := .ok (some content), world := t }
    | .error e =>
      let text := "Cannot read image " ++ path.text ++ ": " ++ e.message
      { result := .ok none, notices := [⟨.warning, text⟩], world := t }

/-- The picture in a file. -/
def loadPicture (t : FileTree) (path : Path) : Except Fault Picture := do
  match ← (t.read path).mapError Fault.file with
  | .picture picture => return picture
  | .bytes _ => throw (.notAPicture path.text)

/-- The pictures that references mean. -/
def gallery (h : StaticHost) (t : FileTree) : Preview.Gallery := fun ref =>
  (h.images.lookup ref).mapM (loadPicture t)

/-- A length of a picture: at least one pixel. -/
def pictureLength (length scale : K) : Except NumberError Nat := do
  return (max 1 (← Scalar.roundHalfUp (length * scale))).toNat

/-- The fault of a node that cannot be painted, where the cause is a file or a value that
    is no number. Other faults stay as they are. -/
def paintingFault (name : String) (fault : Fault) : Fault :=
  match fault with
  | .file _ | .notAPicture _ | .number .undefined => .rasterization name fault.message
  | _ => fault

/-- The picture of a node at a scale. -/
def rasterize (h : StaticHost) (node : Node K) (scale : K) (t : FileTree) :
    Except Fault Picture :=
  match node.bounds with
  | none => throw (.unboundedNode node.name)
  | some box => do
    let width ← pictureLength box.width scale
    let height ← pictureLength box.height scale
    let steps ← (Preview.paint (h.gallery t) box scale node).mapError (paintingFault node.name)
    return steps.foldl Picture.draw (Picture.blank width height)

/-- The design tool. -/
def host (h : StaticHost) : Host FileTree K where
  loadFont font t := { result := h.loadFont font, world := t }
  rasterize node scale t :=
    { result := Content.picture <$> h.rasterize node scale t, world := t }
  imageBytes ref t := h.imageBytes ref t

end StaticHost

end Letterpress
