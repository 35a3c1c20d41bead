import Letterpress.Design.Directive
import Letterpress.Render.Shape
import Letterpress.Table.Synthesis
import Letterpress.Walk.Place
import Letterpress.Walk.Record

/-!
# Walks

A walk turns the children of a frame into fragments, from top to bottom. Whatever has
no markup of its own becomes a picture. What the design tool cannot deliver is left
out with a warning; only arithmetic can stop a walk.

A region that is rebuilt as a table may take more room than it did in the frame. The
walk then shifts everything below it down by the difference.

## Main definitions

* `backgroundOf`: The background of a frame.
* `visitTable`, `visitNode`, `visitLink`: One child.
* `visitAll`: Child after child.
* `walk`: The walk over a frame.
-/

namespace Letterpress

variable {K ω : Type} [Scalar K]

/-- The background of a frame: the color or the picture it is painted with. -/
def backgroundOf (host : Host ω K) (config : Config K) (frame : Node K) (w : Walk) :
    Task ω K Walk :=
  match frame.firstFill with
  | none => return w
  | some (.solid color _) => do
    return { w with background := .color (← Style.hex color) }
  | some (.image ref _) => do
    let name := w.nextName "bg-image"
    match ← (Task.ask (.imageBytes ref) (host.imageBytes ref)).attempt with
    | .error fault =>
      Task.warn ("Could not export frame background image: " ++ fault.message)
      return w.countName
    | .ok none =>
      Task.warn ("Background image " ++ ref ++ " is not available")
      return w.countName
    | .ok (some data) =>
      let path := config.assetPath name
      return { w.countName.addAsset ⟨name, data⟩ with background := .image path }

/-- The difference that a table makes to the height of its region, in whole pixels
    rounded up; nothing if it takes less room. -/
def growth (expected : Int) (height : K) : Except NumberError Int := do
  let drift := (← Scalar.ofInt? expected) - height
  if 0.0 < drift then Scalar.ceil drift else return 0

/-- A region that is rebuilt as a table. It shifts what follows even if it shows no
    text. -/
def visitTable (host : Host ω K) (config : Config K) (p : Placed K) (y : K) (w : Walk) :
    Task ω K (Option Fragment × Walk) := do
  let table ← Table.synthesize host config p.node p.x y
  let expected := (table.map Table.Synthesized.expectedHeight).getD 0
  let w := { w with offset := w.offset + (← growth expected p.box.height) }
  match table with
  | none => return (none, w)
  | some ⟨markup, height⟩ =>
    let left ← Scalar.roundHalfUp p.x
    let top ← Scalar.roundHalfUp y
    let width ← Scalar.roundHalfUp p.box.width
    return (some { markup, left, top, width, height }, w)

/-- The node as it is pictured. -/
def pictured (node : Node K) : Node K :=
  if hasDirective node.name Directive.transparent then node.withoutFills else node

/-- A child that becomes a picture; none if no picture can be taken. -/
def visitPicture (host : Host ω K) (config : Config K) (p : Placed K) (y : K) (w : Walk) :
    Task ω K (Option Fragment × Walk) := do
  let name := w.nextName "image"
  let scale := config.rasterScale
  let node := pictured p.node
  match ← (Task.ask (.rasterize node scale) (host.rasterize node scale)).attempt with
  | .error fault =>
    Task.warn ("Could not export node \"" ++ p.node.name ++ "\": " ++ fault.message)
    return (none, w.countName)
  | .ok data =>
    let fragment ← Render.image (config.assetPath name) p.x y p.box.width p.box.height
    return (some fragment, w.countName.addAsset ⟨name, data⟩)

/-- The node is shown by markup alone. -/
def hasMarkup : Node K → Bool
  | .shape c b => !(Node.shape c b).hasImageFill
  | _ => false

/-- A child that is no table: an animation, a text, a shape or a picture. -/
def visitNode (host : Host ω K) (config : Config K) (p : Placed K) (y : K) (w : Walk) :
    Task ω K (Option Fragment × Walk) :=
  match gifId? p.node.name, p.node with
  | some gif, _ => do
    let source := config.assetPath (gif ++ ".gif")
    let fragment ← Render.image source p.x y p.box.width p.box.height
    return (some fragment, w.addGif ⟨gif⟩)
  | none, .text _ _ => do
    return (← Render.text host config p.node p.x y, w)
  | none, node =>
    if hasMarkup node then do return (← Render.shape node p.x y, w)
    else visitPicture host config p y w

/-- The markup of a fragment inside of a link that is filled in later. -/
def linkMarkup (id markup : String) : String :=
  "<div data-link-placeholder-id=\"" ++ id ++ "\">" ++ markup ++ "</div>"

/-- The fragment of a child that is a link. Without a preview it stays as it is. -/
def visitLink (host : Host ω K) (config : Config K) (node : Node K) (target : String)
    (fragment : Fragment) (w : Walk) : Task ω K (Fragment × Walk) := do
  let name := w.nextName "link-preview"
  let scale := config.previewScale
  match ← (Task.ask (.rasterize node scale) (host.rasterize node scale)).attempt with
  | .error fault =>
    Task.warn ("Could not create link preview for \"" ++ node.name ++ "\": " ++ fault.message)
    return (fragment, w.countName)
  | .ok data =>
    let wrapped :=
      { fragment with markup := linkMarkup node.id fragment.markup, linkWrapped := true }
    return (wrapped, w.countName.addLink ⟨node.id, target, name⟩ ⟨name, data⟩)

/-- One child of a frame. -/
def visit (host : Host ω K) (config : Config K) (p : Placed K) (w : Walk) : Task ω K Walk := do
  let y := p.y + (← Scalar.ofInt? w.offset)
  let (fragment, w) ←
    if p.node.isTableRegion then visitTable host config p y w
    else visitNode host config p y w
  match fragment, linkTarget? p.node.name with
  | some fragment, some target =>
    let (wrapped, w) ← visitLink host config p.node target fragment w
    return w.addFragment wrapped
  | _, _ => return w.addFragment fragment

/-- The children of a frame, one after another. -/
def visitAll (host : Host ω K) (config : Config K) (frame : Rect K) :
    List (Placed K) → Walk → Task ω K Walk
  | [], w => return w
  | p :: rest, w => do
    if ← p.isPaper config frame then visitAll host config frame rest w
    else visitAll host config frame rest (← visit host config p w)

/-- The walk over a frame. -/
def walk (host : Host ω K) (config : Config K) (root : Node K) : Task ω K Walk :=
  match root.bounds with
  | none => throw (.unboundedRoot root.name)
  | some frame => do
    let w ← backgroundOf host config root {}
    let children ← root.childList
    visitAll host config frame (placedChildren frame children) w

end Letterpress
