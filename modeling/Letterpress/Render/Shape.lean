import Letterpress.Design.Part
import Letterpress.Render.Placement
import Letterpress.Storage.Path
import Letterpress.Text.Escape

/-!
# Shapes and Images

A shape is a cell with a background, a border and rounded corners. An image is a picture
and a text that may stand in its place.

## Main definitions

* `paintCss`: A paint as a background color.
* `borderCss`, `cornersCss`: The outline of a shape.
* `shape`: The fragment that shows a shape.
* `imageAlternative`: The text in place of a picture.
* `image`: The fragment that shows a picture.
-/

namespace Letterpress.Render

variable {K : Type} [Scalar K]

/-- A paint as a background color: opaque ones in hexadecimal, translucent ones with
    their opacity. Pictures have none. -/
def paintCss : Option (Paint K) → Except NumberError (Option String)
  | some (.solid color opacity) =>
    if 1.0 ≤ opacity then some <$> Style.hex color
    else some <$> Style.translucent color opacity
  | _ => return none

/-- The border that a stroke draws. Strokes without weight and pictures draw none. -/
def borderCss : Option (Stroke K) → Except NumberError (Option String)
  | some ⟨.solid color opacity, weight⟩ =>
    if weight ≤ 0.0 then return none
    else do
      let width ← Style.pixels weight
      let color ← Style.translucent color opacity
      return some (width ++ " solid " ++ color)
  | _ => return none

/-- The rounding of a shape's corners. -/
def cornersCss (body : ShapeBody K) : Except NumberError (Option String) := do
  if body.kind = .ellipse then return some "50%"
  match body.cornerRadius with
  | none => return none
  | some r =>
    if r.mixed then
      let radii ← [r.topLeft, r.topRight, r.bottomRight, r.bottomLeft].mapM Style.pixels
      return some (Text.joinWith " " radii)
    else some <$> Style.pixels r.topLeft

/-- The style of a shape's cell. -/
def shapeStyle (node : Node K) (box : Rect K) : Except Fault Style.CellStyle := do
  let width ← Style.pixels box.width
  let height ← Style.pixels box.height
  let background ← paintCss node.firstFill
  let body ← node.shapeBody
  let border ← borderCss body.stroke
  let corners ← cornersCss body
  return { width := some width, height := some height, boxSizing := some "border-box",
           borderRadius := corners, backgroundColor := background, border }

/-- The fragment that shows a shape; none if its bounds are unknown. -/
def shape (node : Node K) (x y : K) : Except Fault (Option Fragment) :=
  match node.bounds with
  | none => return none
  | some box => do
    let style ← shapeStyle node box
    return some (← placedFragment x y box.width box.height (singleCell style "&nbsp;"))

/-- The text that is shown in place of a picture: the name of its file up to the
    first period. -/
def imageAlternative (source : String) : String :=
  let stem := (Path.ofText source).name.toList.takeWhile (· ≠ '.')
  if stem = [] then "export image" else String.ofList stem

/-- A picture of the given size in whole pixels. -/
def imageTag (source : String) (width height : Int) : String :=
  "<img src=\"" ++ Text.escapeQuoted source ++ "\" alt=\""
    ++ Text.escapeQuoted (imageAlternative source) ++ "\" width=\"" ++ toString width
    ++ "\" height=\"" ++ toString height
    ++ "\" style=\"display: block; border: 0; width: 100%; height: auto;\">"

/-- The fragment that shows a picture. -/
def image (source : String) (x y width height : K) : Except NumberError Fragment := do
  let w ← Scalar.roundHalfUp width
  let h ← Scalar.roundHalfUp height
  placedFragment x y width height ("<tr><td>" ++ imageTag source w h ++ "</td></tr>")

end Letterpress.Render
