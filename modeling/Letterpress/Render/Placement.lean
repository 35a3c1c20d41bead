import Letterpress.Fragment
import Letterpress.Style.Declaration
import Letterpress.Style.Record

/-!
# Placed Tables

Every fragment is one table at a fixed place, with its content in table rows.

## Main definitions

* `placedStyle`: The style that puts a table at its place.
* `placedTable`: A table at its place.
* `placedFragment`: The fragment that is such a table.
-/

namespace Letterpress.Render

variable {K : Type} [Scalar K]

/-- The style that puts a table at its place. A table that grows with its content
    has no height. -/
def placedStyle (x y width : K) (height : Option K) : Except NumberError Style.TableStyle := do
  let left ← Style.pixels x
  let top ← Style.pixels y
  let width ← Style.pixels width
  let height ← height.mapM Style.pixels
  return { position := some "absolute", left := some left, top := some top, width := some width,
           height }

/-- A table that only lays out, with a style around its rows. -/
def styledTable (style : Style.TableStyle) (rows : String) : String :=
  Document.presentationTable ++ " style=\"" ++ style.css ++ "\">" ++ rows ++ "</table>"

/-- A table at its place. -/
def placedTable (x y width : K) (height : Option K) (rows : String) :
    Except NumberError String := do
  return styledTable (← placedStyle x y width height) rows

/-- The fragment that is a table of a fixed size at its place. -/
def placedFragment (x y width height : K) (rows : String) : Except NumberError Fragment := do
  let markup ← placedTable x y width (some height) rows
  let left ← Scalar.roundHalfUp x
  let top ← Scalar.roundHalfUp y
  let width ← Scalar.roundHalfUp width
  let height ← Scalar.roundHalfUp height
  return { markup, left, top, width, height }

/-- A row with a single styled cell. -/
def singleCell (style : Style.CellStyle) (content : String) : String :=
  "<tr><td style=\"" ++ style.css ++ "\">" ++ content ++ "</td></tr>"

end Letterpress.Render
