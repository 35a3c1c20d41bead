import Letterpress.Render.Text
import Letterpress.Table.Cell

/-!
# Synthesis of Tables

A region is rebuilt as a table with one row for every row of its texts. The first row
is the header.

The rendered height of the table is not known. What is expected is a fixed height for
every row and a fixed overhead, and the layout below makes room for it.

## Main definitions

* `cellStyle`, `cellMarkup`: A cell in markup.
* `tableMarkup`: A table in markup.
* `Synthesized`, `synthesize`: A rebuilt region.
-/

namespace Letterpress.Table

variable {K ω : Type} [Scalar K]

/-- The fonts of table cells. -/
def cellFonts : String :=
  "'Roboto', Arial, Helvetica, sans-serif"

/-- A radius in pixels. -/
def radiusPixels (K : Type) [Scalar K] (radius : Int) : Except NumberError String := do
  return toString (← Scalar.roundInt (K := K) radius) ++ "px"

/-- The radius of a cell's corner, with no unit if it is zero. -/
def radiusCss (K : Type) [Scalar K] (radius : Int) : Except NumberError String :=
  if radius = 0 then return "0" else radiusPixels K radius

/-- The rounding of a cell's corners, if any is round. -/
def cornersCss (K : Type) [Scalar K] (corners : Corners) :
    Except NumberError (Option String) := do
  if corners.toList.all (· = 0) then return none
  return some (Text.joinWith " " (← corners.toList.mapM (radiusCss K)))

/-- The style of a cell. -/
def cellStyle (config : Config K) (cell : Cell K) : Except NumberError Style.CellStyle := do
  let corners ← cornersCss K cell.corners
  return {
    borderRadius := corners
    background := some cell.background
    color := some (if cell.header then white else black)
    fontWeight := some (if cell.header then "bold" else "normal")
    border := some ("2px solid " ++ config.accentColor)
    padding := some "8px 10px"
    fontFamily := some cellFonts
    fontSize := some "13px"
    lineHeight := some "18px"
    boxSizing := some "border-box" }

/-- A cell with its content. -/
def cellMarkup (config : Config K) (cell : Cell K) (content : String) :
    Except NumberError String := do
  let style ← cellStyle config cell
  return "<td align=\"left\" valign=\"middle\" width=\"" ++ cell.widthPercent ++ "%\" style=\""
    ++ style.css ++ "\">" ++ content ++ "</td>"

/-- The cells of a row with their texts. -/
def cellsMarkup (host : Host ω K) (config : Config K) : List (Cell K) → Task ω K String
  | [] => return ""
  | cell :: rest => do
    let content ← Render.textBlock host config cell.leaf.body
    let markup ← cellMarkup config cell content
    return markup ++ (← cellsMarkup host config rest)

/-- The rows from a given one on, out of as many rows, each as markup. -/
def rowsMarkup (host : Host ω K) (config : Config K) (donors : List (Donor K)) (rows : Nat) :
    Nat → List (List (TextLeaf K)) → Task ω K (List String)
  | _, [] => return []
  | row, leaves :: rest => do
    let cells ← rowCells config row rows donors leaves
    let markup ← cellsMarkup host config cells
    return ("<tr>" ++ markup ++ "</tr>") :: (← rowsMarkup host config donors rows (row + 1) rest)

/-- The style of the inner table. -/
def innerStyle (config : Config K) : Except NumberError Style.TableStyle := do
  let radius ← radiusPixels K config.cornerRadius
  return { width := some "100%", borderCollapse := some "separate", borderSpacing := some "0",
           borderRadius := some radius, overflow := some "hidden" }

/-- The inner table of a header and a body. -/
def innerTable (style : Style.TableStyle) (header body : String) : String :=
  "<table role=\"presentation\" width=\"100%\" border=\"0\" cellpadding=\"5\" cellspacing=\"0\" "
    ++ "style=\"" ++ style.css ++ "\"><thead>" ++ header ++ "</thead><tbody>" ++ body
    ++ "</tbody></table>"

/-- A table at its place, with its rows as markup. -/
def tableMarkup (config : Config K) (x y width : K) (rows : List String) :
    Except NumberError String := do
  let style ← innerStyle config
  let inner := innerTable style (Text.concat (rows.take 1)) (Text.concat (rows.drop 1))
  Render.placedTable x y width none ("<tr><td>" ++ inner ++ "</td></tr>")

/-- The height that a table with so many rows is expected to take. -/
def expectedHeight (config : Config K) (rows : Nat) : Int :=
  rows * config.tableRowHeight + config.tableBorderOverhead

/-- A rebuilt region. -/
structure Synthesized where
  markup : String
  expectedHeight : Int

/-- The region rebuilt as a table; none if it is no container, has no bounds, or shows
    no text. -/
def synthesize (host : Host ω K) (config : Config K) (node : Node K) (x y : K) :
    Task ω K (Option Synthesized) :=
  match node, node.bounds with
  | .container _ _ children, some box =>
    match textLeaves node with
    | [] => return none
    | leaves => do
      let rows ← leafRows config leaves
      let markup ← rowsMarkup host config (donors children) rows.length 0 rows
      let table ← tableMarkup config x y box.width markup
      return some ⟨table, expectedHeight config rows.length⟩
  | _, _ => return none

end Letterpress.Table
