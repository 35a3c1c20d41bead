import Letterpress.Document.Extraction
import Letterpress.Document.Shell
import Letterpress.Layout.Sorting

/-!
# Table Layout

Mail clients that ignore absolute positions still lay out tables. Here every
fragment becomes a table of its own, in which empty cells take the room to its
left and right; the tables follow one another from top to bottom in one
container. Vertical distances survive only in conditional comments.

## Main definitions

* `lift`: Fragments whose markup no longer places itself.
* `containerHeight`: The height that fragments need.
* `fragmentTable`: A fragment as a table of its own.
* `container`: All fragments in one container.
* `compile`, `compileFragments`: Markup or fragments as a document.
-/

namespace Letterpress.Document

variable {K : Type} [Scalar K]

/-- The fragments with the placing declarations gone from their markup. The place
    that a fragment was given stays; fragments without a positioned table are left
    out. -/
def lift (config : Config K) (fragments : List Fragment) (canvasWidth : K) :
    Except Fault (List Fragment) := do
  let canvas ← Scalar.roundHalfUp canvasWidth
  let lifted ← fragments.mapM fun f => do
    let extracted ← extractOn config f.markup (Scalar.roundInt (K := K) canvas)
    return extracted.head?.map fun e =>
      { e with
        left := f.left
        top := f.top
        width := min f.width canvas
        height := f.height
        linkWrapped := e.linkWrapped || f.linkWrapped }
  return lifted.filterMap id

/-- The lowest edge of the fragments, with the borders and the padding of the
    container. -/
def containerHeight (config : Config K) (fragments : List Fragment) : Int :=
  let lowest := match fragments with
    | [] => 0
    | f :: fs => fs.foldl (fun b g => max b g.bottom) f.bottom
  lowest + 2 * config.containerBorder + config.containerPadding

/-- Fragments are ordered by their tops, and then by their left edges. -/
def placedBefore (a b : Int × Int) : Bool :=
  if a.1 = b.1 then a.2 < b.2 else a.1 < b.1

/-- The fragments from top to bottom, and from left to right. -/
def inReadingOrder (fragments : List Fragment) : List Fragment :=
  Layout.sortOn placedBefore (fun f => (f.top, f.left)) fragments

/-- An empty cell of the given width. -/
def spacer (width : Int) : String :=
  "<td width=\"" ++ toString width ++ "\" style=\"width:" ++ toString width ++ "px;\"></td>"

/-- The start of a table of the given width. -/
def fixedTable (width : Int) : String :=
  presentationTable ++ " width=\"" ++ toString width ++ "\" style=\"width:" ++ toString width
    ++ "px;\">"

/-- The alignment of a fragment as declarations. -/
def alignmentStyle (f : Fragment) : String :=
  "text-align:" ++ f.textAlign ++ "; vertical-align:" ++ f.verticalAlign ++ ";"

/-- A fragment in a single cell. -/
def linkedTable (f : Fragment) : String :=
  fixedTable f.width ++ "<tr><td style=\"padding:0; " ++ alignmentStyle f ++ "\">" ++ f.markup
    ++ "</td></tr></table>"

/-- A fragment between two empty cells that fill the given width. -/
def spacedTable (f : Fragment) (innerWidth : Int) : String :=
  let left := max 0 f.left
  let right := max 0 (innerWidth - left - f.width)
  fixedTable innerWidth ++ "<tr>" ++ spacer left ++ "<td width=\"" ++ toString f.width
    ++ "\" style=\"width:" ++ toString f.width ++ "px; " ++ alignmentStyle f ++ "\">" ++ f.markup
    ++ "</td>" ++ spacer right ++ "</tr></table>"

/-- The numbers that a fragment is written with. -/
def writtenNumbers (f : Fragment) (innerWidth : Int) : List Int :=
  let left := max 0 f.left
  if f.linkWrapped then [f.top, f.left, f.width]
  else [f.top, f.width, innerWidth, left, max 0 (innerWidth - left - f.width)]

/-- The text, if the numbers in it can be written. -/
def writing (numbers : List Int) (text : String) : Except NumeralError String :=
  if numbers.all Text.isWritable then return text else throw .unwritable

/-- A fragment as a table of its own, at its place for the clients that read
    conditional comments. -/
def fragmentTable (f : Fragment) (innerWidth : Int) : Except NumeralError String :=
  let left := if f.linkWrapped then f.left else 0
  let table := if f.linkWrapped then linkedTable f else spacedTable f innerWidth
  writing (writtenNumbers f innerWidth)
    ("<!--[if mso]><div style=\"position:absolute; top:" ++ toString f.top ++ "px; left:"
      ++ toString left ++ "px;\"><![endif]-->" ++ table ++ "<!--[if mso]></div><![endif]-->")

/-- All fragments in one container. -/
def containerOf (config : Config K) (fragments : List Fragment) (width : Int)
    (background : Background) : Except NumeralError String := do
  let border := config.containerBorder
  let height := containerHeight config fragments
  let innerWidth := width - 2 * border
  let innerHeight := height - 2 * border
  let style := backgroundStyle background
    ["border:" ++ toString border ++ "px solid #dddddd;", "box-sizing:border-box;",
      "width:" ++ toString innerWidth ++ "px;", "height:" ++ toString innerHeight ++ "px;"]
  let tables ← (inReadingOrder fragments).mapM fun f => fragmentTable f innerWidth
  writing [border, width, height, innerWidth, innerHeight] <| Text.unlines
    ([presentationTable ++ " width=\"" ++ toString width ++ "\" style=\"width:" ++ toString width
          ++ "px; height:" ++ toString height ++ "px;\">",
      "<tr><td bgcolor=\"" ++ background.plainColor ++ "\" background=\"" ++ background.imagePath
        ++ "\" width=\"" ++ toString width ++ "\" height=\"" ++ toString height
        ++ "\" valign=\"top\" class=\"email-container\" style=\"" ++ style ++ "\">",
      vectorBackground width height background]
      ++ tables ++ [vectorBackgroundEnd, "</td></tr>", "</table>"])

/-- All fragments in one container, whose width is rounded to pixels. -/
def container (config : Config K) (fragments : List Fragment) (width : K)
    (background : Background) : Except Fault String := do
  containerOf config fragments (← Scalar.roundHalfUp width) background

/-- The document that shows the fragments. The height of the source takes no part
    in the layout, but it has to be a length. -/
def tableDocument (config : Config K) (fragments : List Fragment) (width height : K)
    (background : Background) : Except Fault String := do
  let body ← container config fragments width background
  let _ ← Scalar.roundHalfUp height
  emailDocument config body width

/-- Markup as a document in table layout. Markup without a positioned table is left
    as it is. -/
def compile (config : Config K) (markup : String) (width height : K) (background : Background) :
    Except Fault String := do
  match ← extract config markup width with
  | [] => return markup
  | fragments => tableDocument config fragments width height background

/-- Fragments as a document in table layout. -/
def compileFragments (config : Config K) (fragments : List Fragment) (width height : K)
    (background : Background) : Except Fault String := do
  tableDocument config (← lift config fragments width) width height background

end Letterpress.Document
