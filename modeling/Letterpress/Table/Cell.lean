import Letterpress.Config
import Letterpress.Layout.Row
import Letterpress.Layout.Share
import Letterpress.Table.Source

/-!
# Cells

How one cell of a table looks: its share of the width, its background, and which of
the table's outer corners it rounds.

A cell takes the color of the first donor under the center of its text that is not
nearly white. A dark text on a dark color would be unreadable, so its cell is white.

## Main definitions

* `Corners`, `cornersOf`: The radii of a cell's corners.
* `donatedColor`: The color that lies under a text.
* `contrastSafe`: A color on which a text can be read.
* `Cell`, `rowCells`: The cells of a row.
-/

namespace Letterpress.Table

variable {K : Type} [Scalar K]

/-- The radii of a cell's corners. -/
structure Corners where
  topLeft : Int
  topRight : Int
  bottomRight : Int
  bottomLeft : Int
  deriving DecidableEq, Repr

/-- The radii in the order in which they are declared. -/
def Corners.toList (c : Corners) : List Int :=
  [c.topLeft, c.topRight, c.bottomRight, c.bottomLeft]

/-- The corners of the cell in a column of a row, out of as many rows and columns. Only
    the corners of the whole table are rounded. -/
def cornersOf (radius : Int) (row column rows columns : Nat) : Corners :=
  let corner (rounded : Bool) : Int := if rounded then radius else 0
  { topLeft := corner (row = 0 && column = 0)
    topRight := corner (row = 0 && column + 1 = columns)
    bottomRight := corner (row + 1 = rows && column + 1 = columns)
    bottomLeft := corner (row + 1 = rows && column = 0) }

/-- The color of text on a header and of plain cells. -/
def white : String := "#ffffff"

/-- The color of text in plain cells. -/
def black : String := "#000000"

/-- The color that a donor lends to a text with the given center. -/
def colorFrom? (config : Config K) (center : Point K) (donor : Donor K) : Option (Rgb K) :=
  if (donor.box.expanded config.donorMargin).holds center then
    donor.node.fillColor?.filter fun c => Style.brightness c < config.nearWhiteBrightness
  else none

/-- The color of the first donor that lends one to a text. -/
def donatedColor (config : Config K) (leaf : TextLeaf K) (donors : List (Donor K)) :
    Except NumberError (Option String) :=
  (donors.findSome? (colorFrom? config leaf.box.center)).mapM Style.hex

/-- The brightness of a text; a text without a solid fill is black. -/
def textBrightness (leaf : TextLeaf K) : K :=
  match leaf.common.fills.head?.bind Paint.color? with
  | some color => Style.brightness color
  | none => 0.0

/-- The color, or white if both the color and the text on it are dark. -/
def contrastSafe (config : Config K) (leaf : TextLeaf K) (color : String) : String :=
  match Style.hexBrightness? color with
  | some (brightness : K) =>
    if brightness < config.darkBrightness && textBrightness leaf < config.darkBrightness then white
    else color
  | none => color

/-- The background of a text's cell. -/
def cellBackground (config : Config K) (header : Bool) (leaf : TextLeaf K)
    (donors : List (Donor K)) : Except NumberError String := do
  match ← donatedColor config leaf donors with
  | some color => return contrastSafe config leaf color
  | none => return if header then config.accentColor else white

/-- A cell of a table: its place, its text and its looks. -/
structure Cell (K : Type) where
  row : Nat
  column : Nat
  leaf : TextLeaf K
  widthPercent : String
  background : String
  corners : Corners

/-- Cells in the first row are headers. -/
def Cell.header (c : Cell K) : Bool :=
  c.row = 0

/-- The cells from a column on, for texts and their shares of the width. -/
def cellsFrom (config : Config K) (row rows columns : Nat) (donors : List (Donor K)) :
    Nat → List (TextLeaf K × String) → Except NumberError (List (Cell K))
  | _, [] => return []
  | column, (leaf, widthPercent) :: rest => do
    let background ← cellBackground config (row = 0) leaf donors
    let corners := cornersOf config.cornerRadius row column rows columns
    let cells ← cellsFrom config row rows columns donors (column + 1) rest
    return { row, column, leaf, widthPercent, background, corners } :: cells

/-- The cells of a row, out of as many rows. -/
def rowCells (config : Config K) (row rows : Nat) (donors : List (Donor K))
    (leaves : List (TextLeaf K)) : Except NumberError (List (Cell K)) :=
  let widths := Layout.percentages (leaves.map fun leaf => leaf.box.width)
  cellsFrom config row rows leaves.length donors 0 (leaves.zip widths)

/-- How the place of a text is read off. -/
def leafExtent : Layout.Extent (TextLeaf K) K :=
  ⟨fun leaf => leaf.box.x, fun leaf => leaf.box.y, fun leaf => leaf.box.height⟩

/-- The texts of a table row by row. -/
def leafRows (config : Config K) (leaves : List (TextLeaf K)) :
    Except NumberError (List (List (TextLeaf K))) :=
  Layout.bucketRows leafExtent config.rowBucket leaves

end Letterpress.Table
