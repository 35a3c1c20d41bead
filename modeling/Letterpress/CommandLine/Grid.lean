import Letterpress.CommandLine.Wrap
import Letterpress.Number.Notation
import Letterpress.Text.Join

/-!
# Grids

A table of texts for a terminal, with lines around its cells and a title above it. A
column is as wide as its longest text. If the table would be too wide for the
terminal, its widest columns are made narrower, and their texts are wrapped. Words that
are still too long end in an ellipsis.

## Main definitions

* `Grid`: A table of texts.
* `columnWidths`: The widths of its columns.
* `Grid.lines`: The table in lines.
* `consoleLines`: A text below or above a table.
-/

namespace Letterpress.CommandLine

/-- Where a text stands in its cell. -/
inductive Alignment where
  | left
  | right
  deriving DecidableEq, Repr

/-- A column: its title and where its texts stand. -/
structure Column where
  title : String
  alignment : Alignment
  deriving DecidableEq, Repr

/-- A table of texts. -/
structure Grid where
  title : String
  columns : List Column
  rows : List (List String)
  deriving DecidableEq, Repr

/-- The width of a terminal. -/
def terminalWidth : Nat := 200

/-- The width of the longest line of a text. -/
def textWidth (s : String) : Nat :=
  ((Text.splitLines s.toList).map Text.cellWidth).foldl max 0

/-- The width that all columns of a table have together: there is a line before each, and
    one at the end. -/
def roomFor (columns : Nat) : Nat :=
  terminalWidth - (columns + 1)

/-- The widths that texts in columns ask for, with a blank on both sides. None is wider
    than all columns together may be. -/
def naturalWidths (columns : Nat) (rows : List (List String)) : List Nat :=
  (List.range columns).map fun i =>
    min (roomFor columns) ((rows.map fun row => textWidth (row[i]?.getD "")).foldl max 0 + 2)

/-- The widest width below the given one. -/
def nextWidest (widest : Nat) (widths : List Nat) : Nat :=
  (widths.filter (· ≠ widest)).foldl max 0

/-- The sum of widths. -/
def total (widths : List Nat) : Nat :=
  widths.foldl (· + ·) 0

/-- Takes an excess from the columns of the widest width, each as much as its share of
    what is left, and none more than the limit. -/
def takeFrom (widest limit : Nat) : Nat → Nat → List Nat → List Nat
  | _, _, [] => []
  | excess, count, w :: rest =>
    if w = widest && 0 < count then
      let share := min limit (roundQuotient excess count)
      (w - share) :: takeFrom widest limit (excess - share) (count - 1) rest
    else w :: takeFrom widest limit excess count rest

/-- Makes the widest columns narrower until all of them fit; `fuel` bounds the number
    of times. -/
def collapse (room : Nat) : Nat → List Nat → List Nat
  | 0, widths => widths
  | fuel + 1, widths =>
    if total widths ≤ room then widths
    else
      let widest := widths.foldl max 0
      let excess := total widths - room
      let limit := min excess (widest - nextWidest widest widths)
      collapse room fuel (takeFrom widest limit excess (widths.count widest) widths)

/-- The widths of columns of texts. Each time that columns are made narrower, at least
    one more is as wide as the next widest. -/
def columnWidths (columns : Nat) (rows : List (List String)) : List Nat :=
  collapse (roomFor columns) (total (naturalWidths columns rows)) (naturalWidths columns rows)

/-- So many blanks. -/
def blanks (n : Nat) : List Char :=
  List.replicate n ' '

/-- A line of text in a cell of the given width. A joiner at the end of a text joins the
    first blank after it, which takes no cell then; one more blank makes up for it. -/
def Alignment.placed (alignment : Alignment) (width : Nat) (line : List Char) : String :=
  let shortened := LongWords.shorten.shortened width
  match alignment with
  | .left =>
    String.ofList (Text.filled width (Text.filled width (shortened line)))
  | .right =>
    let line := shortened (Text.trimEnd line)
    String.ofList (blanks (width - Text.cellWidth line) ++ line)

/-- A text in the lines of a cell with a blank on both sides. -/
def cellLines (column : Column) (width : Nat) (text : String) : List String :=
  (wrap .shorten (width - 2) text).map fun line =>
    " " ++ column.alignment.placed (width - 2) line ++ " "

/-- A row in as many lines as its highest cell needs. -/
def rowLines (bar : String) (columns : List Column) (widths : List Nat) (row : List String) :
    List String :=
  let cells := ((row.zip widths).zip columns).map fun ((text, width), column) =>
    (width, cellLines column width text)
  let height := (cells.map fun cell => cell.2.length).foldl max 0
  (List.range height).map fun i =>
    bar ++ Text.concat (cells.map fun (width, lines) =>
      lines[i]?.getD (String.ofList (blanks width)) ++ bar)

/-- A line between rows. -/
def ruleLine (left dash cross right : String) (widths : List Nat) : String :=
  let dashes (width : Nat) := Text.concat (List.replicate width dash)
  left ++ Text.joinWith cross (widths.map dashes) ++ right

namespace Grid

/-- The title above a table of the given width. -/
def titleLines (g : Grid) (width : Nat) : List String :=
  (wrap .fold width g.title).map fun line =>
    let line := LongWords.fold.shortened width (Text.trimEnd line)
    String.ofList (blanks ((width - Text.cellWidth line) / 2) ++ line)

/-- The table in lines. -/
def lines (g : Grid) : List String :=
  let titles := g.columns.map Column.title
  let widths := columnWidths g.columns.length (titles :: g.rows)
  g.titleLines (total widths + g.columns.length + 1)
    ++ [ruleLine "┏" "━" "┳" "┓" widths]
    ++ rowLines "┃" g.columns widths titles
    ++ [ruleLine "┡" "━" "╇" "┩" widths]
    ++ g.rows.flatMap (rowLines "│" g.columns widths)
    ++ [ruleLine "└" "─" "┴" "┘" widths]

end Grid

/-- A text in lines of the terminal. -/
def consoleLines (text : String) : List String :=
  (wrap .fold terminalWidth text).map fun line =>
    String.ofList (LongWords.fold.shortened terminalWidth line)

end Letterpress.CommandLine
