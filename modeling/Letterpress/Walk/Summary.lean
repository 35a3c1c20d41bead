import Letterpress.Design.Directive
import Letterpress.Design.Part
import Letterpress.Json.Value
import Letterpress.Text.Escape
import Letterpress.Walk.Place

/-!
# Summaries

A summary shows how the children of a frame lie in rows, and warns of what an export
will not keep as it is: children without bounds, children that reach beyond the frame,
and regions that are rebuilt as tables.

## Main definitions

* `Summary`: A summary.
* `placedRows`: The rows of a frame.
* `boundsWarnings`, `tableWarnings`: The warnings.
* `summarize`: The summary of a frame.
* `analyze`: A summary by an analyzer that keeps its warnings.
* `Summary.json`: A summary as structured data.
-/

namespace Letterpress

/-- A child of a frame in a summary, with its place in whole pixels. -/
structure SummaryNode where
  name : String
  kind : String
  x : Int
  deriving DecidableEq, Repr

/-- A row of a summary, in whole pixels. -/
structure SummaryRow where
  y : Int
  height : Int
  nodes : List SummaryNode
  deriving DecidableEq, Repr

/-- The summary of a frame. The size is missing if the frame has no bounds. -/
structure Summary where
  name : String
  size : Option (Int × Int)
  tableRegions : Nat
  rows : List SummaryRow
  warnings : List String
  deriving DecidableEq, Repr

variable {K : Type} [Scalar K]

/-- The children of a frame that are exported; none if it has no bounds. -/
def exportedChildren (root : Node K) : Except Fault (List (Placed K)) :=
  match root.bounds with
  | none => return []
  | some frame => return placedChildren frame (← root.childList)

/-- How the place of a child is read off. -/
def placedExtent : Layout.Extent (Placed K) K :=
  ⟨Placed.x, Placed.y, fun p => p.box.height⟩

/-- The children of a frame in rows. -/
def placedRows (config : Config K) (children : List (Placed K)) : List (Layout.Row (Placed K) K) :=
  Layout.clusterRows placedExtent config.rowTolerance children

/-- The child reaches beyond the frame. -/
def Placed.overflows (p : Placed K) (frame : Rect K) : Bool :=
  p.x < 0.0 || p.y < 0.0 || frame.width < p.x + p.box.width || frame.height < p.y + p.box.height

/-- The node is shown, but nobody knows where. -/
def Node.isUnplaced {K : Type} (n : Node K) : Bool :=
  n.visible && n.bounds.isNone

/-- Warnings of missing bounds and of children beyond the frame. -/
def boundsWarnings (root : Node K) : Except Fault (List String) := do
  match root.bounds with
  | none => return ["Root " ++ Text.quoted root.name ++ " has no bounding box"]
  | some frame =>
    let unplaced := (← root.childList).filter Node.isUnplaced
    let outside := (← exportedChildren root).filter fun p => p.overflows frame
    return unplaced.map (fun n => Text.quoted n.name ++ " has no bounds and will be skipped")
      ++ outside.map fun p => Text.quoted p.node.name ++ " extends outside the frame"

/-- Warnings of regions that are rebuilt as tables. -/
def tableWarnings (children : List (Placed K)) : List String :=
  (children.filter fun p => p.node.isTableRegion).map fun p =>
    Text.quoted p.node.name ++ " is re-synthesized as a table; later siblings may shift down"

/-- The size of a frame in whole pixels. -/
def pixelSize (frame : Rect K) : Except NumberError (Int × Int) := do
  let width ← Scalar.roundHalfUp frame.width
  let height ← Scalar.roundHalfUp frame.height
  return (width, height)

/-- A child in a summary. -/
def summaryNode (p : Placed K) : Except NumberError SummaryNode := do
  return ⟨p.node.name, p.node.kind, ← Scalar.roundHalfUp p.x⟩

/-- A row in a summary. -/
def summaryRow (row : Layout.Row (Placed K) K) : Except NumberError SummaryRow := do
  let y ← Scalar.roundHalfUp row.y
  let height ← Scalar.roundHalfUp row.height
  return ⟨y, height, ← row.items.mapM summaryNode⟩

/-- The summary of a frame. -/
def summarize (config : Config K) (root : Node K) : Except Fault Summary := do
  let warnings ← boundsWarnings root
  let children ← exportedChildren root
  let size ← root.bounds.mapM fun frame => (pixelSize frame).mapError Fault.number
  let rows ← ((placedRows config children).mapM summaryRow).mapError Fault.number
  return {
    name := root.name
    size
    tableRegions := root.countTableRegions
    rows
    warnings := warnings ++ tableWarnings children }

/-- The work of an analyzer, which keeps its warnings from one summary to the next, and
    whether or not it fails. -/
abbrev Analysis := ExceptT Fault (StateM (List String))

/-- More warnings are kept. -/
def keepWarnings (texts : List String) : Analysis Unit :=
  modify (· ++ texts)

/-- The warnings of missing bounds and of children beyond the frame are kept. -/
def checkBounds (root : Node K) : Analysis Unit := do
  keepWarnings (← boundsWarnings root)

/-- The warnings of regions that are rebuilt as tables are kept. -/
def checkTables (root : Node K) : Analysis Unit := do
  keepWarnings (tableWarnings (← exportedChildren root))

/-- The size of a frame in a summary. -/
def shownSize (root : Node K) : Except Fault (Option (Int × Int)) :=
  root.bounds.mapM fun frame => (pixelSize frame).mapError Fault.number

/-- The rows of a frame in a summary. -/
def shownRows (config : Config K) (root : Node K) : Except Fault (List SummaryRow) := do
  let children ← exportedChildren root
  ((placedRows config children).mapM summaryRow).mapError Fault.number

/-- The summary of a frame by its analyzer, which forgets the warnings of the last one. -/
def analyze (config : Config K) (root : Node K) : Analysis Summary := do
  set ([] : List String)
  checkBounds root
  checkTables root
  let size ← shownSize root
  let rows ← shownRows config root
  return {
    name := root.name
    size
    tableRegions := root.countTableRegions
    rows
    warnings := ← get }

/-- A child of a summary as structured data. -/
def SummaryNode.json (n : SummaryNode) : Json :=
  .obj [("name", .str n.name), ("kind", .str n.kind), ("x", .int n.x)]

/-- A row of a summary as structured data. -/
def SummaryRow.json (r : SummaryRow) : Json :=
  .obj [("y", .int r.y), ("height", .int r.height), ("nodes", .arr (r.nodes.map SummaryNode.json))]

/-- A whole number that may be missing as structured data. -/
def pixelsJson : Option Int → Json
  | some n => .int n
  | none => .null

/-- A summary as structured data. -/
def Summary.json (s : Summary) : Json :=
  .obj [("name", .str s.name), ("width", pixelsJson (s.size.map Prod.fst)),
    ("height", pixelsJson (s.size.map Prod.snd)), ("table_regions", .int s.tableRegions),
    ("rows", .arr (s.rows.map SummaryRow.json)), ("warnings", .arr (s.warnings.map .str))]

end Letterpress
