import Letterpress.Design.Directive
import Letterpress.Design.Part
import Letterpress.Proofs.Layout.Buckets
import Letterpress.Proofs.Number.Exact
import Letterpress.Proofs.Session.Calls
import Letterpress.Table.Synthesis
import Mathlib.Tactic.Ring

/-!
# Moved Designs and Tables

A frame may lie anywhere on the canvas. Moving a design moves the bounds of all of its
nodes and changes nothing else, so every question about a node that is not about its
bounds has the same answer after the move. Distances are the same after the move if
arithmetic is exact.

A region is rebuilt from where its texts lie: which of them share a row, how the rows and
the texts in them are ordered, how wide they are, and what lies under their centers. All
of this is about distances, except for the first. The rows of a table are the steps of a
grid that is fixed to the canvas, so a move may put two texts into one step that were in
two, or the other way round.

A move that does neither leaves the table as it is. Moves by whole steps of the grid are
of this kind.

## Main definitions

* `Node.moved`: A node and all below it, moved by the given distances.
* `TextLeaf.moved`, `Donor.moved`, `Cell.moved`: The parts of a table after a move.
* `KeepsRows`: After the move the same texts share a step of the grid.

## Theorems

* `bounds_moved`: The bounds of a moved node.
* `relativeTo_moved`: A corner as seen from another, both moved.
* `holds_moved`: A point in a rectangle, both moved.
* `keepsRows_steps`: Moving by whole steps keeps rows.
* `textLeaves_moved`, `donors_moved`: The texts and the donors of a moved region.
* `rowCells_moved`: The cells of a moved row.
* `synthesize_moved`: A region is rebuilt as the same table after the move.
-/

namespace Letterpress

section Moving

variable {K : Type} [Scalar K]

/-- What a node has in common with others, at its new place. -/
def Common.moved (dx dy : K) (c : Common K) : Common K :=
  { c with bounds := c.bounds.map fun r => r.moved dx dy }

namespace Node

mutual

/-- The node and all below it, moved. -/
def moved (dx dy : K) : Node K → Node K
  | container c k cs => container (c.moved dx dy) k (movedAll dx dy cs)
  | text c b => text (c.moved dx dy) b
  | shape c b => shape (c.moved dx dy) b
  | image c k => image (c.moved dx dy) k

/-- The nodes and all below them, moved. -/
def movedAll (dx dy : K) : List (Node K) → List (Node K)
  | [] => []
  | n :: ns => moved dx dy n :: movedAll dx dy ns

end

variable {dx dy : K}

theorem movedAll_eq (ns : List (Node K)) : movedAll dx dy ns = ns.map (moved dx dy) := by
  induction ns with
  | nil => rfl
  | cons n ns ih => rw [movedAll, ih, List.map_cons]

@[simp]
theorem common_moved (n : Node K) : (n.moved dx dy).common = n.common.moved dx dy := by
  cases n <;> rfl

@[simp]
theorem bounds_moved (n : Node K) :
    (n.moved dx dy).bounds = n.bounds.map fun r => r.moved dx dy := by
  rw [bounds, common_moved]
  rfl

@[simp]
theorem name_moved (n : Node K) : (n.moved dx dy).name = n.name := by
  rw [name, common_moved]
  rfl

@[simp]
theorem id_moved (n : Node K) : (n.moved dx dy).id = n.id := by
  rw [id, common_moved]
  rfl

@[simp]
theorem visible_moved (n : Node K) : (n.moved dx dy).visible = n.visible := by
  rw [visible, common_moved]
  rfl

@[simp]
theorem fills_moved (n : Node K) : (n.moved dx dy).fills = n.fills := by
  rw [fills, common_moved]
  rfl

@[simp]
theorem firstFill_moved (n : Node K) : (n.moved dx dy).firstFill = n.firstFill := by
  rw [firstFill, fills_moved]
  rfl

@[simp]
theorem fillColor?_moved (n : Node K) : (n.moved dx dy).fillColor? = n.fillColor? := by
  rw [fillColor?, firstFill_moved]
  rfl

@[simp]
theorem isTableRegion_moved (n : Node K) : (n.moved dx dy).isTableRegion = n.isTableRegion := by
  cases n <;> rfl

theorem childList_moved (n : Node K) :
    (n.moved dx dy).childList = (movedAll dx dy) <$> n.childList := by
  cases n <;> rfl

@[simp]
theorem textBody_moved (n : Node K) : (n.moved dx dy).textBody = n.textBody := by
  cases n <;> rfl

@[simp]
theorem shapeBody_moved (n : Node K) : (n.moved dx dy).shapeBody = n.shapeBody := by
  cases n <;> rfl

theorem withoutFills_moved (n : Node K) :
    (n.moved dx dy).withoutFills = n.withoutFills.moved dx dy := by
  cases n <;> rfl

end Node

@[simp]
theorem width_moved (r : Rect K) (dx dy : K) : (r.moved dx dy).width = r.width :=
  rfl

@[simp]
theorem height_moved (r : Rect K) (dx dy : K) : (r.moved dx dy).height = r.height :=
  rfl

end Moving

variable {dx dy : Rat}

/-- A corner as seen from another is at the same place when both are moved. -/
theorem relativeTo_moved (r origin : Rect Rat) :
    (r.moved dx dy).relativeTo (origin.moved dx dy) = r.relativeTo origin := by
  simp only [Rect.relativeTo, Rect.moved, add_sub_add_right_eq_sub]

theorem center_moved (r : Rect Rat) :
    (r.moved dx dy).center = ⟨r.center.x + dx, r.center.y + dy⟩ := by
  simp only [Rect.center, Rect.moved, add_right_comm]

theorem expanded_moved (r : Rect Rat) (margin : Rat) :
    (r.moved dx dy).expanded margin = (r.expanded margin).moved dx dy := by
  simp only [Rect.expanded, Rect.moved, add_sub_right_comm]

theorem right_moved (r : Rect Rat) : (r.moved dx dy).right = r.right + dx := by
  simp only [Rect.right, Rect.moved, add_right_comm]

theorem bottom_moved (r : Rect Rat) : (r.moved dx dy).bottom = r.bottom + dy := by
  simp only [Rect.bottom, Rect.moved, add_right_comm]

/-- A point lies in a rectangle when both are moved if and only if it did before. -/
theorem holds_moved (r : Rect Rat) (p : Point Rat) :
    (r.moved dx dy).holds ⟨p.x + dx, p.y + dy⟩ = r.holds p := by
  rw [Bool.eq_iff_iff]
  simp only [Rect.holds, right_moved, bottom_moved, Bool.and_eq_true, decide_eq_true_eq]
  simp only [Rect.moved, add_le_add_iff_right]

namespace Table

section Parts

variable {K : Type} [Scalar K] {dx dy : K}

/-- The text at its new place. -/
def TextLeaf.moved (dx dy : K) (leaf : TextLeaf K) : TextLeaf K :=
  ⟨leaf.common.moved dx dy, leaf.body, leaf.box.moved dx dy⟩

/-- The donor at its new place. -/
def Donor.moved (dx dy : K) (donor : Donor K) : Donor K :=
  ⟨donor.node.moved dx dy, donor.box.moved dx dy⟩

/-- The cell with its text at its new place. -/
def Cell.moved (dx dy : K) (cell : Cell K) : Cell K :=
  { cell with leaf := cell.leaf.moved dx dy }

theorem leafOf_moved (common : Common K) (body : TextBody K) :
    leafOf (common.moved dx dy) body = (leafOf common body).map (TextLeaf.moved dx dy) := by
  rcases common with ⟨id, name, visible, bounds, fills⟩
  cases bounds with
  | none => rfl
  | some box => cases visible <;> rfl

mutual

/-- The texts of a moved tree are its texts, moved. -/
theorem textLeaves_moved : (n : Node K) →
    textLeaves (n.moved dx dy) = (textLeaves n).map (TextLeaf.moved dx dy)
  | .text c b => leafOf_moved c b
  | .container c k cs => by
    rw [Node.moved, textLeaves, textLeaves, textLeavesOf_moved cs]
    change (if c.visible then _ else _) = _
    split <;> rfl
  | .shape _ _ => rfl
  | .image _ _ => rfl

theorem textLeavesOf_moved : (ns : List (Node K)) →
    textLeavesOf (Node.movedAll dx dy ns) = (textLeavesOf ns).map (TextLeaf.moved dx dy)
  | [] => rfl
  | n :: ns => by
    rw [Node.movedAll, textLeavesOf, textLeavesOf, textLeaves_moved n, textLeavesOf_moved ns,
      List.map_append]

end

theorem donorOf_moved (n : Node K) :
    donorOf (n.moved dx dy) = (donorOf n).map (Donor.moved dx dy) := by
  unfold donorOf
  rw [Node.bounds_moved, Node.fills_moved]
  cases n.bounds with
  | none => rfl
  | some box => cases n.fills <;> rfl

mutual

theorem donorsFrom_moved : (n : Node K) →
    donorsFrom (n.moved dx dy) = (donorsFrom n).map (Donor.moved dx dy)
  | .container c k cs => by
    have hown : donorOf (.container (c.moved dx dy) k (Node.movedAll dx dy cs))
        = (donorOf (.container c k cs)).map (Donor.moved dx dy) :=
      donorOf_moved (.container c k cs)
    rw [Node.moved, donorsFrom, donorsFrom, hown, donors_moved cs]
    change (if c.visible then _ else _) = _
    split
    · rw [List.map_append]
    · rfl
  | .shape c b => by
    have hown : donorOf (.shape (c.moved dx dy) b)
        = (donorOf (.shape c b)).map (Donor.moved dx dy) :=
      donorOf_moved (.shape c b)
    rw [Node.moved, donorsFrom, donorsFrom, hown]
    change (if c.visible then _ else _) = _
    split <;> rfl
  | .text _ _ => rfl
  | .image _ _ => rfl

/-- The donors of moved trees are their donors, moved. -/
theorem donors_moved : (ns : List (Node K)) →
    donors (Node.movedAll dx dy ns) = (donors ns).map (Donor.moved dx dy)
  | [] => rfl
  | n :: ns => by
    rw [Node.movedAll, donors, donors, donorsFrom_moved n, donors_moved ns, List.map_append]

end

end Parts

variable {ω : Type} {host : Host ω Rat} {config : Config Rat} {dx dy : Rat}

/-- After a move the same texts share a step of the grid. -/
def KeepsRows (granularity dy : Rat) (leaves : List (TextLeaf Rat)) : Prop :=
  ∀ a ∈ leaves, ∀ b ∈ leaves,
    Layout.stepOf granularity (a.box.y + dy) = Layout.stepOf granularity (b.box.y + dy) ↔
      Layout.stepOf granularity a.box.y = Layout.stepOf granularity b.box.y

/-- Moving by whole steps keeps rows. -/
theorem keepsRows_steps (granularity : Rat) (steps : Int) (leaves : List (TextLeaf Rat)) :
    KeepsRows granularity (steps * granularity) leaves := by
  have hstep : ∀ y, granularity ≠ 0 →
      Layout.stepOf granularity (y + steps * granularity)
        = Layout.stepOf granularity y + steps := by
    intro y hzero
    rw [Layout.stepOf, add_div, mul_div_cancel_right₀ _ hzero, pixelOf_add_int, Layout.stepOf]
  intro a _ b _
  -- Without a grid all texts share its only step.
  by_cases hzero : granularity = 0
  · rw [hzero, mul_zero, add_zero, add_zero]
  · rw [hstep _ hzero, hstep _ hzero]
    omega

/-- The rows of moved texts are their rows, moved. -/
theorem leafRows_moved {leaves : List (TextLeaf Rat)}
    (hrows : KeepsRows config.rowBucket dy leaves) :
    leafRows config (leaves.map (TextLeaf.moved dx dy))
      = List.map (List.map (TextLeaf.moved dx dy)) <$> leafRows config leaves := by
  -- Which of two places comes first is decided by their difference.
  have hbefore : ∀ a b d : Rat, Layout.before (a + d) (b + d) = Layout.before a b := by
    intro a b d
    rw [Bool.eq_iff_iff, Layout.before, Layout.before, decide_eq_true_eq, decide_eq_true_eq]
    exact add_lt_add_iff_right d
  have horder : leafExtent.OrderedAs leafExtent (TextLeaf.moved dx dy) :=
    ⟨fun a b => hbefore a.box.x b.box.x dx, fun a b => hbefore a.box.y b.box.y dy⟩
  exact Layout.bucketRows_map horder hrows

theorem colorFrom?_moved (leaf : TextLeaf Rat) (donor : Donor Rat) :
    colorFrom? config (leaf.moved dx dy).box.center (donor.moved dx dy)
      = colorFrom? config leaf.box.center donor := by
  -- Whether the center is in the donor depends on their distance alone.
  simp only [colorFrom?, TextLeaf.moved, Donor.moved, expanded_moved, center_moved, holds_moved,
    Node.fillColor?_moved]

/-- A moved text gets the color that it got before. -/
theorem cellBackground_moved (header : Bool) (leaf : TextLeaf Rat) (donors : List (Donor Rat)) :
    cellBackground config header (leaf.moved dx dy) (donors.map (Donor.moved dx dy))
      = cellBackground config header leaf donors := by
  have hcolor : donatedColor config (leaf.moved dx dy) (donors.map (Donor.moved dx dy))
      = donatedColor config leaf donors := by
    rw [donatedColor, donatedColor, List.findSome?_map]
    simp only [Function.comp_def, colorFrom?_moved]
  rw [cellBackground, cellBackground, hcolor]
  rfl

theorem cellsFrom_moved (donors : List (Donor Rat)) (row rows columns column : Nat)
    (cells : List (TextLeaf Rat × String)) :
    cellsFrom config row rows columns (donors.map (Donor.moved dx dy)) column
        (cells.map fun p => (p.1.moved dx dy, p.2))
      = List.map (Cell.moved dx dy) <$> cellsFrom config row rows columns donors column cells := by
  induction cells generalizing column with
  | nil => rfl
  | cons p rest ih =>
      rcases p with ⟨leaf, width⟩
      rw [List.map_cons, cellsFrom, cellsFrom, cellBackground_moved, ih (column + 1)]
      cases cellBackground config (decide (row = 0)) leaf donors with
      | error e => rfl
      | ok background =>
          cases cellsFrom config row rows columns donors (column + 1) rest <;> rfl

/-- The cells of a moved row are its cells, with their texts moved. -/
theorem rowCells_moved (donors : List (Donor Rat)) (row rows : Nat)
    (leaves : List (TextLeaf Rat)) :
    rowCells config row rows (donors.map (Donor.moved dx dy))
        (leaves.map (TextLeaf.moved dx dy))
      = List.map (Cell.moved dx dy) <$> rowCells config row rows donors leaves := by
  -- The widths are those of the extents, which only move.
  have hwidths : (leaves.map (TextLeaf.moved dx dy)).map (fun leaf => leaf.box.width)
      = leaves.map fun leaf => leaf.box.width := by
    rw [List.map_map]
    rfl
  have hpairs : ∀ widths : List String, (leaves.map (TextLeaf.moved dx dy)).zip widths
      = (leaves.zip widths).map fun p => (p.1.moved dx dy, p.2) := by
    intro widths
    rw [List.zip_map_left]
    rfl
  rw [rowCells, rowCells, hwidths, hpairs, List.length_map]
  exact cellsFrom_moved donors row rows leaves.length 0 _

/-- A cell is written without regard to where its text lies. -/
theorem cellsMarkup_moved (cells : List (Cell Rat)) :
    cellsMarkup host config (cells.map (Cell.moved dx dy)) = cellsMarkup host config cells := by
  induction cells with
  | nil => rfl
  | cons cell rest ih =>
      rw [List.map_cons, cellsMarkup, cellsMarkup, ih]
      rfl

theorem rowsMarkup_moved (donors : List (Donor Rat)) (count row : Nat)
    (rows : List (List (TextLeaf Rat))) :
    rowsMarkup host config (donors.map (Donor.moved dx dy)) count row
        (rows.map (List.map (TextLeaf.moved dx dy)))
      = rowsMarkup host config donors count row rows := by
  induction rows generalizing row with
  | nil => rfl
  | cons leaves rest ih =>
      rw [List.map_cons, rowsMarkup, rowsMarkup, rowCells_moved, ih (row + 1)]
      cases rowCells config row count donors leaves with
      | error e => rfl
      | ok cells =>
          change (cellsMarkup host config (cells.map (Cell.moved dx dy)) >>= _) = _
          rw [cellsMarkup_moved]
          rfl

/-- A region is rebuilt as the same table after a move that keeps its rows. -/
theorem synthesize_moved {node : Node Rat}
    (hrows : KeepsRows config.rowBucket dy (textLeaves node)) (x y : Rat) :
    synthesize host config (node.moved dx dy) x y = synthesize host config node x y := by
  cases node with
  | text c b => rfl
  | shape c b => rfl
  | image c k => rfl
  | container c k cs =>
      have hbounds : (Node.container (c.moved dx dy) k (Node.movedAll dx dy cs)).bounds
          = (Node.container c k cs).bounds.map fun r => r.moved dx dy := rfl
      have hleaves : textLeaves (.container (c.moved dx dy) k (Node.movedAll dx dy cs))
          = (textLeaves (.container c k cs)).map (TextLeaf.moved dx dy) :=
        textLeaves_moved (.container c k cs)
      rw [Node.moved]
      unfold synthesize
      rw [hbounds]
      cases (Node.container c k cs).bounds with
      | none => rfl
      | some box =>
          rw [Option.map_some]
          dsimp only
          rw [hleaves]
          cases htexts : textLeaves (.container c k cs) with
          | nil => rfl
          | cons leaf rest =>
              rw [htexts] at hrows
              rw [List.map_cons]
              dsimp only
              -- The rows are the only part that depends on the grid.
              rw [← List.map_cons, leafRows_moved hrows, donors_moved]
              cases leafRows config (leaf :: rest) with
              | error e => rfl
              | ok rows =>
                  change (rowsMarkup host config ((donors cs).map (Donor.moved dx dy))
                    (rows.map (List.map (TextLeaf.moved dx dy))).length 0
                    (rows.map (List.map (TextLeaf.moved dx dy))) >>= _) = _
                  rw [List.length_map, rowsMarkup_moved]
                  rfl

end Table

end Letterpress
