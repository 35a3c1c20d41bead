import Letterpress.Proofs.Session
import Letterpress.Table.Synthesis
import Mathlib.Data.List.Forall2

/-!
# Cells of a Region

A rebuilt region is made row by row: first the cells of a row are found, and then they are
written one after another, each around the block of its text. All that can fail in finding a
cell is its background. Its row and column and its corners go with its place among the rows,
and its share of the width with the other texts of its row.

## Main definitions

* `IsCellAt`: A cell has the looks of its place.
* `AreCells`: The cells of a table, row by row.
* `IsCellMarkup`, `IsRowMarkup`: The text of a cell, and of a row of cells.

## Theorems

* `rowCells_ok`: The cells of a row show its texts, and have the looks of their places.
* `rowCells_returns`: A row has cells if its texts have backgrounds.
* `AreCells.places`: The cells of a table have the looks of their places.
* `synthesize_ok`: What a rebuilt region is made of.
* `rowsMarkup_cells`: Rows are written from their cells.
-/

namespace Letterpress.Table

open Layout (percentages)

variable {K ω : Type} [Scalar K] {config : Config K} {donors : List (Donor K)}

section Rows

/-- The cell has the looks of its place, among as many rows and columns. -/
structure IsCellAt (config : Config K) (donors : List (Donor K)) (row rows column columns : Nat)
    (cell : Cell K) : Prop where
  row_eq : cell.row = row
  column_eq : cell.column = column
  background : cellBackground config (row = 0) cell.leaf donors = .ok cell.background
  corners_eq : cell.corners = cornersOf config.cornerRadius row column rows columns

theorem cellsFrom_ok {row rows columns column : Nat} {leaves : List (TextLeaf K × String)}
    {cells : List (Cell K)}
    (h : cellsFrom config row rows columns donors column leaves = .ok cells) :
    (cells.map fun cell => (cell.leaf, cell.widthPercent)) = leaves ∧
      ∀ i (hi : i < cells.length),
        IsCellAt config donors row rows (column + i) columns cells[i] := by
  induction leaves generalizing column cells with
  | nil =>
      rw [cellsFrom, except_pure_ok] at h
      rw [← h]
      exact ⟨rfl, fun i hi => absurd hi (Nat.not_lt_zero i)⟩
  | cons leaf leaves ih =>
      simp only [cellsFrom, except_bind_ok, except_pure_ok] at h
      rcases h with ⟨background, hbackground, rest, hrest, rfl⟩
      rcases ih hrest with ⟨hleaves, hcells⟩
      refine ⟨by rw [List.map_cons, hleaves], fun i hi => ?_⟩
      -- The first cell is in the column that was asked for, the others are counted from the next.
      cases i with
      | zero => exact ⟨rfl, rfl, hbackground, rfl⟩
      | succ i =>
          have hcell := hcells i (Nat.lt_of_succ_lt_succ hi)
          rwa [Nat.add_right_comm] at hcell

/-- Every column has its share of the width. -/
theorem length_percentages (widths : List K) : (percentages widths).length = widths.length := by
  have hshares : (Layout.shares widths).length = widths.length := by
    unfold Layout.shares
    dsimp only
    split <;> rw [List.length_map]
  cases widths with
  | nil => rfl
  | cons w widths =>
      unfold Layout.percentages Layout.roundedShares
      dsimp only
      rw [List.length_map, List.length_append, List.length_map, List.length_dropLast, hshares]
      rfl

/-- The cells of a row show its texts, and have the looks of their places. -/
theorem rowCells_ok {row rows : Nat} {leaves : List (TextLeaf K)} {cells : List (Cell K)}
    (h : rowCells config row rows donors leaves = .ok cells) :
    cells.map Cell.leaf = leaves ∧
      cells.map Cell.widthPercent = percentages (leaves.map fun leaf => leaf.box.width) ∧
      ∀ i (hi : i < cells.length), IsCellAt config donors row rows i cells.length cells[i] := by
  rcases cellsFrom_ok h with ⟨hpairs, hcells⟩
  have hlength : leaves.length = (percentages (leaves.map fun leaf => leaf.box.width)).length := by
    rw [length_percentages, List.length_map]
  have hleaves : cells.map Cell.leaf = leaves := by
    have hfirst := congrArg (List.map Prod.fst) hpairs
    rwa [List.map_map, List.map_fst_zip (Nat.le_of_eq hlength)] at hfirst
  refine ⟨hleaves, ?_, fun i hi => ?_⟩
  · have hsecond := congrArg (List.map Prod.snd) hpairs
    rwa [List.map_map, List.map_snd_zip (Nat.le_of_eq hlength.symm)] at hsecond
  · have hcount : leaves.length = cells.length := by
      rw [← hleaves, List.length_map]
    have hcell := hcells i hi
    rwa [Nat.zero_add, hcount] at hcell

theorem cellsFrom_returns {row rows columns column : Nat} {leaves : List (TextLeaf K × String)} :
    Returns (cellsFrom config row rows columns donors column leaves) ↔
      ∀ leaf ∈ leaves.map Prod.fst, Returns (cellBackground config (row = 0) leaf donors) := by
  induction leaves generalizing column with
  | nil => simp [cellsFrom]
  | cons leaf leaves ih =>
      rw [List.map_cons, List.forall_mem_cons, cellsFrom]
      refine returns_bind fun background _ => ?_
      rw [bind_pure_comp, returns_map]
      exact ih

/-- A row has cells exactly if its texts have backgrounds. -/
theorem rowCells_returns {row rows : Nat} {leaves : List (TextLeaf K)} :
    Returns (rowCells config row rows donors leaves) ↔
      ∀ leaf ∈ leaves, Returns (cellBackground config (row = 0) leaf donors) := by
  have hzip : (leaves.zip (percentages (leaves.map fun leaf => leaf.box.width))).map Prod.fst
      = leaves :=
    List.map_fst_zip (Nat.le_of_eq (by rw [length_percentages, List.length_map]))
  rw [rowCells, cellsFrom_returns, hzip]

/-- The cells of the rows of a table. -/
def AreCells (config : Config K) (donors : List (Donor K)) (rows : List (List (TextLeaf K)))
    (cells : List (List (Cell K))) : Prop :=
  List.Forall₂ (fun p => (rowCells config p.2 rows.length donors p.1 = .ok ·)) rows.zipIdx cells

variable {rows : List (List (TextLeaf K))} {cells : List (List (Cell K))}

/-- Each row of cells is that of the texts in its place. -/
theorem AreCells.row (h : AreCells config donors rows cells) {i : Nat} (hi : i < cells.length) :
    ∃ hrow : i < rows.length, rowCells config i cells.length donors rows[i] = .ok cells[i] := by
  rcases List.forall₂_iff_get.mp h with ⟨hlength, hcells⟩
  rw [List.length_zipIdx] at hlength
  have hrow : i < rows.length := hlength ▸ hi
  have hself := hcells i (by rwa [List.length_zipIdx]) hi
  simp only [List.get_eq_getElem, List.getElem_zipIdx, Nat.zero_add, hlength] at hself
  exact ⟨hrow, hself⟩

/-- The cells of a table have the looks of their places. -/
theorem AreCells.places (h : AreCells config donors rows cells) (i : Nat) (hi : i < cells.length)
    (j : Nat) (hj : j < cells[i].length) :
    IsCellAt config donors i cells.length j cells[i].length cells[i][j] := by
  rcases h.row hi with ⟨_, hrow⟩
  exact (rowCells_ok hrow).2.2 j hj

/-- The cells of a table show its texts. -/
theorem AreCells.leaves (h : AreCells config donors rows cells) :
    cells.map (List.map Cell.leaf) = rows := by
  refine List.ext_getElem ?_ fun i hi _ => ?_
  · rw [List.length_map, ← h.length_eq, List.length_zipIdx]
  · rw [List.length_map] at hi
    rcases h.row hi with ⟨_, hrow⟩
    rw [List.getElem_map, (rowCells_ok hrow).1]

end Rows

section Markup

variable {host : Host ω K}

/-- The text is the cell around the block of what it shows. -/
def IsCellMarkup (host : Host ω K) (config : Config K) (cell : Cell K) (text : String) : Prop :=
  ∃ content s s', Render.textBlock host config cell.leaf.body s = (.ok content, s') ∧
    cellMarkup config cell content = .ok text

/-- The text is the row of the cells. -/
def IsRowMarkup (host : Host ω K) (config : Config K) (cells : List (Cell K)) (text : String) :
    Prop :=
  ∃ texts, text = "<tr>" ++ Text.concat texts ++ "</tr>" ∧
    List.Forall₂ (IsCellMarkup host config) cells texts

theorem cellsMarkup_ok {cells : List (Cell K)} {markup : String} {s s' : Session ω K}
    (h : cellsMarkup host config cells s = (.ok markup, s')) :
    ∃ texts, markup = Text.concat texts ∧ List.Forall₂ (IsCellMarkup host config) cells texts := by
  induction cells generalizing markup s s' with
  | nil =>
      rw [cellsMarkup, Task.pure_ok] at h
      exact ⟨[], h.1.symm, .nil⟩
  | cons cell cells ih =>
      simp only [cellsMarkup, Task.bind_ok, Task.number_ok, Task.pure_ok] at h
      rcases h with ⟨content, s₁, hcontent, first, _, ⟨hfirst, -⟩, rest, _, hrest, rfl, -⟩
      rcases ih hrest with ⟨texts, rfl, hcells⟩
      exact ⟨first :: texts, rfl, .cons ⟨content, s, s₁, hcontent, hfirst⟩ hcells⟩

/-- Rows are written from their cells. -/
theorem rowsMarkup_cells {count row : Nat} {rows : List (List (TextLeaf K))} {texts : List String}
    {s s' : Session ω K}
    (h : rowsMarkup host config donors count row rows s = (.ok texts, s')) :
    ∃ cells, List.Forall₂ (fun p => (rowCells config p.2 count donors p.1 = .ok ·))
        (rows.zipIdx row) cells ∧ List.Forall₂ (IsRowMarkup host config) cells texts := by
  induction rows generalizing row texts s s' with
  | nil =>
      rw [rowsMarkup, Task.pure_ok] at h
      rw [← h.1]
      exact ⟨[], .nil, .nil⟩
  | cons leaves rows ih =>
      simp only [rowsMarkup, Task.bind_ok, Task.number_ok, Task.pure_ok] at h
      rcases h with ⟨first, _, ⟨hfirst, -⟩, markup, _, hmarkup, rest, _, hrest, rfl, -⟩
      rcases cellsMarkup_ok hmarkup with ⟨parts, rfl, hparts⟩
      rcases ih hrest with ⟨cells, hcells, htexts⟩
      exact ⟨first :: cells, .cons hfirst hcells, .cons ⟨parts, rfl, hparts⟩ htexts⟩

/-- What a rebuilt region is made of: it is a container with bounds and texts, whose rows are
    written one after another and put into a table. -/
theorem synthesize_ok {node : Node K} {x y : K} {table : Synthesized} {s s' : Session ω K}
    (h : synthesize host config node x y s = (.ok (some table), s')) :
    ∃ common kind children box rows texts, node = .container common kind children ∧
      node.bounds = some box ∧ textLeaves node ≠ [] ∧
      leafRows config (textLeaves node) = .ok rows ∧
      rowsMarkup host config (Table.donors children) rows.length 0 rows s = (.ok texts, s') ∧
      tableMarkup config x y box.width texts = .ok table.markup ∧
      table.expectedHeight = expectedHeight config rows.length := by
  cases node with
  | text _ _ | shape _ _ | image _ _ =>
      simp only [synthesize, Task.pure_ok] at h
      exact absurd h.1 (by simp)
  | container common kind children =>
      -- What is no container, has no bounds or has no texts is not rebuilt.
      cases hbox : (Node.container common kind children).bounds with
      | none =>
          simp only [synthesize, hbox, Task.pure_ok] at h
          exact absurd h.1 (by simp)
      | some box =>
          cases hleaves : textLeaves (Node.container common kind children) with
          | nil =>
              simp only [synthesize, hbox, hleaves, Task.pure_ok] at h
              exact absurd h.1 (by simp)
          | cons leaf leaves =>
              simp only [synthesize, hbox, hleaves, Task.bind_ok, Task.number_ok, Task.pure_ok,
                Option.some.injEq] at h
              rcases h with ⟨rows, _, ⟨hrows, rfl⟩, texts, _, htexts, markup, _, ⟨hmarkup, rfl⟩,
                rfl, rfl⟩
              exact ⟨common, kind, children, box, rows, texts, rfl, rfl, List.cons_ne_nil _ _,
                hrows, htexts, hmarkup, rfl⟩

end Markup

end Letterpress.Table
