import Letterpress.Proofs.Layout.Shares
import Letterpress.Proofs.Table.Shown

/-!
# Widths of Cells

Each cell of a rebuilt table declares the percentage that the width of its text takes of its
row. So no cell has an impossible width in a row that fits.

## Main definitions

* `rowWidths`: The widths of a row's texts.
* `IsCellText`: The text is a cell that declares a percentage.
* `IsRowText`: The text is a row whose cells declare the percentages of its texts.

## Theorems

* `synthesize_widths`: The cells of a rebuilt region declare the percentages of their rows.
* `possible_widths`: Which rows have possible percentages, in lists and in rebuilt regions.
-/

namespace Letterpress.Table

open Layout (percentages IsPossible Fits trueShare)

section Declared

variable {K ω : Type} [Scalar K] {host : Host ω K} {config : Config K}

/-- The widths of a row's texts. -/
def rowWidths (leaves : List (TextLeaf K)) : List K :=
  leaves.map fun leaf => leaf.box.width

/-- The text is a cell that declares the percentage as its width. -/
def IsCellText (percentage cell : String) : Prop :=
  ∃ css content, cell = "<td align=\"left\" valign=\"middle\" width=\"" ++ percentage
    ++ "%\" style=\"" ++ css ++ "\">" ++ content ++ "</td>"

/-- The text is a row. Its cells declare the percentages that its texts take of it. -/
def IsRowText (leaves : List (TextLeaf K)) (row : String) : Prop :=
  ∃ cells, row = "<tr>" ++ Text.concat cells ++ "</tr>" ∧
    List.Forall₂ IsCellText (percentages (rowWidths leaves)) cells

/-- Each row declares the percentages of its texts in its cells. -/
theorem isRowText_of_cells {row rows : Nat} {donors : List (Donor K)}
    {leaves : List (TextLeaf K)} {cells : List (Cell K)} {text : String}
    (hcells : rowCells config row rows donors leaves = .ok cells)
    (h : IsRowMarkup host config cells text) : IsRowText leaves text := by
  rcases h with ⟨texts, rfl, hwritten⟩
  refine ⟨texts, rfl, ?_⟩
  have hwidths : cells.map Cell.widthPercent = percentages (rowWidths leaves) :=
    (rowCells_ok hcells).2.1
  rw [← hwidths, List.forall₂_map_left_iff]
  refine hwritten.imp fun cell text hcell => ?_
  rcases hcell with ⟨content, _, _, -, htext⟩
  simp only [cellMarkup, except_bind_ok, except_pure_ok] at htext
  rcases htext with ⟨style, -, htext⟩
  exact ⟨style.css, content, htext.symm⟩

theorem rowsMarkup_widths {donors : List (Donor K)} {count row : Nat}
    {rows : List (List (TextLeaf K))} {texts : List String} {s s' : Session ω K}
    (h : rowsMarkup host config donors count row rows s = (.ok texts, s')) :
    List.Forall₂ IsRowText rows texts := by
  rcases rowsMarkup_cells h with ⟨cells, hcells, htexts⟩
  clear h
  induction rows generalizing row cells texts with
  | nil =>
      cases hcells
      cases htexts
      exact .nil
  | cons leaves rows ih =>
      rw [List.zipIdx_cons] at hcells
      cases hcells with
      | cons hfirst hrest =>
          cases htexts with
          | cons htext htexts => exact .cons (isRowText_of_cells hfirst htext) (ih _ hrest htexts)

/-- The cells of a rebuilt region declare the percentages of their rows. -/
theorem synthesize_widths {node : Node K} {x y : K} {table : Synthesized} {s s' : Session ω K}
    (h : synthesize host config node x y s = (.ok (some table), s')) :
    ∃ (box : Rect K) (rows : List (List (TextLeaf K))) (texts : List String),
      node.bounds = some box ∧ leafRows config (textLeaves node) = .ok rows ∧
      tableMarkup config x y box.width texts = .ok table.markup ∧
      List.Forall₂ IsRowText rows texts := by
  rcases synthesize_ok h with ⟨_, _, _, box, rows, texts, -, hbox, -, hrows, htexts, hmarkup, -⟩
  exact ⟨box, rows, texts, hbox, hrows, hmarkup, rowsMarkup_widths htexts⟩

end Declared

section Possible

/-- Which widths are possible. In floating point the percentages of a row are exactly if its shares
    are finite after rounding, have no minus signs, and are not more than the whole. In exact
    arithmetic all of them but the last are, whatever the widths are. The last one is exactly if the
    row fits, as rows of up to three widths do, and rows whose last share is not smaller than all
    errors of the others. The cells of a rebuilt region declare the percentages of their rows, so
    this is when they have possible widths. -/
theorem possible_widths (widths : List Float) :
    ((∀ s ∈ percentages widths, IsPossible s) ↔
      ∀ x ∈ Layout.roundedShares widths, ∃ q, Scalar.reading x = .exact q ∧
        Scalar.negative x = false ∧ Scalar.hundredths q ≤ 10000) ∧
    (∀ (exact : List Rat) (h : exact ≠ []),
      (∀ s ∈ (percentages exact).dropLast, IsPossible s) ∧
      ((∀ s ∈ percentages exact, IsPossible s) ↔ Fits exact) ∧
      (exact.length ≤ 3 → Fits exact) ∧
      (0.005 * (exact.length - 1) ≤ trueShare exact (exact.getLast h) → Fits exact)) ∧
    ∀ {K ω : Type} [Scalar K] (host : Host ω K) (config : Config K) (node : Node K) (x y : K)
      (table : Synthesized) (s s' : Session ω K),
      synthesize host config node x y s = (.ok (some table), s') →
      ∃ (box : Rect K) (rows : List (List (TextLeaf K))) (texts : List String),
        node.bounds = some box ∧ leafRows config (textLeaves node) = .ok rows ∧
        tableMarkup config x y box.width texts = .ok table.markup ∧
        List.Forall₂ IsRowText rows texts :=
  ⟨Layout.possible_iff_float widths, fun _ h => ⟨Layout.front_possible h,
    Layout.possible_iff_fits h, Layout.fits_short, Layout.fits_wide h⟩,
    fun _ _ _ _ _ _ _ _ h => synthesize_widths h⟩

/-- A table of scores: three texts side by side, one of them without a width, above a fourth. -/
def scoreTable : Node Rat :=
  let score (id : String) (x y width : Rat) : Node Rat :=
    .text ⟨id, "Score", true, some ⟨x, y, width, 12⟩, []⟩ ⟨"7", [], "LEFT", none⟩
  .container ⟨"1", "[table] Scores", true, some ⟨0, 0, 90, 40⟩, []⟩ .frame
    [score "2" 0 0 20, score "3" 20 0 0, score "4" 20 1 40, score "5" 0 20 90]

/-- A host that has all fonts and no pictures. -/
def typesetHost : Host Unit Rat where
  loadFont _ _ := { result := .ok (), world := () }
  rasterize _ _ _ := { result := .error (.host "no picture"), world := () }
  imageBytes _ _ := { result := .ok none, world := () }

/-- Six equal widths before an empty one have more than the whole after rounding, and so the last
    one has less than nothing, in floating point as in exact arithmetic. All cells of the scores
    have possible widths. -/
theorem possible_widths_scores :
    percentages ([1, 1, 1, 1, 1, 1, 0] : List Float)
        = ["16.67", "16.67", "16.67", "16.67", "16.67", "16.67", "-0.02"] ∧
      (¬ ∀ s ∈ percentages ([1, 1, 1, 1, 1, 1, 0] : List Float), IsPossible s) ∧
      ¬ Fits [1, 1, 1, 1, 1, 1, 0] ∧
      ∃ (table : Synthesized) (s : Session Unit Rat) (rows : List (List (TextLeaf Rat)))
        (texts : List String),
        synthesize typesetHost {} scoreTable 0 0 ⟨(), [], []⟩ = (.ok (some table), s) ∧
        tableMarkup {} (0 : Rat) 0 90 texts = .ok table.markup ∧
        List.Forall₂ IsRowText rows texts ∧ rows.map rowWidths = [[20, 0, 40], [90]] ∧
        ∀ row ∈ rows, ∀ p ∈ percentages (rowWidths row), IsPossible p := by
  rcases possible_widths [1, 1, 1, 1, 1, 1, 0] with ⟨hfloat, hexact, htables⟩
  have hminus : ¬ ∀ x ∈ Layout.roundedShares ([1, 1, 1, 1, 1, 1, 0] : List Float),
      Scalar.negative x = false := by
    decide +kernel
  have hmade : ((synthesize typesetHost {} scoreTable 0 0 ⟨(), [], []⟩).1.toOption.bind id).isSome
      = true := by
    decide +kernel
  have hwidths : (leafRows {} (textLeaves scoreTable)).toOption.map (List.map rowWidths)
      = some [[20, 0, 40], [90]] := by
    decide +kernel
  refine ⟨by decide +kernel, fun h => hminus fun x hx => ?_, by decide +kernel, ?_⟩
  · rcases hfloat.mp h x hx with ⟨_, -, hsign, -⟩
    exact hsign
  · rcases hrun : synthesize typesetHost {} scoreTable 0 0 ⟨(), [], []⟩ with ⟨_ | _ | table, s⟩
    · rw [hrun] at hmade
      exact absurd hmade Bool.false_ne_true
    · rw [hrun] at hmade
      exact absurd hmade Bool.false_ne_true
    · rcases htables _ _ _ _ _ _ _ _ hrun with ⟨box, rows, texts, hbox, hrows, hmarkup, hwritten⟩
      obtain rfl : (⟨0, 0, 90, 40⟩ : Rect Rat) = box := Option.some.inj hbox
      rw [hrows] at hwidths
      have hrowWidths : rows.map rowWidths = [[20, 0, 40], [90]] := Option.some.inj hwidths
      refine ⟨table, s, rows, texts, rfl, hmarkup, hwritten, hrowWidths, fun row hrow => ?_⟩
      -- Both rows are short.
      have hmem : rowWidths row ∈ ([[20, 0, 40], [90]] : List (List Rat)) :=
        hrowWidths ▸ List.mem_map_of_mem hrow
      have hshort : ∀ exact : List Rat, exact ≠ [] → exact.length ≤ 3 →
          ∀ s ∈ percentages exact, IsPossible s := fun exact hne hlength =>
        (hexact exact hne).2.1.mpr ((hexact exact hne).2.2.1 hlength)
      rcases List.mem_pair.mp hmem with hfirst | hsecond
      · rw [hfirst]
        exact hshort _ (List.cons_ne_nil _ _) (by decide)
      · rw [hsecond]
        exact hshort _ (List.cons_ne_nil _ _) (by decide)

end Possible

end Letterpress.Table
