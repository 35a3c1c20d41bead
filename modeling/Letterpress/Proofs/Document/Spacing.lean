import Letterpress.Proofs.Document.Modest
import Letterpress.Proofs.Document.Structure

/-!
# The Cells Around a Fragment

A fragment stands between two empty cells, in a table as wide as the canvas without the borders
of the container. The cell on its left is as wide as its distance from the left edge, and the
one on its right takes what is left, or nothing.

Fragments are cut off at the edge of the canvas, and the borders lie within it. So the cells of
a fragment add up to the width of their table unless it reaches under the right border. Then
they are wider than the table, by the two borders at most.

## Main definitions

* `WideCell`: A cell that declares its width.
* `rowTable`: A table with a row of such cells.
* `betweenComments`: A table between the comments that place it.
* `spacedCells`: The cells of a fragment.

## Theorems

* `fragmentTable_spaced`: The table of a fragment that is in no link.
* `container_table`: It is among the lines of the container.
* `container_spacers`: The widths of the cells around a fragment.
* `container_spacers_line`: They may add up to more than the width of their table.
-/

namespace Letterpress.Document

variable {K : Type} [Scalar K] {config : Config K} {background : Background}

/-- A cell with its width, its further declarations and its content. -/
structure WideCell where
  width : Int
  css : String := ""
  content : String := ""

/-- The cell declares its width twice, in its attribute and in its style. -/
def WideCell.text (cell : WideCell) : String :=
  "<td width=\"" ++ toString cell.width ++ "\" style=\"width:" ++ toString cell.width ++ "px;"
    ++ cell.css ++ "\">" ++ cell.content ++ "</td>"

/-- A table with a single row, which declares its width in the same way. -/
def rowTable (width : Int) (cells : List WideCell) : String :=
  presentationTable ++ " width=\"" ++ toString width ++ "\" style=\"width:" ++ toString width
    ++ "px;\"><tr>" ++ Text.joinWith "" (cells.map WideCell.text) ++ "</tr></table>"

/-- A table between the comments that place it. -/
def betweenComments (top : Int) (table : String) : String :=
  "<!--[if mso]><div style=\"position:absolute; top:" ++ toString top
    ++ "px; left:0px;\"><![endif]-->" ++ table ++ "<!--[if mso]></div><![endif]-->"

section Tables

variable {f g : Fragment} {text table : String}

/-- Between the lines of a container stand the tables of its fragments. -/
theorem containerOf_lines {fragments : List Fragment} {width : Int}
    (h : containerOf config fragments width background = .ok text) :
    ∃ first tables last, text = Text.unlines (first ++ tables ++ last) ∧
      (inReadingOrder fragments).mapM
        (fun f => fragmentTable f (width - 2 * config.containerBorder)) = .ok tables := by
  simp only [containerOf, except_bind_ok, writing_ok] at h
  rcases h with ⟨tables, htables, -, rfl⟩
  exact ⟨_, tables, _, rfl, htables⟩

/-- The cells of a fragment: its distance from the left, the fragment, and what is left. -/
def spacedCells (f : Fragment) (innerWidth : Int) : List WideCell :=
  [{ width := max 0 f.left },
    { width := f.width, css := " " ++ alignmentStyle f, content := f.markup },
    { width := max 0 (innerWidth - max 0 f.left - f.width) }]

theorem spacer_text (width : Int) : spacer width = WideCell.text { width } := by
  unfold spacer WideCell.text
  rw [← String.toList_inj]
  simp only [String.toList_append]
  repeat rw [String.toList_ofList]
  simp only [List.cons_append, List.nil_append, List.append_assoc]

/-- The table around a fragment that is in no link. -/
theorem spacedTable_row (f : Fragment) (innerWidth : Int) :
    spacedTable f innerWidth = rowTable innerWidth (spacedCells f innerWidth) := by
  unfold spacedTable rowTable spacedCells fixedTable
  simp only [spacer_text, List.map_cons, List.map_nil, Text.joinWith]
  generalize WideCell.text { width := max 0 f.left } = left
  generalize WideCell.text { width := max 0 (innerWidth - max 0 f.left - f.width) } = right
  unfold WideCell.text
  rw [← String.toList_inj]
  generalize presentationTable = start
  simp only [String.toList_append]
  repeat rw [String.toList_ofList]
  simp only [List.cons_append, List.nil_append, List.append_assoc]

/-- A fragment that is in no link stands in the middle of three cells. -/
theorem fragmentTable_spaced (hlink : g.linkWrapped = false) {innerWidth : Int}
    (h : fragmentTable g innerWidth = .ok table) :
    table = betweenComments g.top (rowTable innerWidth (spacedCells g innerWidth)) := by
  have htext : "<!--[if mso]><div style=\"position:absolute; top:" ++ toString g.top
      ++ "px; left:" ++ toString (if g.linkWrapped then g.left else 0) ++ "px;\"><![endif]-->"
      ++ (if g.linkWrapped then linkedTable g else spacedTable g innerWidth)
      ++ "<!--[if mso]></div><![endif]-->" = table :=
    (writing_ok.mp h).2
  have hzero : toString (0 : Int) = "0" := by decide
  rw [hlink, if_neg Bool.false_ne_true, if_neg Bool.false_ne_true, hzero, spacedTable_row] at htext
  rw [← htext]
  unfold betweenComments
  generalize rowTable innerWidth (spacedCells g innerWidth) = row
  rw [← String.toList_inj]
  simp only [String.toList_append]
  repeat rw [String.toList_ofList]
  simp only [List.cons_append, List.nil_append, List.append_assoc]

end Tables

section Rows

variable {fragments lifted : List Fragment} {f g : Fragment} {width : K} {w : Int} {text : String}

/-- What a fragment is lifted to alone is what it is lifted to among others. -/
theorem lift_mem (hwidth : Scalar.roundHalfUp width = .ok w)
    (hlift : lift config fragments width = .ok lifted) (hf : f ∈ fragments)
    (hg : lift config [f] width = .ok [g]) :
    g ∈ lifted ∧ liftOne config w f = .ok (some g) := by
  -- Both runs have the same canvas, and so they lift each fragment alike.
  have hlifts : ∀ {fs gs : List Fragment}, lift config fs width = .ok gs →
      ∃ made, fs.mapM (liftOne config w) = .ok made ∧ made.filterMap id = gs := by
    intro fs gs h
    rw [lift_eq, except_bind_ok] at h
    rcases h with ⟨canvas, hcanvas, h⟩
    obtain rfl : w = canvas := Except.ok.inj (hwidth.symm.trans (number_ok.mp hcanvas))
    rcases except_bind_ok.mp h with ⟨made, hmade, hgs⟩
    exact ⟨made, hmade, except_pure_ok.mp hgs⟩
  rcases hlifts hg with ⟨made, hmade, hone⟩
  rcases mapM_cons_ok.mp hmade with ⟨one, rest, hself, hrest, rfl⟩
  rw [List.mapM_nil, except_pure_ok] at hrest
  subst hrest
  cases one with
  | none => exact absurd hone (by simp)
  | some g' =>
      obtain rfl : g' = g := by simpa using hone
      rcases hlifts hlift with ⟨made, hmade, rfl⟩
      rcases mapM_ok_mem hmade hf with ⟨one, hmem, hsame⟩
      obtain rfl : some g' = one := Except.ok.inj (hself.symm.trans hsame)
      exact ⟨List.mem_filterMap.mpr ⟨some g', hmem, rfl⟩, hself⟩

/-- The table of every fragment is among the lines of the container. -/
theorem container_table (hwidth : Scalar.roundHalfUp width = .ok w)
    (h : container config lifted width background = .ok text) (hg : g ∈ lifted)
    (hlink : g.linkWrapped = false) :
    ∃ first last, text = Text.unlines (first ++ betweenComments g.top
      (rowTable (w - 2 * config.containerBorder)
        (spacedCells g (w - 2 * config.containerBorder))) :: last) := by
  rw [container, hwidth] at h
  rcases containerOf_lines (numeral_ok.mp h) with ⟨first, tables, last, rfl, htables⟩
  have hsorted := Layout.sortOn_stable placedBefore_isStrictWeak
    (fun f : Fragment => (f.top, f.left)) lifted
  rcases mapM_ok_mem htables (hsorted.rearranges.perm.subset hg) with ⟨table, htable, hself⟩
  rcases List.append_of_mem htable with ⟨before, after, rfl⟩
  rw [fragmentTable_spaced hlink hself]
  exact ⟨first ++ before, after ++ last, by simp⟩

/-- The cells around a fragment on the canvas are as wide as its distance from the left, itself
    and what is left. Together they are as wide as their table, unless the fragment reaches under
    the right border. -/
theorem container_spacers (hwidth : Scalar.roundHalfUp width = .ok w)
    (hlift : lift config fragments width = .ok lifted)
    (htext : container config lifted width background = .ok text) (hf : f ∈ fragments)
    (hg : lift config [f] width = .ok [g]) (hlink : g.linkWrapped = false)
    (hleft : 0 ≤ f.left) (hbreadth : 0 ≤ f.width) (hinside : f.left + f.width ≤ w) :
    ∃ first last right, text = Text.unlines (first ++ betweenComments f.top
        (rowTable (w - 2 * config.containerBorder)
          [{ width := f.left },
            { width := f.width, css := " " ++ alignmentStyle g, content := g.markup },
            { width := right }]) :: last) ∧
      (∀ n ∈ [f.left, f.width, right], 0 ≤ n) ∧
      (f.left + f.width + right = w - 2 * config.containerBorder ↔
        f.left + f.width ≤ w - 2 * config.containerBorder) ∧
      (w - 2 * config.containerBorder < f.left + f.width → right = 0 ∧
        f.left + f.width + right ≤ w) := by
  rcases lift_mem hwidth hlift hf hg with ⟨hmem, hone⟩
  rcases liftOne_geometry hone with ⟨hgleft, hgtop, hgwidth, -⟩
  rcases container_table hwidth htext hmem hlink with ⟨first, last, htable⟩
  -- A fragment on the canvas is not cut off, and keeps its distance from the left.
  have hgleft' : max 0 g.left = f.left := by omega
  have hgwidth' : g.width = f.width := by omega
  rw [spacedCells, hgleft', hgwidth', hgtop] at htable
  refine ⟨first, last, max 0 (w - 2 * config.containerBorder - f.left - f.width), htable,
    ?_, ?_, ?_⟩
  · simp only [List.forall_mem_cons]
    exact ⟨hleft, hbreadth, le_max_left _ _, by simp⟩
  · omega
  · omega

/-- A note in the middle of a canvas of 500 pixels. -/
def noteFragment : Fragment where
  markup := "<table style=\"position:absolute; left:40px;\"></table>"
  left := 40
  top := 0
  width := 300
  height := 20

/-- A line across all of the canvas. -/
def lineFragment : Fragment where
  markup := "<table style=\"position:absolute;\"></table>"
  left := 0
  top := 30
  width := 500
  height := 2

/-- The fragment with a table that declares nothing. -/
def bareTable (f : Fragment) : Fragment :=
  { f with markup := "<table style=\"\"></table>" }

theorem roundHalfUp_fiveHundred : Scalar.roundHalfUp (500 : Rat) = .ok 500 := by
  rw [roundHalfUp_rat]
  decide +kernel

/-- Fragments with modest numbers are written on the canvas. -/
theorem container_bareTables {fs : List Fragment} (h : ∀ f ∈ fs, f.IsModest) :
    ∃ text, container ({} : Config Rat) (fs.map bareTable) 500 .none = .ok text := by
  have hmodest : ∀ f ∈ fs.map bareTable, f.IsModest := by
    intro g hg
    rcases List.mem_map.mp hg with ⟨f, hf, rfl⟩
    exact ⟨(h f hf).left, (h f hf).top, (h f hf).width, (h f hf).height⟩
  exact container_returns ⟨by decide +kernel, by decide +kernel⟩ roundHalfUp_fiveHundred
    (by decide +kernel) hmodest .none

/-- The note has 40 pixels on its left and 158 on its right. -/
theorem container_spacers_note : ∃ text first last,
    lift ({} : Config Rat) [noteFragment, lineFragment] 500
      = .ok [bareTable noteFragment, bareTable lineFragment] ∧
    container ({} : Config Rat) [bareTable noteFragment, bareTable lineFragment] 500 .none
      = .ok text ∧
    text = Text.unlines (first ++ betweenComments 0 (rowTable 498
      [{ width := 40 },
        { width := 300, css := " " ++ alignmentStyle (bareTable noteFragment),
          content := (bareTable noteFragment).markup },
        { width := 158 }]) :: last) := by
  have hlift : lift ({} : Config Rat) [noteFragment, lineFragment] 500
      = .ok [bareTable noteFragment, bareTable lineFragment] := by
    decide +kernel
  have hnote : lift ({} : Config Rat) [noteFragment] 500 = .ok [bareTable noteFragment] := by
    decide +kernel
  have hmodest : ∀ f ∈ [noteFragment, lineFragment], f.IsModest :=
    isModest_fragments (by decide +kernel)
  rcases container_bareTables hmodest with ⟨text, htext⟩
  rcases container_spacers roundHalfUp_fiveHundred hlift htext List.mem_cons_self hnote rfl
    (by decide) (by decide) (by decide) with ⟨first, last, right, hself, -, hfits, -⟩
  have hright : (40 : Int) + 300 + right = 500 - 2 * 1 := hfits.mpr (by decide)
  obtain rfl : 158 = right := by omega
  exact ⟨text, first, last, hlift, htext, hself⟩

/-- The line lies on the canvas, but its cells are two pixels wider than their table. -/
theorem container_spacers_line : ∃ text first last,
    2 * ({} : Config Rat).containerBorder ≤ 500 ∧ 0 ≤ lineFragment.left ∧
    0 ≤ lineFragment.width ∧ lineFragment.left + lineFragment.width ≤ 500 ∧
    lift ({} : Config Rat) [lineFragment] 500 = .ok [bareTable lineFragment] ∧
    container ({} : Config Rat) [bareTable lineFragment] 500 .none = .ok text ∧
    text = Text.unlines (first ++ betweenComments 30 (rowTable 498
      [{ width := 0 },
        { width := 500, css := " " ++ alignmentStyle (bareTable lineFragment),
          content := (bareTable lineFragment).markup },
        { width := 0 }]) :: last) ∧
    500 - 2 * ({} : Config Rat).containerBorder = 498 ∧ (0 : Int) + 500 + 0 ≠ 498 := by
  have hlift : lift ({} : Config Rat) [lineFragment] 500 = .ok [bareTable lineFragment] := by
    decide +kernel
  have hmodest : ∀ f ∈ [lineFragment], f.IsModest := isModest_fragments (by decide +kernel)
  rcases container_bareTables hmodest with ⟨text, htext⟩
  rcases container_table roundHalfUp_fiveHundred htext List.mem_cons_self rfl with
    ⟨first, last, hself⟩
  exact ⟨text, first, last, by decide, by decide, by decide, by decide, hlift, htext, hself,
    rfl, by decide⟩

end Rows

end Letterpress.Document
