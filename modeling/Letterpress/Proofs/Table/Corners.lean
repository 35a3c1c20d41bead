import Letterpress.Proofs.Style.Cleaning
import Letterpress.Proofs.Table.Shown

/-!
# Outer Corners

A table is rounded at its four outer corners, and each cell knows only its own place: its row
out of all rows, and its column out of those of its own row. Rows may have different lengths.
Still each corner of the table belongs to exactly one cell, which stands at one end of a row at
one end of the table. In a table of a single cell all four belong to that cell.

A corner is given by the two sides that meet in it. On either side the cell or the row has to be
the end of its list, so one fact about the end of a list is used for rows and for columns.

## Main definitions

* `Corner`, `Corners.radius`: A corner, and its radius.
* `isEnd`, `endOf?`: The first or the last place of a list, and what is there.
* `IsCornerCell`: The cell to which a corner of the table belongs.
* `HasOuterCorners`: Exactly the outer corners are round.
* `DeclaresRadius`: The style of a cell declares a radius.

## Theorems

* `radius_cornersOf`: Which corners of a cell are round.
* `flatMap_end`: A list to which only one of its ends contributes.
* `AreCells.outerCorners`: Each outer corner belongs to one cell.
* `cellStyle_radius`: Cells with a round corner declare a radius, and others do not.
* `synthesize_corners`: A rebuilt region is rounded at its outer corners.
-/

namespace Letterpress.Table

section Ends

variable {α β : Type}

/-- The place is the last or the first of as many. -/
def isEnd (last : Bool) (i n : Nat) : Bool :=
  if last then i + 1 = n else i = 0

/-- The last or the first member of a list. -/
def endOf? (last : Bool) (l : List α) : Option α :=
  if last then l.getLast? else l.head?

theorem endOf?_ne_nil {last : Bool} {l : List α} (h : l ≠ []) : ∃ a, endOf? last l = some a := by
  cases last with
  | false => exact ⟨_, List.head?_eq_some_head h⟩
  | true => exact ⟨_, List.getLast?_eq_some_getLast h⟩

/-- The end of a list is at its last or its first place. -/
theorem endOf?_place {last : Bool} {l : List α} {a : α} (h : endOf? last l = some a) :
    ∃ i, ∃ hi : i < l.length, l[i] = a ∧ isEnd last i l.length = true := by
  cases last with
  | false =>
      rcases List.head?_eq_some_iff.mp h with ⟨rest, rfl⟩
      exact ⟨0, Nat.zero_lt_succ _, rfl, rfl⟩
  | true =>
      rcases List.getLast?_eq_some_iff.mp h with ⟨front, rfl⟩
      exact ⟨front.length, by simp, by simp, by simp [isEnd]⟩

/-- A list to which only one of its ends contributes. -/
theorem flatMap_end {last : Bool} {l : List α} {f : α → List β} {a : α}
    (ha : endOf? last l = some a)
    (h : ∀ i (hi : i < l.length), isEnd last i l.length = false → f l[i] = []) :
    l.flatMap f = f a := by
  cases last with
  | false =>
      rcases List.head?_eq_some_iff.mp ha with ⟨rest, rfl⟩
      have hrest : rest.flatMap f = [] := by
        refine List.flatMap_eq_nil_iff.mpr fun b hb => ?_
        rcases List.mem_iff_getElem.mp hb with ⟨i, hi, rfl⟩
        exact h (i + 1) (Nat.succ_lt_succ hi) (by simp [isEnd])
      rw [List.flatMap_cons, hrest, List.append_nil]
  | true =>
      rcases List.getLast?_eq_some_iff.mp ha with ⟨front, rfl⟩
      have hfront : front.flatMap f = [] := by
        refine List.flatMap_eq_nil_iff.mpr fun b hb => ?_
        rcases List.mem_iff_getElem.mp hb with ⟨i, hi, rfl⟩
        have hlt : i < (front ++ [a]).length := by
          rw [List.length_append]
          omega
        have hnone := h i hlt (by simp [isEnd]; omega)
        rwa [List.getElem_append_left hi] at hnone
      rw [List.flatMap_append, hfront, List.nil_append, List.flatMap_singleton]

/-- A list of which a test keeps only one end. -/
theorem filter_end {last : Bool} {l : List α} {p : α → Bool} {a : α} (ha : endOf? last l = some a)
    (h : ∀ i (hi : i < l.length), p l[i] = isEnd last i l.length) : l.filter p = [a] := by
  have hself : l.filter p = l.flatMap fun b => [b].filter p := by
    rw [← List.filter_flatMap, List.flatMap_singleton']
  rcases endOf?_place ha with ⟨i, hi, rfl, hend⟩
  rw [hself, flatMap_end ha fun j hj hother => by simp [h j hj, hother]]
  simp [h i hi, hend]

end Ends

section Cells

/-- A corner of a cell or a table. -/
inductive Corner where
  | topLeft
  | topRight
  | bottomRight
  | bottomLeft

/-- The corner is at the lower side. -/
def Corner.isBottom : Corner → Bool
  | .topLeft | .topRight => false
  | .bottomRight | .bottomLeft => true

/-- The corner is at the right side. -/
def Corner.isRight : Corner → Bool
  | .topLeft | .bottomLeft => false
  | .topRight | .bottomRight => true

/-- The radius of a corner. -/
def Corners.radius (c : Corners) : Corner → Int
  | .topLeft => c.topLeft
  | .topRight => c.topRight
  | .bottomRight => c.bottomRight
  | .bottomLeft => c.bottomLeft

/-- A corner of a cell is round if its cell is at both sides of the table. -/
theorem radius_cornersOf (radius : Int) (row column rows columns : Nat) (k : Corner) :
    (cornersOf radius row column rows columns).radius k
      = if isEnd k.isBottom row rows && isEnd k.isRight column columns then radius else 0 := by
  cases k <;> rfl

-- A single cell has all corners of its table.
example : (cornersOf 7 0 0 1 1).toList = [7, 7, 7, 7] := rfl

variable {K : Type} [Scalar K]

omit [Scalar K] in
/-- The radii of all cells are those of each corner. -/
theorem countP_radii (cells : List (Cell K)) (p : Int → Bool) :
    (cells.flatMap fun cell => cell.corners.toList).countP p
      = cells.countP (fun cell => p (cell.corners.radius .topLeft))
        + cells.countP (fun cell => p (cell.corners.radius .topRight))
        + cells.countP (fun cell => p (cell.corners.radius .bottomRight))
        + cells.countP fun cell => p (cell.corners.radius .bottomLeft) := by
  induction cells with
  | nil => rfl
  | cons cell cells ih =>
      rw [List.flatMap_cons, List.countP_append, ih]
      simp only [Corners.toList, Corners.radius, List.countP_cons, List.countP_nil]
      omega

/-- The cell stands in the corner of the table. It has the given radius there, and no other cell
    has any. -/
structure IsCornerCell (radius : Int) (cells : List (List (Cell K))) (k : Corner)
    (cell : Cell K) : Prop where
  stands : (endOf? k.isBottom cells).bind (endOf? k.isRight) = some cell
  alone : (cells.flatten.filter fun c => c.corners.radius k ≠ 0) = [cell]
  radius_eq : cell.corners.radius k = radius

/-- Exactly the outer corners of a table are round: there are four of them, and each belongs to
    one cell. -/
structure HasOuterCorners (radius : Int) (cells : List (List (Cell K))) : Prop where
  corner : ∀ k : Corner, ∃ cell, IsCornerCell radius cells k cell
  four : (cells.flatten.flatMap fun cell => cell.corners.toList).countP (· ≠ 0) = 4

variable {config : Config K} {donors : List (Donor K)} {rows : List (List (TextLeaf K))}
  {cells : List (List (Cell K))}

/-- A corner is round exactly at the end of a row at the end of the table. A cell only knows the
    length of its own row, and that is all its corners depend on. -/
theorem AreCells.round (h : AreCells config donors rows cells) (hradius : config.cornerRadius ≠ 0)
    (k : Corner) {i : Nat} (hi : i < cells.length) {j : Nat} (hj : j < cells[i].length) :
    decide (cells[i][j].corners.radius k ≠ 0)
      = (isEnd k.isBottom i cells.length && isEnd k.isRight j cells[i].length) := by
  rw [(h.places i hi j hj).corners_eq, radius_cornersOf]
  cases isEnd k.isBottom i cells.length && isEnd k.isRight j cells[i].length <;> simp [hradius]

/-- Each corner belongs to the cell that stands there. -/
theorem AreCells.corner (h : AreCells config donors rows cells)
    (hradius : config.cornerRadius ≠ 0) (hne : cells ≠ []) (hfull : ∀ row ∈ cells, row ≠ [])
    (k : Corner) : ∃ cell, IsCornerCell config.cornerRadius cells k cell := by
  rcases endOf?_ne_nil hne with ⟨row, hrow⟩
  rcases endOf?_place hrow with ⟨i, hi, rfl, hend⟩
  rcases endOf?_ne_nil (hfull _ (List.getElem_mem hi)) with ⟨cell, hcell⟩
  refine ⟨cell, by rw [hrow]; exact hcell, ?_, ?_⟩
  · -- Only one row contributes, and in it only one cell.
    rw [List.filter_flatten, ← List.flatMap_def, flatMap_end hrow fun m hm hother => ?_]
    · refine filter_end hcell fun j hj => ?_
      rw [h.round hradius k hi hj, hend, Bool.true_and]
    · refine List.filter_eq_nil_iff.mpr fun c hc => ?_
      rcases List.mem_iff_getElem.mp hc with ⟨j, hj, rfl⟩
      rw [h.round hradius k hm hj, hother, Bool.false_and]
      exact Bool.false_ne_true
  · rcases endOf?_place hcell with ⟨j, hj, rfl, hlast⟩
    rw [(h.places i hi j hj).corners_eq, radius_cornersOf, hend, hlast]
    rfl

/-- Exactly the outer corners are round, whatever the lengths of the rows are. -/
theorem AreCells.outerCorners (h : AreCells config donors rows cells)
    (hradius : config.cornerRadius ≠ 0) (hne : rows ≠ []) (hrows : ∀ row ∈ rows, row ≠ []) :
    HasOuterCorners config.cornerRadius cells := by
  have hcells : cells ≠ [] := by
    rintro rfl
    exact hne h.leaves.symm
  have hfull : ∀ row ∈ cells, row ≠ [] := by
    rintro row hrow rfl
    exact hrows [] (h.leaves ▸ List.mem_map_of_mem hrow) rfl
  have hone : ∀ k : Corner,
      cells.flatten.countP (fun cell => decide (cell.corners.radius k ≠ 0)) = 1 := by
    intro k
    rcases h.corner hradius hcells hfull k with ⟨cell, hcell⟩
    rw [List.countP_eq_length_filter, hcell.alone, List.length_singleton]
  refine ⟨h.corner hradius hcells hfull, ?_⟩
  rw [countP_radii]
  simp only [hone]

end Cells

section Markup

variable {K ω : Type} [Scalar K] {host : Host ω K} {config : Config K}

/-- Radii are declared if any corner is round. -/
theorem cornersCss_isSome {corners : Corners} {css : Option String}
    (h : cornersCss K corners = .ok css) : (∃ v, css = some v) ↔ ∃ k, corners.radius k ≠ 0 := by
  have hall : corners.toList.all (· = 0) = true ↔ ∀ k, corners.radius k = 0 := by
    simp only [Corners.toList, List.all_cons, List.all_nil, Bool.and_true, Bool.and_eq_true,
      decide_eq_true_iff]
    constructor
    · rintro ⟨htopLeft, htopRight, hbottomRight, hbottomLeft⟩ k
      cases k <;> assumption
    · intro hzero
      exact ⟨hzero .topLeft, hzero .topRight, hzero .bottomRight, hzero .bottomLeft⟩
  -- The code tests the list of radii, the statement speaks of the corners.
  rw [cornersCss] at h
  by_cases hzero : corners.toList.all (· = 0) = true
  · rw [if_pos hzero, except_pure_ok] at h
    rw [← h]
    simpa using hall.mp hzero
  · rw [if_neg hzero] at h
    simp only [except_bind_ok, except_pure_ok] at h
    rcases h with ⟨radii, -, rfl⟩
    refine ⟨fun _ => ?_, fun _ => ⟨_, rfl⟩⟩
    rw [hall] at hzero
    exact not_forall.mp hzero

/-- Cells with a round corner declare a radius, and others do not. -/
theorem cellStyle_radius {cell : Cell K} {style : Style.CellStyle}
    (h : cellStyle config cell = .ok style) :
    (∃ d ∈ Style.declarations style.fields, d.property = "border-radius")
      ↔ ∃ k, cell.corners.radius k ≠ 0 := by
  simp only [cellStyle, except_bind_ok, except_pure_ok] at h
  rcases h with ⟨corners, hcorners, rfl⟩
  rw [← cornersCss_isSome hcorners]
  constructor
  · rintro ⟨⟨property, v⟩, hd, rfl⟩
    rw [Style.mem_declarations] at hd
    simp only [Style.CellStyle.fields, List.mem_cons, List.not_mem_nil, Prod.mk.injEq,
      String.reduceEq, true_and, false_and, false_or, or_false] at hd
    exact ⟨v, hd.symm⟩
  · rintro ⟨v, rfl⟩
    refine ⟨⟨"border-radius", v⟩, Style.mem_declarations.mpr ?_, rfl⟩
    simp [Style.CellStyle.fields]

/-- The radius can be read off the text of the style, if nothing else in it is a declaration. -/
theorem cellStyle_readRadius {cell : Cell K} {style : Style.CellStyle}
    (h : cellStyle config cell = .ok style) (haccent : ';' ∉ config.accentColor.toList)
    (hbackground : ';' ∉ cell.background.toList) :
    (∃ d ∈ Style.readStyle style.css, d.property = "border-radius")
      ↔ ∃ k, cell.corners.radius k ≠ 0 := by
  have hfree : ∀ s : String, ';' ∉ s.toList ↔ Text.AllChars (· ≠ ';') s := fun s =>
    ⟨fun hs c hc heq => hs (heq ▸ hc), fun hs hc => hs ';' hc rfl⟩
  have hvalues : ∀ f ∈ style.fields, ∀ v ∈ f.2, ';' ∉ v.toList := by
    intro f hf v hv
    refine (hfree v).mpr (cellStyle_chars ?_ (by decide) ((hfree _).mp haccent)
      ((hfree _).mp hbackground) h f hf v hv)
    rintro c hc rfl
    exact absurd hc (by decide)
  have hread : Style.readStyle (Style.css style.fields)
      = (Style.declarations style.fields).map Style.Declaration.trimmed :=
    Style.readStyle_css_trimmed (Style.PartStyle.isName_fields (.cell style)) hvalues
  rw [← cellStyle_radius h, Style.CellStyle.css, hread]
  simp only [List.mem_map, exists_exists_and_eq_and, Style.Declaration.trimmed]

/-- The text is the cell with its style, which declares a radius exactly if one of the cell's
    corners is round. As long as the accent does not end its own declaration, this can be read
    off the text. -/
def DeclaresRadius (config : Config K) (cell : Cell K) (text : String) : Prop :=
  ∃ (style : Style.CellStyle) (content : String), cellStyle config cell = .ok style ∧
    text = "<td align=\"left\" valign=\"middle\" width=\"" ++ cell.widthPercent
      ++ "%\" style=\"" ++ style.css ++ "\">" ++ content ++ "</td>" ∧
    ((∃ d ∈ Style.declarations style.fields, d.property = "border-radius")
      ↔ ∃ k, cell.corners.radius k ≠ 0) ∧
    (';' ∉ config.accentColor.toList →
      ((∃ d ∈ Style.readStyle style.css, d.property = "border-radius")
        ↔ ∃ k, cell.corners.radius k ≠ 0))

theorem cellMarkup_radius {cell : Cell K} {header : Bool} {donors : List (Donor K)}
    (hbackground : cellBackground config header cell.leaf donors = .ok cell.background)
    {text : String} (h : IsCellMarkup host config cell text) : DeclaresRadius config cell text := by
  rcases h with ⟨content, _, _, -, htext⟩
  simp only [cellMarkup, except_bind_ok, except_pure_ok] at htext
  rcases htext with ⟨style, hstyle, rfl⟩
  refine ⟨style, content, hstyle, rfl, cellStyle_radius hstyle, fun haccent => ?_⟩
  refine cellStyle_readRadius hstyle haccent ?_
  -- Besides the accent no background could end a declaration.
  rcases (isBackground_cell hbackground).forms with hwhite | haccented | ⟨color, hcolor⟩
  · rw [hwhite]
    decide
  · rwa [haccented]
  · exact Style.hex_semicolon hcolor

/-- A rebuilt region is rounded at its outer corners. It is written from the cells of its rows,
    none of which is empty. Each of its four corners belongs to the one cell that stands there,
    with the radius that was set, and all other radii are zero. The text of a cell declares a
    radius exactly if one of its corners is round. -/
theorem synthesize_corners {node : Node K} {x y : K} {table : Synthesized} {s s' : Session ω K}
    (hradius : config.cornerRadius ≠ 0)
    (h : synthesize host config node x y s = (.ok (some table), s')) :
    ∃ (box : Rect K) (rows : List (List (TextLeaf K))) (cells : List (List (Cell K)))
      (texts : List String), node.bounds = some box ∧
      leafRows config (textLeaves node) = .ok rows ∧
      rows ≠ [] ∧ (∀ row ∈ rows, row ≠ []) ∧ AreCells config (donors node.children) rows cells ∧
      HasOuterCorners config.cornerRadius cells ∧
      tableMarkup config x y box.width texts = .ok table.markup ∧
      List.Forall₂ (IsRowMarkup host config) cells texts ∧
      ∀ cell ∈ cells.flatten, ∀ text, IsCellMarkup host config cell text →
        DeclaresRadius config cell text := by
  rcases synthesize_ok h with ⟨_, _, _, box, rows, texts, rfl, hbox, hleaves, hrows, htexts,
    hmarkup, -⟩
  rcases rowsMarkup_cells htexts with ⟨cells, hcells, hwritten⟩
  rcases Layout.bucketRows_nonempty hrows with ⟨hfull, hne⟩
  refine ⟨box, rows, cells, texts, hbox, hrows, hne hleaves, hfull, hcells,
    AreCells.outerCorners hcells hradius (hne hleaves) hfull, hmarkup, hwritten, ?_⟩
  intro cell hcell text htext
  -- The place of a cell tells its background, and with it what its text declares.
  rcases List.mem_flatten.mp hcell with ⟨row, hrow, hmem⟩
  rcases List.mem_iff_getElem.mp hrow with ⟨i, hi, rfl⟩
  rcases List.mem_iff_getElem.mp hmem with ⟨j, hj, rfl⟩
  exact cellMarkup_radius (AreCells.places hcells i hi j hj).background htext

/-- The prices are in a header of two cells and a row of one, which has both lower corners. -/
theorem synthesize_corners_priceTable :
    ∃ (table : Synthesized) (s : Session Unit Float) (cells : List (List (Cell Float))),
      synthesize stockedHost {} priceTable 1.5 0.0 ⟨(), [], []⟩ = (.ok (some table), s) ∧
      cells.map List.length = [2, 1] ∧ HasOuterCorners 7 cells := by
  have hmade : (synthesize stockedHost {} priceTable 1.5 0.0 ⟨(), [], []⟩).1.toOption.map
      (Option.map Synthesized.expectedHeight) = some (some 82) := by
    decide +kernel
  have hlengths : (leafRows {} (textLeaves priceTable)).toOption.map (List.map List.length)
      = some [2, 1] := by
    decide +kernel
  rcases Task.returned_of_read hmade with ⟨result, s, hrun, hread⟩
  cases result with
  | none => exact absurd hread (by simp)
  | some table =>
      rcases synthesize_corners (by decide) hrun with
        ⟨_, rows, cells, _, -, hrows, -, -, hcells, hcorners, -, -, -⟩
      refine ⟨table, s, cells, hrun, ?_, hcorners⟩
      rw [hrows, ← hcells.leaves] at hlengths
      have hmapped : (cells.map (List.map Cell.leaf)).map List.length = [2, 1] :=
        Option.some.inj hlengths
      simpa only [List.map_map, Function.comp_def, List.length_map] using hmapped

end Markup

end Letterpress.Table
