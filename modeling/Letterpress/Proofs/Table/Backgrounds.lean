import Letterpress.Proofs.Style.Colors
import Letterpress.Proofs.Table.Cells

/-!
# Backgrounds of Cells

A cell takes the color of the first donor that lends one to its text. Three kinds of donors are
passed over: those that lie elsewhere, those whose first fill is a picture or missing, and those
that are nearly white. The color is compared as it is written, and so after it was rounded to
bytes: if it is dark and the text is dark as well, the cell is white.

Where no donor lends a color, headers are accented and other cells are white. As long as neither
the accent nor white is dark, no dark text stands on a dark ground.

## Main definitions

* `Lends`, `IsFirstLent`: The color that a donor lends to a text, and the one that counts.
* `IsDark`, `IsDarkText`: Colors and texts that are dark.
* `IsBackground`: The background that the cell of a text should have.

## Theorems

* `findSome?_eq_some`: The search finds the color that counts.
* `contrastSafe_dark`, `contrastSafe_light`: When a color gives way to white.
* `isDark_hex`: Whether a written color is dark.
* `cellBackground_returns`: When a text has a background.
* `isBackground_cell`: The cell of a text has the background that it should have.
* `rowCells_legible`: No dark text stands on a dark ground.
-/

namespace Letterpress.Table

variable {K : Type} [Scalar K]

section Lending

/-- The donor lends the color to the text: with its margin it lies under the center of the text,
    and its first fill is the color and not nearly white. -/
structure Lends (config : Config K) (leaf : TextLeaf K) (donor : Donor K) (color : Rgb K) :
    Prop where
  under : (donor.box.expanded config.donorMargin).holds leaf.box.center = true
  filled : ∃ opacity, donor.node.firstFill = some (.solid color opacity)
  colored : Style.brightness color < config.nearWhiteBrightness

/-- The color is lent to the text by the first donor that lends any. -/
def IsFirstLent (config : Config K) (leaf : TextLeaf K) (donors : List (Donor K))
    (color : Rgb K) : Prop :=
  ∃ before donor after, donors = before ++ donor :: after ∧ Lends config leaf donor color ∧
    ∀ other ∈ before, ∀ c, ¬ Lends config leaf other c

variable {config : Config K} {leaf : TextLeaf K} {donors : List (Donor K)}

omit [Scalar K] in
theorem fillColor?_eq_some {node : Node K} {color : Rgb K} :
    node.fillColor? = some color ↔ ∃ opacity, node.firstFill = some (.solid color opacity) := by
  unfold Node.fillColor?
  rcases node.firstFill with _ | ⟨c, o⟩ | ⟨ref, o⟩ <;> simp [Paint.color?]

theorem colorFrom?_eq_some {donor : Donor K} {color : Rgb K} :
    colorFrom? config leaf.box.center donor = some color ↔ Lends config leaf donor color := by
  unfold colorFrom?
  by_cases hunder : (donor.box.expanded config.donorMargin).holds leaf.box.center = true
  · rw [if_pos hunder, Option.filter_eq_some_iff, fillColor?_eq_some, decide_eq_true_iff]
    exact ⟨fun h => ⟨hunder, h.1, h.2⟩, fun h => ⟨h.filled, h.colored⟩⟩
  · rw [if_neg hunder]
    exact ⟨fun h => absurd h (by simp), fun h => absurd h.under hunder⟩

theorem colorFrom?_eq_none {donor : Donor K} :
    colorFrom? config leaf.box.center donor = none ↔ ∀ c, ¬ Lends config leaf donor c := by
  rw [Option.eq_none_iff_forall_ne_some]
  exact forall_congr' fun c => not_congr colorFrom?_eq_some

/-- The search finds what the first donor lends. -/
theorem findSome?_eq_some {color : Rgb K} :
    donors.findSome? (colorFrom? config leaf.box.center) = some color
      ↔ IsFirstLent config leaf donors color := by
  rw [List.findSome?_eq_some_iff]
  simp only [colorFrom?_eq_some, colorFrom?_eq_none]
  rfl

theorem findSome?_eq_none :
    donors.findSome? (colorFrom? config leaf.box.center) = none
      ↔ ∀ c, ¬ IsFirstLent config leaf donors c := by
  rw [Option.eq_none_iff_forall_ne_some]
  exact forall_congr' fun c => not_congr findSome?_eq_some

end Lending

section Contrast

/-- The color, as it is written, is dark. A text that is no hexadecimal color is not. -/
def IsDark (config : Config K) (color : String) : Prop :=
  ∃ b : K, Style.hexBrightness? color = some b ∧ b < config.darkBrightness

/-- The text is dark. Its color is that of its first fill, or black if that is no color. -/
def IsDarkText (config : Config K) (leaf : TextLeaf K) : Prop :=
  (∀ color opacity, leaf.common.fills.head? = some (.solid color opacity) →
    Style.brightness color < config.darkBrightness) ∧
  ((∀ color opacity, leaf.common.fills.head? ≠ some (.solid color opacity)) →
    0.0 < config.darkBrightness)

variable {config : Config K} {leaf : TextLeaf K}

theorem isDarkText_iff : IsDarkText config leaf ↔ textBrightness leaf < config.darkBrightness := by
  unfold IsDarkText textBrightness
  rcases leaf.common.fills.head? with _ | ⟨color, opacity⟩ | ⟨ref, opacity⟩ <;>
    simp [Paint.color?]

/-- Only a dark color under a dark text gives way to white. -/
theorem contrastSafe_dark {color : String} (hcolor : IsDark config color)
    (htext : IsDarkText config leaf) : contrastSafe config leaf color = white := by
  rcases hcolor with ⟨b, hread, hb⟩
  simp [contrastSafe, hread, hb, isDarkText_iff.mp htext]

theorem contrastSafe_light {color : String} (h : ¬ (IsDark config color ∧ IsDarkText config leaf)) :
    contrastSafe config leaf color = color := by
  unfold contrastSafe
  split
  · rename_i b hread
    split
    · rename_i hdark
      rw [Bool.and_eq_true, decide_eq_true_iff, decide_eq_true_iff] at hdark
      exact absurd ⟨⟨b, hread, hdark.1⟩, isDarkText_iff.mpr hdark.2⟩ h
    · rfl
  · rfl

theorem not_isDark_white [Style.BrightWhite K] (hdark : config.darkBrightness ≤ 254.0) :
    ¬ IsDark config white := by
  rintro ⟨b, hread, hb⟩
  exact Style.BrightWhite.not_lt hdark hread hb

/-- A written color is dark if the color of its bytes is. -/
theorem isDark_hex {color : Rgb K} {hex : String} (h : Style.hex color = .ok hex) :
    ∃ r g b, Style.bytes color = .ok (r, g, b) ∧ (IsDark config hex ↔
      Style.brightness (Style.ofBytes r g b : Rgb K) < config.darkBrightness) := by
  rcases Style.hexBrightness?_hex h with ⟨r, g, b, hbytes, hread⟩
  refine ⟨r, g, b, hbytes, ?_⟩
  simp [IsDark, hread]

end Contrast

section Legible

/-- The background that the cell of a text should have: the first color that is lent to it, or
    white if that is as dark as the text; and the usual background if none is. -/
structure IsBackground (config : Config K) (header : Bool) (leaf : TextLeaf K)
    (donors : List (Donor K)) (background : String) : Prop where
  lent : ∀ color, IsFirstLent config leaf donors color → ∃ hex, Style.hex color = .ok hex ∧
    (IsDark config hex ∧ IsDarkText config leaf → background = white) ∧
    (¬ (IsDark config hex ∧ IsDarkText config leaf) → background = hex)
  usual : (∀ color, ¬ IsFirstLent config leaf donors color) →
    background = if header then config.accentColor else white

variable {config : Config K} {header : Bool} {leaf : TextLeaf K} {donors : List (Donor K)}

theorem cellBackground_lent {color : Rgb K} (h : IsFirstLent config leaf donors color) :
    cellBackground config header leaf donors = contrastSafe config leaf <$> Style.hex color := by
  rw [cellBackground, donatedColor, findSome?_eq_some.mpr h]
  change (some <$> Style.hex color : Except NumberError (Option String)) >>= _ = _
  cases Style.hex color <;> rfl

theorem cellBackground_usual (h : ∀ color, ¬ IsFirstLent config leaf donors color) :
    cellBackground config header leaf donors
      = .ok (if header then config.accentColor else white) := by
  rw [cellBackground, donatedColor, findSome?_eq_none.mpr h]
  rfl

/-- A text has a background exactly if the color that it is lent can be written. -/
theorem cellBackground_returns :
    Returns (cellBackground config header leaf donors) ↔
      ∀ color, IsFirstLent config leaf donors color → ∀ m ∈ color.measures, IsRounded m := by
  constructor
  · intro h color hcolor
    rw [cellBackground_lent hcolor, returns_map] at h
    exact Style.hex_iff.mp h
  · intro h
    by_cases hlent : ∃ color, IsFirstLent config leaf donors color
    · rcases hlent with ⟨color, hcolor⟩
      rw [cellBackground_lent hcolor, returns_map]
      exact Style.hex_iff.mpr (h color hcolor)
    · exact ⟨_, cellBackground_usual fun color hcolor => hlent ⟨color, hcolor⟩⟩

/-- The cell of a text has the background that it should have. -/
theorem isBackground_cell {background : String}
    (h : cellBackground config header leaf donors = .ok background) :
    IsBackground config header leaf donors background := by
  constructor
  · intro color hcolor
    rw [cellBackground_lent hcolor, except_map_ok] at h
    rcases h with ⟨hex, hhex, rfl⟩
    exact ⟨hex, hhex, fun hdark => contrastSafe_dark hdark.1 hdark.2, contrastSafe_light⟩
  · intro hnone
    rw [cellBackground_usual hnone] at h
    exact (Except.ok.inj h).symm

/-- A background is fixed, or written from a color. -/
theorem IsBackground.forms {background : String}
    (h : IsBackground config header leaf donors background) :
    background = white ∨ background = config.accentColor ∨
      ∃ color : Rgb K, Style.hex color = .ok background := by
  by_cases hlent : ∃ color, IsFirstLent config leaf donors color
  · rcases hlent with ⟨color, hcolor⟩
    rcases h.lent color hcolor with ⟨hex, hhex, hsafe, hkept⟩
    by_cases hdark : IsDark config hex ∧ IsDarkText config leaf
    · exact .inl (hsafe hdark)
    · exact .inr (.inr ⟨color, hkept hdark ▸ hhex⟩)
  · rw [h.usual fun color hcolor => hlent ⟨color, hcolor⟩]
    cases header with
    | false => exact .inl rfl
    | true => exact .inr (.inl rfl)

/-- Where neither the accent nor white is dark, a dark text has no dark background. -/
theorem IsBackground.legible [Style.BrightWhite K] (hdark : config.darkBrightness ≤ 254.0)
    (haccent : ¬ IsDark config config.accentColor) {background : String}
    (h : IsBackground config header leaf donors background) :
    ¬ (IsDark config background ∧ IsDarkText config leaf) := by
  intro hboth
  -- A dark background is not white, so it was lent and kept, or it is the accent.
  have hwhite : background ≠ white := fun heq => not_isDark_white hdark (heq ▸ hboth.1)
  by_cases hlent : ∃ color, IsFirstLent config leaf donors color
  · rcases hlent with ⟨color, hcolor⟩
    rcases h.lent color hcolor with ⟨hex, -, hsafe, hkept⟩
    by_cases hhex : IsDark config hex ∧ IsDarkText config leaf
    · exact hwhite (hsafe hhex)
    · exact hhex (hkept hhex ▸ hboth)
  · have husual := h.usual fun color hcolor => hlent ⟨color, hcolor⟩
    cases header with
    | false => exact hwhite husual
    | true =>
        rw [if_pos rfl] at husual
        exact haccent (husual ▸ hboth.1)

/-- A row has cells exactly if the colors that its texts are lent can be written. Its cells show
    its texts in their order, and each has the background that it should have: the first color
    that is lent to its text, white if that is as dark as the text, and otherwise the accent in
    the first row and white in the others. So no cell has a dark text on a dark background. A
    color is dark as it is written, with its channels rounded to bytes. -/
theorem rowCells_legible [Style.BrightWhite K] {config : Config K}
    (hdark : config.darkBrightness ≤ 254.0) (haccent : ¬ IsDark config config.accentColor)
    (row rows : Nat) (donors : List (Donor K)) (leaves : List (TextLeaf K)) :
    (Returns (rowCells config row rows donors leaves) ↔ ∀ leaf ∈ leaves, ∀ color,
      IsFirstLent config leaf donors color → ∀ m ∈ color.measures, IsRounded m) ∧
    (∀ cells, rowCells config row rows donors leaves = .ok cells →
      cells.map Cell.leaf = leaves ∧ ∀ cell ∈ cells,
        IsBackground config (row = 0) cell.leaf donors cell.background ∧
        ¬ (IsDark config cell.background ∧ IsDarkText config cell.leaf)) ∧
    ∀ (color : Rgb K) (hex : String), Style.hex color = .ok hex →
      ∃ r g b, Style.bytes color = .ok (r, g, b) ∧ (IsDark config hex ↔
        Style.brightness (Style.ofBytes r g b : Rgb K) < config.darkBrightness) := by
  refine ⟨?_, fun cells hcells => ?_, fun _ _ => isDark_hex⟩
  · rw [rowCells_returns]
    exact forall₂_congr fun _ _ => cellBackground_returns
  · rcases rowCells_ok hcells with ⟨hleaves, -, hlooks⟩
    refine ⟨hleaves, fun cell hcell => ?_⟩
    rcases List.mem_iff_getElem.mp hcell with ⟨i, hi, rfl⟩
    have hbackground := isBackground_cell (hlooks i hi).background
    exact ⟨hbackground, hbackground.legible hdark haccent⟩

/-- Two titles above a dark band, with a sheet of paper in front of it. The second is white. -/
def bandTitles : List (TextLeaf Float) × List (Donor Float) :=
  let title (x : Float) (fills : List (Paint Float)) : TextLeaf Float :=
    ⟨⟨"1", "Title", true, none, fills⟩, ⟨"Price", [], "LEFT", none⟩, ⟨x, 5.0, 40.0, 12.0⟩⟩
  let sheet (color : Rgb Float) : Donor Float :=
    ⟨.shape ⟨"2", "Sheet", true, none, [.solid color 1.0]⟩ ⟨.rectangle, none, none⟩,
      ⟨0.0, 0.0, 100.0, 20.0⟩⟩
  ([title 0.0 [], title 50.0 [.solid ⟨1.0, 1.0, 1.0⟩ 1.0], title 120.0 []],
    [sheet ⟨0.97, 0.97, 0.97⟩, sheet ⟨0.1, 0.1, 0.3⟩])

/-- The black title has a white background, and the white one keeps the color of the band. The
    third title lies outside of it. -/
theorem rowCells_legible_bandTitles :
    ∃ cells, rowCells {} 1 2 bandTitles.2 bandTitles.1 = .ok cells ∧
      cells.map Cell.background = ["#ffffff", "#1a1a4d", "#ffffff"] ∧
      ∀ cell ∈ cells, ¬ (IsDark ({} : Config Float) cell.background ∧ IsDarkText {} cell.leaf) := by
  have hdark : ({} : Config Float).darkBrightness ≤ 254.0 := by
    decide +kernel
  have haccent : ¬ IsDark ({} : Config Float) ({} : Config Float).accentColor := by
    rintro ⟨b, hread, hb⟩
    have hbright : ∀ c ∈ (Style.hexBrightness? "#f06522" : Option Float), ¬ c < 128.0 := by
      decide +kernel
    exact hbright b hread hb
  have hbackgrounds : (rowCells {} 1 2 bandTitles.2 bandTitles.1).toOption.map
      (List.map Cell.background) = some ["#ffffff", "#1a1a4d", "#ffffff"] := by
    decide +kernel
  rcases hcells : rowCells {} 1 2 bandTitles.2 bandTitles.1 with _ | cells
  · rw [hcells] at hbackgrounds
    exact absurd hbackgrounds (by simp [Except.toOption])
  · rw [hcells] at hbackgrounds
    have hlegible := (rowCells_legible hdark haccent 1 2 bandTitles.2 bandTitles.1).2.1 cells hcells
    exact ⟨cells, rfl, Option.some.inj hbackgrounds, fun cell hcell => (hlegible.2 cell hcell).2⟩

end Legible

end Letterpress.Table
