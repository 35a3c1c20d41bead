import Letterpress.Proofs.Config
import Letterpress.Proofs.Layout.Keeping
import Letterpress.Proofs.Render.TextDrafts
import Letterpress.Proofs.Table.Backgrounds

/-!
# Drafts of Rebuilt Tables

A region that is rebuilt is a placed table as well, with a second table in its only
cell. The inner table declares no place, so that it is never taken out by itself. All
that comes into its cells from outside is text, so a rebuilt region shows no pictures.

## Main definitions

* `Cell.IsPlain`: A cell whose looks are inert.
* `fixedTexts`: What the values of all cells are made of.
* `IsCellDraft`, `IsRowDraft`: Cells and rows with texts.

## Theorems

* `cellStyle_chars`: The characters of a cell's values.
* `rowCells_plain`: The cells of a row are plain, and show the texts of the row.
* `synthesize_content`: A rebuilt region shows the rows of its texts.
* `synthesize_draft`: A rebuilt region is a placed table without a height.
-/

namespace Letterpress.Table

open Markup (IsContent IsPassage IsSelfContained)
open Render (PlacedTable isInert_some isInert_none)
open Text (AllChars IsInert)

variable {K ω : Type} [Scalar K]

/-- The looks of a cell are inert. -/
structure Cell.IsPlain (cell : Cell K) : Prop where
  widthPercent : IsInert cell.widthPercent
  background : IsInert cell.background

theorem cellBackground_inert {config : Config K} (hconfig : config.IsPlain) {header : Bool}
    {leaf : TextLeaf K} {donors : List (Donor K)} {background : String}
    (h : cellBackground config header leaf donors = .ok background) : IsInert background := by
  rcases (isBackground_cell h).forms with rfl | rfl | ⟨color, hcolor⟩
  · decide
  · exact hconfig.accentColor
  · exact Style.hex_inert hcolor

theorem radiusPixels_ok {radius : Int} {s : String} (h : radiusPixels K radius = .ok s) :
    ∃ n : Int, s = toString n ++ "px" := by
  simp only [radiusPixels, except_bind_ok, except_pure_ok] at h
  rcases h with ⟨n, -, rfl⟩
  exact ⟨n, rfl⟩

section Characters

variable {P : Char → Prop} {config : Config K} {cell : Cell K}

/-- Radii are numerals with a unit or without one. -/
theorem cornersCss_chars (hnumeral : ∀ c, isNumeralChar c = true → P c)
    (hzero : AllChars P "0") (hunit : AllChars P "px") (hblank : AllChars P " ")
    {corners : Corners} {css : Option String} (h : cornersCss K corners = .ok css) :
    ∀ s ∈ css, AllChars P s := by
  have hradius : ∀ radius s, radiusCss K radius = .ok s → AllChars P s := by
    intro radius s hs
    unfold radiusCss at hs
    split at hs
    · rw [except_pure_ok] at hs
      rwa [← hs]
    · rcases radiusPixels_ok hs with ⟨n, rfl⟩
      exact Text.allChars_append.mpr ⟨fun c hc => hnumeral c (numeral_chars n c hc), hunit⟩
  unfold cornersCss at h
  split at h
  · rw [except_pure_ok] at h
    simp [← h]
  · simp only [except_bind_ok, except_pure_ok] at h
    rcases h with ⟨radii, hradii, rfl⟩
    intro s hs
    rw [← Option.some.inj hs]
    exact Text.allChars_joinWith hblank (except_mapM_all hradius hradii)

/-- The texts that the values of all cells are made of, besides radii and colors. -/
def fixedTexts : List String :=
  ["0", "px", " ", white, black, "bold", "normal", "2px solid ", "8px 10px", cellFonts, "13px",
    "18px", "border-box"]

/-- The values of a cell's style are made of fixed texts, of radii, of the accent and of the
    background. -/
theorem cellStyle_chars (hnumeral : ∀ c, isNumeralChar c = true → P c)
    (hfixed : ∀ s ∈ fixedTexts, AllChars P s) (haccent : AllChars P config.accentColor)
    (hbackground : AllChars P cell.background) {style : Style.CellStyle}
    (h : cellStyle config cell = .ok style) :
    ∀ f ∈ style.fields, ∀ v ∈ f.2, AllChars P v := by
  simp only [fixedTexts, List.forall_mem_cons] at hfixed
  rcases hfixed with ⟨hzero, hunit, hblank, hwhite, hblack, hbold, hnormal, hsolid, hpadding,
    hfonts, hsize, hheight, hsizing, -⟩
  simp only [cellStyle, except_bind_ok, except_pure_ok] at h
  rcases h with ⟨corners, hcorners, rfl⟩
  have hsome : ∀ {t : String}, AllChars P t → ∀ v ∈ some t, AllChars P v := by
    rintro t ht v hv
    rwa [← Option.some.inj hv]
  have hnone : ∀ v ∈ (none : Option String), AllChars P v := by
    intro v hv
    exact absurd hv (by simp)
  -- A header is bold and white on its background, any other cell black and normal.
  have hcolor : AllChars P (if cell.header then white else black) := by
    split
    · exact hwhite
    · exact hblack
  have hweight : AllChars P (if cell.header then "bold" else "normal") := by
    split
    · exact hbold
    · exact hnormal
  simp only [Style.CellStyle.fields, List.forall_mem_cons]
  exact ⟨hnone, hnone, hsome hsizing, cornersCss_chars hnumeral hzero hunit hblank hcorners,
    hsome hbackground, hnone, hsome hcolor, hsome hweight,
    hsome (Text.allChars_append.mpr ⟨hsolid, haccent⟩), hsome hpadding, hnone, hsome hfonts,
    hsome hsize, hnone, hnone, hsome hheight, hnone, by simp⟩

theorem cellStyle_inert (hconfig : config.IsPlain) (hcell : cell.IsPlain)
    {style : Style.CellStyle} (h : cellStyle config cell = .ok style) : IsInert style.css :=
  Style.isInert_values (Style.inertNames_cell _) <|
    cellStyle_chars (fun _ => Text.isInertChar_of_isNumeralChar) (by decide) hconfig.accentColor
      hcell.background h

end Characters

variable [InertText K]

/-- The cells of a row are plain, and show the row's texts in their order. -/
theorem rowCells_plain {config : Config K} (hconfig : config.IsPlain) {row rows : Nat}
    {donors : List (Donor K)} {leaves : List (TextLeaf K)} {cells : List (Cell K)}
    (h : rowCells config row rows donors leaves = .ok cells) :
    (∀ cell ∈ cells, cell.IsPlain) ∧ cells.map Cell.leaf = leaves := by
  rcases rowCells_ok h with ⟨hleaves, hwidths, hcells⟩
  refine ⟨fun cell hcell => ?_, hleaves⟩
  have hwidth : cell.widthPercent ∈ Layout.percentages (leaves.map fun leaf => leaf.box.width) :=
    hwidths ▸ List.mem_map_of_mem hcell
  rcases List.mem_map.mp hwidth with ⟨share, -, hshare⟩
  rcases List.mem_iff_getElem.mp hcell with ⟨i, hi, rfl⟩
  exact ⟨hshare ▸ isInert_fixedHundredths share,
    cellBackground_inert hconfig (hcells i hi).background⟩

section Markup

variable {names : List String} {content : String} {ns : List Markup.Node}

omit [InertText K] in
/-- A cell with its content. -/
theorem cellMarkup_content {config : Config K} (hconfig : config.IsPlain) {cell : Cell K}
    (hcell : cell.IsPlain) {markup : String} (h : cellMarkup config cell content = .ok markup)
    (hcontent : IsPassage names content ns) :
    ∃ as, IsPassage names markup [.element "td" as ns] := by
  simp only [cellMarkup, except_bind_ok, except_pure_ok] at h
  rcases h with ⟨style, hstyle, rfl⟩
  -- The width is a numeral with a percent sign.
  have hwidth : IsInert (cell.widthPercent ++ "%") :=
    Text.isInert_append.mpr ⟨hcell.widthPercent, by decide⟩
  have hcellContent := hcontent.content.element "td"
    ("<td align=\"left\" valign=\"middle\" width=\"" ++ cell.widthPercent
      ++ "%\" style=\"" ++ style.css ++ "\">")
    "</td>"
    [("align", some "left"), ("valign", some "middle"),
      ("width", some (cell.widthPercent ++ "%")), ("style", some style.css)]
    (by decide) (by
      simp only [List.forall_mem_cons]
      exact ⟨by decide, by decide, by decide, by decide, by simp⟩)
    (by
      simp only [String.toList_append, Markup.writtenStart, Markup.writtenAttribute,
        List.flatMap_cons, List.flatMap_nil]
      repeat rw [String.toList_ofList]
      simp only [List.cons_append, List.nil_append, List.append_assoc])
    (by decide) (Markup.isCalm_of_tag (by decide) (by simp [List.lookup_cons]))
    (Markup.hasValues_cons (Markup.isValue_inert (by decide)) <|
      Markup.hasValues_cons (Markup.isValue_inert (by decide)) <|
      Markup.hasValues_cons (Markup.isValue_inert hwidth) <|
      Markup.hasValues_cons (Markup.isValue_inert (cellStyle_inert hconfig hcell hstyle))
        Markup.hasValues_nil)
  exact ⟨_, Markup.isPassage_element hcellContent ⟨by decide, by simp [List.lookup_cons]⟩
    hcontent.selfContained⟩

variable {host : Host ω K} {config : Config K}

/-- The draft is a cell that holds the block of a text. -/
def IsCellDraft (host : Host ω K) (config : Config K) (names : List String) (leaf : TextLeaf K)
    (n : Markup.Node) : Prop :=
  ∃ as block markup s s', n = .element "td" as block ∧
    Render.textBlock host config leaf.body s = (.ok markup, s') ∧ IsPassage names markup block

/-- The draft is a row with one cell for each of the texts. -/
def IsRowDraft (host : Host ω K) (config : Config K) (names : List String)
    (leaves : List (TextLeaf K)) (n : Markup.Node) : Prop :=
  ∃ cells, n = .element "tr" [] cells ∧
    List.Forall₂ (IsCellDraft host config names) leaves cells

theorem cellsMarkup_content (hconfig : config.IsPlain) {cells : List (Cell K)} {markup : String}
    {s s' : Session ω K} (h : cellsMarkup host config cells s = (.ok markup, s'))
    (hcells : ∀ cell ∈ cells, cell.IsPlain ∧ ∀ name ∈ cell.leaf.body.families, name ∈ names) :
    ∃ ms, IsPassage names markup ms ∧
      List.Forall₂ (IsCellDraft host config names) (cells.map Cell.leaf) ms := by
  induction cells generalizing markup s with
  | nil =>
      rw [cellsMarkup, Task.pure_ok] at h
      rw [← h.1]
      exact ⟨[], Markup.isPassage_empty, .nil⟩
  | cons cell cells ih =>
      simp only [cellsMarkup, Task.bind_ok, Task.number_ok, Task.pure_ok] at h
      rcases h with ⟨content, s₁, hcontent, first, s₂, ⟨hfirst, rfl⟩, rest, s₃, hrest, rfl, rfl⟩
      rw [List.forall_mem_cons] at hcells
      rcases Render.textBlock_content hcontent hcells.1.2 with ⟨_, _, -, -, hblock⟩
      rcases cellMarkup_content hconfig hcells.1.1 hfirst hblock with ⟨as, hcell⟩
      rcases ih hrest hcells.2 with ⟨others, hothers, hdrafts⟩
      exact ⟨_ :: others, hcell.append hothers,
        .cons ⟨as, _, content, s, s₁, rfl, hcontent, hblock⟩ hdrafts⟩

/-- Every row is written as one draft with the texts of the row. -/
theorem rowsMarkup_content (hconfig : config.IsPlain) {donors : List (Donor K)} {count row : Nat}
    {rows : List (List (TextLeaf K))} {markup : List String} {s s' : Session ω K}
    (h : rowsMarkup host config donors count row rows s = (.ok markup, s'))
    (hrows : ∀ leaves ∈ rows, ∀ leaf ∈ leaves, ∀ name ∈ leaf.body.families, name ∈ names) :
    ∃ ns, List.Forall₂ (fun text n => IsPassage names text [n]) markup ns ∧
      List.Forall₂ (IsRowDraft host config names) rows ns := by
  induction rows generalizing row markup s with
  | nil =>
      rw [rowsMarkup, Task.pure_ok] at h
      rw [← h.1]
      exact ⟨[], .nil, .nil⟩
  | cons leaves rows ih =>
      simp only [rowsMarkup, Task.bind_ok, Task.number_ok, Task.pure_ok] at h
      rcases h with ⟨cells, s₁, ⟨hcells, rfl⟩, first, s₂, hfirst, rest, s₃, hrest, rfl, rfl⟩
      rw [List.forall_mem_cons] at hrows
      rcases rowCells_plain hconfig hcells with ⟨hplain, hleaves⟩
      rcases cellsMarkup_content hconfig hfirst (fun cell hcell => ⟨hplain cell hcell,
        hrows.1 cell.leaf (by rw [← hleaves]; exact List.mem_map_of_mem hcell)⟩) with
        ⟨ms, hms, hdrafts⟩
      rw [hleaves] at hdrafts
      have hrow := Markup.isPassage_element (Render.isContent_row rfl hms.content)
        (Markup.isSelfContained_plain (by decide)) hms.selfContained
      -- The cells of a row are self-contained, so the row is, and the rows stand one by one.
      rcases ih hrest hrows.2 with ⟨ns, hpassages, hothers⟩
      exact ⟨_ :: ns, .cons hrow hpassages, .cons ⟨ms, rfl, hdrafts⟩ hothers⟩

omit [InertText K] in
/-- The inner table has inert looks, and is not positioned itself. -/
theorem innerStyle_still {config : Config K} {style : Style.TableStyle}
    (h : innerStyle config = .ok style) :
    IsInert style.css ∧ Style.isAbsolute style.css = false := by
  simp only [innerStyle, except_bind_ok, except_pure_ok] at h
  rcases h with ⟨radius, hradius, rfl⟩
  rcases radiusPixels_ok hradius with ⟨n, rfl⟩
  constructor
  · refine Style.isInert_values (Style.inertNames_table _) ?_
    simp only [Style.TableStyle.fields, List.forall_mem_cons]
    exact ⟨isInert_none, isInert_none, isInert_none, isInert_some (by decide), isInert_none,
      isInert_some (by decide), isInert_some (by decide), isInert_some (Render.px_inert n),
      isInert_some (by decide), by simp⟩
  · refine Style.isAbsolute_of_noPo ?_
    -- No declaration begins with the first letters of a position.
    have htext : (Style.TableStyle.css
          { width := some "100%", borderCollapse := some "separate", borderSpacing := some "0",
            borderRadius := some (toString n ++ "px"), overflow := some "hidden" }).toList
        = "width:100%; border-collapse:separate; border-spacing:0; border-radius:".toList
          ++ ((toString n).toList ++ "px; overflow:hidden;".toList) := by
      change (Text.joinWith " " ["width:100%;", "border-collapse:separate;", "border-spacing:0;",
        "border-radius" ++ ":" ++ (toString n ++ "px") ++ ";", "overflow:hidden;"]).toList = _
      simp only [Text.joinWith, String.toList_append]
      repeat rw [String.toList_ofList]
      simp only [List.cons_append, List.nil_append, List.append_assoc]
    rw [htext]
    exact Style.noPo_numeral n (by decide +kernel) (by decide +kernel)

omit [InertText K] in
/-- The inner table around the rows of its header and its body. -/
theorem innerTable_content {names : List String} {config : Config K} {style : Style.TableStyle}
    (h : innerStyle config = .ok style) {header body : String} {ns ms : List Markup.Node}
    (hheader : IsPassage names header ns) (hbody : IsPassage names body ms) :
    ∃ as, IsPassage names (innerTable style header body)
      [.element "table" as [.element "thead" [] ns, .element "tbody" [] ms]] := by
  rcases innerStyle_still h with ⟨hinert, hstill⟩
  have hhead := hheader.content.plain "thead" "<thead>" "</thead>"
    (by decide) (by decide) (by decide) (by decide)
  have hrows := hhead.append (hbody.content.plain "tbody" "<tbody>" "</tbody>"
    (by decide) (by decide) (by decide) (by decide))
    (Markup.isSolid_element "tbody" [])
  have htable := hrows.element "table"
    ("<table role=\"presentation\" width=\"100%\" border=\"0\" cellpadding=\"5\" "
      ++ "cellspacing=\"0\" style=\"" ++ style.css ++ "\">")
    "</table>"
    [("role", some "presentation"), ("width", some "100%"), ("border", some "0"),
      ("cellpadding", some "5"), ("cellspacing", some "0"), ("style", some style.css)]
    (by decide) (by
      simp only [List.forall_mem_cons]
      exact ⟨by decide, by decide, by decide, by decide,
        by decide, by decide, by simp⟩)
    (by
      simp only [String.toList_append, Markup.writtenStart, Markup.writtenAttribute,
        List.flatMap_cons, List.flatMap_nil]
      repeat rw [String.toList_ofList]
      simp only [List.cons_append, List.nil_append, List.append_assoc])
    (by decide)
    ⟨by simp [List.lookup_cons], fun _ css hcss => by
      obtain rfl : style.css = css := by simpa [List.lookup_cons] using hcss
      exact ⟨hinert, hstill⟩⟩
    (Markup.hasValues_cons (Markup.isValue_inert (by decide)) <|
      Markup.hasValues_cons (Markup.isValue_inert (by decide)) <|
      Markup.hasValues_cons (Markup.isValue_inert (by decide)) <|
      Markup.hasValues_cons (Markup.isValue_inert (by decide)) <|
      Markup.hasValues_cons (Markup.isValue_inert (by decide)) <|
      Markup.hasValues_cons (Markup.isValue_inert hinert) Markup.hasValues_nil)
  -- Header and body are opened and closed by the literals around them.
  have htext : innerTable style header body
      = "<table role=\"presentation\" width=\"100%\" border=\"0\" cellpadding=\"5\" "
          ++ "cellspacing=\"0\" style=\"" ++ style.css ++ "\">"
        ++ ("<thead>" ++ header ++ "</thead>" ++ ("<tbody>" ++ body ++ "</tbody>"))
        ++ "</table>" := by
    unfold innerTable
    rw [← String.toList_inj]
    simp only [String.toList_append]
    repeat rw [String.toList_ofList]
    simp only [List.cons_append, List.nil_append, List.append_assoc]
  rw [htext]
  refine ⟨_, Markup.isPassage_element htable ⟨by decide, by simp [List.lookup_cons]⟩ ?_⟩
  exact ⟨⟨Markup.isSelfContained_plain (by decide), hheader.selfContained⟩,
    ⟨Markup.isSelfContained_plain (by decide), hbody.selfContained⟩, trivial⟩

/-- The rows of a rebuilt region: a single cell with the inner table, whose first row is the
    header. -/
def regionRows (as : List Markup.Attribute) (rows : List Markup.Node) : List Markup.Node :=
  Render.cellRow [] [.element "table" as
    [.element "thead" [] (rows.take 1), .element "tbody" [] (rows.drop 1)]]

/-- A rebuilt region is a placed table without a height. It shows the rows of its texts, is
    expected to be as high as they are, and refers to nothing outside. -/
theorem synthesize_content (hconfig : config.IsPlain) {node : Node K} {x y : K} {box : Rect K}
    (hbox : node.bounds = some box) {table : Synthesized} {s s' : Session ω K}
    (h : synthesize host config node x y s = (.ok (some table), s'))
    (hnames : ∀ leaf ∈ textLeaves node, ∀ name ∈ leaf.body.families, name ∈ names) :
    ∃ (left top width : Int) (rows : List (List (TextLeaf K))) (as : List Markup.Attribute)
      (ns : List Markup.Node), Scalar.roundHalfUp x = .ok left ∧ Scalar.roundHalfUp y = .ok top ∧
      Scalar.roundHalfUp box.width = .ok width ∧ leafRows config (textLeaves node) = .ok rows ∧
      List.Forall₂ (IsRowDraft host config names) rows ns ∧
      table.markup.toList
        = (PlacedTable.mk none left top width none (regionRows as ns)).node.written ∧
      (PlacedTable.mk none left top width none (regionRows as ns)).IsSound names ∧
      Markup.Node.EverywhereAll IsSelfContained (regionRows as ns) ∧
      table.expectedHeight = expectedHeight config rows.length := by
  rcases synthesize_ok h with ⟨_, _, _, _, rows, markup, -, hbounds, -, hrows, hmarkup, htext,
    hexpected⟩
  obtain rfl := Option.some.inj (hbox.symm.trans hbounds)
  rcases rowsMarkup_content hconfig hmarkup fun row hrow leaf hleaf =>
    hnames leaf (Layout.mem_bucketRows hrows hrow hleaf) with ⟨ns, hpassages, hdrafts⟩
  simp only [tableMarkup, except_bind_ok] at htext
  rcases htext with ⟨style, hstyle, hplaced⟩
  -- The first row is the header, the others are the body.
  have hheader := Markup.isPassage_concat (List.forall₂_take 1 hpassages)
  have hbody := Markup.isPassage_concat (List.forall₂_drop 1 hpassages)
  rcases innerTable_content hstyle hheader hbody with ⟨as, hinner⟩
  have hcontent := Render.isContent_singleCell hinner.content
  rcases Render.placedTable_draft hplaced hcontent.writes with
    ⟨left, top, width, height, hleft, htop, hwidth, hheight, hwritten⟩
  obtain rfl : none = height := except_pure_ok.mp hheight
  exact ⟨left, top, width, rows, as, ns, hleft, htop, hwidth, hrows, hdrafts, hwritten,
    ⟨hcontent.tidy, hcontent.calm, hcontent.values, by simp⟩,
    ⟨⟨Markup.isSelfContained_plain (by decide),
      ⟨Markup.isSelfContained_plain (by decide), hinner.selfContained⟩, trivial⟩, trivial⟩,
    hexpected⟩

/-- A rebuilt region is a placed table without a height, and refers to nothing outside. -/
theorem synthesize_draft (hconfig : config.IsPlain) {node : Node K} {x y : K} {box : Rect K}
    (hbox : node.bounds = some box) {table : Synthesized} {s s' : Session ω K}
    (h : synthesize host config node x y s = (.ok (some table), s'))
    (hnames : ∀ name ∈ node.names, name ∈ names) :
    ∃ left top width ns, Scalar.roundHalfUp x = .ok left ∧ Scalar.roundHalfUp y = .ok top ∧
      Scalar.roundHalfUp box.width = .ok width ∧
      table.markup.toList = (PlacedTable.mk none left top width none ns).node.written ∧
      (PlacedTable.mk none left top width none ns).IsSound names ∧
      Markup.Node.EverywhereAll IsSelfContained ns := by
  rcases synthesize_content hconfig hbox h fun leaf hleaf name hname =>
    hnames name (leaf_names node leaf hleaf name hname) with
    ⟨left, top, width, _, _, _, hleft, htop, hwidth, -, -, hwritten, hsound, hself, -⟩
  exact ⟨left, top, width, _, hleft, htop, hwidth, hwritten, hsound, hself⟩

end Markup

end Letterpress.Table
