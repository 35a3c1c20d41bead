import Letterpress.Proofs.Document.Box
import Letterpress.Proofs.Document.Lifting

/-!
# The Tree of a Table Layout

Every fragment stands in a table of its own, in the middle of a row with empty cells, or
alone if it is in a link. The tables follow one another in the only cell of the box.
Between comments, that is all there is in the cell.

## Main definitions

* `fragmentLayers`: The table around a fragment.
* `fragmentNodes`: The table between its comments.
* `containerCell`: The cell around all tables.

## Theorems

* `writes_fragmentTable`: The text of a fragment's table.
* `writes_container`: The text of the container.
* `writes_tableDocument`: The text of a document in table layout.
-/

namespace Letterpress.Document

open Markup
open Text (IsInert)

variable {K : Type} [Scalar K]

section Fragments

/-- The style of a given width. -/
def widthCss (width : Int) : String :=
  "width:" ++ toString width ++ "px;"

theorem widthCss_inert (width : Int) : IsInert (widthCss width) := by
  simp only [widthCss, Text.isInert_append]
  exact ⟨⟨by decide, Text.isInert_int width⟩, by decide⟩

theorem widthCss_still (width : Int) : Style.isAbsolute (widthCss width) = false := by
  refine Style.isAbsolute_of_noPo ?_
  simp only [widthCss, String.toList_append, List.append_assoc]
  exact Style.noPo_numeral width (by decide) (by decide)

/-- An empty cell of a given width. -/
def spacerCell (width : Int) : Markup.Node :=
  .element "td" [("width", some (toString width)), ("style", some (widthCss width))] []

/-- The cell around a fragment in a link. -/
def linkedCell (f : Fragment) : Layer :=
  ⟨"td", [("style", some ("padding:0; " ++ alignmentStyle f))], [], []⟩

/-- The cell around a fragment between empty cells. -/
def spacedCell (f : Fragment) : Layer :=
  ⟨"td", [("width", some (toString f.width)),
    ("style", some (widthCss f.width ++ " " ++ alignmentStyle f))], [], []⟩

/-- The layers around a fragment. -/
def fragmentLayers (f : Fragment) (innerWidth : Int) : List Layer :=
  let left := max 0 f.left
  let right := max 0 (innerWidth - left - f.width)
  if f.linkWrapped then
    [⟨"table", layoutTable f.width (widthCss f.width), [], []⟩, rowLayer [] [], linkedCell f]
  else
    [⟨"table", layoutTable innerWidth (widthCss innerWidth), [], []⟩,
      rowLayer [spacerCell left] [spacerCell right], spacedCell f]

/-- The place of a fragment for the clients that read conditional comments. -/
def placeData (f : Fragment) : String :=
  "[if mso]><div style=\"position:absolute; top:" ++ toString f.top ++ "px; left:"
    ++ toString (if f.linkWrapped then f.left else 0) ++ "px;\"><![endif]"

/-- A fragment in its table, between its comments. -/
def fragmentNodes (f : Fragment) (innerWidth : Int) (unit : Markup.Node) : List Markup.Node :=
  .comment (placeData f) :: (inLayers (fragmentLayers f innerWidth) [unit]
    ++ [.comment "[if mso]></div><![endif]"])

/-- The alignments of a fragment hold no markup. -/
structure IsAligned (f : Fragment) : Prop where
  text : IsInert f.textAlign
  vertical : IsInert f.verticalAlign

variable {f : Fragment} {innerWidth : Int}

theorem alignmentStyle_inert (h : IsAligned f) : IsInert (alignmentStyle f) := by
  simp only [alignmentStyle, Text.isInert_append]
  exact ⟨⟨⟨⟨by decide, h.text⟩, by decide⟩, h.vertical⟩, by decide⟩

theorem spacerCell_filler (width : Int) : IsFiller [spacerCell width] := by
  refine ⟨⟨?_, fun _ => rfl, trivial⟩, ⟨⟨inertAttributes_cons (Text.isInert_int width)
    (inertAttributes_cons (widthCss_inert width) inertAttributes_nil), trivial⟩, trivial⟩,
    ⟨⟨isSettled_of_tag (by decide) rfl, trivial⟩, trivial⟩⟩
  refine tidy_filled (by decide) ?_ trivial
  simp only [List.forall_mem_cons]
  exact ⟨by decide, by decide, by simp⟩

theorem linkedCell_shell (h : IsAligned f) : IsShell (linkedCell f) := by
  have hcss : IsInert ("padding:0; " ++ alignmentStyle f) :=
    Text.isInert_append.mpr ⟨by decide, alignmentStyle_inert h⟩
  refine isShell_plain (by decide) ?_ (inertAttributes_cons hcss inertAttributes_nil) rfl
    isFiller_nil isFiller_nil
  simp only [List.forall_mem_cons]
  exact ⟨by decide, by simp⟩

theorem spacedCell_shell (h : IsAligned f) : IsShell (spacedCell f) := by
  have hcss : IsInert (widthCss f.width ++ " " ++ alignmentStyle f) := by
    simp only [Text.isInert_append]
    exact ⟨⟨widthCss_inert f.width, by decide⟩, alignmentStyle_inert h⟩
  refine isShell_plain (by decide) ?_ (inertAttributes_cons (Text.isInert_int f.width)
    (inertAttributes_cons hcss inertAttributes_nil)) rfl isFiller_nil isFiller_nil
  simp only [List.forall_mem_cons]
  exact ⟨by decide, by decide, by simp⟩

theorem fragmentLayers_shells (h : IsAligned f) (innerWidth : Int) :
    ∀ l ∈ fragmentLayers f innerWidth, IsShell l := by
  have htable : ∀ width, IsShell ⟨"table", layoutTable width (widthCss width), [], []⟩ :=
    fun width => layoutTable_shell (widthCss_inert width) (widthCss_still width) isFiller_nil
      isFiller_nil
  unfold fragmentLayers
  split
  · simp only [List.forall_mem_cons]
    exact ⟨htable _, rowLayer_shell isFiller_nil isFiller_nil, linkedCell_shell h, by simp⟩
  · simp only [List.forall_mem_cons]
    exact ⟨htable _, rowLayer_shell (spacerCell_filler _) (spacerCell_filler _),
      spacedCell_shell h, by simp⟩

/-- The layers around a fragment are tidy, whatever its alignments are. -/
theorem fragmentLayers_tidy (f : Fragment) (innerWidth : Int) :
    ∀ l ∈ fragmentLayers f innerWidth, l.IsTidy := by
  have htable : ∀ width, Layer.IsTidy ⟨"table", layoutTable width (widthCss width), [], []⟩ :=
    fun _ => ⟨by change isFilledTag "table" = true; decide, layoutTable_names, trivial, trivial⟩
  have hrow : ∀ {before after : List Markup.Node}, IsFiller before → IsFiller after →
      (rowLayer before after).IsTidy := fun hbefore hafter => (rowLayer_shell hbefore hafter).tidy
  have hcell : ∀ {as : List Attribute}, (∀ a ∈ as, isName a.1 = true) →
      Layer.IsTidy ⟨"td", as, [], []⟩ := fun hnames =>
    ⟨by change isFilledTag "td" = true; decide, hnames, trivial, trivial⟩
  unfold fragmentLayers
  split
  · simp only [List.forall_mem_cons]
    refine ⟨htable _, hrow isFiller_nil isFiller_nil, hcell ?_, by simp⟩
    simp only [List.forall_mem_cons]
    exact ⟨by decide, by simp⟩
  · simp only [List.forall_mem_cons]
    refine ⟨htable _, hrow (spacerCell_filler _) (spacerCell_filler _), hcell ?_, by simp⟩
    simp only [List.forall_mem_cons]
    exact ⟨by decide, by decide, by simp⟩

theorem placeData_noCloser (f : Fragment) : NoCloser (placeData f).toList := by
  have hnumeral : ∀ n : Int, '>' ∉ (toString n).toList := fun n =>
    not_mem_inert (Text.isInert_int n) (by decide)
  unfold placeData
  simp only [String.toList_append, List.append_assoc]
  -- Numerals keep the fixed parts apart, whatever the place is.
  refine noCloser_between (hnumeral f.top) (by decide) ?_
    (head_ne_closer (by decide) _)
  exact noCloser_between (hnumeral _) (by decide) (by decide)
    (by decide)

theorem fixedTable_start (width : Int) :
    (fixedTable width).toList = writtenStart "table" (layoutTable width (widthCss width)) := by
  rw [layoutTable_start]
  unfold fixedTable widthCss
  simp only [String.toList_append]
  generalize presentationTable.toList = first
  repeat rw [String.toList_ofList]
  simp only [List.cons_append, List.nil_append, List.append_assoc]

theorem writes_spacer (width : Int) : Writes (spacer width) [spacerCell width] := by
  have hcell := writes_element "td" ("<td width=\"" ++ toString width ++ "\" style=\""
    ++ widthCss width ++ "\">") "</td>"
    [("width", some (toString width)), ("style", some (widthCss width))] (by decide)
    (by
      simp only [String.toList_append, writtenStart, writtenAttribute, List.flatMap_cons,
        List.flatMap_nil]
      repeat rw [String.toList_ofList]
      simp only [List.cons_append, List.nil_append, List.append_assoc])
    (show Writes "" [] from rfl) (by decide)
  have htext : spacer width = "<td width=\"" ++ toString width ++ "\" style=\""
      ++ widthCss width ++ "\">" ++ "" ++ "</td>" := by
    unfold spacer widthCss
    rw [← String.toList_inj]
    simp only [String.toList_append]
    repeat rw [String.toList_ofList]
    simp only [List.cons_append, List.nil_append, List.append_assoc]
  rw [htext]
  exact hcell

/-- The text of a table of fixed width with a single row, around the content of a cell. -/
theorem writes_fixedTable (width : Int) {as : List Attribute} {start left body right : String}
    {before ns after : List Markup.Node} (hstart : start.toList = writtenStart "td" as)
    (hleft : Writes left before) (hbody : Writes body ns) (hright : Writes right after) :
    Writes (fixedTable width ++ ("<tr>" ++ (left ++ (start ++ body ++ "</td>" ++ right)) ++ "</tr>")
        ++ "</table>")
      (inLayers [⟨"table", layoutTable width (widthCss width), [], []⟩, rowLayer before after,
        ⟨"td", as, [], []⟩] ns) := by
  have hcell := writes_element "td" start "</td>" as (by decide) hstart hbody (by decide)
  have hrow := writes_row hleft hcell hright
  have htable := writes_element "table" (fixedTable width) "</table>"
    (layoutTable width (widthCss width)) (by decide) (fixedTable_start width) hrow (by decide)
  -- Layers of their own have nothing before their content or after it.
  simpa [inLayers, Layer.around, rowLayer] using htable

/-- The table around a fragment in a link. -/
theorem writes_linkedTable {unit : Markup.Node} (hunit : Writes f.markup [unit])
    (hlink : f.linkWrapped = true) :
    Writes (linkedTable f) (inLayers (fragmentLayers f innerWidth) [unit]) := by
  have hempty : Writes "" [] := rfl
  have hstart : ("<td style=\"" ++ ("padding:0; " ++ alignmentStyle f) ++ "\">").toList
      = writtenStart "td" [("style", some ("padding:0; " ++ alignmentStyle f))] :=
    toList_styledStart (by decide) _
  have htable := writes_fixedTable f.width hstart hempty hunit hempty
  have htext : linkedTable f = fixedTable f.width ++ ("<tr>" ++ ("" ++ ("<td style=\""
      ++ ("padding:0; " ++ alignmentStyle f) ++ "\">" ++ f.markup ++ "</td>" ++ "")) ++ "</tr>")
      ++ "</table>" := by
    unfold linkedTable
    generalize fixedTable f.width = start
    rw [← String.toList_inj]
    simp only [String.toList_append]
    repeat rw [String.toList_ofList]
    simp only [List.cons_append, List.nil_append, List.append_assoc]
  rw [htext, fragmentLayers, if_pos hlink]
  exact htable

/-- The table around a fragment between empty cells. -/
theorem writes_spacedTable {unit : Markup.Node} (hunit : Writes f.markup [unit])
    (hlink : f.linkWrapped = false) :
    Writes (spacedTable f innerWidth) (inLayers (fragmentLayers f innerWidth) [unit]) := by
  have hstart : ("<td width=\"" ++ toString f.width ++ "\" style=\""
      ++ (widthCss f.width ++ " " ++ alignmentStyle f) ++ "\">").toList
        = writtenStart "td" [("width", some (toString f.width)),
            ("style", some (widthCss f.width ++ " " ++ alignmentStyle f))] := by
    simp only [String.toList_append, writtenStart, writtenAttribute, List.flatMap_cons,
      List.flatMap_nil]
    repeat rw [String.toList_ofList]
    simp only [List.cons_append, List.nil_append, List.append_assoc]
  have htable := writes_fixedTable innerWidth hstart (writes_spacer (max 0 f.left)) hunit
    (writes_spacer (max 0 (innerWidth - max 0 f.left - f.width)))
  -- The text of the table is its parts in the order of their layers.
  have htext : spacedTable f innerWidth = fixedTable innerWidth ++ ("<tr>"
      ++ (spacer (max 0 f.left) ++ ("<td width=\"" ++ toString f.width ++ "\" style=\""
      ++ (widthCss f.width ++ " " ++ alignmentStyle f) ++ "\">" ++ f.markup
      ++ "</td>" ++ spacer (max 0 (innerWidth - max 0 f.left - f.width)))) ++ "</tr>")
      ++ "</table>" := by
    unfold spacedTable widthCss
    generalize fixedTable innerWidth = start
    rw [← String.toList_inj]
    simp only [String.toList_append]
    repeat rw [String.toList_ofList]
    simp only [List.cons_append, List.nil_append, List.append_assoc]
  rw [htext, fragmentLayers, if_neg (by rw [hlink]; exact Bool.false_ne_true)]
  exact htable

theorem writing_ok {numbers : List Int} {text s : String} :
    writing numbers text = .ok s ↔ numbers.all Text.isWritable = true ∧ text = s := by
  unfold writing
  split
  · rename_i hall
    rw [except_pure_ok]
    exact ⟨fun h => ⟨hall, h⟩, fun h => h.2⟩
  · rename_i hall
    exact ⟨fun h => absurd h (by simp), fun h => absurd h.1 hall⟩

/-- The text of a fragment's table. -/
theorem writes_fragmentTable {unit : Markup.Node} (hunit : Writes f.markup [unit]) {text : String}
    (h : fragmentTable f innerWidth = .ok text) :
    Writes text (fragmentNodes f innerWidth unit) := by
  have htable : Writes (if f.linkWrapped then linkedTable f else spacedTable f innerWidth)
      (inLayers (fragmentLayers f innerWidth) [unit]) := by
    by_cases hlink : f.linkWrapped = true
    · rw [if_pos hlink]
      exact writes_linkedTable hunit hlink
    · rw [if_neg hlink]
      exact writes_spacedTable hunit (by simpa using hlink)
  have hfirst : Writes ("<!--" ++ placeData f ++ "-->") [.comment (placeData f)] :=
    writes_comment rfl
  have hlast : Writes "<!--[if mso]></div><![endif]-->" [.comment "[if mso]></div><![endif]"] :=
    writes_comment (by decide)
  have htext : "<!--[if mso]><div style=\"position:absolute; top:" ++ toString f.top ++ "px; left:"
      ++ toString (if f.linkWrapped then f.left else 0) ++ "px;\"><![endif]-->"
      ++ (if f.linkWrapped then linkedTable f else spacedTable f innerWidth)
      ++ "<!--[if mso]></div><![endif]-->" = text :=
    (writing_ok.mp h).2
  -- The comment is a literal up to its brackets.
  have hplace : "<!--[if mso]><div style=\"position:absolute; top:" ++ toString f.top
      ++ "px; left:" ++ toString (if f.linkWrapped then f.left else 0) ++ "px;\"><![endif]-->"
        = "<!--" ++ placeData f ++ "-->" := by
    unfold placeData
    rw [← String.toList_inj]
    simp only [String.toList_append]
    repeat rw [String.toList_ofList]
    simp only [List.cons_append, List.nil_append, List.append_assoc]
  rw [← htext, hplace, String.append_assoc]
  exact hfirst.append (htable.append hlast)

end Fragments

section Container

variable (config : Config K) (width height : Int) (background : Background)

/-- The style of the cell around all tables. -/
def containerStyle : String :=
  backgroundStyle background
    ["border:" ++ toString config.containerBorder ++ "px solid #dddddd;", "box-sizing:border-box;",
      "width:" ++ toString (width - 2 * config.containerBorder) ++ "px;",
      "height:" ++ toString (height - 2 * config.containerBorder) ++ "px;"]

/-- The attributes of the cell around all tables. -/
def containerAttributes : List Attribute :=
  [("bgcolor", some background.plainColor), ("background", some background.imagePath),
    ("width", some (toString width)), ("height", some (toString height)), ("valign", some "top"),
    ("class", some "email-container"),
    ("style", some (containerStyle config width height background))]

/-- The cell around all tables. -/
def containerCell : Layer :=
  cellLayer width height background (containerAttributes config width height background)

variable {background}

theorem containerStyle_inert (hbackground : background.IsPlain) :
    IsInert (containerStyle config width height background) := by
  refine backgroundStyle_inert hbackground ?_
  simp only [List.forall_mem_cons, Text.isInert_append]
  exact ⟨⟨⟨by decide, Text.isInert_int _⟩, by decide⟩, by decide,
    ⟨⟨by decide, Text.isInert_int _⟩, by decide⟩, ⟨⟨by decide, Text.isInert_int _⟩, by decide⟩,
    by simp⟩

theorem containerAttributes_inert (hbackground : background.IsPlain) :
    InertAttributes "td" (containerAttributes config width height background) :=
  inertAttributes_cons hbackground.color <| inertAttributes_cons hbackground.path <|
    inertAttributes_cons (Text.isInert_int width) <|
    inertAttributes_cons (Text.isInert_int height) <| inertAttributes_cons (by decide) <|
    inertAttributes_cons (by decide) <|
    inertAttributes_cons (containerStyle_inert config width height hbackground)
      inertAttributes_nil

theorem containerAttributes_names :
    ∀ a ∈ containerAttributes config width height background, isName a.1 = true := by
  simp only [containerAttributes, List.forall_mem_cons]
  exact ⟨by decide, by decide, by decide, by decide,
    by decide, by decide, by decide, by simp⟩

theorem containerCell_tidy (hbackground : background.IsPlain) :
    (containerCell config width height background).IsTidy :=
  cellLayer_tidy width height background hbackground
    (containerAttributes_names config width height)

theorem containerCell_inert (hbackground : background.IsPlain) :
    (containerCell config width height background).Everywhere InertAttributes :=
  cellLayer_bare width height background
    (containerAttributes_inert config width height hbackground)

theorem containerCell_start (background : Background) :
    ("<td bgcolor=\"" ++ background.plainColor ++ "\" background=\"" ++ background.imagePath
      ++ "\" width=\"" ++ toString width ++ "\" height=\"" ++ toString height
      ++ "\" valign=\"top\" class=\"email-container\" style=\""
      ++ containerStyle config width height background ++ "\">").toList
        = writtenStart "td" (containerAttributes config width height background) := by
  unfold containerAttributes
  simp only [String.toList_append, writtenStart, writtenAttribute, List.flatMap_cons,
    List.flatMap_nil]
  generalize (containerStyle config width height background).toList = style
  repeat rw [String.toList_ofList]
  simp only [List.cons_append, List.nil_append, List.append_assoc]

/-- The tables of a container between their comments. -/
def containerNodes (innerWidth : Int) (placed : List (Fragment × Markup.Node)) :
    List Markup.Node :=
  lines (placed.map fun p => fragmentNodes p.1 innerWidth p.2)

theorem writes_tables {innerWidth : Int} {placed : List (Fragment × Markup.Node)}
    (hplaced : ∀ p ∈ placed, Writes p.1.markup [p.2]) {tables : List String}
    (h : (placed.map Prod.fst).mapM (fun f => fragmentTable f innerWidth) = .ok tables) :
    Writes (Text.unlines tables) (containerNodes innerWidth placed) := by
  refine writes_unlines ?_
  -- Along the fragments in reading order, each of which has its table.
  induction placed generalizing tables with
  | nil =>
      rw [List.map_nil, List.mapM_nil, except_pure_ok] at h
      rw [← h]
      exact List.Forall₂.nil
  | cons p placed ih =>
      rw [List.map_cons] at h
      rcases mapM_cons_ok.mp h with ⟨table, rest, htable, hrest, rfl⟩
      rw [List.forall_mem_cons] at hplaced
      exact List.Forall₂.cons (writes_fragmentTable hplaced.1 htable) (ih hplaced.2 hrest)

/-- The text of the container. -/
theorem writes_container {fragments : List Fragment} {placed : List (Fragment × Markup.Node)}
    (hne : placed ≠ []) (horder : inReadingOrder fragments = placed.map Prod.fst)
    (hplaced : ∀ p ∈ placed, Writes p.1.markup [p.2]) {text : String}
    (h : containerOf config fragments width background = .ok text) :
    Writes text (inLayers [boxLayer width (containerHeight config fragments), rowLayer [] []]
      [(containerCell config width (containerHeight config fragments) background).around
        (containerNodes (width - 2 * config.containerBorder) placed)]) := by
  simp only [containerOf, except_bind_ok] at h
  rcases h with ⟨tables, htables, h⟩
  rw [horder] at htables
  have htablesNe : tables ≠ [] := by
    cases placed with
    | nil => exact absurd rfl hne
    | cons p placed =>
        rw [List.map_cons] at htables
        rcases mapM_cons_ok.mp htables with ⟨table, rest, -, -, rfl⟩
        exact List.cons_ne_nil table rest
  have hbox := writes_box width (containerHeight config fragments) background
    (containerCell_start config width (containerHeight config fragments) background) htablesNe
    (writes_tables hplaced htables)
  -- The row and its cell are opened by one literal.
  have hopen : ("<tr><td bgcolor=\"" : String) = "<tr>" ++ "<td bgcolor=\"" := by decide
  rw [← (writing_ok.mp h).2, hopen]
  unfold containerStyle at hbox
  simp only [String.append_assoc] at hbox ⊢
  exact hbox

end Container

section Reading

variable {f : Fragment} {innerWidth : Int} {unit : Markup.Node}

theorem fragmentNodes_tidy (f : Fragment) (innerWidth : Int) (hunit : unit.Tidy)
    (hsolid : unit.isPlainText = false) : Node.TidyAll (fragmentNodes f innerWidth unit) := by
  have hplace : (Markup.Node.comment (placeData f)).Tidy :=
    hasNoCommentEnd_of_noCloser (placeData_noCloser f)
  have hend : (Markup.Node.comment "[if mso]></div><![endif]").Tidy :=
    hasNoCommentEnd_of_noCloser (by decide)
  have hunits : Node.TidyAll [unit] := tidyAll_solid hunit hsolid trivial
  have hlayers := tidyAll_inLayers (fragmentLayers_tidy f innerWidth) hunits
    (hasSolidEnds_single hsolid)
  -- Comments are no character data, so that nothing joins.
  exact tidyAll_solid hplace rfl (tidyAll_append hlayers (tidyAll_solid hend rfl trivial)
    fun _ => rfl)

theorem fragmentNodes_ends (f : Fragment) (innerWidth : Int) (unit : Markup.Node) :
    HasSolidEnds (fragmentNodes f innerWidth unit) := by
  refine ⟨List.cons_ne_nil _ _, rfl, ?_⟩
  rw [fragmentNodes, ← List.cons_append, List.getLast?_append_of_ne_nil _ (List.cons_ne_nil _ _)]
  rfl

theorem fragmentNodes_everywhere {P : String → List Attribute → Prop}
    (hlayers : ∀ l ∈ fragmentLayers f innerWidth, l.Everywhere P) (hunit : unit.Everywhere P) :
    Node.EverywhereAll P (fragmentNodes f innerWidth unit) :=
  ⟨trivial, everywhereAll_append.mpr ⟨everywhereAll_inLayers hlayers ⟨hunit, trivial⟩,
    ⟨trivial, trivial⟩⟩⟩

theorem fragmentNodes_decode (h : IsAligned f) {tree : Markup.Node}
    (htree : unit.decode = .ok tree) :
    Node.decodeAll (fragmentNodes f innerWidth unit) = .ok (fragmentNodes f innerWidth tree) := by
  have hunits : Node.decodeAll [unit] = .ok [tree] := by
    rw [Node.decodeAll, htree]
    rfl
  have hlayers := @decodeAll_inLayers _ [unit]
    fun l hl => (fragmentLayers_shells h innerWidth l hl).inert
  rw [hunits] at hlayers
  rw [fragmentNodes, Node.decodeAll, decodeAll_append, hlayers]
  rfl

/-- A tree that takes no part in the layout, as it is written into a document. -/
structure IsUnitTree (tree : Markup.Node) : Prop where
  tidy : tree.Tidy
  solid : tree.isPlainText = false
  settled : tree.Everywhere IsSettled

/-- Fragments with their trees as they are written. -/
def escapedUnits (placed : List (Fragment × Markup.Node)) : List (Fragment × Markup.Node) :=
  placed.map fun p => (p.1, p.2.escaped)

variable {placed : List (Fragment × Markup.Node)}

theorem containerNodes_tidy (hplaced : ∀ p ∈ placed, p.2.Tidy ∧ p.2.isPlainText = false) :
    Node.TidyAll (containerNodes innerWidth (escapedUnits placed)) := by
  refine tidyAll_lines (fun ns hns => ?_) fun ns hns => ?_
  · rcases List.mem_map.mp hns with ⟨p, hp, rfl⟩
    rcases List.mem_map.mp hp with ⟨q, hq, rfl⟩
    exact fragmentNodes_tidy _ _ (tidy_escaped q.2 (hplaced q hq).1)
      (by rw [isPlainText_escaped, (hplaced q hq).2])
  · rcases List.mem_map.mp hns with ⟨p, -, rfl⟩
    exact fragmentNodes_ends p.1 innerWidth p.2

theorem containerNodes_ends (hne : placed ≠ []) :
    HasSolidEnds (containerNodes innerWidth placed) := by
  refine hasSolidEnds_lines (by simpa using hne) fun ns hns => ?_
  rcases List.mem_map.mp hns with ⟨p, -, rfl⟩
  exact fragmentNodes_ends p.1 innerWidth p.2

theorem containerNodes_everywhere {P : String → List Attribute → Prop}
    (hplaced : ∀ p ∈ placed, (∀ l ∈ fragmentLayers p.1 innerWidth, l.Everywhere P) ∧
      p.2.Everywhere P) : Node.EverywhereAll P (containerNodes innerWidth placed) := by
  refine everywhereAll_lines fun ns hns => ?_
  rcases List.mem_map.mp hns with ⟨p, hp, rfl⟩
  exact fragmentNodes_everywhere (hplaced p hp).1 (hplaced p hp).2

theorem containerNodes_quotes (hplaced : ∀ p ∈ placed, IsAligned p.1) :
    Node.InQuotesAll (containerNodes innerWidth (escapedUnits placed)) := by
  refine containerNodes_everywhere fun p hp => ?_
  rcases List.mem_map.mp hp with ⟨q, hq, rfl⟩
  exact ⟨fun l hl => (fragmentLayers_shells (hplaced q hq) innerWidth l hl).inQuotes,
    inQuotes_escaped q.2⟩

theorem containerNodes_settled (hplaced : ∀ p ∈ placed, IsAligned p.1 ∧ IsUnitTree p.2) :
    Node.EverywhereAll IsSettled (containerNodes innerWidth placed) :=
  containerNodes_everywhere fun p hp =>
    ⟨fun l hl => (fragmentLayers_shells (hplaced p hp).1 innerWidth l hl).settled,
      (hplaced p hp).2.settled⟩

theorem containerNodes_decode (hplaced : ∀ p ∈ placed, IsAligned p.1) :
    Node.decodeAll (containerNodes innerWidth (escapedUnits placed))
      = .ok (containerNodes innerWidth placed) := by
  have hpieces : ((escapedUnits placed).map fun p => fragmentNodes p.1 innerWidth p.2).mapM
      Node.decodeAll = .ok (placed.map fun p => fragmentNodes p.1 innerWidth p.2) := by
    induction placed with
    | nil => rfl
    | cons p placed ih =>
        rw [List.forall_mem_cons] at hplaced
        exact mapM_cons_ok.mpr ⟨_, _, fragmentNodes_decode hplaced.1 (decode_escaped p.2),
          ih hplaced.2, rfl⟩
  rw [containerNodes, decodeAll_lines, hpieces]
  rfl

end Reading

section Documents

variable {config : Config K} {background : Background}

/-- The layers around the cell of a document in table layout. -/
def documentLayers (config : Config K) (width height : Int) : List Layer :=
  outerLayers config (baseStyles ++ containerStyles) width
    ++ [boxLayer width height, rowLayer [] []]

theorem documentLayers_shells (hconfig : config.IsPlain) (width height : Int) :
    ∀ l ∈ documentLayers config width height, IsShell l := by
  have hstyles : AreSheets (baseStyles ++ containerStyles) :=
    List.forall_mem_append.mpr ⟨baseStyles_sheets, containerStyles_sheets⟩
  exact boxedLayers_shells width width height hconfig hstyles

/-- A document in table layout as a tree. -/
def documentTree (config : Config K) (width height : Int) (background : Background)
    (placed : List (Fragment × Markup.Node)) : List Markup.Node :=
  page (inLayers (documentLayers config width height)
    [(containerCell config width height background).around
      (containerNodes (width - 2 * config.containerBorder) placed)])

/-- The text of a document in table layout. -/
theorem writes_tableDocument {fragments : List Fragment} {placed : List (Fragment × Markup.Node)}
    (hne : placed ≠ []) (horder : inReadingOrder fragments = placed.map Prod.fst)
    (hplaced : ∀ p ∈ placed, Writes p.1.markup [p.2]) {width height : K} {text : String}
    (h : tableDocument config fragments width height background = .ok text) :
    ∃ w, Scalar.roundHalfUp width = .ok w ∧
      Writes text (documentTree config w (containerHeight config fragments) background placed) := by
  simp only [tableDocument, container, emailDocument, except_bind_ok, except_pure_ok,
    number_ok] at h
  rcases h with ⟨body, ⟨w, hw, hbody⟩, _, -, w', hw', rfl⟩
  obtain rfl : w = w' := by simpa [hw] using hw'
  have hcontainer := writes_container config w hne horder hplaced (numeral_ok.mp hbody)
  refine ⟨w, hw, ?_⟩
  rw [documentTree, documentLayers, inLayers_append]
  exact writes_document config hcontainer w

/-- A document in table layout reads as its layers around what its tables are decoded to. -/
theorem parse_written_tables (hconfig : config.IsPlain) (hbackground : background.IsPlain)
    {placed : List (Fragment × Markup.Node)} (hne : placed ≠ [])
    (hplaced : ∀ p ∈ placed, p.2.Tidy ∧ p.2.isPlainText = false) {width height : Int}
    (hquotes : Node.InQuotesAll
      (containerNodes (width - 2 * config.containerBorder) (escapedUnits placed)))
    {text : String}
    (h : Writes text (documentTree config width height background (escapedUnits placed))) :
    Markup.parse text = (Markup.Node.root <$> (fun ns => page (inLayers
        (documentLayers config width height)
        [(containerCell config width height background).around ns]))
      <$> Node.decodeAll (containerNodes (width - 2 * config.containerBorder)
        (escapedUnits placed))).mapError MarkupError.numeral := by
  have hcell := containerCell_tidy config width height hbackground
  have hescaped : escapedUnits placed ≠ [] := by simpa [escapedUnits] using hne
  have htidy := Layer.around_tidy hcell (containerNodes_tidy hplaced)
    (@containerNodes_ends (width - 2 * config.containerBorder) _ hescaped)
  have hinside := Layer.around_everywhere (cellLayer_bare width height background
    (containerAttributes_inert config width height hbackground).inQuotes) hquotes
  have hdecode := Layer.around_decode (containerCell_inert config width height hbackground)
    (containerNodes (width - 2 * config.containerBorder) (escapedUnits placed))
  -- What is around the tables is inert.
  rw [parse_page (documentLayers_shells hconfig width height) h ⟨htidy, fun _ => rfl, trivial⟩
    (hasSolidEnds_single rfl) ⟨hinside, trivial⟩, Node.decodeAll, hdecode]
  cases Node.decodeAll (containerNodes (width - 2 * config.containerBorder)
    (escapedUnits placed)) <;> rfl

/-- A document in table layout reads as its tree. -/
theorem parse_tableDocument (hconfig : config.IsPlain) (hbackground : background.IsPlain)
    {placed : List (Fragment × Markup.Node)} (hne : placed ≠ [])
    (hplaced : ∀ p ∈ placed, IsAligned p.1 ∧ IsUnitTree p.2) {width height : Int} {text : String}
    (h : Writes text (documentTree config width height background (escapedUnits placed))) :
    Markup.parse text
      = .ok (Markup.Node.root (documentTree config width height background placed)) := by
  have haligned : ∀ p ∈ placed, IsAligned p.1 := fun p hp => (hplaced p hp).1
  rw [parse_written_tables hconfig hbackground hne
    (fun p hp => ⟨(hplaced p hp).2.tidy, (hplaced p hp).2.solid⟩)
    (containerNodes_quotes haligned) h, containerNodes_decode haligned]
  rfl

end Documents

end Letterpress.Document
