import Letterpress.Design.Part
import Letterpress.Proofs.Render.Drafts
import Letterpress.Render.Text
import Letterpress.Table.Source

/-!
# Drafts of Texts

A text is a row of spans, or a block of them, with one span for every run that covers
characters. Its characters are written with references and line breaks, so that whatever
they are, they stay character data. The font families of its runs are the only names in it.

The names of a design are what comes into a document without being escaped: the families of
its fonts, and the identifiers of its nodes.

## Main definitions

* `TextBody.families`: The font families of a text.
* `TextBody.pieces`: The parts of a text that its runs cover.
* `spanNodes`: Spans with their styles and what they cover.
* `ShowsText`: Rows that show a text.
* `Node.names`: The names in a tree.

## Theorems

* `spans_content`: The spans of a text.
* `textBlock_content`: A text inside of a table cell.
* `text_draft`: The fragment that shows a text.
* `families_names`, `id_names`, `child_names`, `leaf_names`: Where the names of a tree
  come from.
-/

namespace Letterpress

/-- The font families of a text. -/
def TextBody.families {K : Type} (body : TextBody K) : List String :=
  body.runs.map fun run => run.font.family

/-- The part of a text that a run covers, unless it is empty. -/
def TextRun.piece? {K : Type} (characters : String) (run : TextRun K) : Option (List Char) :=
  let covered := Text.slice run.first run.last characters.toList
  if covered = [] then none else some covered

/-- The parts of a text that its runs cover, but for empty ones. -/
def TextBody.pieces {K : Type} (body : TextBody K) : List (List Char) :=
  body.runs.filterMap (TextRun.piece? body.characters)

namespace Render

open Markup (IsContent IsPassage IsValue)
open Text (IsInert)

/-- A span with its style and the characters that it covers. -/
def spanNode (css : String) (piece : List Char) : Markup.Node :=
  .element "span" [("style", some css)] (Markup.runningText Markup.spanMark? piece)

/-- Spans with their styles and the characters that they cover. -/
def spanNodes (styled : List (String × List Char)) : List Markup.Node :=
  styled.map fun p => spanNode p.1 p.2

theorem spanNodes_selfContained (styled : List (String × List Char)) :
    Markup.Node.EverywhereAll Markup.IsSelfContained (spanNodes styled) := by
  refine Markup.everywhereAll_iff.mpr fun n hn => ?_
  rcases List.mem_map.mp hn with ⟨p, -, rfl⟩
  exact ⟨Markup.isSelfContained_styled (by decide) p.1,
    Markup.everywhereAll_runningText Markup.spanCharacter_marking
      (Markup.isSelfContained_plain (by decide)) p.2⟩

/-- The rows show a text: there is a single cell, with a span for each of the pieces. -/
def ShowsText {K : Type} (rows : List Markup.Node) (body : TextBody K) : Prop :=
  ∃ css styled, IsInert css ∧ rows = cellRow [("style", some css)] (spanNodes styled) ∧
    styled.map Prod.snd = body.pieces

/-- A text refers to nothing outside. -/
theorem ShowsText.showsOnly {K : Type} {rows : List Markup.Node} {body : TextBody K}
    (h : ShowsText rows body) : ShowsOnly rows none := by
  rcases h with ⟨css, styled, -, rfl, -⟩
  exact isSelfContained_cellRow css (spanNodes_selfContained styled)

variable {K : Type} [Scalar K] [InertText K]

theorem lineHeightCss_inert {h : LineHeight K} {css : Option String}
    (hcss : lineHeightCss h = .ok css) : ∀ s ∈ css, IsInert s := by
  unfold lineHeightCss at hcss
  split at hcss
  · rcases except_map_ok.mp hcss with ⟨s, hs, rfl⟩
    exact isInert_some (Style.pixels_inert hs)
  · rw [except_pure_ok] at hcss
    rw [← hcss]
    exact isInert_some (Text.isInert_append.mpr ⟨isInert_format _, by decide⟩)
  · rw [except_pure_ok] at hcss
    simp [← hcss]

theorem paragraphLineHeight_inert {body : TextBody K} {css rule : Option String}
    (h : paragraphLineHeight body = .ok (css, rule)) :
    (∀ s ∈ css, IsInert s) ∧ ∀ s ∈ rule, IsInert s := by
  unfold paragraphLineHeight at h
  split at h
  · rw [except_pure_ok, Prod.mk.injEq] at h
    simp [← h.1, ← h.2]
  · simp only [except_bind_ok, except_pure_ok, Prod.mk.injEq] at h
    rcases h with ⟨css', hcss, rfl, rfl⟩
    refine ⟨lineHeightCss_inert hcss, fun s hs => ?_⟩
    split at hs
    · rw [← Option.some.inj hs]
      decide
    · exact absurd hs (by simp)

theorem decorationCss_inert (d : TextDecoration) : ∀ s ∈ decorationCss d, IsInert s := by
  cases d <;> decide

omit [Scalar K] [InertText K] in
theorem alignment_inert (body : TextBody K) : IsInert (alignment body) := by
  unfold alignment
  split <;> decide

/-- The style of a run names its font family and holds nothing else from outside. -/
theorem spanStyle_value {config : Config K} {run : TextRun K} {style : Style.SpanStyle}
    (h : spanStyle config run = .ok style) {names : List String}
    (hname : run.font.family ∈ names) : IsValue names style.css := by
  simp only [spanStyle, except_bind_ok, except_pure_ok] at h
  rcases h with ⟨color, hcolor, lineHeight, hheight, rfl⟩
  have hcolorInert : ∀ s ∈ color, IsInert s := by
    cases hfill : run.fills.head?.bind Paint.color? with
    | none =>
        rw [hfill] at hcolor
        have hnone : none = color := except_pure_ok.mp hcolor
        simp [← hnone]
    | some rgb =>
        rw [hfill] at hcolor
        have hsome : (some <$> Style.hex rgb : Except NumberError (Option String)) = .ok color :=
          hcolor
        rcases except_map_ok.mp hsome with ⟨s, hs, rfl⟩
        exact isInert_some (Style.hex_inert hs)
  -- All but the family, which comes from outside and is between quotes of its own.
  let fields : List (String × Option String) :=
    [("font-size", some (Style.points run.fontSize config.pxToPt)),
      ("font-weight", some (toString run.fontWeight)), ("color", color),
      ("line-height", lineHeight), ("text-decoration", decorationCss run.decoration)]
  have hfields : IsInert (Style.css fields) := by
    refine @Style.isInert_values fields ?_ ?_
    · simp only [fields, Style.InertNames, List.forall_mem_cons]
      decide
    · simp only [fields, List.forall_mem_cons]
      exact ⟨isInert_some (Style.points_inert _ _), isInert_some (Text.isInert_int _),
        hcolorInert, lineHeightCss_inert hheight, decorationCss_inert _, by simp⟩
  have hcss : Style.css (("font-family", some ("'" ++ run.font.family ++ "', " ++ fallbackFonts))
      :: fields) = "font-family:'" ++ run.font.family ++ ("', " ++ fallbackFonts ++ ";"
        ++ (if Style.declarations fields = [] then "" else " " ++ Style.css fields)) := by
    rw [Style.css_cons, ← String.toList_inj]
    generalize (if Style.declarations fields = [] then "" else " " ++ Style.css fields) = rest
    generalize fallbackFonts = fallback
    simp only [String.toList_append]
    repeat rw [String.toList_ofList]
    simp only [List.cons_append, List.nil_append, List.append_assoc]
  change IsValue names (Style.css (("font-family", _) :: fields))
  rw [hcss]
  refine .named hname (by decide) ?_ ?_
  · simp only [Text.isInert_append]
    refine ⟨⟨⟨by decide, by decide⟩, by decide⟩, ?_⟩
    split
    · decide
    · exact Text.isInert_append.mpr ⟨by decide, hfields⟩
  · intro c hc
    -- What follows the name is a quote, which goes on no reference in it.
    have hquote : ("', " : String).toList = '\'' :: [',', ' '] := rfl
    rw [String.toList_append, String.toList_append, String.toList_append, hquote] at hc
    rw [← Option.some.inj hc]
    decide

/-- A run of a text is a span, or nothing. -/
theorem span_content {config : Config K} {characters : String} {run : TextRun K} {s : String}
    (h : span config characters run = .ok s) {names : List String}
    (hname : run.font.family ∈ names) :
    ∃ styled, IsPassage names s (spanNodes styled) ∧
      styled.map Prod.snd = (run.piece? characters).toList := by
  unfold span at h
  unfold TextRun.piece?
  dsimp only at h ⊢
  split at h
  · rename_i hempty
    rw [except_pure_ok] at h
    rw [← h, if_pos hempty]
    exact ⟨[], Markup.isPassage_empty, rfl⟩
  · rename_i hcovered
    simp only [except_bind_ok, except_pure_ok] at h
    rcases h with ⟨style, hstyle, rfl⟩
    rw [if_neg hcovered]
    -- The piece is escaped, so it is running text between the two tags.
    have htext := @Markup.isContent_runningText names _ _ Markup.spanCharacter_marking
      (Text.slice run.first run.last characters.toList)
    have hspan := htext.styled "<span style=\"" "span" "</span>"
      (by decide) (by decide) (by decide) (by decide)
      (spanStyle_value hstyle hname)
    exact ⟨[(style.css, _)], ⟨hspan, Markup.isSolid_element "span" [("style", some style.css)],
      spanNodes_selfContained [(style.css, _)]⟩, rfl⟩

/-- The runs of a text are spans, one for each of its pieces. -/
theorem spans_content {config : Config K} {body : TextBody K} {s : String}
    (h : spans config body = .ok s) {names : List String}
    (hnames : ∀ name ∈ body.families, name ∈ names) :
    ∃ styled, IsPassage names s (spanNodes styled) ∧ styled.map Prod.snd = body.pieces := by
  simp only [spans, except_bind_ok, except_pure_ok] at h
  rcases h with ⟨pieces, hpieces, rfl⟩
  have hruns : ∀ run ∈ body.runs, run.font.family ∈ names := fun run hrun =>
    hnames _ (List.mem_map.mpr ⟨run, hrun, rfl⟩)
  clear hnames
  unfold TextBody.pieces
  generalize body.runs = runs at hpieces hruns
  -- Along the runs; a run without characters leaves nothing.
  induction runs generalizing pieces with
  | nil =>
      rw [List.mapM_nil, except_pure_ok] at hpieces
      rw [← hpieces]
      exact ⟨[], Markup.isPassage_empty, rfl⟩
  | cons run runs ih =>
      rcases mapM_cons_ok.mp hpieces with ⟨piece, rest, hpiece, hrest, rfl⟩
      rw [List.forall_mem_cons] at hruns
      rcases span_content hpiece hruns.1 with ⟨first, hfirst, hcovered⟩
      rcases ih rest hrest hruns.2 with ⟨others, hothers, hpiecesEq⟩
      refine ⟨first ++ others, ?_, ?_⟩
      · rw [spanNodes, List.map_append]
        exact hfirst.append hothers
      · rw [List.map_append, hcovered, hpiecesEq, List.filterMap_cons]
        cases run.piece? body.characters <;> rfl

variable {ω : Type} {host : Host ω K} {config : Config K} {s s' : Session ω K}

omit [InertText K] in
/-- Asking for fonts changes nothing in the markup. -/
theorem loadedSpans_ok {body : TextBody K} {content : String}
    (h : loadedSpans host config body s = (.ok content, s')) :
    spans config body = .ok content := by
  simp only [loadedSpans, Task.bind_ok, Task.number_ok] at h
  rcases h with ⟨_, s₁, -, hspans, -⟩
  exact hspans

/-- A text inside of a table cell. -/
theorem textBlock_content {body : TextBody K} {markup : String}
    (h : textBlock host config body s = (.ok markup, s')) {names : List String}
    (hnames : ∀ name ∈ body.families, name ∈ names) :
    ∃ css styled, IsInert css ∧ styled.map Prod.snd = body.pieces ∧
      IsPassage names markup [.element "div" [("style", some css)] (spanNodes styled)] := by
  simp only [textBlock, Task.bind_ok, Task.number_ok, Task.pure_ok] at h
  rcases h with ⟨content, s₁, hcontent, ⟨lineHeight, rule⟩, s₂, ⟨hheight, rfl⟩, rfl, rfl⟩
  rcases spans_content (loadedSpans_ok hcontent) hnames with ⟨styled, hspans, hpieces⟩
  have hheights := paragraphLineHeight_inert hheight
  -- Only the alignment and the line height come from the design, and both are inert.
  have hstyle : IsInert (Style.BlockStyle.css
      { padding := some "0", margin := some "0", textAlign := some (alignment body),
        whiteSpace := some "normal", wordWrap := some "break-word",
        display := some "inline-block", lineHeight, msoLineHeightRule := rule }) := by
    refine Style.isInert_values (Style.inertNames_block _) ?_
    simp only [Style.BlockStyle.fields, List.forall_mem_cons]
    exact ⟨isInert_some (by decide), isInert_some (by decide),
      isInert_some (alignment_inert body), isInert_some (by decide), isInert_some (by decide),
      isInert_some (by decide), hheights.1, hheights.2, by simp⟩
  have hblock := hspans.content.styled "<div style=\"" "div" "</div>"
    (by decide) (by decide) (by decide) (by decide)
    (Markup.isValue_inert hstyle)
  exact ⟨_, styled, hstyle, hpieces, Markup.isPassage_element hblock
    (Markup.isSelfContained_styled (by decide) _) hspans.selfContained⟩

/-- The fragment that shows a text. -/
theorem text_draft {node : Node K} {x y : K} {f : Fragment}
    (h : text host config node x y s = (.ok (some f), s')) {names : List String}
    (hnames : ∀ body, node.textBody = .ok body → ∀ name ∈ body.families, name ∈ names) :
    ∃ (t : PlacedTable) (body : TextBody K), HasDraft names f t ∧ t.link = none ∧
      t.height = some f.height ∧ node.textBody = .ok body ∧ ShowsText t.rows body := by
  cases hbounds : node.bounds with
  | none =>
      simp only [text, hbounds, Task.pure_ok] at h
      exact absurd h.1 (by simp)
  | some box =>
      simp only [text, hbounds, Task.bind_ok, Task.lift_ok, Task.number_ok, Task.pure_ok,
        Option.some.injEq] at h
      rcases h with ⟨body, s₁, ⟨hbody, rfl⟩, content, s₂, hcontent, ⟨lineHeight, rule⟩, s₃,
        ⟨hheight, rfl⟩, g, s₄, ⟨hplaced, rfl⟩, rfl, rfl⟩
      rcases spans_content (loadedSpans_ok hcontent) (hnames body hbody) with
        ⟨styled, hspans, hpieces⟩
      have hheights := paragraphLineHeight_inert hheight
      -- Only the alignment and the line height come from the design, and both are inert.
      have hstyle : IsInert (Style.CellStyle.css
          { padding := some "0", margin := some "0", textAlign := some (alignment body),
            whiteSpace := some "nowrap", lineHeight, msoLineHeightRule := rule }) := by
        refine Style.isInert_values (Style.inertNames_cell _) ?_
        simp only [Style.CellStyle.fields, List.forall_mem_cons]
        exact ⟨isInert_none, isInert_none, isInert_none, isInert_none, isInert_none, isInert_none,
          isInert_none, isInert_none, isInert_none, isInert_some (by decide),
          isInert_some (by decide), isInert_none, isInert_none,
          isInert_some (alignment_inert body), isInert_some (by decide), hheights.1, hheights.2,
          by simp⟩
      rcases placedFragment_draft hplaced
        (singleCell_content (Markup.isValue_inert hstyle) hspans.content) with
        ⟨t, ht, hlink, htall, hrows⟩
      exact ⟨t, body, ht, hlink, htall, hbody, _, styled, hstyle, hrows, hpieces⟩

end Render

end Letterpress

namespace Letterpress

variable {K : Type}

namespace Node

mutual

/-- The identifiers and the font families in a tree. -/
def names : Node K → List String
  | container c _ cs => c.id :: namesOf cs
  | text c b => c.id :: b.families
  | shape c _ => [c.id]
  | image c _ => [c.id]

/-- The identifiers and the font families in several trees. -/
def namesOf : List (Node K) → List String
  | [] => []
  | n :: ns => names n ++ namesOf ns

end

end Node

theorem id_names (node : Node K) : node.id ∈ node.names := by
  cases node <;> exact List.mem_cons_self

theorem families_names {node : Node K} {body : TextBody K} (h : node.textBody = .ok body) :
    ∀ name ∈ body.families, name ∈ node.names := by
  cases node with
  | text c b =>
      obtain rfl : b = body := Except.ok.inj h
      exact fun name hname => List.mem_cons_of_mem _ hname
  | container c k cs => exact absurd h (by simp [Node.textBody])
  | shape c b => exact absurd h (by simp [Node.textBody])
  | image c k => exact absurd h (by simp [Node.textBody])

theorem namesOf_mem {nodes : List (Node K)} {node : Node K} (h : node ∈ nodes) :
    ∀ name ∈ node.names, name ∈ Node.namesOf nodes := by
  induction nodes with
  | nil => exact absurd h List.not_mem_nil
  | cons n nodes ih =>
      intro name hname
      rw [Node.namesOf, List.mem_append]
      rcases List.mem_cons.mp h with rfl | hmem
      · exact Or.inl hname
      · exact Or.inr (ih hmem name hname)

theorem child_names {root : Node K} {nodes : List (Node K)} (h : root.childList = .ok nodes)
    {node : Node K} (hnode : node ∈ nodes) : ∀ name ∈ node.names, name ∈ root.names := by
  cases root with
  | container c k cs =>
      obtain rfl : cs = nodes := Except.ok.inj h
      exact fun name hname => List.mem_cons_of_mem _ (namesOf_mem hnode name hname)
  | text c b => exact absurd h (by simp [Node.childList])
  | shape c b => exact absurd h (by simp [Node.childList])
  | image c k => exact absurd h (by simp [Node.childList])

theorem leafOf_body {c : Common K} {b : TextBody K} {leaf : Table.TextLeaf K}
    (h : leaf ∈ Table.leafOf c b) : leaf.body = b := by
  unfold Table.leafOf at h
  split at h
  · split at h
    · rw [List.mem_singleton.mp h]
    · exact absurd h List.not_mem_nil
  · exact absurd h List.not_mem_nil

mutual

/-- The font families of the texts in a region are names of the region. -/
theorem leaf_names : (node : Node K) → ∀ leaf ∈ Table.textLeaves node,
    ∀ name ∈ leaf.body.families, name ∈ node.names
  | .text c b, leaf, hleaf, name, hname => by
    rw [Table.textLeaves] at hleaf
    rw [leafOf_body hleaf] at hname
    exact List.mem_cons_of_mem _ hname
  | .container c k cs, leaf, hleaf, name, hname => by
    rw [Table.textLeaves] at hleaf
    split at hleaf
    · exact List.mem_cons_of_mem _ (leavesOf_names cs leaf hleaf name hname)
    · exact absurd hleaf List.not_mem_nil
  | .shape c b, leaf, hleaf, _, _ => absurd hleaf (by simp [Table.textLeaves])
  | .image c k, leaf, hleaf, _, _ => absurd hleaf (by simp [Table.textLeaves])

theorem leavesOf_names : (nodes : List (Node K)) → ∀ leaf ∈ Table.textLeavesOf nodes,
    ∀ name ∈ leaf.body.families, name ∈ Node.namesOf nodes
  | [], leaf, hleaf, _, _ => absurd hleaf (by simp [Table.textLeavesOf])
  | n :: ns, leaf, hleaf, name, hname => by
    rw [Table.textLeavesOf, List.mem_append] at hleaf
    rw [Node.namesOf, List.mem_append]
    rcases hleaf with hfirst | hrest
    · exact Or.inl (leaf_names n leaf hfirst name hname)
    · exact Or.inr (leavesOf_names ns leaf hrest name hname)

end

end Letterpress
