import Letterpress.Proofs.Document.Shell
import Letterpress.Proofs.Render.Drafts

/-!
# The Box around Fragments

Both kinds of documents hold their fragments in a table with a single cell, which shows
the background in three notations. The table is one of the layers of a document, and
the cell comes with the comments that show the background as a vector shape.

## Main definitions

* `layoutTable`: The attributes of a table of a given width.
* `boxLayer`, `rowLayer`, `cellLayer`: The table, its row and its cell.
* `boxText`: The text of a box with some lines in its cell.
* `boxedLayers`: The layers of a document around the cell.

## Theorems

* `layoutTable_shell`: A table of a given width is a shell unless its style places it.
* `vectorData_noCloser`: The comments with the background do not end early.
* `writes_boxText`, `writes_box`: The text of the box, and of the box around fragments.
* `boxedLayers_shells`: The layers around the cell are shells.
-/

namespace Letterpress.Document

open Markup
open Text (IsInert)

variable {K : Type} [Scalar K]

section Tables

/-- The attributes of a table of a given width. -/
def layoutTable (width : Int) (css : String) : List Attribute :=
  Render.presentation ++ [("width", some (toString width)), ("style", some css)]

variable {width : Int} {css : String}

theorem layoutTable_start (width : Int) (css : String) :
    writtenStart "table" (layoutTable width css)
      = presentationTable.toList ++ (" width=\"" ++ toString width ++ "\" style=\"" ++ css
          ++ "\">").toList := by
  rw [layoutTable, Render.writtenStart_presentation]
  generalize presentationTable.toList = first
  simp only [String.toList_append, List.flatMap_cons, List.flatMap_nil, writtenAttribute]
  repeat rw [String.toList_ofList]
  simp only [List.cons_append, List.nil_append, List.append_assoc]

theorem layoutTable_names : ∀ a ∈ layoutTable width css, isName a.1 = true := by
  have hfixed : ∀ a ∈ Render.presentation, isName a.1 = true := by decide
  refine List.forall_mem_append.mpr ⟨hfixed, ?_⟩
  simp only [List.forall_mem_cons]
  exact ⟨by decide, by decide, by simp⟩

theorem layoutTable_inert (hcss : IsInert css) :
    InertAttributes "table" (layoutTable width css) := by
  have hfixed : ∀ a ∈ Render.presentation, ∀ value ∈ a.2, IsInert value := by
    decide
  have hown : InertAttributes "table" [("width", some (toString width)), ("style", some css)] :=
    inertAttributes_cons (Text.isInert_int width) (inertAttributes_cons hcss inertAttributes_nil)
  exact List.forall_mem_append.mpr ⟨hfixed, hown⟩

theorem layoutTable_settled (hcss : Style.isAbsolute css = false) :
    IsSettled "table" (layoutTable width css) := by
  refine ⟨by simp [layoutTable, Render.presentation, List.lookup_cons],
    isStill_of_style (fun style hstyle => ?_) "table"⟩
  have hself : style = css := by
    simpa [layoutTable, Render.presentation, List.lookup_cons] using hstyle.symm
  rw [hself]
  exact hcss

/-- A table of a given width is a shell unless its style places it. -/
theorem layoutTable_shell (hinert : IsInert css) (hstill : Style.isAbsolute css = false)
    {before after : List Markup.Node} (hbefore : IsFiller before) (hafter : IsFiller after) :
    IsShell ⟨"table", layoutTable width css, before, after⟩ :=
  isShell_layer (by decide) layoutTable_names (layoutTable_inert hinert)
    (layoutTable_settled hstill) (noLink_of_tag (by decide) (by decide) _) hbefore hafter

end Tables

/-- A row. -/
def rowLayer (before after : List Markup.Node) : Layer :=
  ⟨"tr", [], before, after⟩

theorem rowLayer_shell {before after : List Markup.Node} (hbefore : IsFiller before)
    (hafter : IsFiller after) : IsShell (rowLayer before after) :=
  isShell_plain (by decide) (by simp) inertAttributes_nil rfl hbefore hafter

/-- The text of a row. -/
theorem writes_row {left cells right : String} {before ns after : List Markup.Node}
    (hleft : Writes left before) (hcells : Writes cells ns) (hright : Writes right after) :
    Writes ("<tr>" ++ (left ++ (cells ++ right)) ++ "</tr>")
      [(rowLayer before after).around ns] :=
  Layer.around_writes (rowLayer before after) "<tr>" "</tr>"
    (show voidTags.contains "tr" = false by decide) (show _ = writtenStart "tr" [] by decide)
    hleft hcells hright (show _ = writtenEnd "tr" by decide)

section Box

variable (width height : Int) (background : Background)

/-- The style of the box. -/
def boxCss : String :=
  "width:" ++ toString width ++ "px; height:" ++ toString height ++ "px;"

/-- The table around the fragments. -/
def boxLayer : Layer :=
  ⟨"table", layoutTable width (boxCss width height), [newline], [newline]⟩

theorem boxCss_inert : IsInert (boxCss width height) := by
  simp only [boxCss, Text.isInert_append]
  exact ⟨⟨⟨⟨by decide, Text.isInert_int width⟩, by decide⟩, Text.isInert_int height⟩, by decide⟩

theorem boxCss_still : Style.isAbsolute (boxCss width height) = false := by
  refine Style.isAbsolute_of_noPo ?_
  simp only [boxCss, String.toList_append, List.append_assoc]
  exact Style.noPo_numeral width (by decide)
    (Style.noPo_numeral height (by decide) (by decide))

theorem boxLayer_shell : IsShell (boxLayer width height) :=
  layoutTable_shell (boxCss_inert width height) (boxCss_still width height) isFiller_newline
    isFiller_newline

theorem boxLayer_start : (presentationTable ++ " width=\"" ++ toString width ++ "\" style=\"width:"
    ++ toString width ++ "px; height:" ++ toString height ++ "px;\">").toList
      = writtenStart "table" (layoutTable width (boxCss width height)) := by
  rw [layoutTable_start]
  unfold boxCss
  simp only [String.toList_append]
  generalize presentationTable.toList = first
  repeat rw [String.toList_ofList]
  simp only [List.cons_append, List.nil_append, List.append_assoc]

/-- What stands in the comment that shows the background. -/
def vectorData : String :=
  "[if gte mso 9]><v:rect xmlns:v=\"urn:schemas-microsoft-com:vml\" fill=\"true\" "
    ++ "stroke=\"false\" style=\"width:" ++ toString width ++ "px;height:" ++ toString height
    ++ "px;\"><v:fill type=\"frame\" src=\"" ++ Text.escapeQuoted background.imagePath
    ++ "\" color=\"" ++ background.plainColor ++ "\"/>"
    ++ "<v:textbox inset=\"0,0,0,0\"><![endif]"

/-- An escaped value closes nothing. -/
theorem escapeQuoted_noCloser (s : String) : '>' ∉ (Text.escapeQuoted s).toList := by
  have hchars : Text.AllChars (fun c => c ≠ '>') (Text.escapeQuoted s) :=
    Text.allChars_escapeQuoted (P := fun c => c ≠ '>') (by decide)
      (fun c hc hgreater => hc (by simp [hgreater])) s
  exact fun hmem => hchars '>' hmem rfl

theorem vectorData_noCloser (hcolor : IsInert background.plainColor) :
    NoCloser (vectorData width height background).toList := by
  have hnumeral : ∀ n : Int, '>' ∉ (toString n).toList := fun n =>
    not_mem_inert (Text.isInert_int n) (by decide)
  have hcolor : '>' ∉ background.plainColor.toList := not_mem_inert hcolor (by decide)
  unfold vectorData
  simp only [String.toList_append, List.append_assoc]
  rw [← List.append_assoc]
  -- Between the fixed parts are numerals, a color and an escaped path.
  refine noCloser_between (hnumeral width) ?_ ?_ (head_ne_closer (by decide) _)
  · exact noCloser_append (noCloser_ofList (by decide +kernel))
      (noCloser_ofList (by decide)) (by simp)
  refine noCloser_between (hnumeral height) (noCloser_ofList (by decide)) ?_
    (head_ne_closer (by decide) _)
  refine noCloser_between (escapeQuoted_noCloser _) (noCloser_ofList (by decide)) ?_
    (head_ne_closer (by decide) _)
  exact noCloser_between hcolor (noCloser_ofList (by decide))
    (noCloser_append (noCloser_ofList (by decide)) (noCloser_ofList (by decide)) (by simp))
    (head_ne_closer (by decide) _)

/-- The declarations of a plain background are inert. -/
theorem backgroundStyle_inert {background : Background} (hbackground : background.IsPlain)
    {before : List String} (hbefore : ∀ s ∈ before, IsInert s) :
    IsInert (backgroundStyle background before) := by
  have hcolor : IsInert ("background-color:" ++ background.plainColor ++ ";") := by
    simp only [Text.isInert_append]
    exact ⟨⟨by decide, hbackground.color⟩, by decide⟩
  have hpath : IsInert ("background-image:url(" ++ background.imagePath ++ ");") := by
    simp only [Text.isInert_append]
    exact ⟨⟨by decide, hbackground.path⟩, by decide⟩
  unfold backgroundStyle
  refine Text.allChars_joinWith (by decide) (List.forall_mem_append.mpr
    ⟨List.forall_mem_append.mpr ⟨hbefore, by simpa using hcolor⟩, ?_⟩)
  split
  · simp
  · simp only [List.forall_mem_cons]
    exact ⟨hpath, by decide, by decide, by decide, by simp⟩

/-- The cell around the fragments. -/
def cellLayer (attributes : List Attribute) : Layer :=
  ⟨"td", attributes, [newline, .comment (vectorData width height background), newline],
    [newline, .comment "[if gte mso 9]></v:textbox></v:rect><![endif]", newline]⟩

theorem cellLayer_tidy {attributes : List Attribute} (hbackground : background.IsPlain)
    (hnames : ∀ a ∈ attributes, isName a.1 = true) :
    (cellLayer width height background attributes).IsTidy := by
  have hend : NoCloser ("[if gte mso 9]></v:textbox></v:rect><![endif]" : String).toList :=
    noCloser_ofList (by decide)
  have htag : isFilledTag "td" = true := by decide
  exact ⟨htag, hnames,
    (isFiller_comment (vectorData_noCloser width height background hbackground.color)).tidy,
    (isFiller_comment hend).tidy⟩

/-- What stands around the fragments in the cell has no attributes at all. -/
theorem cellLayer_bare {P : String → List Attribute → Prop} {attributes : List Attribute}
    (h : P "td" attributes) : (cellLayer width height background attributes).Everywhere P :=
  ⟨h, ⟨trivial, trivial, trivial, trivial⟩, ⟨trivial, trivial, trivial, trivial⟩⟩

theorem cellLayer_still (attributes : List Attribute) :
    (cellLayer width height background attributes).IsStill :=
  ⟨cellLayer_bare width height background (isStill_of_tag (by decide) _),
    noLink_of_tag (show "td" ≠ "a" by decide) (show "td" ≠ "div" by decide) _⟩

theorem writes_vectorBackground : Writes (vectorBackground width height background)
    [.comment (vectorData width height background)] := by
  have hfirst :
      "<!--[if gte mso 9]><v:rect xmlns:v=\"urn:schemas-microsoft-com:vml\" fill=\"true\" "
        = "<!--"
        ++ "[if gte mso 9]><v:rect xmlns:v=\"urn:schemas-microsoft-com:vml\" fill=\"true\" " := by
    decide
  have hlast : "<v:textbox inset=\"0,0,0,0\"><![endif]-->"
      = "<v:textbox inset=\"0,0,0,0\"><![endif]" ++ "-->" := by
    decide
  refine writes_comment ?_
  unfold vectorBackground vectorData
  rw [hfirst, hlast]
  simp only [String.append_assoc]

theorem writes_vectorBackgroundEnd : Writes vectorBackgroundEnd
    [.comment "[if gte mso 9]></v:textbox></v:rect><![endif]"] :=
  writes_comment (by decide)

/-- The text of a box with some lines in its cell. -/
def boxText (start : String) (inner : List String) : String :=
  Text.unlines ([presentationTable ++ " width=\"" ++ toString width ++ "\" style=\"width:"
    ++ toString width ++ "px; height:" ++ toString height ++ "px;\">", "<tr>" ++ start] ++ inner
    ++ ["</td></tr>", "</table>"])

/-- The text of a box is the text of its layers. -/
theorem writes_boxText {start : String} {attributes : List Attribute}
    (hstart : start.toList = writtenStart "td" attributes) {inner : List String} (hne : inner ≠ [])
    {ns : List Markup.Node} (hinner : Writes (Text.unlines inner) ns) :
    Writes (boxText width height start inner)
      (inLayers [boxLayer width height, rowLayer [] [], ⟨"td", attributes, [newline], [newline]⟩]
        ns) := by
  -- From the inside out: the cell, its row, and the table.
  have hcell := Layer.around_writes ⟨"td", attributes, [newline], [newline]⟩ start "</td>"
    (by change voidTags.contains "td" = false; decide) hstart writes_newline hinner writes_newline
    (by change _ = writtenEnd "td"; decide)
  have hrow := writes_row (show Writes "" [] from rfl) hcell (show Writes "" [] from rfl)
  have hbox := Layer.around_writes (boxLayer width height) _ "</table>"
    (by change voidTags.contains "table" = false; decide) (boxLayer_start width height)
    writes_newline hrow
    writes_newline (by change _ = writtenEnd "table"; decide)
  -- The ends of the cell and the row are one literal.
  have hclose : ("</td></tr>" : String) = "</td>" ++ "</tr>" := by decide
  rw [boxText, Text.unlines_append (by simp) (by simp), Text.unlines_append (by simp) hne]
  simp only [Text.unlines_cons _ (List.cons_ne_nil _ _), Text.unlines_single, hclose,
    String.append_assoc]
  simp only [String.append_assoc, String.empty_append] at hbox
  exact hbox

/-- The text of the box around fragments. -/
theorem writes_box {start : String} {attributes : List Attribute}
    (hstart : start.toList = writtenStart "td" attributes) {pieces : List String}
    (hne : pieces ≠ []) {ns : List Markup.Node} (hpieces : Writes (Text.unlines pieces) ns) :
    Writes (Text.unlines ([presentationTable ++ " width=\"" ++ toString width ++ "\" style=\"width:"
        ++ toString width ++ "px; height:" ++ toString height ++ "px;\">",
        "<tr>" ++ start, vectorBackground width height background] ++ pieces
        ++ [vectorBackgroundEnd, "</td></tr>", "</table>"]))
      (inLayers [boxLayer width height, rowLayer [] []]
        [(cellLayer width height background attributes).around ns]) := by
  -- The background is the first line of the cell and its end is the last one.
  have hinner : Writes (Text.unlines ([vectorBackground width height background] ++ pieces
      ++ [vectorBackgroundEnd])) (.comment (vectorData width height background) :: newline
        :: (ns ++ [newline, .comment "[if gte mso 9]></v:textbox></v:rect><![endif]"])) := by
    rw [Text.unlines_append (by simp) (by simp), Text.unlines_append (by simp) hne,
      String.append_assoc, String.append_assoc]
    exact writes_lines (writes_vectorBackground width height background)
      (writes_lines hpieces writes_vectorBackgroundEnd)
  have hbox := writes_boxText width height hstart (by simp) hinner
  simpa [boxText, inLayers, Layer.around, cellLayer] using hbox

end Box

section Layers

variable (config : Config K) (styles : List String) (pageWidth width height : Int)

/-- The layers around the cell of a document. -/
def boxedLayers : List Layer :=
  outerLayers config styles pageWidth ++ [boxLayer width height, rowLayer [] []]

variable {config styles}

theorem boxedLayers_shells (hconfig : config.IsPlain) (hstyles : AreSheets styles) :
    ∀ l ∈ boxedLayers config styles pageWidth width height, IsShell l := by
  refine List.forall_mem_append.mpr ⟨outerLayers_shells config hconfig hstyles pageWidth, ?_⟩
  simp only [List.forall_mem_cons]
  exact ⟨boxLayer_shell width height, rowLayer_shell isFiller_nil isFiller_nil, by simp⟩

end Layers

end Letterpress.Document
