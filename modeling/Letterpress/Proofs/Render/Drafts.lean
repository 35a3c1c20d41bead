import Letterpress.Proofs.Markup.Content
import Letterpress.Proofs.Render.PlacedTable
import Letterpress.Render.Shape
import Letterpress.Walk.Visit

/-!
# Drafts of Fragments

Whatever a renderer makes is a placed table, and so is what becomes of it in a link.
The numbers of the fragment are those in the style of the table, since both are rounded
from the same scalars.

## Main definitions

* `HasDraft`: The fragment is a sound placed table of its own size.
* `cellRow`: A row with a single cell.
* `imageNode`, `imageRow`: The draft of a picture, and of the row that shows it.
* `ShowsOnly`: Rows that show one picture, or refer to nothing outside.

## Theorems

* `image_draft`, `shape_draft`, `text_draft`: The fragments of the renderers.
* `link_draft`: A fragment in a link.
-/

namespace Letterpress.Render

open Markup (IsContent IsSolid IsValue HasValues Writes)
open Text (IsInert)

variable {K : Type} [Scalar K]

/-- The fragment is a sound placed table. -/
structure HasDraft (names : List String) (f : Fragment) (t : PlacedTable) : Prop where
  draft : IsDraft f t
  sound : t.IsSound names

theorem writtenStart_presentation (more : List Markup.Attribute) :
    Markup.writtenStart "table" (presentation ++ more) = Document.presentationTable.toList
      ++ (more.flatMap Markup.writtenAttribute ++ ['>']) := by
  have hfixed : Document.presentationTable.toList
      = '<' :: ("table".toList ++ presentation.flatMap Markup.writtenAttribute) := by
    decide
  rw [hfixed, Markup.writtenStart, List.flatMap_append]
  simp only [List.cons_append, List.append_assoc]

theorem placedStyle_ok {x y width : K} {height : Option K} {style : Style.TableStyle}
    (h : placedStyle x y width height = .ok style) :
    ∃ left top w hh, Scalar.roundHalfUp x = .ok left ∧ Scalar.roundHalfUp y = .ok top ∧
      Scalar.roundHalfUp width = .ok w ∧ height.mapM Scalar.roundHalfUp = .ok hh ∧
      ∀ link rows, style = (PlacedTable.mk link left top w hh rows).style := by
  simp only [placedStyle, except_bind_ok, except_pure_ok, Style.pixels_ok] at h
  rcases h with ⟨_, ⟨left, hleft, rfl⟩, _, ⟨top, htop, rfl⟩, _, ⟨w, hw, rfl⟩, height', hheight,
    rfl⟩
  cases height with
  | none =>
      have hnone : none = height' := except_pure_ok.mp hheight
      exact ⟨left, top, w, none, hleft, htop, hw, rfl, fun _ _ => by rw [← hnone]; rfl⟩
  | some height =>
      have hsome : (some <$> Style.pixels height : Except NumberError (Option String))
          = .ok height' := hheight
      rcases except_map_ok.mp hsome with ⟨s, hs, rfl⟩
      rcases Style.pixels_ok.mp hs with ⟨n, hn, rfl⟩
      refine ⟨left, top, w, some n, hleft, htop, hw, ?_, fun _ _ => rfl⟩
      change some <$> Scalar.roundHalfUp height = _
      rw [hn]
      rfl

/-- A table at its place is a placed table. -/
theorem placedTable_draft {x y width : K} {height : Option K} {rows markup : String}
    (h : placedTable x y width height rows = .ok markup) {ns : List Markup.Node}
    (hrows : Writes rows ns) :
    ∃ left top w hh, Scalar.roundHalfUp x = .ok left ∧ Scalar.roundHalfUp y = .ok top ∧
      Scalar.roundHalfUp width = .ok w ∧ height.mapM Scalar.roundHalfUp = .ok hh ∧
      markup.toList = (PlacedTable.mk none left top w hh ns).node.written := by
  simp only [placedTable, except_bind_ok, except_pure_ok] at h
  rcases h with ⟨style, hstyle, rfl⟩
  rcases placedStyle_ok hstyle with ⟨left, top, w, hh, hleft, htop, hw, hheight, hcss⟩
  refine ⟨left, top, w, hh, hleft, htop, hw, hheight, ?_⟩
  have hfirst : (Document.presentationTable ++ " style=\"" ++ style.css ++ "\">").toList
      = Markup.writtenStart "table" (presentation ++ [("style", some style.css)]) := by
    rw [writtenStart_presentation]
    simp only [String.toList_append, List.flatMap_cons, List.flatMap_nil, Markup.writtenAttribute]
    generalize Document.presentationTable.toList = first
    repeat rw [String.toList_ofList]
    simp only [List.cons_append, List.nil_append, List.append_assoc]
  have htable := Markup.writes_element _ _ "</table>" _ (by decide) hfirst hrows
    (by decide)
  rw [Writes, Markup.Node.writtenAll, Markup.Node.writtenAll, List.append_nil] at htable
  rw [styledTable, htable]
  -- The four properties of the place come first in the style, in this order.
  have hnode : (PlacedTable.mk none left top w hh ns).node
      = .element "table" (presentation ++ [("style", some style.css)]) ns := by
    rw [hcss none ns]
    rfl
  rw [hnode]

/-- A fragment of a fixed size is a placed table of this size. -/
theorem placedFragment_draft {x y width height : K} {rows : String} {f : Fragment}
    (h : placedFragment x y width height rows = .ok f) {names : List String}
    {ns : List Markup.Node} (hrows : IsContent names rows ns) :
    ∃ t : PlacedTable, HasDraft names f t ∧ t.link = none ∧ t.height = some f.height ∧
      t.rows = ns := by
  simp only [placedFragment, except_bind_ok, except_pure_ok] at h
  rcases h with ⟨markup, hmarkup, left, hleft, top, htop, w, hw, hh, hheight, rfl⟩
  rcases placedTable_draft hmarkup hrows.writes with
    ⟨left', top', w', hh', hleft', htop', hw', hheight', hwritten⟩
  -- The fragment and the style of its table round the same numbers.
  obtain rfl : left' = left := by simpa [hleft] using hleft'.symm
  obtain rfl : top' = top := by simpa [htop] using htop'.symm
  obtain rfl : w' = w := by simpa [hw] using hw'.symm
  have hsome : (some <$> Scalar.roundHalfUp height : Except NumberError (Option Int)) = .ok hh' :=
    hheight'
  rw [hheight] at hsome
  obtain rfl : some hh = hh' := except_pure_ok.mp hsome
  refine ⟨⟨none, left', top', w', some hh, ns⟩, ⟨⟨hwritten, rfl, rfl, rfl, ?_, rfl⟩,
    ⟨hrows.tidy, hrows.calm, hrows.values, by simp⟩⟩, rfl, rfl, rfl⟩
  intro n hn
  exact Option.some.inj hn

section Cells

variable {names : List String} {s : String} {ns : List Markup.Node}

/-- A row with a single cell, and its content. -/
def cellRow (as : List Markup.Attribute) (ns : List Markup.Node) : List Markup.Node :=
  [.element "tr" [] [.element "td" as ns]]

/-- A row. -/
theorem isContent_row {rows : String} (hrows : rows = "<tr>" ++ s ++ "</tr>")
    (h : IsContent names s ns) : IsContent names rows [.element "tr" [] ns] := by
  rw [hrows]
  exact h.plain "tr" _ _ (by decide) (by decide) (by decide) (by decide)

/-- A row with a single cell without a style. -/
theorem isContent_singleCell (h : IsContent names s ns) :
    IsContent names ("<tr><td>" ++ s ++ "</td></tr>") (cellRow [] ns) := by
  have hcell := h.plain "td" "<td>" "</td>" (by decide)
    (by decide) (by decide) (by decide)
  have htext : "<tr><td>" ++ s ++ "</td></tr>"
      = "<tr>" ++ ("<td>" ++ s ++ "</td>") ++ "</tr>" := by
    rw [← String.toList_inj]
    simp only [String.toList_append]
    repeat rw [String.toList_ofList]
    simp only [List.cons_append, List.nil_append, List.append_assoc]
  exact isContent_row htext hcell

/-- A row with a single styled cell. -/
theorem singleCell_content {style : Style.CellStyle} (hstyle : IsValue names style.css)
    (h : IsContent names s ns) :
    IsContent names (singleCell style s) (cellRow [("style", some style.css)] ns) := by
  have hcell := h.styled "<td style=\"" "td" "</td>"
    (by decide) (by decide) (by decide) (by decide) hstyle
  have htext : singleCell style s
      = "<tr>" ++ ("<td style=\"" ++ style.css ++ "\">" ++ s ++ "</td>") ++ "</tr>" := by
    unfold singleCell
    rw [← String.toList_inj]
    simp only [String.toList_append]
    repeat rw [String.toList_ofList]
    simp only [List.cons_append, List.nil_append, List.append_assoc]
  exact isContent_row htext hcell

/-- A styled cell refers to nothing outside if its content does not. -/
theorem isSelfContained_cellRow (css : String)
    (h : Markup.Node.EverywhereAll Markup.IsSelfContained ns) :
    Markup.Node.EverywhereAll Markup.IsSelfContained (cellRow [("style", some css)] ns) :=
  ⟨⟨Markup.isSelfContained_plain (by decide),
    ⟨Markup.isSelfContained_styled (by decide) css, h⟩, trivial⟩, trivial⟩

/-- A single reference. -/
theorem isContent_reference {c : Char} (name : List Char) (hc : c.isAlpha = true)
    (hname : name.all Markup.isEntityChar = true) {data : String}
    (hdata : data.toList = '&' :: c :: (name ++ [';'])) :
    IsContent names data [.text data] :=
  ⟨Markup.writes_text data, ⟨Markup.isReference_named name hc hname hdata, fun hplain => by rfl,
    trivial⟩, ⟨trivial, trivial⟩, ⟨trivial, trivial⟩⟩

/-- An escaped value stays in its quotes and is decoded. -/
theorem isValue_escapeQuoted (text : String) : IsValue names (Text.escapeQuoted text) := by
  have hquote : Text.AllChars (fun c => c ≠ '"') (Text.escapeQuoted text) :=
    Text.allChars_escapeQuoted (P := fun c => c ≠ '"') (by decide)
      (fun c hc hdouble => hc (by simp [hdouble])) text
  exact .fixed (fun hmem => hquote '"' hmem rfl)
    ⟨text.toList, Text.decodeReferences_escapeQuoted text⟩

end Cells

section Renderers

variable {names : List String}

/-- A picture with its address and the text in place of it, as they stand in their quotes. -/
def imageNode (source alternative : String) (width height : Int) : Markup.Node :=
  .element "img" [("src", some source), ("alt", some alternative),
    ("width", some (toString width)), ("height", some (toString height)),
    ("style", some "display: block; border: 0; width: 100%; height: auto;")] []

/-- The row that shows the picture at an address. -/
def imageRow (source : String) (width height : Int) : List Markup.Node :=
  cellRow [] [imageNode (Text.escapeQuoted source) (Text.escapeQuoted (imageAlternative source))
    width height]

/-- The rows show the picture at an address; without an address they refer to nothing
    outside. -/
def ShowsOnly (rows : List Markup.Node) : Option String → Prop
  | none => Markup.Node.EverywhereAll Markup.IsSelfContained rows
  | some source => ∃ width height, rows = imageRow source width height

/-- A picture. -/
theorem imageTag_content (source : String) (width height : Int) :
    IsContent names (imageTag source width height)
      [imageNode (Text.escapeQuoted source) (Text.escapeQuoted (imageAlternative source))
        width height] := by
  refine Markup.isContent_void "img" _ (by decide) (by decide) ?_ ?_ ?_ ?_
  · simp only [List.forall_mem_cons]
    exact ⟨by decide, by decide, by decide, by decide,
      by decide, by simp⟩
  · unfold imageTag
    simp only [String.toList_append, Markup.writtenStart, Markup.writtenAttribute,
      List.flatMap_cons, List.flatMap_nil]
    repeat rw [String.toList_ofList]
    simp only [List.cons_append, List.nil_append, List.append_assoc]
  · exact Markup.isCalm_of_tag (by decide) (by simp [List.lookup_cons])
  · exact Markup.hasValues_cons (isValue_escapeQuoted _) <|
      Markup.hasValues_cons (isValue_escapeQuoted _) <|
      Markup.hasValues_cons (Markup.isValue_inert (Text.isInert_int width)) <|
      Markup.hasValues_cons (Markup.isValue_inert (Text.isInert_int height)) <|
      Markup.hasValues_cons (Markup.isValue_inert (by decide)) Markup.hasValues_nil

/-- The row of a picture is read as the row with its address as it was. -/
theorem imageRow_decode (source : String) (width height : Int) :
    Markup.Node.decodeAll (imageRow source width height)
      = .ok (cellRow [] [imageNode source (imageAlternative source) width height]) := by
  have hsize : Markup.InertAttributes "img" [("width", some (toString width)),
      ("height", some (toString height)),
      ("style", some "display: block; border: 0; width: 100%; height: auto;")] :=
    Markup.inertAttributes_cons (Text.isInert_int width) <|
      Markup.inertAttributes_cons (Text.isInert_int height) <|
      Markup.inertAttributes_cons (by decide) Markup.inertAttributes_nil
  have himage : (imageNode (Text.escapeQuoted source)
      (Text.escapeQuoted (imageAlternative source)) width height).decode
        = .ok (imageNode source (imageAlternative source) width height) := by
    rw [imageNode, Markup.Node.decode, List.mapM_cons, List.mapM_cons,
      Markup.decoded_escapeQuoted, Markup.decoded_escapeQuoted, Markup.decoded_inert hsize]
    rfl
  -- Around the picture there are no values.
  have haround : ∀ {tag : String} {n m : Markup.Node}, n.decode = .ok m →
      (Markup.Node.element tag [] [n]).decode = .ok (.element tag [] [m]) := fun h =>
    Markup.decode_element.mpr ⟨[], _, rfl, Markup.decodeAll_cons.mpr ⟨_, [], h, rfl, rfl⟩, rfl⟩
  exact Markup.decodeAll_cons.mpr ⟨_, [], haround (haround himage), rfl, rfl⟩

/-- The fragment that shows a picture. -/
theorem image_draft {source : String} {x y width height : K} {f : Fragment}
    (h : image source x y width height = .ok f) :
    ∃ t : PlacedTable, HasDraft names f t ∧ t.link = none ∧ t.height = some f.height ∧
      ShowsOnly t.rows (some source) := by
  simp only [image, except_bind_ok] at h
  rcases h with ⟨w, -, hh, -, hplaced⟩
  rcases placedFragment_draft hplaced (isContent_singleCell (imageTag_content source w hh)) with
    ⟨t, ht, hlink, hheight, hrows⟩
  exact ⟨t, ht, hlink, hheight, w, hh, hrows⟩

/-- A fragment in a link. -/
theorem link_draft {f : Fragment} {t : PlacedTable} (h : HasDraft names f t)
    (hlink : t.link = none) {id : String} (hid : id ∈ names) :
    HasDraft names { f with markup := linkMarkup id f.markup, linkWrapped := true }
      { t with link := some id } := by
  refine ⟨⟨?_, h.draft.left, h.draft.top, h.draft.width, h.draft.height, rfl⟩,
    ⟨h.sound.tidy, h.sound.calm, h.sound.values, fun name hname => ?_⟩⟩
  · have htable : Writes f.markup [t.tableWith t.style.css] := by
      refine Markup.writes_written _ _ ?_
      rw [h.draft.markup, PlacedTable.node, PlacedTable.nodeWith, hlink]
    have hdiv := Markup.writes_element "div"
      ("<div data-link-placeholder-id=\"" ++ id ++ "\">") "</div>"
      [("data-link-placeholder-id", some id)] (by decide) (by
        simp only [String.toList_append, Markup.writtenStart, Markup.writtenAttribute,
          List.flatMap_cons, List.flatMap_nil]
        repeat rw [String.toList_ofList]
        simp only [List.cons_append, List.nil_append, List.append_assoc])
      htable (by decide)
    rw [Writes, Markup.Node.writtenAll, Markup.Node.writtenAll, List.append_nil] at hdiv
    -- The table inside keeps its place, and loses its own link.
    have hnode : ({ t with link := some id } : PlacedTable).node
        = .element "div" [("data-link-placeholder-id", some id)] [t.tableWith t.style.css] := rfl
    unfold linkMarkup
    rw [hnode, ← hdiv]
  · rw [← Option.some.inj hname]
    exact hid

theorem isInert_some {s : String} (hs : IsInert s) : ∀ t ∈ some s, IsInert t := fun t ht => by
  rw [← Option.some.inj ht]
  exact hs

theorem isInert_none : ∀ t ∈ (none : Option String), IsInert t := fun t ht =>
  absurd ht (by simp)

variable [InertText K]

theorem paintCss_inert {paint : Option (Paint K)} {css : Option String}
    (h : paintCss paint = .ok css) : ∀ s ∈ css, IsInert s := by
  unfold paintCss at h
  split at h
  · split at h
    · rcases except_map_ok.mp h with ⟨s, hs, rfl⟩
      exact isInert_some (Style.hex_inert hs)
    · rcases except_map_ok.mp h with ⟨s, hs, rfl⟩
      exact isInert_some (Style.translucent_inert hs)
  · rw [except_pure_ok] at h
    simp [← h]

theorem borderCss_inert {stroke : Option (Stroke K)} {css : Option String}
    (h : borderCss stroke = .ok css) : ∀ s ∈ css, IsInert s := by
  unfold borderCss at h
  split at h
  · split at h
    · rw [except_pure_ok] at h
      simp [← h]
    · simp only [except_bind_ok, except_pure_ok] at h
      rcases h with ⟨width, hwidth, color, hcolor, rfl⟩
      refine isInert_some ?_
      rw [Text.isInert_append, Text.isInert_append]
      exact ⟨⟨Style.pixels_inert hwidth, by decide⟩, Style.translucent_inert hcolor⟩
  · rw [except_pure_ok] at h
    simp [← h]

omit [InertText K] in
theorem cornersCss_inert {body : ShapeBody K} {css : Option String}
    (h : cornersCss body = .ok css) : ∀ s ∈ css, IsInert s := by
  unfold cornersCss at h
  split at h
  · rw [except_pure_ok] at h
    rw [← h]
    exact isInert_some (by decide)
  · split at h
    · rw [except_pure_ok] at h
      simp [← h]
    · split at h
      · simp only [except_bind_ok, except_pure_ok] at h
        rcases h with ⟨radii, hradii, rfl⟩
        exact isInert_some (Text.allChars_joinWith (by decide)
          (except_mapM_all (P := IsInert) (fun _ _ => Style.pixels_inert) hradii))
      · rcases except_map_ok.mp h with ⟨s, hs, rfl⟩
        exact isInert_some (Style.pixels_inert hs)

/-- The style of a shape is inert. -/
theorem shapeStyle_inert {node : Node K} {box : Rect K} {style : Style.CellStyle}
    (h : shapeStyle node box = .ok style) : IsInert style.css := by
  simp only [shapeStyle, except_bind_ok, except_pure_ok, number_ok] at h
  rcases h with ⟨width, hwidth, height, hheight, background, hbackground, body, -, border,
    hborder, corners, hcorners, rfl⟩
  refine Style.isInert_values (Style.inertNames_cell _) ?_
  simp only [Style.CellStyle.fields, List.forall_mem_cons]
  exact ⟨isInert_some (Style.pixels_inert hwidth), isInert_some (Style.pixels_inert hheight),
    isInert_some (by decide), cornersCss_inert hcorners, isInert_none,
    paintCss_inert hbackground, isInert_none, isInert_none, borderCss_inert hborder, isInert_none,
    isInert_none, isInert_none, isInert_none, isInert_none, isInert_none, isInert_none,
    isInert_none, by simp⟩

/-- The fragment that shows a shape. -/
theorem shape_draft {node : Node K} {x y : K} {f : Fragment}
    (h : shape node x y = .ok (some f)) :
    ∃ t : PlacedTable, HasDraft names f t ∧ t.link = none ∧ t.height = some f.height ∧
      ShowsOnly t.rows none := by
  unfold shape at h
  split at h
  · rw [except_pure_ok] at h
    exact absurd h (by simp)
  · simp only [except_bind_ok, except_pure_ok, number_ok, Option.some.injEq] at h
    rcases h with ⟨style, hstyle, g, hplaced, rfl⟩
    -- A shape has no content but a blank.
    have hblank : IsContent names "&nbsp;" [.text "&nbsp;"] :=
      isContent_reference ['b', 's', 'p'] (by decide) (by decide) rfl
    rcases placedFragment_draft hplaced (singleCell_content
      (Markup.isValue_inert (shapeStyle_inert hstyle)) hblank) with
      ⟨t, ht, hlink, hheight, hrows⟩
    refine ⟨t, ht, hlink, hheight, ?_⟩
    rw [hrows]
    exact isSelfContained_cellRow style.css ⟨trivial, trivial⟩

end Renderers

end Letterpress.Render
