import Letterpress.Proofs.Markup.Value
import Letterpress.Proofs.Style.Reading
import Letterpress.Render.Placement

/-!
# Placed Tables

What a fragment is, before it is text and after it was read back: rows in a table whose
style puts them at a place, perhaps with a link around the table.

As a draft it is what the renderers write. Decoding changes nothing but the link and
what is in the rows, so the tree that a fragment is read as is a placed table again,
with the same numbers. Taking it out of a document gives back these numbers, and leaves
the same rows in a table that no longer places itself.

## Main definitions

* `PlacedTable`: Rows in a table at a place.
* `PlacedTable.node`, `PlacedTable.unplacedNode`: The table before and after its place was
  taken from its style.
* `PlacedTable.decode`: The placed table that a draft is read as.
* `PlacedTable.IsSound`, `PlacedTable.IsRead`: What holds of drafts, and of trees.
* `IsDraft`: A fragment whose markup is a placed table.

## Theorems

* `readStyle_placed`: The style of a placed table.
* `isAbsolute_unplaced`: A table that lost its place is not positioned.
* `extractIn_node`: What is taken out of a placed table.
* `isReadable_of_extractIn`: Only a placed table with short numbers is taken out.
-/

namespace Letterpress.Render

open Markup (Attribute IsCalm IsSettled HasValues)
open Style (Declaration)

/-- A number of pixels as it stands in a style. -/
def px (n : Int) : String :=
  toString n ++ "px"

/-- Rows in a table at a place, and the name of the link around the table. A table that
    grows with its content has no height. -/
structure PlacedTable where
  link : Option String
  left : Int
  top : Int
  width : Int
  height : Option Int
  rows : List Markup.Node

/-- The attributes that all tables for layout have. -/
def presentation : List Attribute :=
  [("role", some "presentation"), ("border", some "0"), ("cellpadding", some "0"),
    ("cellspacing", some "0")]

namespace PlacedTable

/-- The style that puts a table at its place. -/
def style (t : PlacedTable) : Style.TableStyle :=
  { position := some "absolute", left := some (px t.left), top := some (px t.top),
    width := some (px t.width), height := t.height.map px }

/-- The declarations that are left when a table has lost its place. -/
def sizeDeclarations (t : PlacedTable) : List Declaration :=
  ⟨"width", px t.width⟩ :: (t.height.map fun h => ⟨"height", px h⟩).toList

/-- The style of a table that has lost its place. -/
def unplacedCss (t : PlacedTable) : String :=
  Style.writeDeclarations t.sizeDeclarations

/-- The table with a style. -/
def tableWith (t : PlacedTable) (css : String) : Markup.Node :=
  .element "table" (presentation ++ [("style", some css)]) t.rows

/-- The table with a style, in its link. -/
def nodeWith (t : PlacedTable) (css : String) : Markup.Node :=
  match t.link with
  | none => t.tableWith css
  | some id => .element "div" [("data-link-placeholder-id", some id)] [t.tableWith css]

/-- The table at its place, in its link. -/
def node (t : PlacedTable) : Markup.Node :=
  t.nodeWith t.style.css

/-- The table that has lost its place, in its link. -/
def unplacedNode (t : PlacedTable) : Markup.Node :=
  t.nodeWith t.unplacedCss

/-- The placed table that a draft is read as. -/
def decode (t : PlacedTable) : Except NumeralError PlacedTable := do
  let link ← t.link.mapM fun id => String.ofList <$> Text.decodeReferences id.toList
  let rows ← Markup.Node.decodeAll t.rows
  return { t with link, rows }

/-- A draft whose text reads as the draft, if the names in it stay in their quotes, and
    that takes no part in the layout but by its own place. -/
structure IsSound (names : List String) (t : PlacedTable) : Prop where
  tidy : Markup.Node.TidyAll t.rows
  calm : Markup.Node.EverywhereAll IsCalm t.rows
  values : Markup.Node.EverywhereAll (HasValues names) t.rows
  link : ∀ id ∈ t.link, id ∈ names

/-- A placed table that was read, and takes no part in the layout but by its own place. -/
structure IsRead (t : PlacedTable) : Prop where
  tidy : Markup.Node.TidyAll t.rows
  settled : Markup.Node.EverywhereAll IsSettled t.rows

end PlacedTable

/-- The markup of the fragment is a placed table, and its numbers are those of the table. -/
structure IsDraft (f : Fragment) (t : PlacedTable) : Prop where
  markup : f.markup.toList = t.node.written
  left : f.left = t.left
  top : f.top = t.top
  width : f.width = t.width
  height : ∀ h ∈ t.height, f.height = h
  linkWrapped : f.linkWrapped = t.link.isSome

section Styles

variable (t : PlacedTable)

/-- All declarations of a placed table. -/
def placedDeclarations : List Declaration :=
  ⟨"position", "absolute"⟩ :: ⟨"left", px t.left⟩ :: ⟨"top", px t.top⟩ :: t.sizeDeclarations

theorem placed_css : t.style.css = Style.writeDeclarations (placedDeclarations t) := by
  have hfields : Style.declarations t.style.fields = placedDeclarations t := by
    rcases t with ⟨link, left, top, width, height, rows⟩
    cases height <;> rfl
  rw [Style.TableStyle.css, Style.css, hfields, Style.writeDeclarations]

theorem px_clean {property : String} (hne : property.toList ≠ []) (hcolon : ':' ∉ property.toList)
    (hsemicolon : ';' ∉ property.toList) (htrim : Text.trim property.toList = property.toList)
    (n : Int) : Declaration.IsClean ⟨property, px n⟩ := by
  have hnumeral : ∀ c ∈ (toString n).toList, c ≠ ';' ∧ Text.isBlank c = false := fun c hc =>
    Markup.ascii_forall (P := fun c : Char => isNumeralChar c = true →
        c ≠ ';' ∧ Text.isBlank c = false)
      (by decide) (isNumeralChar_lt (numeral_chars n c hc)) (numeral_chars n c hc)
  -- A number of pixels ends with its unit, and begins with a sign or a digit.
  have hunit : ("px" : String).toList = ['p', 'x'] := rfl
  refine ⟨hne, hcolon, hsemicolon, htrim, ?_, ?_⟩
  · rw [px, String.toList_append, List.mem_append, hunit]
    rintro (hmem | hmem)
    · exact (hnumeral _ hmem).1 rfl
    · exact absurd hmem (by decide)
  · rw [px, String.toList_append, hunit]
    refine Text.trim_of_ends (fun c hc => ?_) fun c hc => ?_
    · rw [List.head?_append_of_ne_nil _ (numeral_ne_nil n)] at hc
      exact (hnumeral c (List.mem_of_head? hc)).2
    · rw [List.getLast?_append_of_ne_nil _ (List.cons_ne_nil _ _)] at hc
      rw [← Option.some.inj hc]
      decide

theorem size_clean : ∀ d ∈ t.sizeDeclarations, d.IsClean := by
  intro d hd
  rcases List.mem_cons.mp hd with rfl | hd
  · exact px_clean (by decide) (by decide) (by decide) (by decide) t.width
  · rw [Option.mem_toList, Option.map_eq_some_iff] at hd
    rcases hd with ⟨h, -, rfl⟩
    exact px_clean (by decide) (by decide) (by decide) (by decide) h

theorem placed_clean : ∀ d ∈ placedDeclarations t, d.IsClean := by
  intro d hd
  simp only [placedDeclarations, List.mem_cons] at hd
  rcases hd with rfl | rfl | rfl | hd
  · exact ⟨by decide, by decide, by decide, by decide, by decide, by decide⟩
  · exact px_clean (by decide) (by decide) (by decide) (by decide) t.left
  · exact px_clean (by decide) (by decide) (by decide) (by decide) t.top
  · exact size_clean t d hd

/-- The style of a placed table is read as its declarations. -/
theorem readStyle_placed : Style.readStyle t.style.css = placedDeclarations t := by
  rw [placed_css, Style.readStyle_written (placed_clean t)]

theorem px_inert (n : Int) : Text.IsInert (px n) := by
  rw [px, Text.isInert_append]
  exact ⟨Text.isInert_int n, by decide⟩

/-- A style of inert declarations is inert. -/
theorem writeDeclarations_inert {ds : List Declaration}
    (h : ∀ d ∈ ds, Text.IsInert d.property ∧ Text.IsInert d.value) :
    Text.IsInert (Style.writeDeclarations ds) := by
  refine Text.allChars_joinWith (by decide) fun s hs => ?_
  rcases List.mem_map.mp hs with ⟨d, hd, rfl⟩
  rw [Declaration.css]
  simp only [Text.allChars_append]
  exact ⟨⟨⟨(h d hd).1, by decide⟩, (h d hd).2⟩, by decide⟩

theorem px_declaration_inert {property : String} (h : Text.IsInert property) (n : Int) :
    Text.IsInert (Declaration.mk property (px n)).property ∧
      Text.IsInert (Declaration.mk property (px n)).value :=
  ⟨h, px_inert n⟩

theorem size_inert : ∀ d ∈ t.sizeDeclarations,
    Text.IsInert d.property ∧ Text.IsInert d.value := by
  intro d hd
  rcases List.mem_cons.mp hd with rfl | hd
  · exact px_declaration_inert (by decide) t.width
  · rw [Option.mem_toList, Option.map_eq_some_iff] at hd
    rcases hd with ⟨h, -, rfl⟩
    exact px_declaration_inert (by decide) h

theorem placed_inert : Text.IsInert t.style.css := by
  rw [placed_css]
  refine writeDeclarations_inert fun d hd => ?_
  simp only [placedDeclarations, List.mem_cons] at hd
  rcases hd with rfl | rfl | rfl | hd
  · exact ⟨by decide, by decide⟩
  · exact px_declaration_inert (by decide) t.left
  · exact px_declaration_inert (by decide) t.top
  · exact size_inert t d hd

/-- A table loses its place and keeps its size. -/
theorem without_placing :
    Style.without Document.placingProperties t.style.css = t.unplacedCss := by
  rw [Style.without_eq, readStyle_placed, PlacedTable.unplacedCss]
  have hsize : t.sizeDeclarations.filter
      (fun d => !Document.placingProperties.contains (Text.lowerString d.property))
        = t.sizeDeclarations := by
    refine List.filter_eq_self.mpr fun d hd => ?_
    rcases List.mem_cons.mp hd with rfl | hd
    · change (!Document.placingProperties.contains (Text.lowerString "width")) = true
      decide
    · rw [Option.mem_toList, Option.map_eq_some_iff] at hd
      rcases hd with ⟨h, -, rfl⟩
      change (!Document.placingProperties.contains (Text.lowerString "height")) = true
      decide
  have hplace : ∀ property value, Document.placingProperties.contains (Text.lowerString property)
      = true → (!Document.placingProperties.contains
        (Text.lowerString (Declaration.mk property value).property)) = false := by
    intro property value h
    change (!Document.placingProperties.contains (Text.lowerString property)) = false
    rw [h]
    rfl
  -- The first three declarations are those of the place.
  rw [placedDeclarations, List.filter_cons_of_neg, List.filter_cons_of_neg,
    List.filter_cons_of_neg, hsize]
  all_goals
    rw [hplace _ _ (by decide)]
    exact Bool.false_ne_true

/-- A placed table is positioned. -/
theorem isAbsolute_placed : Style.isAbsolute t.style.css = true := by
  have htext : ∃ rest, t.style.css = "position" ++ (":" ++ ("absolute" ++ rest)) := by
    rw [placed_css, Style.writeDeclarations, placedDeclarations, List.map_cons, List.map_cons,
      Text.joinWith, Declaration.css]
    simp only [String.append_assoc]
    exact ⟨_, rfl⟩
  rcases htext with ⟨rest, htext⟩
  refine Style.isAbsolute_start rest.toList ?_
  have hcolon : (":" : String).toList = [':'] := rfl
  rw [htext, String.toList_append, String.toList_append, String.toList_append, hcolon,
    List.singleton_append]

/-- A table that lost its place is not positioned. -/
theorem isAbsolute_unplaced : Style.isAbsolute t.unplacedCss = false := by
  refine Style.isAbsolute_of_noPo ?_
  rcases t with ⟨link, left, top, width, height, rows⟩
  -- The style is fixed but for one or two numerals.
  cases height with
  | none =>
      have htext : (PlacedTable.unplacedCss ⟨link, left, top, width, none, rows⟩).toList
          = "width:".toList ++ ((toString width).toList ++ "px;".toList) := by
        simp [PlacedTable.unplacedCss, PlacedTable.sizeDeclarations, Style.writeDeclarations,
          Text.joinWith, Declaration.css, px, String.toList_append]
      rw [htext]
      exact Style.noPo_numeral width (by decide) (by decide)
  | some height =>
      have htext : (PlacedTable.unplacedCss ⟨link, left, top, width, some height, rows⟩).toList
          = "width:".toList ++ ((toString width).toList ++ ("px; height:".toList
            ++ ((toString height).toList ++ "px;".toList))) := by
        simp [PlacedTable.unplacedCss, PlacedTable.sizeDeclarations, Style.writeDeclarations,
          Text.joinWith, Declaration.css, px, String.toList_append]
      rw [htext]
      exact Style.noPo_numeral width (by decide)
        (Style.noPo_numeral height (by decide) (by decide))

end Styles

section Nodes

variable {t : PlacedTable} {css : String}

theorem tableWith_inert (hcss : Text.IsInert css) :
    Markup.InertAttributes "table" (presentation ++ [("style", some css)]) := by
  intro a ha value hvalue
  rw [List.mem_append, List.mem_singleton] at ha
  rcases ha with ha | rfl
  · have hfixed : ∀ a ∈ presentation, ∀ value ∈ a.2, Text.IsInert value := by
      decide
    exact hfixed a ha value hvalue
  · rw [← Option.some.inj hvalue]
    exact hcss

theorem tableWith_names (css : String) :
    ∀ a ∈ presentation ++ [("style", some css)], Markup.isName a.1 = true := by
  have hfixed : ∀ a ∈ presentation, Markup.isName a.1 = true := by decide
  refine List.forall_mem_append.mpr ⟨hfixed, fun a ha => ?_⟩
  rw [List.mem_singleton.mp ha]
  change Markup.isName "style" = true
  decide

/-- The name of a link is decoded as a value is. -/
theorem PlacedTable.decode_link {t' : PlacedTable} (h : t.decode = .ok t') :
    (t.link = none ∧ t'.link = none) ∨
      ∃ id value, t.link = some id ∧ Text.decodeReferences id.toList = .ok value ∧
        t'.link = some (String.ofList value) := by
  simp only [PlacedTable.decode, except_bind_ok, except_pure_ok] at h
  rcases h with ⟨link, hlink, rows, -, rfl⟩
  cases hid : t.link with
  | none =>
      rw [hid] at hlink
      exact Or.inl ⟨rfl, (except_pure_ok.mp hlink).symm⟩
  | some id =>
      rw [hid] at hlink
      have hsome : (some <$> (String.ofList <$> Text.decodeReferences id.toList)
          : Except NumeralError (Option String)) = .ok link := hlink
      rcases except_map_ok.mp hsome with ⟨text, htext, rfl⟩
      rcases except_map_ok.mp htext with ⟨value, hvalue, rfl⟩
      exact Or.inr ⟨id, value, rfl, hvalue, rfl⟩

/-- Decoding keeps the numbers of a placed table. -/
theorem PlacedTable.decode_ok {t' : PlacedTable} (h : t.decode = .ok t') :
    ∃ link rows, t' = { t with link, rows } ∧ link.isSome = t.link.isSome ∧
      Markup.Node.decodeAll t.rows = .ok rows := by
  have hlink := PlacedTable.decode_link h
  simp only [PlacedTable.decode, except_bind_ok, except_pure_ok] at h
  rcases h with ⟨link, -, rows, hrows, rfl⟩
  refine ⟨link, rows, rfl, ?_, hrows⟩
  rcases hlink with ⟨hnone, hnone'⟩ | ⟨id, value, hsome, -, hsome'⟩
  · rw [hnone, show link = none from hnone']
  · rw [hsome, show link = some (String.ofList value) from hsome']
    rfl

/-- A placed table is decoded in its rows and its link. -/
theorem nodeWith_decode (hcss : Text.IsInert css) :
    (t.nodeWith css).decode = (fun t' => t'.nodeWith css) <$> t.decode := by
  have htable : (t.tableWith css).decode
      = (fun rows => PlacedTable.tableWith { t with rows } css)
          <$> Markup.Node.decodeAll t.rows := by
    rw [PlacedTable.tableWith, Markup.Node.decode, Markup.decoded_inert (tableWith_inert hcss)]
    cases Markup.Node.decodeAll t.rows <;> rfl
  rcases t with ⟨link, left, top, width, height, rows⟩
  cases link with
  | none =>
      change (PlacedTable.tableWith ⟨none, left, top, width, height, rows⟩ css).decode = _
      rw [htable, PlacedTable.decode]
      cases Markup.Node.decodeAll rows <;> rfl
  | some id =>
      rw [PlacedTable.nodeWith, Markup.Node.decode, Markup.Node.decodeAll, htable,
        PlacedTable.decode]
      change (List.mapM Markup.decoded [("data-link-placeholder-id", some id)] >>= _)
        = (fun t' : PlacedTable => t'.nodeWith css) <$> ((some <$> (String.ofList
            <$> Text.decodeReferences id.toList)) >>= _)
      -- Within a link the name is decoded before the rows.
      rw [List.mapM_cons, Markup.decoded]
      cases Text.decodeReferences id.toList with
      | error e => rfl
      | ok text => cases Markup.Node.decodeAll rows <;> rfl

/-- A placed table is tidy if its rows are. -/
theorem nodeWith_tidy (h : Markup.Node.TidyAll t.rows) (css : String) :
    (t.nodeWith css).Tidy := by
  have htable : (t.tableWith css).Tidy :=
    Markup.tidy_filled (by decide) (tableWith_names css) h
  rw [PlacedTable.nodeWith]
  cases t.link with
  | none => exact htable
  | some id =>
      refine Markup.tidy_filled (by decide) (fun a ha => ?_) ⟨htable, fun _ => rfl, trivial⟩
      rw [List.mem_singleton.mp ha]
      change Markup.isName "data-link-placeholder-id" = true
      decide

theorem nodeWith_isPlainText (css : String) : (t.nodeWith css).isPlainText = false := by
  rw [PlacedTable.nodeWith]
  cases t.link <;> rfl

/-- A property of the rows and of the table is one of everything, unless the link fails it. -/
theorem nodeWith_everywhere {P : String → List Attribute → Prop}
    (hrows : Markup.Node.EverywhereAll P t.rows)
    (htable : P "table" (presentation ++ [("style", some css)]))
    (hlink : ∀ id ∈ t.link, P "div" [("data-link-placeholder-id", some id)]) :
    (t.nodeWith css).Everywhere P := by
  have hself : (t.tableWith css).Everywhere P := ⟨htable, hrows⟩
  rw [PlacedTable.nodeWith]
  cases hid : t.link with
  | none => exact hself
  | some id => exact ⟨hlink id hid, hself, trivial⟩

/-- The values of a placed table are fixed or hold names. -/
theorem nodeWith_values {names : List String} (h : t.IsSound names) (hcss : Text.IsInert css) :
    (t.nodeWith css).Everywhere (HasValues names) := by
  refine nodeWith_everywhere h.values (tableWith_inert hcss).hasValues fun id hid a ha => ?_
  intro value hvalue
  rw [List.mem_singleton.mp ha] at hvalue
  rw [← Option.some.inj hvalue]
  have hempty : Text.IsInert "" := by decide
  have hself := Markup.IsValue.named (h.link id hid) hempty hempty (by simp)
  simpa using hself

/-- The tree of a placed table that lost its place takes no part in the layout. -/
theorem unplacedNode_settled (h : t.IsRead) : t.unplacedNode.Everywhere IsSettled := by
  refine nodeWith_everywhere h.settled ⟨?_, ?_⟩ fun id _ => ⟨by simp [List.lookup_cons], ?_⟩
  · simp [presentation, List.lookup_cons]
  · refine Markup.isStill_of_style (fun style hstyle => ?_) "table"
    have hself : style = t.unplacedCss := by
      simpa [presentation, List.lookup_cons] using hstyle.symm
    rw [hself]
    exact isAbsolute_unplaced t
  · exact Markup.isStill_of_tag (by decide) _

/-- What a sound draft is read as. -/
theorem PlacedTable.IsSound.decode {names : List String} (h : t.IsSound names)
    {t' : PlacedTable} (hdecode : t.decode = .ok t') : t'.IsRead := by
  rcases PlacedTable.decode_ok hdecode with ⟨link, rows, rfl, -, hrows⟩
  exact ⟨Markup.tidyAll_decode t.rows hrows h.tidy,
    Markup.everywhereAll_decode (fun _ _ _ hcalm has => hcalm.settled has) t.rows h.calm hrows⟩

/-- Without long codes in its names, a draft is read. -/
theorem PlacedTable.IsSound.decodes {names : List String} (h : t.IsSound names)
    (hnames : ∀ name ∈ names, Text.hasLongCode name.toList = false) :
    ∃ t', t.decode = .ok t' := by
  rcases Markup.decodeAll_values hnames t.rows h.values with ⟨rows, hrows⟩
  have hlink : ∃ link, (t.link.mapM fun id => String.ofList <$> Text.decodeReferences id.toList
      : Except NumeralError (Option String)) = .ok link := by
    cases hid : t.link with
    | none => exact ⟨none, rfl⟩
    | some id =>
        rcases Text.decodeReferences_ok (hnames id (h.link id hid)) with ⟨text, htext⟩
        refine ⟨some (String.ofList text), ?_⟩
        change some <$> (String.ofList <$> Text.decodeReferences id.toList) = _
        rw [htext]
        rfl
  rcases hlink with ⟨link, hlink⟩
  refine ⟨{ t with link, rows }, ?_⟩
  rw [PlacedTable.decode, hlink, hrows]
  rfl

end Nodes

section Reading

variable {K : Type} [Scalar K] (config : Config K) (canvas : Int)

/-- The height that is read off a placed table: the fallback if it has none. -/
def PlacedTable.readHeight (t : PlacedTable) : Int :=
  if t.height.getD 0 = 0 then config.fallbackFragmentHeight else t.height.getD 0

/-- What is taken out of a placed table. -/
def PlacedTable.taken (t : PlacedTable) : Fragment :=
  { markup := t.unplacedNode.serialize
    left := t.left
    top := t.top
    width := min t.width canvas
    height := t.readHeight config
    linkWrapped := t.link.isSome }

/-- The numbers in the style of a placed table are short enough to be read. -/
structure PlacedTable.IsReadable (t : PlacedTable) : Prop where
  left : Text.isWritable t.left = true
  top : Text.isWritable t.top = true
  width : Text.isWritable t.width = true
  height : ∀ h ∈ t.height, Text.isWritable h = true

variable (t : PlacedTable)

theorem styleOf_tableWith (css : String) : Document.styleOf (t.tableWith css) = css := by
  simp [Document.styleOf, PlacedTable.tableWith, Markup.Node.get?, Markup.Node.attributes,
    presentation, List.lookup_cons]

theorem readPixels_px {n : Int} (h : Text.isWritable n = true) (fallback : Int) :
    Style.readPixels (some (px n)) fallback = .ok n := by
  have hunit : ("px" : String).toList = 'p' :: ['x'] := rfl
  rw [Style.readPixels, px, String.toList_append, hunit,
    leadingInt?_numeral h (by decide) ['x']]
  rfl

theorem isFor_lower {property value other : String} (h : Text.lowerString property = property) :
    Declaration.isFor ⟨property, value⟩ other = decide (property = other) := by
  rw [Declaration.isFor, h]

theorem lowerString_properties :
    Text.lowerString "position" = "position" ∧ Text.lowerString "left" = "left" ∧
      Text.lowerString "top" = "top" ∧ Text.lowerString "width" = "width" ∧
      Text.lowerString "height" = "height" := by
  decide

/-- Of the declarations of a placed table, each property has one. -/
theorem find?_placed (property : String) :
    ((placedDeclarations t).find? fun d => d.isFor property).map Declaration.value
      = if property = "position" then some "absolute"
        else if property = "left" then some (px t.left)
        else if property = "top" then some (px t.top)
        else if property = "width" then some (px t.width)
        else if property = "height" then t.height.map px else none := by
  rcases lowerString_properties with ⟨hposition, hleft, htop, hwidth, hheight⟩
  rcases t with ⟨link, left, top, width, height, rows⟩
  -- The first declaration of a property is the one that counts.
  have hstep : ∀ (name value : String) (ds : List Declaration),
      Text.lowerString name = name →
        ((⟨name, value⟩ :: ds).find? fun d => d.isFor property).map Declaration.value
          = if property = name then some value
            else (ds.find? fun d => d.isFor property).map Declaration.value := by
    intro name value ds hname
    by_cases heq : property = name
    · rw [if_pos heq, List.find?_cons_of_pos (by rw [isFor_lower hname]; simp [heq])]
      rfl
    · rw [if_neg heq, List.find?_cons_of_neg (by rw [isFor_lower hname]; simp [Ne.symm heq])]
  rw [placedDeclarations, PlacedTable.sizeDeclarations, hstep _ _ _ hposition,
    hstep _ _ _ hleft, hstep _ _ _ htop, hstep _ _ _ hwidth]
  cases height with
  | none =>
      simp
  | some height =>
      simp only [Option.map_some, Option.toList_some, hstep _ _ _ hheight, List.find?_nil,
        Option.map_none]

/-- The value of a property in the style of a placed table. -/
theorem valueOf?_placed (property : String) : Style.valueOf? t.style.css property
    = if property = "position" then some "absolute"
      else if property = "left" then some (px t.left)
      else if property = "top" then some (px t.top)
      else if property = "width" then some (px t.width)
      else if property = "height" then t.height.map px else none := by
  rw [Style.valueOf?, readStyle_placed, find?_placed]

theorem declared_px (property : String) {n : Int}
    (hvalue : Style.valueOf? t.style.css property = some (px n)) (h : Text.isWritable n = true)
    (fallback : Int) :
    Document.declared (t.tableWith t.style.css) property fallback = .ok n := by
  rw [Document.declared, styleOf_tableWith, hvalue, readPixels_px h]

theorem declared_missing {property : String} (hvalue : Style.valueOf? t.style.css property = none)
    (fallback : Int) :
    Document.declared (t.tableWith t.style.css) property fallback = .ok fallback := by
  rw [Document.declared, styleOf_tableWith, hvalue]
  rfl

variable {t}

theorem declaredHeight_placed (h : t.IsReadable) :
    Document.declaredHeight config (t.tableWith t.style.css) = .ok (t.readHeight config) := by
  have hheight : Document.declared (t.tableWith t.style.css) "height" 0
      = .ok (t.height.getD 0) := by
    cases hlist : t.height with
    | none =>
        refine declared_missing t ?_ 0
        rw [valueOf?_placed, hlist]
        rfl
    | some n =>
        refine declared_px t "height" ?_ (h.height n hlist) 0
        rw [valueOf?_placed, hlist]
        rfl
  have hattribute : (t.tableWith t.style.css).get? "height" = none := by
    simp [PlacedTable.tableWith, Markup.Node.get?, Markup.Node.attributes, presentation,
      List.lookup_cons]
  have hown : Document.ownHeight (t.tableWith t.style.css) = .ok (t.height.getD 0) := by
    rw [Document.ownHeight, hheight, hattribute]
    by_cases hzero : t.height.getD 0 = 0
    · rw [hzero]
      rfl
    · change (if t.height.getD 0 ≠ 0 then Except.ok (t.height.getD 0) else Except.ok 0)
        = Except.ok (t.height.getD 0)
      rw [if_pos hzero]
  -- No padding is declared, so the height is the whole height.
  have hpadding : ∀ property, property = "padding-top" ∨ property = "padding-bottom" →
      Document.declared (t.tableWith t.style.css) property 0 = .ok 0 := by
    rintro property (rfl | rfl)
    · exact declared_missing t (by rw [valueOf?_placed]; rfl) 0
    · exact declared_missing t (by rw [valueOf?_placed]; rfl) 0
  rw [Document.declaredHeight, hown, hpadding _ (Or.inl rfl), hpadding _ (Or.inr rfl)]
  change Except.ok ((if t.height.getD 0 ≠ 0 then t.height.getD 0
    else config.fallbackFragmentHeight) + (0 + 0)) = _
  rw [PlacedTable.readHeight, Int.add_zero, Int.add_zero]
  congr 1
  by_cases hzero : t.height.getD 0 = 0
  · rw [if_neg (by simpa using hzero), if_pos hzero]
  · rw [if_pos hzero, if_neg hzero]

/-- The numbers of a placed table are read off its style. -/
theorem fragmentOf_placed (h : t.IsReadable) (markup : String) (linked : Bool) :
    Document.fragmentOf config canvas (t.tableWith t.style.css) markup linked
      = .ok { t.taken config canvas with markup, linkWrapped := linked } := by
  have hleft := declared_px t "left" (by rw [valueOf?_placed]; rfl)
    h.left 0
  have htop := declared_px t "top" (by rw [valueOf?_placed]; rfl)
    h.top 0
  have hwidth := declared_px t "width"
    (by rw [valueOf?_placed]; rfl) h.width canvas
  -- No alignment is declared either, so the fallbacks are read.
  have halign : ∀ property name fallback, name = "align" ∨ name = "valign" →
      Style.valueOf? t.style.css property = none →
        Document.alignment (t.tableWith t.style.css) property name fallback = fallback := by
    intro property name fallback hname hvalue
    have hattribute : (t.tableWith t.style.css).get? name = none := by
      rcases hname with rfl | rfl <;>
        simp [PlacedTable.tableWith, Markup.Node.get?, Markup.Node.attributes, presentation,
          List.lookup_cons]
    rw [Document.alignment, styleOf_tableWith, hvalue, hattribute]
    rfl
  rw [Document.fragmentOf, htop, hleft, hwidth, declaredHeight_placed config h,
    halign "text-align" "align" "left" (Or.inl rfl) (by rw [valueOf?_placed]; rfl),
    halign "vertical-align" "valign" "top" (Or.inr rfl)
      (by rw [valueOf?_placed]; rfl)]
  rfl

theorem isPositionedTable_placed :
    Document.isPositionedTable (t.tableWith t.style.css) = true := by
  rw [Document.isPositionedTable, styleOf_tableWith, isAbsolute_placed]
  rfl

theorem unplaced_tableWith :
    Document.unplaced (t.tableWith t.style.css) = t.tableWith t.unplacedCss := by
  rw [Document.unplaced, styleOf_tableWith, without_placing]
  simp [PlacedTable.tableWith, Markup.Node.set, presentation, Markup.setAttribute]

/-- Only numbers within the limit are read off a style. -/
theorem isWritable_of_declared {property : String} {n : Int}
    (hvalue : Style.valueOf? t.style.css property = some (px n)) {fallback read : Int}
    (h : Document.declared (t.tableWith t.style.css) property fallback = .ok read) :
    Text.isWritable n = true := by
  have hunit : ("px" : String).toList = 'p' :: ['x'] := rfl
  rw [Document.declared, styleOf_tableWith, hvalue, Style.readPixels, px, String.toList_append,
    hunit, except_bind_ok] at h
  rcases h with ⟨value, hvalue, -⟩
  exact isWritable_of_leadingInt? (by decide) hvalue

theorem isReadable_of_fragmentOf {markup : String} {linked : Bool} {f : Fragment}
    (h : Document.fragmentOf config canvas (t.tableWith t.style.css) markup linked = .ok f) :
    t.IsReadable := by
  simp only [Document.fragmentOf, Document.declaredHeight, Document.ownHeight,
    except_bind_ok] at h
  rcases h with ⟨top, htop, left, hleft, width, hwidth, height, ⟨own, ⟨declared, hheight, -⟩, -⟩, -⟩
  -- Every number of the table is read, or nothing is taken out.
  refine ⟨isWritable_of_declared ?_ hleft, isWritable_of_declared ?_ htop,
    isWritable_of_declared ?_ hwidth, fun n hn => isWritable_of_declared ?_ hheight⟩
  all_goals
    rw [valueOf?_placed]
  · rfl
  · rfl
  · rfl
  · rw [Option.mem_def.mp hn]
    rfl

/-- A placed table in its link is taken out as the table is. -/
theorem extractIn_fragmentOf :
    Document.extractIn config canvas t.node
      = (fun f => [f]) <$> Document.fragmentOf config canvas (t.tableWith t.style.css)
          t.unplacedNode.serialize t.link.isSome := by
  rcases hlink : t.link with _ | id
  · have hnode : t.node = t.tableWith t.style.css := by
      rw [PlacedTable.node, PlacedTable.nodeWith, hlink]
    have hunplaced : t.unplacedNode = t.tableWith t.unplacedCss := by
      rw [PlacedTable.unplacedNode, PlacedTable.nodeWith, hlink]
    rw [hnode, Document.extractIn_table isPositionedTable_placed, unplaced_tableWith,
      ← hunplaced]
    rfl
  · have hnode : t.node = .element "div" [("data-link-placeholder-id", some id)]
        [t.tableWith t.style.css] := by
      rw [PlacedTable.node, PlacedTable.nodeWith, hlink]
    have hunplaced : t.unplacedNode = .element "div" [("data-link-placeholder-id", some id)]
        [t.tableWith t.unplacedCss] := by
      rw [PlacedTable.unplacedNode, PlacedTable.nodeWith, hlink]
    -- The link is around the table alone, and is taken out with it.
    have hwrapper : Document.isLinkWrapper
        (.element "div" [("data-link-placeholder-id", some id)] []) = true := by
      simp [Document.isLinkWrapper, Markup.Node.tag?, Markup.Node.has, Markup.Node.attributes]
    rw [hnode, Document.extractIn_link (Markup.isStill_of_tag (by decide) _) hwrapper
      isPositionedTable_placed, unplaced_tableWith, ← hunplaced]
    rfl

/-- What is taken out of a placed table. -/
theorem extractIn_node (h : t.IsReadable) :
    Document.extractIn config canvas t.node = .ok [t.taken config canvas] := by
  rw [extractIn_fragmentOf, fragmentOf_placed config canvas h]
  rfl

/-- Only a placed table with short numbers is taken out. -/
theorem isReadable_of_extractIn {fs : List Fragment}
    (h : Document.extractIn config canvas t.node = .ok fs) : t.IsReadable := by
  rw [extractIn_fragmentOf] at h
  rcases except_map_ok.mp h with ⟨f, hf, -⟩
  exact isReadable_of_fragmentOf config canvas hf

end Reading

end Letterpress.Render
