import Letterpress.Proofs.Document.Canvas
import Letterpress.Proofs.Document.Container
import Letterpress.Proofs.Markup.Front

/-!
# The Cell of a Document

The documents of both layouts are boxes with a single cell. It is the first cell of the
document with a color of its own, and this can be told from the text before it, so it holds
whatever the fragments in the cell are: they may close elements that they did not open, or
hold no markup at all.

That the document can be read does depend on the fragments. If each of them can be read by
itself, the document can be read exactly if the attributes of its cell can be.

## Main definitions

* `coloredCell?`: The cell that shows the background.
* `IsReadable`: Drafts that can be read, and by themselves.
* `IsReadableFragment`: A fragment whose markup can be read.

## Theorems

* `reads_boxed`: The front of a document is read by itself.
* `coloredCell?_boxed`: The cell of a document is the first one with a color.
* `boxed_returns`: When a document can be read.
* `absoluteDocument_boxed`, `emailDocument_boxed`: Both layouts are boxes.
* `writes_readableArea`, `writes_readableTables`: Readable fragments in both layouts.
-/

namespace Letterpress.Document

open Markup
open Text (IsInert)

variable {K : Type} [Scalar K]

/-- The cell that shows the background: the first one with a color of its own. -/
def coloredCell? (tree : Markup.Node) : Option Markup.Node :=
  tree.elementsBelow.find? fun e => e.tag? = some "td" && e.has "bgcolor"

section Boxed

variable {config : Config K} {styles : List String} (pageWidth width height : Int)

/-- No cell begins before the cell of a document. -/
theorem boxedLayers_cellFree : ∀ l ∈ boxedLayers config styles pageWidth width height,
    l.Everywhere fun tag _ => tag ≠ "td" := by
  have hhead : (headElement config styles).Everywhere fun tag _ => tag ≠ "td" :=
    headElement_everywhere config (by decide) fun _ _ => by decide
  refine List.forall_mem_append.mpr ⟨?_, ?_⟩
  · simp only [outerLayers, List.forall_mem_cons]
    exact ⟨⟨show "html" ≠ "td" by decide, ⟨trivial, hhead, trivial, trivial⟩, trivial, trivial⟩,
      ⟨show "body" ≠ "td" by decide, ⟨trivial, trivial⟩, trivial, trivial⟩,
      ⟨show "center" ≠ "td" by decide, ⟨trivial, trivial, trivial, trivial⟩, trivial, trivial,
        trivial, trivial⟩, by simp⟩
  · simp only [List.forall_mem_cons]
    exact ⟨⟨show "table" ≠ "td" by decide, ⟨trivial, trivial⟩, trivial, trivial⟩,
      ⟨show "tr" ≠ "td" by decide, trivial, trivial⟩, by simp⟩

variable {pageWidth width height} {start : String} {as values : List Attribute}
  {inner : List String} {text : String}

/-- The text of a document around a box. -/
theorem writes_boxed (hstart : start.toList = writtenStart "td" as) (hne : inner ≠ [])
    {ns : List Markup.Node} (hinner : Writes (Text.unlines inner) ns) :
    Writes (document config (centered pageWidth (boxText width height start inner)) styles)
      (page (inLayers (boxedLayers config styles pageWidth width height)
        [Layer.around ⟨"td", as, [newline], [newline]⟩ ns])) := by
  have hbox := writes_boxText width height hstart hne hinner
  have hdocument := @writes_document _ _ config styles _ _ hbox pageWidth
  rw [boxedLayers, inLayers_append]
  exact hdocument

/-- The front of a document, up to the start tag of its cell, does not depend on what is in
    the cell. -/
theorem boxed_front (hstart : start.toList = writtenStart "td" as) (hne : inner ≠ [])
    (hvoid : ∀ l ∈ boxedLayers config styles pageWidth width height,
      voidTags.contains l.tag = false) :
    ∃ more, (document config (centered pageWidth (boxText width height start inner))
        styles).toList
      = Node.writtenAll [.declaration "DOCTYPE html", newline]
        ++ (openings (boxedLayers config styles pageWidth width height)
          ++ (writtenStart "td" as ++ more)) := by
  have hwrites : Writes _ (page (inLayers (boxedLayers config styles pageWidth width height) _)) :=
    writes_boxed hstart hne (writes_text (Text.unlines inner))
  rcases writtenAll_inLayers hvoid [Layer.around ⟨"td", as, [newline], [newline]⟩
    [.text (Text.unlines inner)]] with ⟨closing, hlayers⟩
  -- The start tag of the cell is written before its content, and closing tags follow after both.
  have hcell : ∃ more, Node.writtenAll [Layer.around ⟨"td", as, [newline], [newline]⟩
      [.text (Text.unlines inner)]] ++ closing = writtenStart "td" as ++ more := by
    rw [Node.writtenAll, Layer.around, Node.written,
      if_neg (by change ¬ voidTags.contains "td" = true; decide), List.append_assoc,
      List.append_assoc, List.append_assoc]
    exact ⟨_, rfl⟩
  rcases hcell with ⟨more, hcell⟩
  refine ⟨more, ?_⟩
  have hpage : ∀ ns, page ns = [.declaration "DOCTYPE html", newline] ++ ns := fun _ => rfl
  rw [hwrites, hpage, writtenAll_append, hlayers, hcell]

/-- The front of a document is read by itself, with the elements of its layers. -/
theorem reads_boxed (hconfig : config.IsPlain) (hstyles : AreSheets styles)
    (hstart : start.toList = writtenStart "td" as) (hne : inner ≠ []) :
    ∃ es more,
      Reads ⟨none, (document config (centered pageWidth (boxText width height start inner))
        styles).toList⟩ es ⟨none, writtenStart "td" as ++ more⟩ ∧
      es.filterMap Event.begun?
        = openLabels (boxedLayers config styles pageWidth width height) := by
  have hshells := boxedLayers_shells pageWidth width height hconfig hstyles
  rcases boxed_front hstart hne fun l hl => (isFilledTag_parts (hshells l hl).tidy.tag).2.1
    with ⟨more, htext⟩
  generalize boxedLayers config styles pageWidth width height = layers at hshells htext
  -- Every part of the front ends where the next tag begins.
  have htag : StopsData (writtenStart "td" as ++ more) := fun c hc => by
    rw [← Option.some.inj hc]
    rfl
  have hlayers : StopsData (openings layers ++ (writtenStart "td" as ++ more)) := by
    cases layers with
    | nil => exact htag
    | cons l ls => exact fun c hc => by rw [← Option.some.inj hc]; rfl
  have htype : Node.TidyAll [.declaration "DOCTYPE html", newline] :=
    tidyAll_solid (show isDocumentType "DOCTYPE html" = true by decide) rfl
      (tidyAll_newline trivial rfl)
  rcases reads_inert htype ⟨trivial, trivial, trivial⟩ hlayers with ⟨first, hfirst, hnone⟩
  rcases reads_openings (fun l hl => (hshells l hl).tidy) (fun l hl => (hshells l hl).inert) htag
    with ⟨second, hsecond, hlabels⟩
  refine ⟨first ++ second, more, ?_, ?_⟩
  · rw [htext]
    exact hfirst.trans hsecond
  · rw [List.filterMap_append, hnone, hlabels]
    rfl

/-- The first cell is the one with a color if it has one. -/
theorem coloredCell?_of_labels {tree : Markup.Node} {before others : List (String × List Attribute)}
    (hlabels : tree.elementsBelow.map Node.label = before ++ ("td", values) :: others)
    (hbefore : ∀ x ∈ before, x.1 ≠ "td") (hcolor : (values.lookup "bgcolor").isSome = true) :
    ∃ cell, coloredCell? tree = some cell ∧ cell.attributes = values := by
  rcases find?_labels (p := fun x => x.1 = "td" && (x.2.lookup "bgcolor").isSome) hlabels
    (fun x hx => by simp [hbefore x hx]) (by simp [hcolor]) with ⟨cell, hfind, hlabel⟩
  refine ⟨cell, ?_, congrArg Prod.snd hlabel⟩
  rw [← hfind, coloredCell?]
  refine congrArg (fun p => tree.elementsBelow.find? p) (funext fun e => ?_)
  cases e with
  | element tag _ _ =>
      by_cases htd : tag = "td" <;> simp [Node.label, Node.tag?, Node.has, Node.attributes, htd]
  | text _ | comment _ | declaration _ => rfl

/-- The cell of a document is the first one with a color, whatever is in it. -/
theorem coloredCell?_boxed (hconfig : config.IsPlain) (hstyles : AreSheets styles)
    (hstart : start.toList = writtenStart "td" as) (hne : inner ≠ [])
    (hnames : ∀ a ∈ as, isName a.1 = true) (hquotes : AttributesInQuotes as)
    (hcolor : ∀ values, as.mapM decoded = .ok values → (values.lookup "bgcolor").isSome = true)
    {tree : Markup.Node} (hparse : parse
      (document config (centered pageWidth (boxText width height start inner)) styles) = .ok tree) :
    ∃ values cell, as.mapM decoded = .ok values ∧ coloredCell? tree = some cell ∧
      cell.attributes = values := by
  rcases @reads_boxed _ _ config styles pageWidth width height _ _ _ hconfig hstyles hstart hne with
    ⟨es, more, hfront, hopen⟩
  -- The cell itself is read only if its attributes are.
  have hvalues : ∃ values, as.mapM decoded = .ok values := by
    rcases step_of_reads hfront (List.cons_ne_nil _ _) hparse with ⟨outcome, houtcome⟩
    rw [step_start (show isTag "td" = true by decide) hnames hquotes] at houtcome
    cases hdecode : as.mapM decoded with
    | error e => rw [hdecode] at houtcome; exact absurd houtcome (by simp)
    | ok values => exact ⟨values, rfl⟩
  rcases hvalues with ⟨values, hvalues⟩
  have hcell := reads_start (show isFilledTag "td" = true by decide) hnames hquotes hvalues more
  rcases labels_of_reads (hfront.trans hcell) hparse with ⟨others, htree⟩
  rw [List.filterMap_append, hopen, List.append_assoc] at htree
  rcases coloredCell?_of_labels htree
    (openLabels_everywhere (boxedLayers_cellFree pageWidth width height)) (hcolor values hvalues)
    with ⟨cell, hself, hattributes⟩
  exact ⟨values, cell, hvalues, hself, hattributes⟩

end Boxed

section Lines

/-- Drafts that can be read, and by themselves. -/
structure IsReadable (ns : List Markup.Node) : Prop where
  tidy : Node.TidyAll ns
  ends : HasSolidEnds ns
  quotes : Node.InQuotesAll ns
  decodes : Returns (Node.decodeAll ns)

theorem isReadable_comment {data : String} (h : NoCloser data.toList) :
    IsReadable [.comment data] :=
  ⟨tidyAll_solid (hasNoCommentEnd_of_noCloser h) rfl trivial, hasSolidEnds_single rfl,
    ⟨trivial, trivial⟩, returns_ok _⟩

/-- Readable lines can be read together. -/
theorem isReadable_lines {pieces : List (List Markup.Node)} (hne : pieces ≠ [])
    (h : ∀ ns ∈ pieces, IsReadable ns) : IsReadable (lines pieces) := by
  refine ⟨tidyAll_lines (fun ns hns => (h ns hns).tidy) fun ns hns => (h ns hns).ends,
    hasSolidEnds_lines hne fun ns hns => (h ns hns).ends,
    everywhereAll_lines fun ns hns => (h ns hns).quotes, ?_⟩
  rw [decodeAll_lines, returns_map, returns_mapM]
  exact fun ns hns => (h ns hns).decodes

/-- A fragment whose markup can be read. -/
def IsReadableFragment (f : Fragment) : Prop :=
  ∃ draft, Writes f.markup [draft] ∧ IsReadable [draft]

variable {config : Config K} {styles : List String} {pageWidth width height : Int}
  {background : Background} {start : String} {as : List Attribute}

/-- A document around readable lines can be read if the attributes of its cell can be. -/
theorem boxed_returns (hconfig : config.IsPlain) (hstyles : AreSheets styles)
    (hcolor : IsInert background.plainColor) (hstart : start.toList = writtenStart "td" as)
    (hnames : ∀ a ∈ as, isName a.1 = true) (hquotes : AttributesInQuotes as)
    {pieces : List String} {drafts : List (List Markup.Node)}
    (hpieces : List.Forall₂ Writes pieces drafts) (hdrafts : ∀ ns ∈ drafts, IsReadable ns) :
    Returns (parse (document config (centered pageWidth (boxText width height start
      (vectorBackground width height background :: (pieces ++ [vectorBackgroundEnd])))) styles))
        ↔ Returns (as.mapM decoded) := by
  have hfirst := writes_vectorBackground width height background
  have hlast : List.Forall₂ Writes [vectorBackgroundEnd] _ :=
    .cons writes_vectorBackgroundEnd .nil
  -- The lines between the two comments can be read, whatever the cell is.
  have hreadable : IsReadable (lines ([.comment (vectorData width height background)]
      :: (drafts ++ [[.comment "[if gte mso 9]></v:textbox></v:rect><![endif]"]]))) := by
    refine isReadable_lines (List.cons_ne_nil _ _) (List.forall_mem_cons.mpr
      ⟨isReadable_comment (vectorData_noCloser width height background hcolor),
        List.forall_mem_append.mpr ⟨hdrafts, ?_⟩⟩)
    simpa using isReadable_comment (noCloser_ofList (by decide))
  have hwrites := @writes_boxed _ _ config styles pageWidth width height _ _ _ hstart
    (List.cons_ne_nil _ _) _ (writes_unlines (.cons hfirst (List.rel_append hpieces hlast)))
  generalize lines _ = ns at hreadable hwrites
  rcases hreadable with ⟨htidy, hends, hinQuotes, trees, htrees⟩
  have hcell : (Layer.around ⟨"td", as, [newline], [newline]⟩ ns).Tidy :=
    Layer.around_tidy ⟨by change isFilledTag "td" = true; decide, hnames,
      isFiller_newline.tidy, isFiller_newline.tidy⟩ htidy hends
  have hcellQuotes : (Layer.around ⟨"td", as, [newline], [newline]⟩ ns).InQuotes :=
    Layer.around_everywhere (l := ⟨"td", as, [newline], [newline]⟩)
      ⟨hquotes, ⟨trivial, trivial⟩, ⟨trivial, trivial⟩⟩ hinQuotes
  -- Of the page only the cell has values to be decoded.
  rw [parse_page (boxedLayers_shells pageWidth width height hconfig hstyles) hwrites
    ⟨hcell, fun _ => rfl, trivial⟩ (hasSolidEnds_single rfl) ⟨hcellQuotes, trivial⟩,
    returns_mapError, returns_map, returns_map, Node.decodeAll]
  cases hvalues : as.mapM decoded with
  | error e =>
      have hnone : (Layer.around ⟨"td", as, [newline], [newline]⟩ ns).decode = .error e := by
        rw [Layer.around, Node.decode, hvalues]
        rfl
      rw [hnone]
      exact iff_of_false (not_returns_error e) (not_returns_error e)
  | ok values =>
      have hsome := Layer.around_decoded (l := ⟨"td", as, [newline], [newline]⟩) hvalues
        ⟨trivial, trivial⟩ ⟨trivial, trivial⟩ ns
      rw [hsome, htrees]
      exact iff_of_true (returns_ok _) (returns_ok _)

end Lines

section Documents

variable {config : Config K} {fragments : List Fragment} {background : Background} {text : String}

/-- A document in absolute layout is a box around its area. -/
theorem absoluteDocument_boxed {canvasWidth canvasHeight : K}
    (h : absoluteDocument config fragments canvasWidth canvasHeight background = .ok text) :
    ∃ width height areaWidth areaHeight start,
      start.toList = writtenStart "td" (pictureAttributes width height background
        (Text.escapeQuoted background.imagePath)) ∧
      text = document config (centered width (boxText width height start
        (vectorBackground width height background
          :: ([canvasOf fragments areaWidth areaHeight] ++ [vectorBackgroundEnd]))))
        baseStyles := by
  simp only [absoluteDocument, canvas, except_bind_ok, except_pure_ok] at h
  rcases h with ⟨width, -, height, -, _, -, _, -, area, ⟨areaWidth, -, areaHeight, -, rfl⟩, rfl⟩
  refine ⟨width, height, areaWidth, areaHeight, _,
    pictureCell_start width height background (Text.escapeQuoted background.imagePath), ?_⟩
  -- The row and its cell are opened by one literal.
  have hopen : ("<tr><td background=\"" : String) = "<tr>" ++ "<td background=\"" := by decide
  rw [boxText, hopen]
  simp only [String.append_assoc, List.cons_append, List.nil_append]

/-- A document in table layout is a box around its tables. -/
theorem emailDocument_boxed {width pageWidth : K} {body : String}
    (hcontainer : container config fragments width background = .ok body)
    (hdocument : emailDocument config body pageWidth = .ok text) :
    ∃ w page start tables,
      start.toList = writtenStart "td"
        (containerAttributes config w (containerHeight config fragments) background) ∧
      (inReadingOrder fragments).mapM (fun f => fragmentTable f (w - 2 * config.containerBorder))
        = .ok tables ∧
      text = document config (centered page (boxText w (containerHeight config fragments) start
        (vectorBackground w (containerHeight config fragments) background
          :: (tables ++ [vectorBackgroundEnd])))) (baseStyles ++ containerStyles) := by
  simp only [container, emailDocument, containerOf, except_bind_ok, except_pure_ok, number_ok,
    numeral_ok] at hcontainer hdocument
  rcases hcontainer with ⟨w, -, tables, htables, hbody⟩
  rcases hdocument with ⟨page, -, rfl⟩
  refine ⟨w, page, _, tables,
    containerCell_start config w (containerHeight config fragments) background, htables, ?_⟩
  have hopen : ("<tr><td bgcolor=\"" : String) = "<tr>" ++ "<td bgcolor=\"" := by decide
  rw [← (writing_ok.mp hbody).2, boxText, hopen, containerStyle]
  simp only [String.append_assoc, List.cons_append, List.nil_append, List.append_assoc]

/-- Readable fragments stand on a readable area. -/
theorem writes_readableArea (hfragments : ∀ f ∈ fragments, IsReadableFragment f)
    (areaWidth areaHeight : Int) :
    ∃ area, Writes (canvasOf fragments areaWidth areaHeight) [area] ∧ IsReadable [area] := by
  have hdrafts : ∃ drafts, List.Forall₂ Writes (fragments.map Fragment.markup) drafts ∧
      ∀ ns ∈ drafts, IsReadable ns := by
    induction fragments with
    | nil => exact ⟨[], .nil, by simp⟩
    | cons f fragments ih =>
        rw [List.forall_mem_cons] at hfragments
        rcases hfragments.1 with ⟨draft, hwrites, hreadable⟩
        rcases ih hfragments.2 with ⟨drafts, hrest, hothers⟩
        exact ⟨[draft] :: drafts, .cons hwrites hrest,
          List.forall_mem_cons.mpr ⟨hreadable, hothers⟩⟩
  rcases hdrafts with ⟨drafts, hwrites, hreadable⟩
  have harea := areaLayer_shell areaWidth areaHeight
  refine ⟨_, writes_canvasOf areaWidth areaHeight hwrites, ?_⟩
  by_cases hne : drafts = []
  · -- An empty area is a layer around nothing at all.
    have hempty : Node.decodeAll [(areaLayer areaWidth areaHeight).around []]
        = .ok [(areaLayer areaWidth areaHeight).around []] :=
      decodeAll_inert _ ⟨Layer.around_everywhere harea.inert trivial, trivial⟩
    rw [hne, lines]
    exact ⟨⟨tidy_filled harea.tidy.tag harea.tidy.names trivial, fun _ => rfl, trivial⟩,
      hasSolidEnds_single rfl, ⟨Layer.around_everywhere harea.inQuotes trivial, trivial⟩,
      _, hempty⟩
  · rcases isReadable_lines hne hreadable with ⟨htidy, hends, hquotes, trees, htrees⟩
    refine ⟨⟨Layer.around_tidy harea.tidy htidy hends, fun _ => rfl, trivial⟩,
      hasSolidEnds_single rfl, ⟨Layer.around_everywhere harea.inQuotes hquotes, trivial⟩,
      [(areaLayer areaWidth areaHeight).around trees], ?_⟩
    rw [Node.decodeAll, Layer.around_decode harea.inert, htrees]
    rfl

theorem isReadable_fragmentNodes {f : Fragment} {innerWidth : Int} {draft : Markup.Node}
    (haligned : IsAligned f) (h : IsReadable [draft]) :
    IsReadable (fragmentNodes f innerWidth draft) := by
  rcases h.decodes with ⟨_, hdecode⟩
  rcases decodeAll_cons.mp hdecode with ⟨tree, _, htree, -, -⟩
  exact ⟨fragmentNodes_tidy f innerWidth h.tidy.1 (by simpa using h.ends.head),
    fragmentNodes_ends f innerWidth draft,
    fragmentNodes_everywhere
      (fun l hl => (fragmentLayers_shells haligned innerWidth l hl).inQuotes) h.quotes.1,
    _, fragmentNodes_decode haligned htree⟩

/-- Readable fragments stand in readable tables. -/
theorem writes_readableTables {innerWidth : Int}
    (hfragments : ∀ f ∈ fragments, IsReadableFragment f ∧ IsAligned f) {tables : List String}
    (h : fragments.mapM (fun f => fragmentTable f innerWidth) = .ok tables) :
    ∃ drafts, List.Forall₂ Writes tables drafts ∧ ∀ ns ∈ drafts, IsReadable ns := by
  induction fragments generalizing tables with
  | nil =>
      rw [List.mapM_nil, except_pure_ok] at h
      exact ⟨[], by rw [← h]; exact .nil, by simp⟩
  | cons f fragments ih =>
      rcases mapM_cons_ok.mp h with ⟨table, others, htable, hothers, rfl⟩
      rw [List.forall_mem_cons] at hfragments
      rcases hfragments.1 with ⟨⟨draft, hwrites, hreadable⟩, haligned⟩
      rcases ih hfragments.2 hothers with ⟨drafts, hrest, hdrafts⟩
      exact ⟨fragmentNodes f innerWidth draft :: drafts,
        .cons (writes_fragmentTable hwrites htable) hrest,
        List.forall_mem_cons.mpr ⟨isReadable_fragmentNodes haligned hreadable, hdrafts⟩⟩

end Documents

end Letterpress.Document
