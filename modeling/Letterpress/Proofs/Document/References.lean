import Letterpress.Proofs.Document.Recompilation
import Letterpress.Proofs.Document.Structure

/-!
# References of a Document

A document refers to what is sent beside it: it shows pictures by their addresses, and it
holds links that are filled in later. In either layout all of its references come from the
fragments. What stands around them refers to nothing, and a fragment keeps its references
when it loses its place.

## Main definitions

* `Node.pictureSources`, `Node.linkIds`: The references below a node.
* `PassesOver`: A search that looks for references only.
* `HoldsAll`: A tree in which fragments stand, and that refers to nothing else.
* `Fragment.RefersTo`: What a fragment refers to.

## Theorems

* `compileFragments_holdsAll`, `absoluteDocument_holdsAll`: The documents in both layouts.
* `refersTo_draft`: What the draft of a fragment refers to.
* `HoldsAll.references`: The references of a document are those of its fragments.
-/

namespace Letterpress

open Render (PlacedTable HasDraft ShowsOnly)

namespace Markup

namespace Node

/-- The element shows a picture. -/
def isPicture (n : Node) : Bool :=
  n.tag? = some "img"

/-- The element is a link that is filled in later. -/
def isLinkPlaceholder (n : Node) : Bool :=
  n.has "data-link-placeholder-id"

/-- The addresses of the pictures below a node. -/
def pictureSources (n : Node) : List (Option String) :=
  (n.elementsBelow.filter isPicture).map fun picture => picture.get? "src"

/-- The names of the links below a node that are filled in later. -/
def linkIds (n : Node) : List (Option String) :=
  (n.elementsBelow.filter isLinkPlaceholder).map fun link => link.get? "data-link-placeholder-id"

end Node

/-- The search finds no elements but those that refer to something. -/
def PassesOver (q : Node → Bool) : Prop :=
  ∀ tag as children, IsSelfContained tag as → q (.element tag as children) = false

theorem isPicture_passesOver : PassesOver Node.isPicture := fun _ _ _ h => by
  simp [Node.isPicture, Node.tag?, h.1]

theorem isLinkPlaceholder_passesOver : PassesOver Node.isLinkPlaceholder := fun _ _ _ h => by
  simp [Node.isLinkPlaceholder, Node.has, Node.attributes, h.2]

/-- An element that refers to nothing is read as one. -/
theorem isSelfContained_decoded (tag : String) (as as' : List Attribute)
    (h : IsSelfContained tag as) (hdecode : as.mapM decoded = .ok as') :
    IsSelfContained tag as' := by
  rcases lookup_decoded hdecode "data-link-placeholder-id" with ⟨-, hnone⟩ | ⟨_, _, hsome, -, -⟩
  · exact ⟨h.1, hnone⟩
  · rw [h.2] at hsome
    exact absurd hsome (by simp)

theorem elementsBelow_root (ns : List Node) :
    (Node.root ns).elementsBelow = Node.elementsAll ns :=
  elementsBelow_element rootTag [] ns

/-- The elements of lines are those of each line. -/
theorem elementsAll_lines (pieces : List (List Node)) :
    Node.elementsAll (lines pieces) = pieces.flatMap Node.elementsAll := by
  induction pieces with
  | nil => rfl
  | cons ns pieces ih =>
      cases pieces with
      | nil => rw [lines, List.flatMap_cons, List.flatMap_nil, List.append_nil]
      | cons ms pieces =>
          rw [lines_cons ns (List.cons_ne_nil ms pieces), elementsAll_append, elementsAll_cons,
            ih]
          rfl

end Markup

namespace Document

open Markup

variable {K : Type} [Scalar K] {config : Config K} {background : Background}
  {names : List String} {q : Markup.Node → Bool}

section Layers

theorem layoutTable_selfContained (width : Int) (css : String) :
    IsSelfContained "table" (layoutTable width css) :=
  ⟨by decide, by simp [layoutTable, Render.presentation, List.lookup_cons]⟩

theorem headElement_selfContained (config : Config K) (styles : List String) :
    (headElement config styles).Everywhere IsSelfContained := by
  refine headElement_everywhere config (fun tag htag => isSelfContained_plain ?_)
    fun as has => ⟨by decide, ?_⟩
  · revert tag
    decide
  · revert as
    decide

/-- A layer refers to nothing if its own element and what it surrounds its content with
    do not. -/
theorem layer_selfContained {tag : String} {as : List Attribute}
    {before after : List Markup.Node} (htag : tag ≠ "img")
    (has : as.lookup "data-link-placeholder-id" = none)
    (hbefore : Node.EverywhereAll IsSelfContained before)
    (hafter : Node.EverywhereAll IsSelfContained after) :
    Layer.Everywhere IsSelfContained ⟨tag, as, before, after⟩ :=
  ⟨⟨htag, has⟩, hbefore, hafter⟩

theorem outerLayers_selfContained (config : Config K) (styles : List String) (width : Int) :
    ∀ l ∈ outerLayers config styles width, l.Everywhere IsSelfContained := by
  simp only [outerLayers, List.forall_mem_cons]
  refine ⟨layer_selfContained (by decide) (by simp [List.lookup_cons]) ?_ ⟨trivial, trivial⟩,
    layer_selfContained (by decide) rfl ⟨trivial, trivial⟩ ⟨trivial, trivial⟩,
    layer_selfContained (by decide) rfl ⟨trivial, trivial, trivial, trivial⟩
      ⟨trivial, trivial, trivial, trivial⟩, by simp⟩
  exact ⟨trivial, headElement_selfContained config styles, trivial, trivial⟩

/-- The layers of a document around its cell refer to nothing. -/
theorem shellLayers_selfContained (config : Config K) (styles : List String)
    (width height : Int) :
    ∀ l ∈ outerLayers config styles width ++ [boxLayer width height, rowLayer [] []],
      l.Everywhere IsSelfContained := by
  refine List.forall_mem_append.mpr ⟨outerLayers_selfContained config styles width, ?_⟩
  simp only [List.forall_mem_cons]
  exact ⟨layer_selfContained (by decide) (layoutTable_selfContained width _).2
      ⟨trivial, trivial⟩ ⟨trivial, trivial⟩,
    layer_selfContained (by decide) rfl trivial trivial, by simp⟩

theorem spacerCell_selfContained (width : Int) :
    Node.EverywhereAll IsSelfContained [spacerCell width] :=
  ⟨⟨⟨by decide, by simp [List.lookup_cons]⟩, trivial⟩, trivial⟩

theorem fragmentLayers_selfContained (f : Fragment) (innerWidth : Int) :
    ∀ l ∈ fragmentLayers f innerWidth, l.Everywhere IsSelfContained := by
  have htable : ∀ width, Layer.Everywhere IsSelfContained
      ⟨"table", layoutTable width (widthCss width), [], []⟩ := fun width =>
    layer_selfContained (by decide) (layoutTable_selfContained width _).2 trivial trivial
  unfold fragmentLayers
  split
  · simp only [List.forall_mem_cons]
    exact ⟨htable _, layer_selfContained (by decide) rfl trivial trivial,
      layer_selfContained (by decide) rfl trivial trivial, by simp⟩
  · simp only [List.forall_mem_cons]
    exact ⟨htable _, layer_selfContained (by decide) rfl (spacerCell_selfContained _)
      (spacerCell_selfContained _), layer_selfContained (by decide) rfl trivial trivial, by simp⟩

end Layers

section Searches

/-- What a search finds in a page is in the content of the page. -/
theorem filter_page (ns : List Markup.Node) :
    (Markup.Node.root (page ns)).elementsBelow.filter q
      = (Markup.Node.elementsAll ns).filter q := by
  rw [elementsBelow_root, page, elementsAll_cons, elementsAll_cons, elementsIn_leaf rfl,
    elementsIn_leaf rfl, List.nil_append, List.nil_append]

/-- What a search finds in a table layout is in the trees of the fragments. -/
theorem search_documentTree (hq : PassesOver q) (w tall : Int)
    (placed : List (Fragment × Markup.Node)) :
    (Markup.Node.root (documentTree config w tall background placed)).elementsBelow.filter q
      = placed.flatMap fun p => (Markup.Node.elementsAll [p.2]).filter q := by
  have hcell : ∀ l ∈ [containerCell config w tall background], l.Everywhere IsSelfContained :=
    List.forall_mem_singleton.mpr (cellLayer_bare w tall background
      ⟨by decide, by simp [containerAttributes, List.lookup_cons]⟩)
  -- Around a fragment there are only spacers and cells, which refer to nothing.
  have hfragment : ∀ p : Fragment × Markup.Node,
      (Markup.Node.elementsAll
        (fragmentNodes p.1 (w - 2 * config.containerBorder) p.2)).filter q
          = (Markup.Node.elementsAll [p.2]).filter q := fun p => by
    rw [fragmentNodes, elementsAll_cons, elementsAll_append, elementsIn_leaf rfl,
      List.nil_append, List.filter_append,
      filter_inLayers hq (fragmentLayers_selfContained p.1 _)]
    exact List.append_nil _
  have hcontainer := filter_inLayers hq hcell
    (containerNodes (w - 2 * config.containerBorder) placed)
  rw [documentTree, filter_page, documentLayers,
    filter_inLayers hq (shellLayers_selfContained config _ w tall)]
  refine hcontainer.trans ?_
  rw [containerNodes, elementsAll_lines, List.flatMap_map, List.filter_flatMap]
  exact congrArg placed.flatMap (funext hfragment)

/-- What a search finds in an absolute layout is in the trees of the fragments. -/
theorem search_absoluteLayers (hq : PassesOver q) (width height areaWidth areaHeight : Int)
    (source : String) (ns : List Markup.Node) :
    (Markup.Node.root (page (inLayers (absoluteLayers width height config)
      [pictureNode width height background areaWidth areaHeight source ns]))).elementsBelow.filter q
        = (Markup.Node.elementsAll ns).filter q := by
  have hinner : ∀ l ∈ [pictureCell width height background source,
      areaLayer areaWidth areaHeight], l.Everywhere IsSelfContained := by
    simp only [List.forall_mem_cons]
    exact ⟨cellLayer_bare width height background
        ⟨by decide, by simp [pictureAttributes, List.lookup_cons]⟩,
      layer_selfContained (by decide) rfl trivial trivial, by simp⟩
  rw [filter_page, absoluteLayers,
    filter_inLayers hq (shellLayers_selfContained config _ width height)]
  exact filter_inLayers hq hinner ns

end Searches

section Tables

variable (t : PlacedTable) (css : String)

theorem tableWith_selfContained :
    IsSelfContained "table" (Render.presentation ++ [("style", some css)]) :=
  ⟨by decide, by simp [Render.presentation, List.lookup_cons]⟩

/-- What a search finds in a table is in its rows. -/
theorem search_tableWith (hq : PassesOver q) :
    (Markup.Node.elementsAll [t.tableWith css]).filter q
      = (Markup.Node.elementsAll t.rows).filter q := by
  have hself : q (t.tableWith css) = false := hq _ _ _ (tableWith_selfContained css)
  rw [elementsAll_cons, PlacedTable.tableWith, elementsIn_element, elementsBelow_element,
    List.filter_append, List.filter_cons_of_neg (by rw [← PlacedTable.tableWith, hself]; simp)]
  exact List.append_nil _

/-- A table shows what its rows show, in a link or not. -/
theorem pictureSources_nodeWith :
    (Markup.Node.root [t.nodeWith css]).pictureSources
      = (Markup.Node.root t.rows).pictureSources := by
  rw [Markup.Node.pictureSources, Markup.Node.pictureSources, elementsBelow_root,
    elementsBelow_root, ← search_tableWith t css isPicture_passesOver, PlacedTable.nodeWith]
  cases t.link with
  | none => rfl
  | some id =>
      dsimp only
      rw [elementsAll_cons, elementsIn_element, elementsBelow_element, List.filter_append,
        List.filter_cons_of_neg (by simp [Markup.Node.isPicture, Markup.Node.tag?])]
      exact congrArg _ (List.append_nil _)

/-- The links of a table are the one around it and those in its rows. -/
theorem linkIds_nodeWith :
    (Markup.Node.root [t.nodeWith css]).linkIds
      = t.link.toList.map some ++ (Markup.Node.root t.rows).linkIds := by
  rw [Markup.Node.linkIds, Markup.Node.linkIds, elementsBelow_root, elementsBelow_root,
    ← search_tableWith t css isLinkPlaceholder_passesOver, PlacedTable.nodeWith]
  cases t.link with
  | none => rfl
  | some id =>
      dsimp only
      rw [elementsAll_cons, elementsIn_element, elementsBelow_element, List.filter_append,
        List.filter_cons_of_pos (by simp [Markup.Node.isLinkPlaceholder, Markup.Node.has,
          Markup.Node.attributes])]
      rw [show (Markup.Node.elementsAll []).filter Markup.Node.isLinkPlaceholder = [] from rfl,
        List.append_nil, List.map_cons]
      simp [Markup.Node.get?, Markup.Node.attributes]

end Tables

/-- The fragments stand in the tree, each of them once, with its place or without. Apart
    from them the tree refers to nothing. -/
def HoldsAll (fragments : List Fragment) (tree : Markup.Node) : Prop :=
  ∃ (pairs : List (Fragment × PlacedTable)) (css : PlacedTable → String),
    (pairs.map Prod.fst).Perm fragments ∧ (∀ p ∈ pairs, ReadsAs p.1 p.2) ∧
    ∀ q, PassesOver q → tree.elementsBelow.filter q
      = pairs.flatMap fun p =>
          (Markup.Node.root [p.2.nodeWith (css p.2)]).elementsBelow.filter q

/-- Compiled fragments stand in their document. -/
theorem compileFragments_holdsAll (hconfig : config.IsPlain) (hbackground : background.IsPlain)
    {fragments : List Fragment} (hne : fragments ≠ [])
    (hdrafts : ∀ f ∈ fragments, ∃ t : PlacedTable, HasDraft names f t)
    (hnames : ∀ name ∈ names, '"' ∉ name.toList) {width height : K} {text : String}
    (h : compileFragments config fragments width height background = .ok text) :
    ∃ tree, Markup.parse text = .ok tree ∧ HoldsAll fragments tree := by
  rcases compileFragments_tree hconfig hbackground hne hdrafts hnames h with
    ⟨w, tall, pairs, -, horder, hreads, hparse⟩
  refine ⟨_, hparse, pairs, PlacedTable.unplacedCss, horder.rearranges.perm.symm, hreads,
    fun q hq => ?_⟩
  rw [search_documentTree hq, List.flatMap_map]
  simp only [elementsBelow_root]
  rfl

/-- In absolute layout fragments stand in their document if no name has a long code. -/
theorem absoluteDocument_holdsAll (hconfig : config.IsPlain) (hbackground : background.IsPlain)
    {fragments : List Fragment}
    (hdrafts : ∀ f ∈ fragments, ∃ t : PlacedTable, HasDraft names f t)
    (hnames : ∀ name ∈ names, '"' ∉ name.toList)
    (hcodes : ∀ name ∈ names, Text.hasLongCode name.toList = false) {width height : K}
    {text : String} (h : absoluteDocument config fragments width height background = .ok text) :
    ∃ tree, Markup.parse text = .ok tree ∧ HoldsAll fragments tree := by
  rcases exists_pairs hdrafts with ⟨pairs, rfl, hpairs⟩
  have hends : drafts pairs ≠ [] → HasSolidEnds (drafts pairs) := fun hne =>
    drafts_ends fun hnil => hne (by rw [hnil]; rfl)
  rcases absoluteDocument_parse hconfig hbackground h (drafts_writes hpairs) (drafts_tidy hpairs)
    hends (drafts_quotes hpairs hnames) with ⟨_, _, _, _, hparse⟩
  -- Every draft is decoded by itself, with the fragment that it belongs to.
  have hread : ∃ read, pairs.mapM decodePair = .ok read ∧
      read.map Prod.fst = pairs.map Prod.fst ∧ ∀ p ∈ read, ReadsAs p.1 p.2 := by
    clear hends hparse h hdrafts
    induction pairs with
    | nil => exact ⟨[], rfl, rfl, by simp⟩
    | cons p pairs ih =>
        rw [List.forall_mem_cons] at hpairs
        rcases hpairs.1.sound.decodes hcodes with ⟨t, ht⟩
        rcases ih hpairs.2 with ⟨read, hread, hfragments, hall⟩
        refine ⟨(p.1, t) :: read, mapM_cons_ok.mpr ⟨_, _, ?_, hread, rfl⟩, by
          rw [List.map_cons, List.map_cons, hfragments], List.forall_mem_cons.mpr
            ⟨readsAs_decoded hpairs.1 hnames ht, hall⟩⟩
        rw [decodePair, ht]
        rfl
  rcases hread with ⟨read, hread, hfragments, hall⟩
  have hdecode : Node.decodeAll (drafts pairs) = .ok (drafts read) := by
    rw [drafts_decode, hread]
    rfl
  rw [← drafts, hdecode] at hparse
  refine ⟨_, hparse, read, fun t => t.style.css, .of_eq hfragments, hall, fun q hq => ?_⟩
  rw [search_absoluteLayers hq, drafts, elementsAll_lines, List.flatMap_map,
    List.filter_flatMap]
  simp only [elementsBelow_root]
  rfl

/-- With exact numbers there is always a document in absolute layout. -/
theorem absoluteDocument_rat (config : Config Rat) (fragments : List Fragment)
    (width height : Rat) (background : Background) :
    ∃ text, absoluteDocument config fragments width height background = .ok text := by
  simp only [absoluteDocument, canvas, roundHalfUp_rat, ofInt?_rat, except_bind_ok,
    except_pure_ok]
  exact ⟨_, _, rfl, _, rfl, _, rfl, _, rfl, _, ⟨_, rfl, _, rfl, rfl⟩, rfl⟩

/-- The references of a fragment: the address of the picture that it shows, and the name of
    the link that it stands in. -/
structure References where
  source : Option String
  link : Option String

end Document

/-- Whenever the markup of a fragment is read, its references are found in it. -/
def Fragment.RefersTo (f : Fragment) (r : Document.References) : Prop :=
  ∀ tree, Markup.parse f.markup = .ok tree →
    tree.pictureSources = r.source.toList.map some ∧ tree.linkIds = r.link.toList.map some

namespace Document

open Markup

variable {K : Type} [Scalar K] {names : List String} {f : Fragment} {t : PlacedTable}

/-- Rows refer to their picture only, once they are decoded. -/
theorem showsOnly_decoded {rows rows' : List Markup.Node} {source : Option String}
    (h : ShowsOnly rows source) (hdecode : Node.decodeAll rows = .ok rows') :
    (Markup.Node.root rows').pictureSources = source.toList.map some ∧
      (Markup.Node.root rows').linkIds = [] := by
  cases source with
  | none =>
      have hrows := everywhereAll_decode isSelfContained_decoded rows h hdecode
      rw [Markup.Node.pictureSources, Markup.Node.linkIds, elementsBelow_root,
        filter_elementsAll isPicture_passesOver rows' hrows,
        filter_elementsAll isLinkPlaceholder_passesOver rows' hrows]
      exact ⟨rfl, rfl⟩
  | some source =>
      rcases h with ⟨width, height, rfl⟩
      rw [Render.imageRow_decode] at hdecode
      rw [← Except.ok.inj hdecode]
      exact ⟨rfl, rfl⟩

/-- A fragment refers to what is in its draft. -/
theorem refersTo_draft (h : HasDraft names f t) (hnames : ∀ name ∈ names, '"' ∉ name.toList)
    {source : Option String} (hshows : ShowsOnly t.rows source)
    (hlink : ∀ id ∈ t.link, '&' ∉ id.toList) : f.RefersTo ⟨source, t.link⟩ := by
  intro tree hparse
  have hdraft := parse_draft h hnames
  rw [hparse] at hdraft
  rcases except_map_ok.mp (mapError_ok.mp hdraft.symm) with ⟨nodes, hnodes, rfl⟩
  rcases except_map_ok.mp hnodes with ⟨t', hdecode, rfl⟩
  -- Without ampersands the name of the link is read as it is written.
  have hsame : t'.link = t.link := by
    rcases PlacedTable.decode_link hdecode with ⟨hnone, hnone'⟩ | ⟨id, value, hid, hvalue, hlink'⟩
    · rw [hnone, hnone']
    · rw [Text.decodeReferences_plain (hlink id hid)] at hvalue
      rw [hlink', hid, ← Except.ok.inj hvalue, String.ofList_toList]
  have hrows : Node.decodeAll t.rows = .ok t'.rows := by
    rcases PlacedTable.decode_ok hdecode with ⟨link, rows, rfl, -, hrows⟩
    exact hrows
  rcases showsOnly_decoded hshows hrows with ⟨hpictures, hlinks⟩
  rw [PlacedTable.node, pictureSources_nodeWith, linkIds_nodeWith, hpictures, hlinks, hsame]
  exact ⟨rfl, List.append_nil _⟩

/-- A fragment refers to the same things whatever the style of its table is. -/
theorem references_nodeWith {r : References} (h : f.RefersTo r) (hreads : ReadsAs f t)
    (css : String) :
    (Markup.Node.root [t.nodeWith css]).pictureSources = r.source.toList.map some ∧
      (Markup.Node.root [t.nodeWith css]).linkIds = r.link.toList.map some := by
  rcases h _ hreads.parse with ⟨hpictures, hlinks⟩
  rw [PlacedTable.node, pictureSources_nodeWith] at hpictures
  rw [PlacedTable.node, linkIds_nodeWith] at hlinks
  rw [pictureSources_nodeWith, linkIds_nodeWith]
  exact ⟨hpictures, hlinks⟩

/-- What is found in fragments one after another is what each of them refers to. -/
theorem references_pairs (css : PlacedTable → String) {pairs : List (Fragment × PlacedTable)}
    {refs : List References} (h : List.Forall₂ (fun p r => p.1.RefersTo r) pairs refs)
    (hreads : ∀ p ∈ pairs, ReadsAs p.1 p.2) :
    (pairs.flatMap fun p => (Markup.Node.root [p.2.nodeWith (css p.2)]).pictureSources)
        = (refs.filterMap References.source).map some ∧
      (pairs.flatMap fun p => (Markup.Node.root [p.2.nodeWith (css p.2)]).linkIds)
        = (refs.filterMap References.link).map some := by
  induction h with
  | nil => exact ⟨rfl, rfl⟩
  | @cons p r pairs refs hfirst hrest ih =>
      rw [List.forall_mem_cons] at hreads
      rcases references_nodeWith hfirst hreads.1 (css p.2) with ⟨hpictures, hlinks⟩
      rcases ih hreads.2 with ⟨hpictures', hlinks'⟩
      rw [List.flatMap_cons, List.flatMap_cons, hpictures, hlinks, hpictures', hlinks']
      rcases r with ⟨_ | source, _ | link⟩ <;> exact ⟨rfl, rfl⟩

/-- The references of a tree are those of the fragments that stand in it. -/
theorem HoldsAll.references {fragments : List Fragment} {tree : Markup.Node}
    (h : HoldsAll fragments tree) {refs : List References}
    (hrefs : List.Forall₂ Fragment.RefersTo fragments refs) :
    tree.pictureSources.Perm ((refs.filterMap References.source).map some) ∧
      tree.linkIds.Perm ((refs.filterMap References.link).map some) := by
  rcases h with ⟨pairs, css, hperm, hreads, hsearch⟩
  -- The references in the order in which the fragments stand in the tree.
  rcases List.perm_comp_forall₂ hperm hrefs with ⟨ordered, hordered, hrefsPerm⟩
  rw [List.forall₂_map_left_iff] at hordered
  rcases references_pairs css hordered hreads with ⟨hpictures, hlinks⟩
  rw [Markup.Node.pictureSources, Markup.Node.linkIds, hsearch _ isPicture_passesOver,
    hsearch _ isLinkPlaceholder_passesOver, List.map_flatMap, List.map_flatMap]
  exact ⟨.trans (.of_eq hpictures) ((hrefsPerm.filterMap _).map _),
    .trans (.of_eq hlinks) ((hrefsPerm.filterMap _).map _)⟩

end Document

end Letterpress
