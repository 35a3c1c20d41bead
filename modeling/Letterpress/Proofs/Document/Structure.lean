import Letterpress.Proofs.Document.Settled
import Letterpress.Proofs.Layout.Images
import Letterpress.Proofs.Layout.Sorting
import Letterpress.Proofs.Markup.Elements

/-!
# The Structure of a Table Layout

Fragments that are compiled are read one by one, sorted, and written into a document. What
this document reads as holds the same tables again, without their places.

Table layout loses no fragment, adds none and changes none. What a document reads as has
one container, and the elements in it are one table for each fragment, from top to bottom.
In such a table the fragment stands in the middle of three cells, or alone in its cell if
it is in a link. It is the table that its own markup reads as, but for the declarations
that placed it.

The container is told by its class. No text and no name can pretend to be one: classes are
written nowhere else.

## Main definitions

* `IsInOrder`: Fragments in the order of a table layout.
* `isContainerCell`: A cell with the class of the container.
* `IsUnplaced`: A table that has lost the declarations that place it, and nothing else.
* `IsUnplacedUnit`: The same for a table in a link.
* `IsSpacedTable`, `IsLinkedTable`: The tables around fragments.
* `IsTableOf`: A table in the container shows a fragment.

## Theorems

* `placedBefore_isStrictWeak`: Tops and left edges are compared strictly.
* `compileFragments_tree`: What compiled fragments read as.
* `compileFragments_settled`: Nothing can be taken out of compiled fragments.
* `filter_documentTree`: There is one container.
* `container_tables`: The elements of the container.
* `compileFragments_structure`: The structure of compiled fragments.
-/

namespace Letterpress.Document

open Markup
open Render (PlacedTable HasDraft)

variable {K : Type} [Scalar K] {config : Config K} {background : Background}
  {names : List String}

/-- Tops are compared first, and then left edges. -/
theorem placedBefore_iff (a b : Int × Int) :
    placedBefore a b = true ↔ a.1 < b.1 ∨ (a.1 = b.1 ∧ a.2 < b.2) := by
  unfold placedBefore
  split <;> simp <;> omega

theorem placedBefore_isStrictWeak : Layout.IsStrictWeak placedBefore := by
  refine ⟨fun a b hab => ?_, fun a b c hac => ?_⟩
  · rw [placedBefore_iff] at hab
    rw [Bool.eq_false_iff, ne_eq, placedBefore_iff]
    omega
  · rw [placedBefore_iff] at hac
    rw [placedBefore_iff, placedBefore_iff]
    omega

/-- The fragments in the order of a table layout. -/
def IsInOrder (fragments ordered : List Fragment) : Prop :=
  Layout.StablySorted (fun f g => placedBefore (f.top, f.left) (g.top, g.left)) fragments ordered

/-- A fragment in a document, with the tree that it reads as there. -/
def placedUnit (canvas : Int) (p : Fragment × PlacedTable) : Fragment × Markup.Node :=
  (liftedFrom canvas p.1 p.2, p.2.unplacedNode)

theorem placedUnit_aligned (canvas : Int) (p : Fragment × PlacedTable) :
    IsAligned (placedUnit canvas p).1 :=
  ⟨by change Text.IsInert "left"; decide, by change Text.IsInert "top"; decide⟩

theorem placedUnit_unit (canvas : Int) {p : Fragment × PlacedTable} (h : ReadsAs p.1 p.2) :
    IsUnitTree (placedUnit canvas p).2 :=
  ⟨Render.nodeWith_tidy h.read.tidy _, Render.nodeWith_isPlainText _,
    Render.unplacedNode_settled h.read⟩

theorem placedUnit_aligned_unit {pairs : List (Fragment × PlacedTable)}
    (h : ∀ p ∈ pairs, ReadsAs p.1 p.2) (canvas : Int) :
    ∀ q ∈ pairs.map (placedUnit canvas), IsAligned q.1 ∧ IsUnitTree q.2 := by
  intro q hq
  rcases List.mem_map.mp hq with ⟨p, hp, rfl⟩
  exact ⟨placedUnit_aligned canvas p, placedUnit_unit canvas (h p hp)⟩

theorem placedUnit_writes (canvas : Int) {p : Fragment × PlacedTable} (h : ReadsAs p.1 p.2) :
    Writes (placedUnit canvas p).1.markup [(placedUnit canvas p).2.escaped] :=
  writes_written _ _ (serialize_eq_written _ (placedUnit_unit canvas h).tidy)

/-- What compiled fragments read as: a document in table layout with the tables that the
    fragments read as, in order and without their places. -/
theorem compileFragments_tree (hconfig : config.IsPlain) (hbackground : background.IsPlain)
    {fragments : List Fragment} (hne : fragments ≠ [])
    (hdrafts : ∀ f ∈ fragments, ∃ t : PlacedTable, HasDraft names f t)
    (hnames : ∀ name ∈ names, '"' ∉ name.toList) {width height : K} {text : String}
    (h : compileFragments config fragments width height background = .ok text) :
    ∃ (w tall : Int) (pairs : List (Fragment × PlacedTable)),
      Scalar.roundHalfUp width = .ok w ∧ IsInOrder fragments (pairs.map Prod.fst) ∧
      (∀ p ∈ pairs, ReadsAs p.1 p.2) ∧
      Markup.parse text = .ok (Markup.Node.root
        (documentTree config w tall background (pairs.map (placedUnit w)))) := by
  rw [compileFragments, except_bind_ok] at h
  rcases h with ⟨lifted, hlift, htable⟩
  rcases lift_ok hdrafts hnames hlift with ⟨canvas, read, hcanvas, hfragments, hreads, rfl⟩
  have hkey := Layout.sortOn_stable placedBefore_isStrictWeak
    (fun p : Fragment × PlacedTable => (p.1.top, p.1.left)) read
  -- The places of fragments are not changed by lifting them, so neither is their order.
  have horder : inReadingOrder (read.map fun p => liftedFrom canvas p.1 p.2)
      = (Layout.sortOn placedBefore (fun p : Fragment × PlacedTable => (p.1.top, p.1.left))
          read).map fun p => liftedFrom canvas p.1 p.2 :=
    Layout.sortOn_images _ placedBefore (fun f : Fragment => (f.top, f.left)) read
  generalize Layout.sortOn placedBefore (fun p : Fragment × PlacedTable => (p.1.top, p.1.left)) read
    = pairs at hkey horder
  have hall : ∀ p ∈ pairs, ReadsAs p.1 p.2 := fun p hp =>
    hreads p (hkey.rearranges.perm.symm.subset hp)
  have hsorted : IsInOrder fragments (pairs.map Prod.fst) := by
    rw [← hfragments]
    exact hkey.map (placedBefore_isStrictWeak.onKey fun f : Fragment => (f.top, f.left)) Prod.fst
  have hpairs : pairs ≠ [] := by
    rintro rfl
    have hperm := hsorted.rearranges.perm
    rw [List.map_nil] at hperm
    exact hne hperm.eq_nil
  have hwritten : ∀ q ∈ escapedUnits (pairs.map (placedUnit canvas)), Writes q.1.markup [q.2] := by
    intro q hq
    rcases List.mem_map.mp hq with ⟨q', hq', rfl⟩
    rcases List.mem_map.mp hq' with ⟨p, hp, rfl⟩
    exact placedUnit_writes canvas (hall p hp)
  have hfirst : inReadingOrder (read.map fun p => liftedFrom canvas p.1 p.2)
      = (escapedUnits (pairs.map (placedUnit canvas))).map Prod.fst := by
    rw [horder, escapedUnits, List.map_map, List.map_map]
    rfl
  have hunits : escapedUnits (pairs.map (placedUnit canvas)) ≠ [] := by
    simpa [escapedUnits] using hpairs
  rcases writes_tableDocument hunits hfirst hwritten htable with ⟨w, hw, hwrites⟩
  obtain rfl : w = canvas := by simpa [hw] using hcanvas
  refine ⟨w, containerHeight config (read.map fun p => liftedFrom w p.1 p.2), pairs, hw, hsorted,
    hall, ?_⟩
  exact parse_tableDocument hconfig hbackground (by simpa using hpairs)
    (placedUnit_aligned_unit hall w) hwrites

/-- Nothing can be taken out of compiled fragments, so compiling them again changes
    nothing. Both only fail if the width is no number of pixels. -/
theorem compileFragments_settled (hconfig : config.IsPlain) (hbackground : background.IsPlain)
    {fragments : List Fragment} (hne : fragments ≠ [])
    (hdrafts : ∀ f ∈ fragments, ∃ t : PlacedTable, HasDraft names f t)
    (hnames : ∀ name ∈ names, '"' ∉ name.toList) {width height : K} {text : String}
    (h : compileFragments config fragments width height background = .ok text)
    (other : Config K) (anyWidth : K) :
    extract other text anyWidth = (do let _ ← Scalar.roundHalfUp anyWidth; return []) ∧
      ∀ anyHeight anyBackground, compile other text anyWidth anyHeight anyBackground
        = (do let _ ← Scalar.roundHalfUp anyWidth; return text) := by
  rw [compileFragments, except_bind_ok] at h
  rcases h with ⟨lifted, hlift, htable⟩
  rcases lift_ok hdrafts hnames hlift with ⟨canvas, read, -, hfragments, hreads, rfl⟩
  have hliftedNe : (read.map fun p => liftedFrom canvas p.1 p.2) ≠ [] := by
    rw [ne_eq, List.map_eq_nil_iff]
    rintro rfl
    exact hne hfragments.symm
  refine tableDocument_settled hconfig hbackground hliftedNe ?_ ?_ htable other anyWidth
  · -- The tables have lost their places, and no table in them ever had one.
    intro f hf
    rcases List.mem_map.mp hf with ⟨p, hp, rfl⟩
    have hunit := placedUnit_unit canvas (hreads p hp)
    exact ⟨p.2.unplacedNode, ⟨rfl, hunit.tidy, hunit.solid⟩,
      hunit.settled.mono (fun _ _ => IsSettled.still) _⟩
  · intro f hf
    rcases List.mem_map.mp hf with ⟨p, -, rfl⟩
    have hleft : ∀ value ∈ ["left", "top"], '"' ∉ value.toList := by decide
    have hcodes : ∀ value ∈ ["left", "top"], Text.hasLongCode value.toList = false := by decide
    exact ⟨hleft, hcodes⟩

/-- The element is a cell with the class of the container. -/
def isContainerCell (n : Markup.Node) : Bool :=
  n.tag? = some "td" && n.get? "class" = some "email-container"

/-- The second table is the first one without the declarations that place it. -/
structure IsUnplaced (table table' : Markup.Node) : Prop where
  positioned : isPositionedTable table = true
  css : ∃ css, table' = table.set "style" css ∧ Style.readStyle css
    = (Style.readStyle (styleOf table)).filter fun d =>
        !placingProperties.contains (Text.lowerString d.property)

/-- The second node is the first one, in which the table has lost its place. -/
def IsUnplacedUnit (linked : Bool) (original unit : Markup.Node) : Prop :=
  if linked then
    ∃ id table table', original = .element "div" [("data-link-placeholder-id", some id)] [table] ∧
      unit = .element "div" [("data-link-placeholder-id", some id)] [table'] ∧
      IsUnplaced table table'
  else IsUnplaced original unit

/-- A table with a row of three cells of the given widths, and the unit alone in the
    middle one. -/
def IsSpacedTable (widths : List Int) (unit table : Markup.Node) : Prop :=
  ∃ as left middle right, table = .element "table" as [.element "tr" [] [left, middle, right]] ∧
    (∀ cell ∈ [left, middle, right], cell.tag? = some "td") ∧
    [left, middle, right].map (fun cell => cell.get? "width")
      = widths.map (fun width => some (toString width)) ∧
    left.children = [] ∧ middle.children = [unit] ∧ right.children = []

/-- A table with a single cell, and the unit alone in it. -/
def IsLinkedTable (unit table : Markup.Node) : Prop :=
  ∃ as cell, table = .element "table" as [.element "tr" [] [cell]] ∧ cell.tag? = some "td" ∧
    cell.children = [unit]

/-- The table shows a fragment in a container for a canvas of the given width, with borders
    on both sides. What it shows is what the fragment's own markup reads as, without its
    place. -/
def IsTableOf (canvas border : Int) (f : Fragment) (table : Markup.Node) : Prop :=
  ∃ original unit, Markup.parse f.markup = .ok (Markup.Node.root [original]) ∧
    IsUnplacedUnit f.linkWrapped original unit ∧
    if f.linkWrapped then IsLinkedTable unit table
    else
      IsSpacedTable [max 0 f.left, min f.width canvas,
        max 0 (canvas - 2 * border - max 0 f.left - min f.width canvas)] unit table

section Units

variable {f : Fragment} {t : PlacedTable}

/-- A placed table that loses its place keeps its other declarations. -/
theorem isUnplaced_tableWith (t : PlacedTable) :
    IsUnplaced (t.tableWith t.style.css) (t.tableWith t.unplacedCss) := by
  refine ⟨Render.isPositionedTable_placed, _, Render.unplaced_tableWith.symm, ?_⟩
  rw [Render.styleOf_tableWith]
  exact Style.readStyle_without Document.placingProperties t.style.css

theorem isUnplacedUnit_node (t : PlacedTable) :
    IsUnplacedUnit t.link.isSome t.node t.unplacedNode := by
  rw [PlacedTable.node, PlacedTable.unplacedNode, PlacedTable.nodeWith, PlacedTable.nodeWith]
  cases t.link with
  | none => exact isUnplaced_tableWith t
  | some id => exact ⟨id, _, _, rfl, rfl, isUnplaced_tableWith t⟩

/-- The table of a fragment. -/
def tableNode (f : Fragment) (innerWidth : Int) (unit : Markup.Node) : Markup.Node :=
  if f.linkWrapped then
    Layer.around ⟨"table", layoutTable f.width (widthCss f.width), [], []⟩
      [(rowLayer [] []).around [(linkedCell f).around [unit]]]
  else
    Layer.around ⟨"table", layoutTable innerWidth (widthCss innerWidth), [], []⟩
      [(rowLayer [spacerCell (max 0 f.left)]
        [spacerCell (max 0 (innerWidth - max 0 f.left - f.width))]).around
          [(spacedCell f).around [unit]]]

theorem inLayers_fragmentLayers (f : Fragment) (innerWidth : Int) (unit : Markup.Node) :
    inLayers (fragmentLayers f innerWidth) [unit] = [tableNode f innerWidth unit] := by
  unfold fragmentLayers tableNode
  cases f.linkWrapped <;> rfl

theorem tableNode_isElement (f : Fragment) (innerWidth : Int) (unit : Markup.Node) :
    (tableNode f innerWidth unit).isElement = true := by
  unfold tableNode
  cases f.linkWrapped <;> rfl

/-- The table of a fragment in a link. -/
theorem tableNode_linked (h : f.linkWrapped = true) (innerWidth : Int) (unit : Markup.Node) :
    IsLinkedTable unit (tableNode f innerWidth unit) := by
  unfold tableNode
  rw [if_pos h]
  exact ⟨_, (linkedCell f).around [unit], rfl, rfl, rfl⟩

/-- The table of a fragment between empty cells. -/
theorem tableNode_spaced (h : f.linkWrapped = false) (innerWidth : Int) (unit : Markup.Node) :
    IsSpacedTable [max 0 f.left, f.width, max 0 (innerWidth - max 0 f.left - f.width)] unit
      (tableNode f innerWidth unit) := by
  unfold tableNode
  rw [h, if_neg Bool.false_ne_true]
  refine ⟨_, _, (spacedCell f).around [unit], _, rfl, ?_, ?_, rfl, rfl, rfl⟩
  · simp only [List.forall_mem_cons]
    exact ⟨rfl, rfl, rfl, by simp⟩
  · simp only [List.map_cons, List.map_nil, spacerCell, spacedCell, Layer.around,
      Markup.Node.get?, Markup.Node.attributes, List.lookup_cons, beq_self_eq_true,
      Option.map_some, Option.getD_some]

/-- The table of a fragment that was read shows it. -/
theorem isTableOf_placedUnit {canvas : Int} {p : Fragment × PlacedTable} (h : ReadsAs p.1 p.2)
    (border : Int) :
    IsTableOf canvas border p.1
      (tableNode (placedUnit canvas p).1 (canvas - 2 * border) (placedUnit canvas p).2) := by
  refine ⟨p.2.node, p.2.unplacedNode, h.parse, ?_, ?_⟩
  · rw [h.linkWrapped]
    exact isUnplacedUnit_node p.2
  · cases hlinked : p.1.linkWrapped with
    | true =>
        rw [if_pos rfl]
        exact tableNode_linked (f := (placedUnit canvas p).1) hlinked _ _
    | false =>
        rw [if_neg Bool.false_ne_true]
        exact tableNode_spaced (f := (placedUnit canvas p).1) hlinked _ _

end Units

section Container

variable {w tall : Int} {placed : List (Fragment × Markup.Node)}

/-- The container with its tables. -/
def containerNode (config : Config K) (w tall : Int) (background : Background)
    (placed : List (Fragment × Markup.Node)) : Markup.Node :=
  (containerCell config w tall background).around
    (containerNodes (w - 2 * config.containerBorder) placed)

theorem containerNode_isContainer :
    isContainerCell (containerNode config w tall background placed) = true := by
  simp [isContainerCell, containerNode, containerCell, cellLayer, Layer.around, Markup.Node.tag?,
    Markup.Node.get?, Markup.Node.attributes, containerAttributes, List.lookup_cons]

/-- An element without a class is not the container. -/
theorem isContainerCell_settled (tag : String) (as : List Attribute) (children : List Markup.Node)
    (h : IsSettled tag as) : isContainerCell (.element tag as children) = false := by
  rw [isContainerCell, Markup.Node.get?, Markup.Node.attributes, h.1, Option.map_none]
  exact Bool.and_false _

/-- There is one container in a document. -/
theorem filter_documentTree (hconfig : config.IsPlain)
    (hplaced : ∀ p ∈ placed, IsAligned p.1 ∧ IsUnitTree p.2) :
    (Markup.Node.root (documentTree config w tall background placed)).elementsBelow.filter
        isContainerCell = [containerNode config w tall background placed] := by
  -- The shells around the container and everything inside it are settled, so without a class.
  have hinside : (containerNode config w tall background placed).elementsBelow.filter
      isContainerCell = [] := by
    have hbefore : Node.EverywhereAll IsSettled (containerCell config w tall background).before :=
      ⟨trivial, trivial, trivial, trivial⟩
    have hafter : Node.EverywhereAll IsSettled (containerCell config w tall background).after :=
      ⟨trivial, trivial, trivial, trivial⟩
    rw [containerNode, filter_around isContainerCell_settled hbefore hafter]
    exact filter_elementsAll isContainerCell_settled _ (containerNodes_settled hplaced)
  have hself : (Markup.Node.elementsAll [containerNode config w tall background placed]).filter
      isContainerCell = [containerNode config w tall background placed] := by
    have hin : (containerNode config w tall background placed).elementsIn
        = containerNode config w tall background placed
          :: (containerNode config w tall background placed).elementsBelow := rfl
    rw [elementsAll_cons, hin, Markup.Node.elementsAll, List.flatMap_nil, List.append_nil,
      List.filter_cons_of_pos containerNode_isContainer, hinside]
  rw [Markup.Node.root, elementsBelow_element, documentTree, page, elementsAll_cons,
    elementsAll_cons, elementsIn_leaf rfl, elementsIn_leaf rfl, List.nil_append, List.nil_append,
    filter_inLayers isContainerCell_settled fun l hl =>
      (documentLayers_shells hconfig w tall l hl).settled]
  exact hself

/-- The elements of the container are the tables of the fragments. -/
theorem container_tables :
    (containerNode config w tall background placed).elementChildren
      = placed.map fun p => tableNode p.1 (w - 2 * config.containerBorder) p.2 := by
  have htables : (containerNodes (w - 2 * config.containerBorder) placed).filter
      Markup.Node.isElement
        = placed.map fun p => tableNode p.1 (w - 2 * config.containerBorder) p.2 := by
    rw [containerNodes, elements_lines, List.flatMap_map, List.map_eq_flatMap]
    congr 1
    funext p
    have htable := tableNode_isElement p.1 (w - 2 * config.containerBorder) p.2
    rw [fragmentNodes, inLayers_fragmentLayers, List.filter_cons_of_neg Bool.false_ne_true,
      List.singleton_append, List.filter_cons_of_pos htable,
      List.filter_cons_of_neg Bool.false_ne_true, List.filter_nil]
  -- Around the tables there are only line ends and comments.
  have hbefore :
      (containerCell config w tall background).before.filter Markup.Node.isElement = [] :=
    rfl
  have hafter : (containerCell config w tall background).after.filter Markup.Node.isElement = [] :=
    rfl
  rw [Markup.Node.elementChildren, containerNode, Layer.around, Markup.Node.children,
    List.filter_append, List.filter_append, hbefore, hafter, htables, List.nil_append,
    List.append_nil]

end Container

/-- What compiled fragments read as: a document with one container, in which there is one
    table for each fragment, in their order on the page, and no other element. -/
theorem compileFragments_structure (hconfig : config.IsPlain) (hbackground : background.IsPlain)
    {fragments : List Fragment} (hne : fragments ≠ [])
    (hdrafts : ∀ f ∈ fragments, ∃ t : PlacedTable, HasDraft names f t)
    (hnames : ∀ name ∈ names, '"' ∉ name.toList) {width height : K} {text : String}
    (h : compileFragments config fragments width height background = .ok text) :
    ∃ (canvas : Int) (tree cell : Markup.Node) (ordered : List Fragment),
      Scalar.roundHalfUp width = .ok canvas ∧ Markup.parse text = .ok tree ∧
      tree.elementsBelow.filter isContainerCell = [cell] ∧ IsInOrder fragments ordered ∧
      List.Forall₂ (IsTableOf canvas config.containerBorder) ordered cell.elementChildren := by
  rcases compileFragments_tree hconfig hbackground hne hdrafts hnames h with
    ⟨canvas, tall, pairs, hcanvas, horder, hreads, hparse⟩
  refine ⟨canvas, _, _, pairs.map Prod.fst, hcanvas, hparse,
    filter_documentTree hconfig (placedUnit_aligned_unit hreads canvas), horder, ?_⟩
  -- Fragments and tables come from the same list of pairs, so they are compared pair by pair.
  rw [container_tables, List.map_map, List.forall₂_map_left_iff, List.forall₂_map_right_iff]
  exact List.forall₂_same.mpr fun p hp => isTableOf_placedUnit (hreads p hp) _

end Letterpress.Document
