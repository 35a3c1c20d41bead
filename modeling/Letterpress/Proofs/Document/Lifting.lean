import Letterpress.Document.TableLayout
import Letterpress.Proofs.Markup.Reading
import Letterpress.Proofs.Render.Drafts

/-!
# Lifting Drafts

The markup of a fragment is read and written again without its place. What a sound
draft reads as is a placed table with the same numbers, so all that happens to it is
that the table loses its place; the fragment keeps its own numbers, but for a width
beyond the canvas.

Reading fails on names with long codes, and on numbers too long to be read.

## Main definitions

* `ReadsAs`: The fragment reads as a placed table at its own place.
* `liftedFrom`: The fragment with the table it reads as, without its place.

## Theorems

* `parse_draft`, `readsAs_draft`, `extractOn_draft`: What a draft reads as, and what is taken
  out of it.
* `lift_drafts`: What becomes of drafts with short numbers.
* `lift_ok`: What has become of fragments that were lifted.
-/

namespace Letterpress.Document

open Markup (Writes)
open Render (PlacedTable HasDraft)

variable {K : Type} [Scalar K] {config : Config K} {names : List String} {f : Fragment}
  {t : PlacedTable}

/-- The fragment reads as a placed table at its own place. -/
structure ReadsAs (f : Fragment) (t : PlacedTable) : Prop where
  parse : Markup.parse f.markup = .ok (Markup.Node.root [t.node])
  read : t.IsRead
  left : f.left = t.left
  top : f.top = t.top
  width : f.width = t.width
  height : ∀ h ∈ t.height, f.height = h
  linkWrapped : f.linkWrapped = t.link.isSome

/-- The fragment on a canvas with the table it reads as, without its place. -/
def liftedFrom (canvas : Int) (f : Fragment) (t : PlacedTable) : Fragment :=
  { markup := t.unplacedNode.serialize
    left := f.left
    top := f.top
    width := min f.width canvas
    height := f.height
    linkWrapped := f.linkWrapped }

/-- Decoding a placed table decodes its rows and its link. -/
theorem node_decode (t : PlacedTable) : t.node.decode = PlacedTable.node <$> t.decode := by
  rw [PlacedTable.node, Render.nodeWith_decode (Render.placed_inert t)]
  cases hdecode : t.decode with
  | error e => rfl
  | ok t' =>
      rcases Render.PlacedTable.decode_ok hdecode with ⟨link, rows, rfl, -, -⟩
      rfl

theorem decodeAll_node (t : PlacedTable) :
    Markup.Node.decodeAll [t.node] = (fun t' => [PlacedTable.node t']) <$> t.decode := by
  rw [Markup.Node.decodeAll, Markup.Node.decodeAll, node_decode]
  cases t.decode <;> rfl

/-- What a draft reads as. -/
theorem parse_draft (h : HasDraft names f t) (hnames : ∀ name ∈ names, '"' ∉ name.toList) :
    Markup.parse f.markup
      = (Markup.Node.root <$> (fun t' => [PlacedTable.node t']) <$> t.decode).mapError
          MarkupError.numeral := by
  have hwrites : Writes f.markup [t.node] := Markup.writes_written _ _ h.draft.markup
  have htidy : Markup.Node.TidyAll [t.node] :=
    ⟨Render.nodeWith_tidy h.sound.tidy _, fun _ => rfl, trivial⟩
  have hquotes : Markup.Node.InQuotesAll [t.node] := Markup.inQuotesAll_values hnames
    ⟨Render.nodeWith_values h.sound (Render.placed_inert t), trivial⟩
  rw [Markup.parse_written hwrites htidy hquotes, decodeAll_node]

/-- What a draft that can be decoded reads as. -/
theorem readsAs_decoded (h : HasDraft names f t) (hnames : ∀ name ∈ names, '"' ∉ name.toList)
    {t' : PlacedTable} (hdecode : t.decode = .ok t') : ReadsAs f t' := by
  have hread := h.sound.decode hdecode
  have hparse := parse_draft h hnames
  rw [hdecode] at hparse
  rcases Render.PlacedTable.decode_ok hdecode with ⟨link, rows, rfl, hlink, -⟩
  exact ⟨hparse, hread, h.draft.left, h.draft.top, h.draft.width, h.draft.height,
    h.draft.linkWrapped.trans hlink.symm⟩

/-- Without long codes in its names, a draft reads as a placed table with its numbers, the
    rows that its rows are decoded to, and the link that is named so. -/
theorem readsAs_draft (h : HasDraft names f t) (hnames : ∀ name ∈ names, '"' ∉ name.toList)
    (hcodes : ∀ name ∈ names, Text.hasLongCode name.toList = false) :
    ∃ link rows, ReadsAs f { t with link, rows } ∧
      ((t.link = none ∧ link = none) ∨ ∃ id value, t.link = some id ∧
        Text.decodeReferences id.toList = .ok value ∧ link = some (String.ofList value)) ∧
      Markup.Node.decodeAll t.rows = .ok rows := by
  rcases h.sound.decodes hcodes with ⟨t', hdecode⟩
  have hreads := readsAs_decoded h hnames hdecode
  have hlink := PlacedTable.decode_link hdecode
  rcases PlacedTable.decode_ok hdecode with ⟨link, rows, rfl, -, hrows⟩
  exact ⟨link, rows, hreads, hlink, hrows⟩

/-- What is taken out of a draft. -/
theorem extractOn_draft (h : HasDraft names f t) (hnames : ∀ name ∈ names, '"' ∉ name.toList)
    (canvas : Int) :
    extractOn config f.markup (.ok canvas)
      = (t.decode.mapError fun e => Fault.markup (.numeral e)) >>= fun t' =>
          (extractIn config canvas t'.node).mapError Fault.numeral := by
  rw [extractOn_parsed (parse_draft h hnames)]
  cases t.decode with
  | error e => rfl
  | ok t' => exact congrArg (Except.mapError Fault.numeral) (extractAll_singleton t'.node)

theorem extractOn_ok {markup : String} {canvas : Except NumberError Int} {fs : List Fragment}
    (h : extractOn config markup canvas = .ok fs) :
    ∃ c, canvas = .ok c ∧ extractOn config markup (.ok c) = .ok fs := by
  cases canvas with
  | error e =>
      simp only [extractOn, except_bind_ok] at h
      rcases h with ⟨tree, -, c, hc, -⟩
      exact absurd (number_ok.mp hc) (by simp)
  | ok c => exact ⟨c, rfl, h⟩

/-- One fragment without its place; nothing if there is no positioned table in it. -/
def liftOne (config : Config K) (canvas : Int) (f : Fragment) : Except Fault (Option Fragment) := do
  let extracted ← extractOn config f.markup (Scalar.roundInt (K := K) canvas)
  return extracted.head?.map fun e =>
    { e with
      left := f.left
      top := f.top
      width := min f.width canvas
      height := f.height
      linkWrapped := e.linkWrapped || f.linkWrapped }

theorem lift_eq (fragments : List Fragment) (width : K) :
    lift config fragments width = do
      let canvas ← Scalar.roundHalfUp width
      let lifted ← fragments.mapM (liftOne config canvas)
      return lifted.filterMap id :=
  rfl

/-- What is left of a fragment keeps its place and its size, but for what lies beyond the
    canvas. -/
theorem liftOne_geometry {canvas : Int} {g : Fragment}
    (h : liftOne config canvas f = .ok (some g)) :
    g.left = f.left ∧ g.top = f.top ∧ g.width = min f.width canvas ∧ g.height = f.height := by
  rw [liftOne, except_bind_ok] at h
  rcases h with ⟨extracted, -, hself⟩
  rw [except_pure_ok, Option.map_eq_some_iff] at hself
  rcases hself with ⟨e, -, rfl⟩
  exact ⟨rfl, rfl, rfl, rfl⟩

theorem taken_lifted {canvas c : Int} (h : ReadsAs f t) :
    { t.taken config c with
      left := f.left
      top := f.top
      width := min f.width canvas
      height := f.height
      linkWrapped := (t.taken config c).linkWrapped || f.linkWrapped } = liftedFrom canvas f t := by
  have hlink : (t.link.isSome || f.linkWrapped) = f.linkWrapped := by
    rw [h.linkWrapped, Bool.or_self]
  simp only [PlacedTable.taken, hlink, liftedFrom]

/-- A draft that was lifted has been read, and has lost its place. -/
theorem liftOne_ok (h : HasDraft names f t) (hnames : ∀ name ∈ names, '"' ∉ name.toList)
    {canvas : Int} {lifted : Option Fragment} (hlift : liftOne config canvas f = .ok lifted) :
    ∃ t', ReadsAs f t' ∧ lifted = some (liftedFrom canvas f t') := by
  rw [liftOne, except_bind_ok] at hlift
  rcases hlift with ⟨extracted, hextract, hlifted⟩
  -- The width of the canvas is rounded once more, but it only bounds the width of the table,
  -- which is bounded by the canvas again.
  rcases extractOn_ok hextract with ⟨c, -, hextract⟩
  rw [extractOn_draft h hnames, except_bind_ok] at hextract
  rcases hextract with ⟨t', hdecode, hextract⟩
  rw [mapError_ok] at hdecode hextract
  have hreads := readsAs_decoded h hnames hdecode
  rw [Render.extractIn_node config c (Render.isReadable_of_extractIn config c hextract)] at hextract
  rw [← Except.ok.inj hextract, except_pure_ok, List.head?_cons, Option.map_some,
    taken_lifted hreads] at hlifted
  exact ⟨t', hreads, hlifted.symm⟩

theorem filterMap_made {α β : Type} (l : List α) (g : α → β) :
    (l.map fun a => some (g a)).filterMap id = l.map g := by
  simp [List.filterMap_map]

/-- Fragments that were lifted have been read, and have lost their places. -/
theorem lift_ok {fragments lifted : List Fragment} {width : K}
    (h : ∀ f ∈ fragments, ∃ t : PlacedTable, HasDraft names f t)
    (hnames : ∀ name ∈ names, '"' ∉ name.toList)
    (hlift : lift config fragments width = .ok lifted) :
    ∃ (canvas : Int) (pairs : List (Fragment × PlacedTable)),
      Scalar.roundHalfUp width = .ok canvas ∧ pairs.map Prod.fst = fragments ∧
      (∀ p ∈ pairs, ReadsAs p.1 p.2) ∧ lifted = pairs.map fun p => liftedFrom canvas p.1 p.2 := by
  rw [lift_eq, except_bind_ok] at hlift
  rcases hlift with ⟨canvas, hcanvas, hlift⟩
  rw [except_bind_ok] at hlift
  rcases hlift with ⟨made, hmade, hlifted⟩
  rw [except_pure_ok] at hlifted
  -- Every draft is lifted to something, so nothing is dropped from the list.
  have hpairs : ∃ pairs : List (Fragment × PlacedTable), pairs.map Prod.fst = fragments ∧
      (∀ p ∈ pairs, ReadsAs p.1 p.2) ∧
      made = pairs.map fun p => some (liftedFrom canvas p.1 p.2) := by
    clear hlifted
    induction fragments generalizing made with
    | nil =>
        rw [List.mapM_nil, except_pure_ok] at hmade
        exact ⟨[], rfl, by simp, hmade.symm⟩
    | cons f fragments ih =>
        rcases mapM_cons_ok.mp hmade with ⟨first, rest, hfirst, hrest, rfl⟩
        rw [List.forall_mem_cons] at h
        rcases h.1 with ⟨t, ht⟩
        rcases liftOne_ok ht hnames hfirst with ⟨t', hreads, rfl⟩
        rcases ih h.2 rest hrest with ⟨pairs, hfragments, hall, rfl⟩
        exact ⟨(f, t') :: pairs, by rw [List.map_cons, hfragments],
          List.forall_mem_cons.mpr ⟨hreads, hall⟩, rfl⟩
  rcases hpairs with ⟨pairs, hfragments, hall, rfl⟩
  refine ⟨canvas, pairs, number_ok.mp hcanvas, hfragments, hall, ?_⟩
  rw [← hlifted, filterMap_made]

theorem isReadable_decode {t' : PlacedTable} (h : t.IsReadable) (hdecode : t.decode = .ok t') :
    t'.IsReadable := by
  rcases Render.PlacedTable.decode_ok hdecode with ⟨link, rows, rfl, -, -⟩
  exact ⟨h.left, h.top, h.width, h.height⟩

theorem isReadable_decoded {t' : PlacedTable} (h : t'.IsReadable) (hdecode : t.decode = .ok t') :
    t.IsReadable := by
  rcases Render.PlacedTable.decode_ok hdecode with ⟨link, rows, rfl, -, -⟩
  exact ⟨h.left, h.top, h.width, h.height⟩

/-- Only drafts with short numbers are lifted. -/
theorem isReadable_of_lift {pairs : List (Fragment × PlacedTable)}
    (h : ∀ p ∈ pairs, HasDraft names p.1 p.2) (hnames : ∀ name ∈ names, '"' ∉ name.toList)
    {width : K} {lifted : List Fragment}
    (hlift : lift config (pairs.map Prod.fst) width = .ok lifted) :
    ∀ p ∈ pairs, p.2.IsReadable := by
  rw [lift_eq, except_bind_ok] at hlift
  rcases hlift with ⟨canvas, -, hlift⟩
  rw [except_bind_ok] at hlift
  rcases hlift with ⟨made, hmade, -⟩
  intro p hp
  -- Each of the fragments has been lifted, so the numbers of each have been read.
  rcases mapM_ok_mem hmade (List.mem_map_of_mem hp) with ⟨one, -, hone⟩
  rw [liftOne, except_bind_ok] at hone
  rcases hone with ⟨extracted, hextract, -⟩
  rcases extractOn_ok hextract with ⟨c, -, hextract⟩
  rw [extractOn_draft (h p hp) hnames, except_bind_ok] at hextract
  rcases hextract with ⟨t', hdecode, hextract⟩
  rw [mapError_ok] at hdecode hextract
  exact isReadable_decoded (Render.isReadable_of_extractIn config c hextract) hdecode

/-- Fragments with what they are related to, as pairs. -/
theorem exists_pairs {α : Type} {R : Fragment → α → Prop} {fragments : List Fragment}
    (h : ∀ f ∈ fragments, ∃ t, R f t) :
    ∃ pairs : List (Fragment × α), pairs.map Prod.fst = fragments ∧ ∀ p ∈ pairs, R p.1 p.2 := by
  induction fragments with
  | nil => exact ⟨[], rfl, by simp⟩
  | cons f fragments ih =>
      rw [List.forall_mem_cons] at h
      rcases h.1 with ⟨t, ht⟩
      rcases ih h.2 with ⟨pairs, hfragments, hall⟩
      exact ⟨(f, t) :: pairs, by rw [List.map_cons, hfragments],
        List.forall_mem_cons.mpr ⟨ht, hall⟩⟩

/-- A draft with the table that it reads as. -/
def decodePair (p : Fragment × PlacedTable) : Except NumeralError (Fragment × PlacedTable) :=
  (fun t => (p.1, t)) <$> p.2.decode

/-- A draft with short numbers loses its place. -/
theorem liftOne_draft (h : HasDraft names f t) (hnames : ∀ name ∈ names, '"' ∉ name.toList)
    (hreadable : t.IsReadable) {canvas c : Int}
    (hcanvas : Scalar.roundInt (K := K) canvas = .ok c) :
    liftOne config canvas f = (fun p => some (liftedFrom canvas p.1 p.2))
      <$> ((decodePair (f, t)).mapError fun e => Fault.markup (.numeral e)) := by
  rw [liftOne, hcanvas, extractOn_draft h hnames, decodePair]
  cases hdecode : t.decode with
  | error e => rfl
  | ok t' =>
      have htaken := @taken_lifted _ _ config _ _ canvas c (readsAs_decoded h hnames hdecode)
      change ((extractIn config c t'.node).mapError Fault.numeral >>= _) = _
      rw [Render.extractIn_node config c (isReadable_decode hreadable hdecode)]
      exact congrArg (fun f => Except.ok (some f)) htaken

/-- Drafts with short numbers are read one by one and lose their places. -/
theorem lift_drafts {pairs : List (Fragment × PlacedTable)}
    (h : ∀ p ∈ pairs, HasDraft names p.1 p.2) (hnames : ∀ name ∈ names, '"' ∉ name.toList)
    (hreadable : ∀ p ∈ pairs, p.2.IsReadable) {width : K} {canvas c : Int}
    (hwidth : Scalar.roundHalfUp width = .ok canvas)
    (hcanvas : Scalar.roundInt (K := K) canvas = .ok c) :
    lift config (pairs.map Prod.fst) width
      = (fun pairs' => pairs'.map fun p => liftedFrom canvas p.1 p.2)
          <$> ((pairs.mapM decodePair).mapError fun e => Fault.markup (.numeral e)) := by
  have hmade : (pairs.map Prod.fst).mapM (liftOne config canvas)
      = (fun pairs' => pairs'.map fun p => some (liftedFrom canvas p.1 p.2))
          <$> ((pairs.mapM decodePair).mapError fun e => Fault.markup (.numeral e)) := by
    induction pairs with
    | nil => rfl
    | cons p pairs ih =>
        rw [List.forall_mem_cons] at h hreadable
        rw [List.map_cons, List.mapM_cons, List.mapM_cons, ih h.2 hreadable.2,
          liftOne_draft h.1 hnames hreadable.1 hcanvas]
        -- The first draft that cannot be decoded stops the reading of all.
        change ((fun p => some (liftedFrom canvas p.1 p.2)) <$> ((decodePair p).mapError _)
          >>= _) = _
        cases decodePair p with
        | error e => rfl
        | ok first => cases pairs.mapM decodePair <;> rfl
  rw [lift_eq, hwidth]
  change ((pairs.map Prod.fst).mapM (liftOne config canvas) >>= _) = _
  rw [hmade]
  cases pairs.mapM decodePair with
  | error e => rfl
  | ok pairs' =>
      exact congrArg Except.ok (filterMap_made pairs' fun p => liftedFrom canvas p.1 p.2)

end Letterpress.Document
