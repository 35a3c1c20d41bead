import Letterpress.Proofs.Document.Modest
import Letterpress.Proofs.Number.Modest
import Letterpress.Proofs.Walk.Drafts
import Letterpress.Proofs.Walk.Offset

/-!
# Geometry of Fragments

The place and the size of a fragment are kept twice: as numbers beside its markup, and in
the style of the table that its markup is. The two are computed and written separately, and
they agree. What is taken out of the markup of a fragment is a single fragment, in its
place, with its width and its link. The height is that of the fragment as well, unless
there is none to be read: regions that are rebuilt declare no height, and a height of zero
counts as none.

The numbers in a style are pixels that measures of the design round to. The height of a
region that is rebuilt is counted from its rows, and in the course of a visit a scalar is
taken of it. So on floating point all numbers of a walk are modest: they are always short
enough to be read, and to be written in sums. No fragment of a walk is lost when fragments
are lifted.

## Main definitions

* `Fragment.Agrees`: What is taken out of a text agrees with the fragment.
* `Fragment.HasPixels`: The numbers of a fragment are pixels.
* `Fragment.IsShort`: The pixels of a fragment are short enough to be written.

## Theorems

* `extract_draft`: What is taken out of a draft with short numbers.
* `visit_hasPixels`: The numbers of the fragment that a visit adds.
* `walk_modestLayout`: On floating point all that a walk lays out is modest.
* `isShort_of_modestScalars`: On floating point every fragment is short.
* `walk_extracted`: What is taken out of the fragments of a walk, and what is lifted.
-/

namespace Letterpress

open Render (PlacedTable HasDraft)

variable {K ω : Type} [Scalar K]

/-- The fragment that is taken out of a text has the place, the width and the link of the
    fragment that the text was written for. -/
structure Fragment.Agrees (f taken : Fragment) (canvas : Int) : Prop where
  left : taken.left = f.left
  top : taken.top = f.top
  width : taken.width = min f.width canvas
  linkWrapped : taken.linkWrapped = f.linkWrapped

/-- What is taken out of a draft with short numbers: one fragment that agrees with its own,
    also in its height if it declares one. -/
theorem extract_draft {names : List String} {f : Fragment} {t : PlacedTable}
    (h : HasDraft names f t) (hquotes : ∀ name ∈ names, '"' ∉ name.toList)
    (hcodes : ∀ name ∈ names, Text.hasLongCode name.toList = false) (hreadable : t.IsReadable)
    (config : Config K) {width : K} {canvas : Int}
    (hwidth : Scalar.roundHalfUp width = .ok canvas) :
    ∃ taken, Document.extract config f.markup width = .ok [taken] ∧ f.Agrees taken canvas ∧
      (t.height = some f.height → f.height ≠ 0 → taken.height = f.height) := by
  rcases h.sound.decodes hcodes with ⟨t', hdecode⟩
  have hreads := Document.readsAs_decoded h hquotes hdecode
  have hreadable' := Document.isReadable_decode hreadable hdecode
  refine ⟨t'.taken config canvas, ?_, ⟨hreads.left.symm, hreads.top.symm, ?_, ?_⟩, ?_⟩
  · rw [Document.extract, hwidth, Document.extractOn_draft h hquotes, hdecode]
    change (Document.extractIn config canvas t'.node).mapError Fault.numeral = _
    rw [Render.extractIn_node config canvas hreadable']
    rfl
  · rw [hreads.width]
    rfl
  · rw [hreads.linkWrapped]
    rfl
  · rcases PlacedTable.decode_ok hdecode with ⟨link, rows, rfl, -, -⟩
    -- A declared height of zero counts as none, and the fallback would be read.
    intro hheight htall
    simp only [PlacedTable.taken, PlacedTable.readHeight, hheight, Option.getD_some,
      if_neg htall]

section Pixels

variable {host : Host ω K} {config : Config K} {p : Placed K} {y : K} {w w' : Walk}
  {made : Option Fragment} {s s' : Session ω K}

/-- The numbers of a fragment are pixels. The height of a region that is rebuilt need not be
    one: it is counted from rows, and its style does not declare it. But it is a scalar. -/
structure Fragment.HasPixels (K : Type) [Scalar K] (rebuilt : Bool) (f : Fragment) : Prop where
  left : IsPixel K f.left
  top : IsPixel K f.top
  width : IsPixel K f.width
  height : rebuilt = false → IsPixel K f.height
  counted : rebuilt = true → ∃ x : K, Scalar.ofInt? f.height = .ok x

theorem Fragment.IsPlaced.hasPixels {f : Fragment} {x : K} (h : f.IsPlaced x y) :
    f.HasPixels K false := by
  rcases h with ⟨width, height, rows, h⟩
  simp only [Render.placedFragment, except_bind_ok, except_pure_ok] at h
  rcases h with ⟨markup, -, left, hleft, top, htop, w, hw, hh, hheight, rfl⟩
  exact ⟨⟨x, hleft⟩, ⟨y, htop⟩, ⟨width, hw⟩, fun _ => ⟨height, hheight⟩, by simp⟩

/-- The height of a rebuilt region is a scalar, since the growth of the region is a difference
    from it. -/
theorem visitTable_counted (h : visitTable host config p y w s = (.ok (made, w'), s')) :
    ∀ f ∈ made, ∃ x : K, Scalar.ofInt? f.height = .ok x := by
  simp only [visitTable, Task.bind_ok, Task.number_ok] at h
  rcases h with ⟨table, s₁, -, d, s₂, ⟨hd, -⟩, h⟩
  cases table with
  | none =>
      simp only [Task.pure_ok, Prod.mk.injEq] at h
      simp [← h.1.1]
  | some table =>
      simp only [Task.bind_ok, Task.number_ok, Task.pure_ok, Prod.mk.injEq] at h
      rcases h with ⟨left, s₃, -, top, s₄, -, width, s₅, -, ⟨rfl, -⟩, -⟩
      simp only [growth, except_bind_ok] at hd
      rcases hd with ⟨x, hx, -⟩
      intro f hf
      rw [← Option.some.inj hf]
      exact ⟨x, hx⟩

theorem visitUnlinked_hasPixels (h : visitUnlinked host config p y w s = (.ok (made, w'), s')) :
    ∀ f ∈ made, f.HasPixels K p.node.isTableRegion := by
  intro f hf
  rw [visitUnlinked] at h
  by_cases htable : p.node.isTableRegion = true
  · rw [if_pos htable] at h
    rcases (visitTable_step h).1 f hf with ⟨hat, hwidth⟩
    exact ⟨⟨_, hat.left⟩, ⟨_, hat.top⟩, ⟨_, hwidth⟩,
      fun hother => absurd (htable.symm.trans hother) (by simp),
      fun _ => visitTable_counted h f hf⟩
  · rw [if_neg htable] at h
    rw [Bool.eq_false_iff.mpr htable]
    exact ((visitNode_keeps h).1 f hf).hasPixels

/-- A link leaves the numbers of a fragment as they are. -/
theorem visit_hasPixels (h : visit host config p w s = (.ok w', s'))
    (hmade : w'.fragments = w.fragments ++ made.toList) :
    ∀ f ∈ made, f.HasPixels K p.node.isTableRegion := by
  rcases visit_made h hmade with ⟨shift, own, w₁, s₁, -, hown, hlink⟩
  have hpixels := visitUnlinked_hasPixels hown
  rcases hlink with ⟨rfl, -, -⟩ | ⟨fragment, target, wrapped, w₂, rfl, -, hwrapped, rfl, -⟩
  · exact hpixels
  · intro f hf
    rw [← Option.some.inj hf]
    have hfragment := hpixels fragment rfl
    rcases (visitLink_keeps hwrapped).1 with rfl | rfl
    · exact hfragment
    · exact ⟨hfragment.left, hfragment.top, hfragment.width, hfragment.height,
        hfragment.counted⟩

end Pixels

section Modest

variable [ModestScalars K]

/-- Pixels are modest, and so is what a scalar is taken of. -/
theorem Fragment.HasPixels.isModest {rebuilt : Bool} {f : Fragment} (h : f.HasPixels K rebuilt) :
    f.IsModest where
  left := ModestScalars.pixel f.left h.left
  top := ModestScalars.pixel f.top h.top
  width := ModestScalars.pixel f.width h.width
  height := by
    cases rebuilt with
    | false => exact ModestScalars.pixel f.height (h.height rfl)
    | true =>
        rcases h.counted rfl with ⟨x, hx⟩
        exact ModestScalars.whole f.height x hx

/-- On floating point the fragments of a walk are modest, whatever the frame is. -/
theorem walk_modest {host : Host ω K} {config : Config K} {root : Node K}
    {s s' : Session ω K} {w : Walk} (h : walk host config root s = (.ok w, s')) :
    ∀ f ∈ w.fragments, f.IsModest := by
  cases hbounds : root.bounds with
  | none => simp only [walk, hbounds, Task.throw_ok] at h
  | some frame =>
      rcases walk_visits hbounds h with ⟨nodes, steps, before, s₀, -, -, hbefore, hvisits⟩
      have hfragments : w.fragments = steps.filterMap Prod.snd := by
        rw [hvisits.fragments, (backgroundOf_step hbefore).1]
        rfl
      rw [hfragments]
      intro f hf
      rcases List.mem_filterMap.mp hf with ⟨⟨p, made⟩, hstep, rfl⟩
      rcases hvisits.visited hstep with ⟨w₁, s₁, w₂, s₂, hvisit, hmade⟩
      exact (visit_hasPixels hvisit hmade f rfl).isModest

/-- Whatever a walk lays out is modest, on any canvas whose sides are numbers of pixels. -/
theorem walk_modestLayout {host : Host ω K} {config : Config K} (hconfig : config.IsModest)
    {root : Node K} {s s' : Session ω K} {w : Walk} (h : walk host config root s = (.ok w, s'))
    {width height : K} {canvas tall : Int} (hwidth : Scalar.roundHalfUp width = .ok canvas)
    (hheight : Scalar.roundHalfUp height = .ok tall) :
    Document.IsModestLayout config w.fragments width height where
  config := hconfig
  fragments := walk_modest h
  width := by
    rcases ModestScalars.again canvas ⟨width, hwidth⟩ with ⟨again, hagain⟩
    exact ⟨canvas, again, hwidth, ModestScalars.pixel canvas ⟨width, hwidth⟩, hagain⟩
  height := ⟨tall, hheight⟩

end Modest

/-- Numbers of a fragment that are pixels are short enough to be written. -/
def Fragment.IsShort (K : Type) [Scalar K] (f : Fragment) : Prop :=
  ∀ n ∈ [f.left, f.top, f.width, f.height], IsPixel K n → Text.isWritable n = true

/-- On floating point every fragment is short. -/
theorem isShort_of_modestScalars [ModestScalars K] (f : Fragment) : f.IsShort K :=
  fun n _ hpixel => (ModestScalars.pixel n hpixel).writable

/-- Modest fragments are short in any number system. -/
theorem isShort_of_modest {f : Fragment} (h : f.IsModest) : f.IsShort K := by
  intro n hn _
  simp only [List.mem_cons, List.not_mem_nil, or_false] at hn
  rcases hn with rfl | rfl | rfl | rfl
  exacts [h.left.writable, h.top.writable, h.width.writable, h.height.writable]

variable [InertText K] {host : Host ω K} {config : Config K} {root : Node K} {frame : Rect K}
  {s s' : Session ω K} {w : Walk}

/-- The fragment that a visit adds has a draft with short numbers if it is short. -/
theorem visit_made_readable {names : List String} {p : Placed K} {made : Option Fragment}
    {w w' : Walk} (hconfig : p.node.manner = .table → config.IsPlain)
    (hbox : p.node.bounds = some p.box) (hnames : ∀ name ∈ p.node.names, name ∈ names)
    (h : visit host config p w s = (.ok w', s'))
    (hmade : w'.fragments = w.fragments ++ made.toList) :
    ∀ f ∈ made, f.IsShort K → ∃ t : PlacedTable, HasDraft names f t ∧ t.IsReadable ∧
      (p.node.isTableRegion = false → t.height = some f.height) := by
  intro f hf hshort
  rcases visit_made_draft hconfig hbox hnames h hmade f hf with ⟨t, ht, -⟩
  have hpixels := visit_hasPixels h hmade f hf
  have hdraft := ht.draft.draft
  have hheight := ht.height
  simp only [manner_eq_table] at hheight
  refine ⟨t, ht.draft, ⟨?_, ?_, ?_, fun n hn => ?_⟩, fun hregion => ?_⟩
  · exact hdraft.left ▸ hshort f.left (by simp) hpixels.left
  · exact hdraft.top ▸ hshort f.top (by simp) hpixels.top
  · exact hdraft.width ▸ hshort f.width (by simp) hpixels.width
  · -- Only what is no region declares a height.
    rw [← hdraft.height n hn]
    refine hshort f.height (by simp) (hpixels.height (Bool.eq_false_iff.mpr fun hregion => ?_))
    rw [hheight, if_pos hregion] at hn
    exact absurd hn (by simp)
  · rw [hheight, hregion]
    rfl

/-- From the markup of each fragment of a walk one fragment is taken out. It agrees with the
    fragment, and unless the child is a region that is rebuilt, or has no height, in its
    height too. So every fragment is lifted. -/
theorem walk_extracted (hconfig : config.IsPlain)
    (hquotes : ∀ name ∈ root.names, '"' ∉ name.toList)
    (hcodes : ∀ name ∈ root.names, Text.hasLongCode name.toList = false)
    (hbounds : root.bounds = some frame) (h : walk host config root s = (.ok w, s'))
    (hshort : ∀ f ∈ w.fragments, f.IsShort K) (other : Config K) {width : K}
    {canvas again : Int} (hwidth : Scalar.roundHalfUp width = .ok canvas)
    (hagain : Scalar.roundInt (K := K) canvas = .ok again) :
    ∃ (nodes : List (Node K)) (steps : List (Placed K × Option Fragment)),
      root.childList = .ok nodes ∧
      steps.map Prod.fst
        = (placedChildren frame nodes).filter (fun p => !p.isElided config frame) ∧
      w.fragments = steps.filterMap Prod.snd ∧
      (∀ p f, (p, some f) ∈ steps →
        ∃ taken, Document.extract other f.markup width = .ok [taken] ∧ f.Agrees taken canvas ∧
          (p.node.isTableRegion = false → f.height ≠ 0 → taken.height = f.height)) ∧
      ∃ lifted, Document.lift other w.fragments width = .ok lifted ∧
        List.Forall₂ (fun f taken => f.Agrees taken canvas ∧ taken.height = f.height)
          w.fragments lifted := by
  rcases walk_visits hbounds h with ⟨nodes, steps, before, s₀, hnodes, hsteps, hbefore, hvisits⟩
  have hfragments : w.fragments = steps.filterMap Prod.snd := by
    rw [hvisits.fragments, (backgroundOf_step hbefore).1]
    rfl
  have hreadable : ∀ p f, (p, some f) ∈ steps →
      ∃ t : PlacedTable, HasDraft root.names f t ∧ t.IsReadable ∧
        (p.node.isTableRegion = false → t.height = some f.height) := by
    intro p f hstep
    have hplaced : p ∈ placedChildren frame nodes :=
      List.mem_of_mem_filter (hsteps ▸ List.mem_map_of_mem hstep)
    rcases mem_placedChildren hplaced with ⟨hchild, -, hbox⟩
    rcases hvisits.visited hstep with ⟨w₁, s₁, w₂, s₂, hvisit, hmade⟩
    have hf : f ∈ w.fragments := by
      rw [hfragments]
      exact List.mem_filterMap.mpr ⟨_, hstep, rfl⟩
    exact visit_made_readable (fun _ => hconfig) hbox (child_names hnodes hchild) hvisit hmade f
      rfl (hshort f hf)
  refine ⟨nodes, steps, hnodes, hsteps, hfragments, ?_, ?_⟩
  · intro p f hstep
    rcases hreadable p f hstep with ⟨t, ht, hshort, hheight⟩
    rcases extract_draft ht hquotes hcodes hshort other hwidth with
      ⟨taken, htaken, hagrees, hsame⟩
    exact ⟨taken, htaken, hagrees, fun hregion => hsame (hheight hregion)⟩
  · have hdrafts : ∀ f ∈ w.fragments,
        ∃ t : PlacedTable, HasDraft root.names f t ∧ t.IsReadable := by
      rw [hfragments]
      intro f hf
      rcases List.mem_filterMap.mp hf with ⟨⟨p, made⟩, hstep, rfl⟩
      rcases hreadable p f hstep with ⟨t, ht, hshort, -⟩
      exact ⟨t, ht, hshort⟩
    have hlifts : ∃ lifted, Document.lift other w.fragments width = .ok lifted :=
      Document.lift_returns hdrafts hquotes hcodes hwidth hagain
    rcases hlifts with ⟨lifted, hlift⟩
    rcases Document.lift_ok (fun f hf => (hdrafts f hf).imp fun _ => And.left) hquotes hlift with
      ⟨c, pairs, hc, hpairs, -, rfl⟩
    obtain rfl := Except.ok.inj (hwidth.symm.trans hc)
    refine ⟨_, hlift, ?_⟩
    -- A fragment is lifted with its own numbers.
    rw [← hpairs, List.forall₂_map_left_iff, List.forall₂_map_right_iff]
    exact List.forall₂_same.mpr fun p _ => ⟨⟨rfl, rfl, rfl, rfl⟩, rfl⟩

/-- A frame with a child of each kind, one of them in a link. -/
def poster : Node Rat :=
  .container ⟨"0", "Poster", true, some ⟨0, 0, 200, 200⟩, []⟩ .frame
    [.container ⟨"1", "[table] Prices", true, some ⟨0, 0, 100, 20⟩, []⟩ .group
        [.text ⟨"2", "Price", true, some ⟨0, 0, 50, 20⟩, []⟩ ⟨"12", [], "LEFT", none⟩],
      .text ⟨"3", "Title", true, some ⟨10, 201 / 4, 80, 16⟩, []⟩ ⟨"Tea", [], "CENTER", none⟩,
      .shape ⟨"4", "Line", true, some ⟨0, 80, 200, 2⟩, []⟩ ⟨.rectangle, none, none⟩,
      .image ⟨"5", "[link] a", true, some ⟨-3 / 2, 100, 120, 60⟩, []⟩ "IMAGE",
      .image ⟨"6", "[gif] wave", true, some ⟨0, 160, 100, 20⟩, []⟩ "IMAGE"]

/-- On a canvas that is narrower than the poster, each of the five fragments agrees with what
    is taken out of it. -/
theorem walk_extracted_poster :
    ∃ (w : Walk) (s : Session Unit Rat) (lifted : List Fragment),
      walk fontlessHost {} poster ⟨(), [], []⟩ = (.ok w, s) ∧
      w.fragments.map (fun f => [f.left, f.top, f.width, f.height])
        = [[0, 0, 100, 48], [10, 78, 80, 16], [0, 108, 200, 2], [-1, 128, 120, 60],
          [0, 188, 100, 20]] ∧
      w.fragments.map Fragment.linkWrapped = [false, false, false, true, false] ∧
      (∀ f ∈ w.fragments, ∃ taken,
        Document.extract {} f.markup (110 : Rat) = .ok [taken] ∧ f.Agrees taken 110) ∧
      Document.lift {} w.fragments (110 : Rat) = .ok lifted ∧
      List.Forall₂ (fun f taken => f.Agrees taken 110 ∧ taken.height = f.height)
        w.fragments lifted := by
  have hwalked : (walk fontlessHost {} poster ⟨(), [], []⟩).1.toOption.map
      (fun w => (w.fragments.map fun f => [f.left, f.top, f.width, f.height],
        w.fragments.map Fragment.linkWrapped))
        = some ([[0, 0, 100, 48], [10, 78, 80, 16], [0, 108, 200, 2], [-1, 128, 120, 60],
          [0, 188, 100, 20]], [false, false, false, true, false]) := by
    decide +kernel
  rcases Task.returned_of_read hwalked with ⟨w, s, hrun, hread⟩
  rcases Prod.mk.inj hread with ⟨hplaced, hlinks⟩
  have hshort : ∀ f ∈ w.fragments, f.IsShort Rat := fun f hf =>
    isShort_of_modest (isModest_fragments (by rw [hplaced]; decide +kernel) f hf)
  have hwidth : Scalar.roundHalfUp (110 : Rat) = .ok 110 := by
    rw [roundHalfUp_rat]
    exact congrArg Except.ok (by decide +kernel)
  have hbounds : poster.bounds = some ⟨0, 0, 200, 200⟩ := rfl
  rcases walk_extracted isPlain_default (by decide) (by decide) hbounds hrun hshort {} hwidth
    (roundInt_rat 110) with ⟨_, steps, -, -, hfragments, htaken, lifted, hlift, hagree⟩
  refine ⟨w, s, lifted, hrun, hplaced, hlinks, fun f hf => ?_, hlift, hagree⟩
  rw [hfragments] at hf
  rcases List.mem_filterMap.mp hf with ⟨⟨p, _⟩, hstep, rfl⟩
  rcases htaken p f hstep with ⟨taken, hextract, hsame, -⟩
  exact ⟨taken, hextract, hsame⟩

end Letterpress
