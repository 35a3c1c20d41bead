import Letterpress.Proofs.Document.Canvas
import Letterpress.Proofs.Document.Container
import Letterpress.Proofs.Layout.Keeping

/-!
# Settled Documents

A document in table layout is settled if nothing can be taken out of it: then compiling it
gives it back. What is around the fragments is never positioned, and neither is what stands
in comments. So a document is settled if none of its fragments brings a positioned table.

The alignments of a fragment are written into the style of a cell as they are. Whatever they
are decoded to, the cell is no table. They only have to stay in their quotes, and to be
decoded at all.

## Main definitions

* `IsQuiet`: What is written of an element, if it is read as no positioned table.
* `AlignsReadably`: Alignments that can be written and read.
* `IsUnitOf`: The tree that a fragment was written from.

## Theorems

* `decodeAll_quiet`: What quiet drafts are read as.
* `containerNodes_quiet`: The tables of a container are quiet if their units are.
* `tableDocument_holds`: What is taken out of a document in table layout.
* `tableDocument_settled`: A document with units that are not positioned is settled.
-/

namespace Letterpress.Document

open Markup
open Text (IsInert hasLongCode)

variable {K : Type} [Scalar K] {config : Config K} {background : Background}

section Quiet

/-- The attributes of an element stay in their quotes, and are decoded to those of an element
    that is no positioned table. -/
structure IsQuiet (tag : String) (as : List Attribute) : Prop where
  quotes : AttributesInQuotes as
  still : ∃ as', as.mapM decoded = .ok as' ∧ IsStill tag as'

theorem isQuiet_inert {tag : String} {as : List Attribute} (hinert : InertAttributes tag as)
    (hstill : IsStill tag as) : IsQuiet tag as :=
  ⟨hinert.inQuotes, as, decoded_inert hinert, hstill⟩

theorem isQuiet_escaped {tag : String} {as : List Attribute} (h : IsStill tag as) :
    IsQuiet tag (as.map Node.escapedAttribute) :=
  ⟨attributesInQuotes_escaped as, as, decoded_escapedAttributes as, h⟩

/-- An element that is no table is quiet if its values can be decoded. -/
theorem isQuiet_of_values {tag : String} {as : List Attribute} (htag : tag ≠ "table")
    (hquotes : AttributesInQuotes as)
    (hcodes : ∀ a ∈ as, ∀ value ∈ a.2, hasLongCode value.toList = false) : IsQuiet tag as := by
  have hvalues : HasValues [] tag as := fun a ha value hvalue =>
    .fixed (hquotes a ha value hvalue) (Text.decodeReferences_ok (hcodes a ha value hvalue))
  rcases decoded_values (by simp) hvalues with ⟨as', has⟩
  exact ⟨hquotes, as', has, isStill_of_tag htag as'⟩

mutual

theorem decode_quiet : (n : Markup.Node) → n.Everywhere IsQuiet →
    ∃ m, n.decode = .ok m ∧ m.Everywhere IsStill
  | .element tag as children, h => by
    rcases h.1.still with ⟨as', has, hstill⟩
    rcases decodeAll_quiet children h.2 with ⟨cs, hcs, hchildren⟩
    exact ⟨.element tag as' cs, decode_element.mpr ⟨as', cs, has, hcs, rfl⟩, hstill, hchildren⟩
  | .text data, _ => ⟨.text data, rfl, trivial⟩
  | .comment data, _ => ⟨.comment data, rfl, trivial⟩
  | .declaration data, _ => ⟨.declaration data, rfl, trivial⟩

/-- Quiet drafts are decoded to trees without positioned tables. -/
theorem decodeAll_quiet : (ns : List Markup.Node) → Node.EverywhereAll IsQuiet ns →
    ∃ ms, Node.decodeAll ns = .ok ms ∧ Node.EverywhereAll IsStill ms
  | [], _ => ⟨[], rfl, trivial⟩
  | n :: ns, h => by
    rcases decode_quiet n h.1 with ⟨m, hm, hstill⟩
    rcases decodeAll_quiet ns h.2 with ⟨ms, hms, hrest⟩
    exact ⟨m :: ms, decodeAll_cons.mpr ⟨m, ms, hm, hms, rfl⟩, hstill, hrest⟩

end

mutual

/-- A tree without positioned tables is written as quiet drafts. -/
theorem quiet_escaped : (n : Markup.Node) → n.Everywhere IsStill → n.escaped.Everywhere IsQuiet
  | .element _ _ children, h => ⟨isQuiet_escaped h.1, quiet_escapedAll children h.2⟩
  | .text _, _ => trivial
  | .comment _, _ => trivial
  | .declaration _, _ => trivial

theorem quiet_escapedAll : (ns : List Markup.Node) → Node.EverywhereAll IsStill ns →
    Node.EverywhereAll IsQuiet (Node.escapedAll ns)
  | [], _ => trivial
  | n :: ns, h => ⟨quiet_escaped n h.1, quiet_escapedAll ns h.2⟩

end

end Quiet

section Fragments

variable {f : Fragment} {innerWidth : Int} {placed : List (Fragment × Markup.Node)}

/-- The alignments of a fragment stay in their quotes and can be decoded. -/
structure AlignsReadably (f : Fragment) : Prop where
  quotes : ∀ value ∈ [f.textAlign, f.verticalAlign], '"' ∉ value.toList
  codes : ∀ value ∈ [f.textAlign, f.verticalAlign], hasLongCode value.toList = false

theorem alignmentStyle_quotes (h : ∀ value ∈ [f.textAlign, f.verticalAlign], '"' ∉ value.toList) :
    '"' ∉ (alignmentStyle f).toList := by
  simp only [List.forall_mem_cons] at h
  simp only [alignmentStyle, String.toList_append, List.mem_append, not_or]
  exact ⟨⟨⟨⟨by decide, h.1⟩, by decide⟩, h.2.1⟩, by decide⟩

theorem alignmentStyle_codes (h : AlignsReadably f) :
    hasLongCode (alignmentStyle f).toList = false := by
  have hvalues := h.codes
  simp only [List.forall_mem_cons] at hvalues
  have hbetween : ("; vertical-align:" : String).toList
      = ';' :: (" vertical-align:" : String).toList := by decide
  have hend : (";" : String).toList = [';'] := by decide
  -- The values end before semicolons, so that nothing goes on their codes.
  simp only [alignmentStyle, String.toList_append, List.append_assoc]
  rw [Text.hasLongCode_append_left (by decide), hbetween, List.cons_append,
    Text.hasLongCode_append _ _ (by decide) (by decide), hvalues.1, Bool.false_or,
    ← List.cons_append, Text.hasLongCode_append_left (by decide), hend,
    Text.hasLongCode_append _ _ (by decide) (by decide), hvalues.2.1]
  decide

/-- A cell with a style in which the alignments come last stays in its quotes. -/
theorem alignedStyle_inQuotes
    (h : ∀ value ∈ [f.textAlign, f.verticalAlign], '"' ∉ value.toList) {before : String}
    (hbefore : IsInert before) {as : List Attribute} (has : InertAttributes "td" as) :
    AttributesInQuotes (as ++ [("style", some (before ++ alignmentStyle f))]) := by
  refine List.forall_mem_append.mpr ⟨has.inQuotes, List.forall_mem_singleton.mpr ?_⟩
  rintro value ⟨⟩
  rw [String.toList_append, List.mem_append, not_or]
  exact ⟨not_mem_inert hbefore (by decide), alignmentStyle_quotes h⟩

theorem alignedStyle_quiet (h : AlignsReadably f) {before : String} (hbefore : IsInert before)
    {as : List Attribute} (has : InertAttributes "td" as) :
    IsQuiet "td" (as ++ [("style", some (before ++ alignmentStyle f))]) := by
  refine isQuiet_of_values (by decide) (alignedStyle_inQuotes h.quotes hbefore has) ?_
  refine List.forall_mem_append.mpr ⟨fun a ha value hvalue => ?_, List.forall_mem_singleton.mpr ?_⟩
  · exact Text.hasLongCode_plain (not_mem_inert (has a ha value hvalue) (by decide))
  · rintro value ⟨⟩
    rw [String.toList_append,
      Text.hasLongCode_append_left (not_mem_inert hbefore (by decide))]
    exact alignmentStyle_codes h

/-- What holds of fixed attributes, and of the cell around a fragment, holds of all layers
    around it. -/
theorem fragmentLayers_everywhere {P : String → List Attribute → Prop}
    (hfixed : ∀ tag as, InertAttributes tag as → IsStill tag as → P tag as)
    (hcell : ∀ before as, IsInert before → InertAttributes "td" as →
      P "td" (as ++ [("style", some (before ++ alignmentStyle f))])) (innerWidth : Int) :
    ∀ l ∈ fragmentLayers f innerWidth, l.Everywhere P := by
  -- Tables, rows and spacers are written with fixed attributes and numbers only.
  have htable : ∀ width, Layer.Everywhere P
      ⟨"table", layoutTable width (widthCss width), [], []⟩ := fun width =>
    ⟨hfixed _ _ (layoutTable_inert (widthCss_inert width))
      (layoutTable_settled (widthCss_still width)).still, trivial, trivial⟩
  have hspacer : ∀ width, Node.EverywhereAll P [spacerCell width] := fun width =>
    ⟨⟨hfixed _ _ (inertAttributes_cons (Text.isInert_int width)
      (inertAttributes_cons (widthCss_inert width) inertAttributes_nil))
      (isStill_of_tag (by decide) _), trivial⟩, trivial⟩
  have hrow : P "tr" [] := hfixed _ _ inertAttributes_nil (isStill_of_tag (by decide) _)
  unfold fragmentLayers
  split
  · simp only [List.forall_mem_cons]
    exact ⟨htable _, ⟨hrow, trivial, trivial⟩,
      ⟨hcell "padding:0; " [] (by decide) inertAttributes_nil, trivial, trivial⟩, by simp⟩
  · simp only [List.forall_mem_cons]
    have hspaced := hcell (widthCss f.width ++ " ") [("width", some (toString f.width))]
      (Text.isInert_append.mpr ⟨widthCss_inert f.width, by decide⟩)
      (inertAttributes_cons (Text.isInert_int f.width) inertAttributes_nil)
    exact ⟨htable _, ⟨hrow, hspacer _, hspacer _⟩, ⟨hspaced, trivial, trivial⟩, by simp⟩

theorem containerNodes_inQuotes
    (h : ∀ p ∈ placed, ∀ value ∈ [p.1.textAlign, p.1.verticalAlign], '"' ∉ value.toList) :
    Node.InQuotesAll (containerNodes innerWidth (escapedUnits placed)) := by
  refine containerNodes_everywhere fun p hp => ?_
  rcases List.mem_map.mp hp with ⟨q, hq, rfl⟩
  exact ⟨fragmentLayers_everywhere (fun _ _ hinert _ => hinert.inQuotes)
    (fun _ _ hbefore has => alignedStyle_inQuotes (h q hq) hbefore has) innerWidth,
    inQuotes_escaped q.2⟩

/-- The tables of a container are quiet if their units are not positioned. -/
theorem containerNodes_quiet
    (h : ∀ p ∈ placed, AlignsReadably p.1 ∧ p.2.Everywhere IsStill) :
    Node.EverywhereAll IsQuiet (containerNodes innerWidth (escapedUnits placed)) := by
  refine containerNodes_everywhere fun p hp => ?_
  rcases List.mem_map.mp hp with ⟨q, hq, rfl⟩
  exact ⟨fragmentLayers_everywhere (fun _ _ => isQuiet_inert)
    (fun _ _ hbefore has => alignedStyle_quiet (h q hq).1 hbefore has) innerWidth,
    quiet_escaped q.2 (h q hq).2⟩

end Fragments

section Documents

/-- The tree that a fragment was written from. -/
structure IsUnitOf (f : Fragment) (unit : Markup.Node) : Prop where
  text : f.markup = unit.serialize
  tidy : unit.Tidy
  solid : unit.isPlainText = false

variable {fragments : List Fragment} {placed : List (Fragment × Markup.Node)} {width height : K}
  {text : String}

/-- What is taken out of a document in table layout is what is taken out of its tables, as they
    are written there. -/
theorem tableDocument_holds (hconfig : config.IsPlain) (hbackground : background.IsPlain)
    (hne : placed ≠ []) (horder : placed.map Prod.fst = inReadingOrder fragments)
    (hplaced : ∀ p ∈ placed, IsUnitOf p.1 p.2)
    (hquotes : ∀ p ∈ placed, ∀ value ∈ [p.1.textAlign, p.1.verticalAlign], '"' ∉ value.toList)
    (h : tableDocument config fragments width height background = .ok text) :
    ∃ w, Scalar.roundHalfUp width = .ok w ∧ ∀ other : Config K, HoldsFragmentsOf other text
      (containerNodes (w - 2 * config.containerBorder) (escapedUnits placed)) := by
  have hwritten : ∀ q ∈ escapedUnits placed, Writes q.1.markup [q.2] := by
    intro q hq
    rcases List.mem_map.mp hq with ⟨p, hp, rfl⟩
    refine writes_written _ _ ?_
    rw [(hplaced p hp).text]
    exact serialize_eq_written _ (hplaced p hp).tidy
  have hfirst : inReadingOrder fragments = (escapedUnits placed).map Prod.fst := by
    rw [← horder, escapedUnits, List.map_map]
    rfl
  have hunits : escapedUnits placed ≠ [] := by simpa [escapedUnits] using hne
  rcases writes_tableDocument hunits hfirst hwritten h with ⟨w, hw, hwrites⟩
  refine ⟨w, hw, fun other canvas => ?_⟩
  have hcell : ∀ l ∈ [containerCell config w (containerHeight config fragments) background],
      l.IsStill :=
    List.forall_mem_singleton.mpr (cellLayer_still w _ background _)
  rw [extractOn_parsed (parse_written_tables hconfig hbackground hne
    (fun p hp => ⟨(hplaced p hp).tidy, (hplaced p hp).solid⟩) (containerNodes_inQuotes hquotes)
    hwrites)]
  cases Node.decodeAll (containerNodes (w - 2 * config.containerBorder) (escapedUnits placed)) with
  | error e => rfl
  | ok ns =>
      -- None of the layers around the tables is positioned.
      refine congrArg (Except.mapError Fault.numeral) ?_
      change extractAll other canvas (page (inLayers _ [Layer.around _ ns])) = _
      rw [extractAll_page, extractAll_inLayers fun l hl =>
        (documentLayers_shells hconfig w (containerHeight config fragments) l hl).still]
      exact extractAll_inLayers hcell

/-- Fragments in reading order are none only if there were none. -/
theorem inReadingOrder_ne_nil (h : fragments ≠ []) : inReadingOrder fragments ≠ [] := by
  intro hnil
  have hcount := Layout.sort_count
    (fun f g : Fragment => placedBefore (f.top, f.left) (g.top, g.left)) (fun _ => true) fragments
  change (inReadingOrder fragments).countP _ = _ at hcount
  rw [hnil, List.countP_true] at hcount
  exact h (List.eq_nil_of_length_eq_zero hcount.symm)

/-- A text with the same fragments on every canvas is only read on a width that is a number of
    pixels. -/
theorem extract_of_canvases {markup : String}
    (h : ∀ canvas, extractOn config markup (.ok canvas) = .ok fragments) (width : K) :
    extract config markup width = (do let _ ← Scalar.roundHalfUp width; return fragments) := by
  rw [extract]
  cases Scalar.roundHalfUp width with
  | ok canvas => exact h canvas
  | error e =>
      -- The text itself can be read, since it can be on a canvas.
      have hparsed := h 0
      rw [extractOn, except_bind_ok] at hparsed
      rcases hparsed with ⟨tree, hparse, -⟩
      rw [extractOn, hparse]
      rfl

/-- Nothing can be taken out of a document whose units are not positioned, so compiling it again
    gives it back. Both only fail if the width is no number of pixels. -/
theorem tableDocument_settled (hconfig : config.IsPlain) (hbackground : background.IsPlain)
    (hne : fragments ≠ [])
    (hunits : ∀ f ∈ fragments, ∃ unit, IsUnitOf f unit ∧ unit.Everywhere IsStill)
    (haligned : ∀ f ∈ fragments, AlignsReadably f)
    (h : tableDocument config fragments width height background = .ok text) (other : Config K)
    (anyWidth : K) :
    extract other text anyWidth = (do let _ ← Scalar.roundHalfUp anyWidth; return []) ∧
      ∀ anyHeight anyBackground, compile other text anyWidth anyHeight anyBackground
        = (do let _ ← Scalar.roundHalfUp anyWidth; return text) := by
  have hordered : ∀ f ∈ inReadingOrder fragments,
      ∃ unit, (IsUnitOf f unit ∧ unit.Everywhere IsStill) ∧ AlignsReadably f := by
    intro f hf
    have hmem := Layout.mem_sortOn hf
    rcases hunits f hmem with ⟨unit, hunit⟩
    exact ⟨unit, hunit, haligned f hmem⟩
  rcases exists_pairs hordered with ⟨placed, horder, hplaced⟩
  have hplacedNe : placed ≠ [] := by
    rintro rfl
    exact inReadingOrder_ne_nil hne horder.symm
  rcases tableDocument_holds hconfig hbackground hplacedNe horder (fun p hp => (hplaced p hp).1.1)
    (fun p hp => (hplaced p hp).2.quotes) h with ⟨w, -, hholds⟩
  -- No unit is positioned, so the container is quiet, and so is what is read of it.
  have hquiet : Node.EverywhereAll IsQuiet
      (containerNodes (w - 2 * config.containerBorder) (escapedUnits placed)) :=
    containerNodes_quiet fun p hp => ⟨(hplaced p hp).2, (hplaced p hp).1.2⟩
  rcases decodeAll_quiet _ hquiet with ⟨ms, hms, hstill⟩
  have hextract : extract other text anyWidth
      = (do let _ ← Scalar.roundHalfUp anyWidth; return []) := by
    refine extract_of_canvases (fun canvas => ?_) anyWidth
    rw [hholds other canvas, hms]
    change (extractAll other canvas ms).mapError Fault.numeral = _
    rw [extractAll_still hstill]
    rfl
  refine ⟨hextract, fun anyHeight anyBackground => ?_⟩
  rw [compile, hextract]
  cases Scalar.roundHalfUp anyWidth <;> rfl

end Documents

end Letterpress.Document
