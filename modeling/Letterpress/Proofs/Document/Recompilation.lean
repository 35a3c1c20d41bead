import Letterpress.Proofs.Document.Canvas
import Letterpress.Proofs.Document.Modest
import Letterpress.Proofs.Number.Exact
import Letterpress.Proofs.Render.TextDrafts

/-!
# Compiling from a Canvas

Three renderers draw fragments, and some of what they draw is put into a link. All of it
is a placed table of the height that it declares.

Fragments are compiled as they are, or they are put on a canvas, or into a whole document
in absolute layout, and then taken out of its text again. All three ways lead to the same
document, if they lead to one: each fragment is read by itself or among the others, to the
same table, and the numbers that were forgotten are in its style.

Only a fragment without a height is taken for a higher one, since no height and a height
of zero are written differently but read alike.

## Main definitions

* `IsDrawn`: A fragment that a renderer draws.
* `IsRendered`: A drawn fragment, perhaps in a link.
* `IsMeasured`: All numbers of a fragment stand in its style.
* `drafts`: The drafts of fragments, in lines.

## Theorems

* `rendered_draft`: A rendered fragment is a placed table of its own height.
* `image_rat`: A picture at exact coordinates is drawn.
* `extractAll_drafts`: What is taken out of fragments that were read.
* `extract_ok_iff_lift`: What is taken out of a text with fragments is what is lifted.
* `compile_rendered`: All ways to compile rendered fragments agree.
-/

namespace Letterpress.Render

variable {K : Type} [Scalar K]

/-- The fragment is what a renderer draws of a text, a shape or a picture, with the
    given names for its font families. -/
inductive IsDrawn (K : Type) [Scalar K] (names : List String) : Fragment → Prop
  | text {ω : Type} {host : Host ω K} {config : Config K} {node : Node K} {x y : K}
      {s s' : Session ω K} {f : Fragment}
      (drawn : text host config node x y s = (.ok (some f), s'))
      (families : ∀ body, node.textBody = .ok body → ∀ name ∈ body.families, name ∈ names) :
      IsDrawn K names f
  | shape {node : Node K} {x y : K} {f : Fragment} (drawn : shape node x y = .ok (some f)) :
      IsDrawn K names f
  | image {source : String} {x y width height : K} {f : Fragment}
      (drawn : image source x y width height = .ok f) : IsDrawn K names f

/-- A drawn fragment, perhaps in a link to one of the names. -/
inductive IsRendered (K : Type) [Scalar K] (names : List String) : Fragment → Prop
  | drawn {f : Fragment} (h : IsDrawn K names f) : IsRendered K names f
  | linked {f : Fragment} {id : String} (h : IsDrawn K names f) (hid : id ∈ names) :
      IsRendered K names { f with markup := linkMarkup id f.markup, linkWrapped := true }

/-- A rendered fragment is a placed table of its own height. -/
theorem rendered_draft [InertText K] {names : List String} {f : Fragment}
    (h : IsRendered K names f) :
    ∃ t : PlacedTable, HasDraft names f t ∧ t.height = some f.height := by
  -- A link is put around a fragment that has none yet.
  have hdrawn : ∀ {g : Fragment}, IsDrawn K names g →
      ∃ t : PlacedTable, HasDraft names g t ∧ t.link = none ∧ t.height = some g.height := by
    intro g hg
    cases hg with
    | text drawn families =>
        rcases text_draft drawn families with ⟨t, _, ht, hlink, hheight, -⟩
        exact ⟨t, ht, hlink, hheight⟩
    | shape drawn =>
        rcases shape_draft drawn with ⟨t, ht, hlink, hheight, -⟩
        exact ⟨t, ht, hlink, hheight⟩
    | image drawn =>
        rcases image_draft drawn with ⟨t, ht, hlink, hheight, -⟩
        exact ⟨t, ht, hlink, hheight⟩
  cases h with
  | drawn hf =>
      rcases hdrawn hf with ⟨t, ht, -, hheight⟩
      exact ⟨t, ht, hheight⟩
  | linked hg hid =>
      rcases hdrawn hg with ⟨t, ht, hlink, hheight⟩
      exact ⟨_, link_draft ht hlink hid, hheight⟩

/-- A picture at exact coordinates is drawn, with its place and its size in pixels. -/
theorem image_rat (source : String) (x y width height : Rat) :
    ∃ markup, image source x y width height
      = .ok ⟨markup, pixelOf x, pixelOf y, pixelOf width, pixelOf height, false, "left",
          "top"⟩ := by
  have htable : ∀ rows, ∃ markup, placedTable x y width (some height) rows = .ok markup := by
    intro rows
    simp only [placedTable, placedStyle, Style.pixels, roundHalfUp_rat]
    exact ⟨_, rfl⟩
  rcases htable ("<tr><td>" ++ imageTag source (pixelOf width) (pixelOf height)
    ++ "</td></tr>") with ⟨markup, hmarkup⟩
  refine ⟨markup, ?_⟩
  simp only [image, roundHalfUp_rat, except_bind_ok]
  refine ⟨_, rfl, _, rfl, ?_⟩
  simp only [placedFragment, except_bind_ok, roundHalfUp_rat]
  exact ⟨markup, hmarkup, _, rfl, _, rfl, _, rfl, _, rfl, rfl⟩

end Letterpress.Render

namespace Letterpress.Document

open Markup
open Render (PlacedTable HasDraft IsRendered)

variable {K : Type} [Scalar K] {config : Config K} {background : Background}
  {names : List String}

/-- All numbers of the fragment stand in its style, and its height is one that is read off
    it. -/
structure IsMeasured (names : List String) (f : Fragment) (t : PlacedTable) : Prop where
  draft : HasDraft names f t
  height : t.height = some f.height
  tall : f.height ≠ 0

/-- The drafts of fragments, in lines. -/
def drafts (pairs : List (Fragment × PlacedTable)) : List Markup.Node :=
  lines (pairs.map fun p => [p.2.node])

section Drafts

variable {pairs : List (Fragment × PlacedTable)}

theorem drafts_writes (h : ∀ p ∈ pairs, HasDraft names p.1 p.2) :
    List.Forall₂ Writes ((pairs.map Prod.fst).map Fragment.markup)
      (pairs.map fun p => [p.2.node]) := by
  induction pairs with
  | nil => exact List.Forall₂.nil
  | cons p pairs ih =>
      rw [List.forall_mem_cons] at h
      exact List.Forall₂.cons (writes_written _ _ h.1.draft.markup) (ih h.2)

theorem drafts_tidy (h : ∀ p ∈ pairs, HasDraft names p.1 p.2) : Node.TidyAll (drafts pairs) := by
  refine tidyAll_lines (fun ns hns => ?_) fun ns hns => ?_
  · rcases List.mem_map.mp hns with ⟨p, hp, rfl⟩
    exact ⟨Render.nodeWith_tidy (h p hp).sound.tidy _, fun _ => rfl, trivial⟩
  · rcases List.mem_map.mp hns with ⟨p, -, rfl⟩
    exact hasSolidEnds_single (Render.nodeWith_isPlainText _)

theorem drafts_ends (hne : pairs ≠ []) : HasSolidEnds (drafts pairs) := by
  refine hasSolidEnds_lines (by simpa using hne) fun ns hns => ?_
  rcases List.mem_map.mp hns with ⟨p, -, rfl⟩
  exact hasSolidEnds_single (Render.nodeWith_isPlainText _)

theorem drafts_quotes (h : ∀ p ∈ pairs, HasDraft names p.1 p.2)
    (hnames : ∀ name ∈ names, '"' ∉ name.toList) : Node.InQuotesAll (drafts pairs) := by
  refine inQuotesAll_values hnames (everywhereAll_lines fun ns hns => ?_)
  rcases List.mem_map.mp hns with ⟨p, hp, rfl⟩
  exact ⟨Render.nodeWith_values (h p hp).sound (Render.placed_inert p.2), trivial⟩

/-- Fragments are decoded one by one, whether they stand together or not. -/
theorem drafts_decode (pairs : List (Fragment × PlacedTable)) :
    Node.decodeAll (drafts pairs) = drafts <$> pairs.mapM decodePair := by
  have hpieces : (pairs.map fun p => [p.2.node]).mapM Node.decodeAll
      = (fun ps => ps.map fun p : Fragment × PlacedTable => [p.2.node])
          <$> pairs.mapM decodePair := by
    induction pairs with
    | nil => rfl
    | cons p pairs ih =>
        rw [List.map_cons, List.mapM_cons, List.mapM_cons, decodeAll_node, ih, decodePair]
        cases p.2.decode with
        | error e => rfl
        | ok t => cases pairs.mapM decodePair <;> rfl
  rw [drafts, decodeAll_lines, hpieces]
  cases pairs.mapM decodePair <;> rfl

/-- What is read off the style of a fragment is what the fragment knows. -/
theorem taken_measured {f : Fragment} {t t' : PlacedTable} (h : IsMeasured names f t)
    (hnames : ∀ name ∈ names, '"' ∉ name.toList) (hdecode : t.decode = .ok t') (canvas : Int) :
    t'.taken config canvas = liftedFrom canvas f t' := by
  have hreads := readsAs_decoded h.draft hnames hdecode
  rcases Render.PlacedTable.decode_ok hdecode with ⟨link, rows, rfl, -, -⟩
  have hheight : PlacedTable.readHeight config { t with link, rows } = f.height := by
    simp only [PlacedTable.readHeight, h.height, Option.getD_some, if_neg h.tall]
  simp only [PlacedTable.taken, liftedFrom, hheight, hreads.left, hreads.top, hreads.width,
    hreads.linkWrapped]

/-- What is taken out of fragments that were read is what becomes of them one by one. -/
theorem extractAll_drafts (h : ∀ p ∈ pairs, IsMeasured names p.1 p.2)
    (hreadable : ∀ p ∈ pairs, p.2.IsReadable) (hnames : ∀ name ∈ names, '"' ∉ name.toList)
    {read : List (Fragment × PlacedTable)} (hread : pairs.mapM decodePair = .ok read)
    (canvas : Int) :
    extractAll config canvas (drafts read)
      = .ok (read.map fun p => liftedFrom canvas p.1 p.2) := by
  have hall : ∀ p ∈ read, extractAll config canvas [p.2.node]
      = .ok [liftedFrom canvas p.1 p.2] := by
    intro p hp
    rcases mem_mapM_ok hread hp with ⟨⟨f, t⟩, hmem, hself⟩
    rcases except_map_ok.mp hself with ⟨t', hdecode, rfl⟩
    rw [extractAll_singleton, Render.extractIn_node config canvas
      (isReadable_decode (hreadable _ hmem) hdecode), taken_measured (h _ hmem) hnames hdecode]
  -- No table is inside another, and so each is taken out of a page of its own.
  have hpieces : (read.map fun p => [p.2.node]).mapM (extractAll config canvas)
      = .ok (read.map fun p => [liftedFrom canvas p.1 p.2]) := by
    clear hread
    induction read with
    | nil => rfl
    | cons p read ih =>
        rw [List.forall_mem_cons] at hall
        exact mapM_cons_ok.mpr ⟨_, _, hall.1, ih hall.2, rfl⟩
  rw [drafts, extractAll_lines, hpieces]
  exact congrArg Except.ok List.map_eq_flatMap.symm

/-- Only fragments with short numbers are taken out. -/
theorem isReadable_of_extractAll {read : List (Fragment × PlacedTable)}
    (hread : pairs.mapM decodePair = .ok read) {canvas : Int} {fs : List Fragment}
    (h : extractAll config canvas (drafts read) = .ok fs) : ∀ p ∈ pairs, p.2.IsReadable := by
  intro p hp
  rcases mapM_ok_mem hread hp with ⟨p', hp', hself⟩
  rcases except_map_ok.mp hself with ⟨t', hdecode, rfl⟩
  rw [drafts, extractAll_lines] at h
  rcases except_map_ok.mp h with ⟨taken, htaken, -⟩
  rcases mapM_ok_mem htaken (List.mem_map_of_mem hp') with ⟨one, -, hone⟩
  rw [extractAll_singleton] at hone
  exact isReadable_decoded (Render.isReadable_of_extractIn config canvas hone) hdecode

end Drafts

/-- What is taken out of a text with measured fragments is what is lifted. With numbers that
    are too long both fail, but perhaps at different fragments. -/
theorem extract_ok_iff_lift {pairs : List (Fragment × PlacedTable)}
    (h : ∀ p ∈ pairs, IsMeasured names p.1 p.2) (hnames : ∀ name ∈ names, '"' ∉ name.toList)
    {markup : String} (hmarkup : HoldsFragmentsOf config markup (drafts pairs)) {width : K}
    {canvas again : Int} (hwidth : Scalar.roundHalfUp width = .ok canvas)
    (hagain : Scalar.roundInt (K := K) canvas = .ok again) (fs : List Fragment) :
    extract config markup width = .ok fs ↔ lift config (pairs.map Prod.fst) width = .ok fs := by
  have hsound : ∀ p ∈ pairs, HasDraft names p.1 p.2 := fun p hp => (h p hp).draft
  have hextract : extract config markup width
      = ((pairs.mapM decodePair).mapError fun e => Fault.markup (.numeral e)) >>= fun read =>
          (extractAll config canvas (drafts read)).mapError Fault.numeral := by
    rw [extract, hwidth, hmarkup canvas, drafts_decode]
    cases pairs.mapM decodePair <;> rfl
  by_cases hreadable : ∀ p ∈ pairs, p.2.IsReadable
  · -- With short numbers both decode the fragments one by one, and take out the same.
    rw [lift_drafts hsound hnames hreadable hwidth hagain, hextract]
    cases hread : pairs.mapM decodePair with
    | error e => exact Iff.rfl
    | ok read =>
        change (extractAll config canvas (drafts read)).mapError Fault.numeral = _ ↔ _
        rw [extractAll_drafts h hreadable hnames hread]
        exact Iff.rfl
  · -- With a number that is too long neither leads to fragments.
    constructor
    · intro hfs
      rw [hextract, except_bind_ok] at hfs
      rcases hfs with ⟨read, hread, htaken⟩
      rw [mapError_ok] at hread htaken
      exact absurd (isReadable_of_extractAll hread htaken) hreadable
    · exact fun hlift => absurd (isReadable_of_lift hsound hnames hlift) hreadable

/-- Text that holds fragments compiles to what the fragments compile to. -/
theorem compile_ok_iff {fragments : List Fragment} {markup : String} {width height : K}
    (hextract : ∀ fs, extract config markup width = .ok fs ↔ lift config fragments width = .ok fs)
    (hne : ∀ lifted, lift config fragments width = .ok lifted → lifted ≠ []) (html : String) :
    compile config markup width height background = .ok html ↔
      compileFragments config fragments width height background = .ok html := by
  rw [compile, compileFragments, except_bind_ok, except_bind_ok]
  refine exists_congr fun fs => ?_
  rw [hextract fs]
  refine and_congr_right fun hlift => ?_
  -- Text without fragments is left as it is, so there has to be one.
  cases fs with
  | nil => exact absurd rfl (hne [] hlift)
  | cons f fs => exact Iff.rfl

/-- All ways to compile rendered fragments lead to the same document: directly, from a
    canvas, and from a whole document in absolute layout. Unless a number or a code in a
    name is too long, there is such a document. -/
theorem compile_rendered {config : Config Rat} (hconfig : config.IsPlain)
    (hbackground : background.IsPlain) {fragments : List Fragment} (hne : fragments ≠ [])
    (hrendered : ∀ f ∈ fragments, IsRendered Rat names f)
    (hnames : ∀ name ∈ names, '"' ∉ name.toList) (hheights : ∀ f ∈ fragments, f.height ≠ 0)
    (width height : Rat) :
    ∃ area text, canvas fragments width height = .ok area ∧
      absoluteDocument config fragments width height background = .ok text ∧
      (∀ html, compile config area width height background = .ok html ↔
        compileFragments config fragments width height background = .ok html) ∧
      (∀ html, compile config text width height background = .ok html ↔
        compileFragments config fragments width height background = .ok html) ∧
      ((∀ name ∈ names, Text.hasLongCode name.toList = false) →
        IsModestLayout config fragments width height →
          ∃ html, compileFragments config fragments width height background = .ok html) := by
  have hmeasured : ∀ f ∈ fragments, ∃ t, IsMeasured names f t := by
    intro f hf
    rcases Render.rendered_draft (hrendered f hf) with ⟨t, ht, hheight⟩
    exact ⟨t, ht, hheight, hheights f hf⟩
  have hplaced : ∀ f ∈ fragments, ∃ t, HasDraft names f t := fun f hf => by
    rcases hmeasured f hf with ⟨t, ht⟩
    exact ⟨t, ht.draft⟩
  have hcanvas : ∀ x y : Rat,
      canvas fragments x y = .ok (canvasOf fragments (pixelOf x) (pixelOf y)) := fun x y => by
    rw [canvas, roundHalfUp_rat, roundHalfUp_rat]
    rfl
  have habsolute : ∃ text,
      absoluteDocument config fragments width height background = .ok text := by
    rw [absoluteDocument, roundHalfUp_rat, roundHalfUp_rat]
    simp only [except_bind_ok, except_pure_ok, hcanvas, ofInt?_rat]
    exact ⟨_, _, rfl, _, rfl, _, rfl, _, rfl, _, rfl, rfl⟩
  rcases habsolute with ⟨text, htext⟩
  rcases exists_pairs hmeasured with ⟨pairs, rfl, hpairs⟩
  have hsound : ∀ p ∈ pairs, HasDraft names p.1 p.2 := fun p hp => (hpairs p hp).draft
  have hpairsNe : pairs ≠ [] := by simpa using hne
  have hlifted : ∀ lifted, lift config (pairs.map Prod.fst) width = .ok lifted →
      lifted ≠ [] := by
    rintro lifted hlift rfl
    rcases lift_ok hplaced hnames hlift with ⟨_, read, -, hfragments, -, hnil⟩
    rw [List.map_eq_nil_iff.mp hnil.symm, List.map_nil] at hfragments
    exact hne hfragments.symm
  -- Both texts hold the same fragments, which is all that compiling them depends on.
  have hcompile : ∀ {markup : String}, HoldsFragmentsOf config markup (drafts pairs) →
      ∀ html, compile config markup width height background = .ok html ↔
        compileFragments config (pairs.map Prod.fst) width height background = .ok html :=
    fun hmarkup => compile_ok_iff
      (extract_ok_iff_lift hpairs hnames hmarkup (roundHalfUp_rat width)
        (roundInt_rat _)) hlifted
  refine ⟨_, text, hcanvas width height, htext, hcompile ?_, hcompile ?_, fun hcodes hmodest => ?_⟩
  · exact canvasOf_holds (drafts_writes hsound) (drafts_tidy hsound) (drafts_ends hpairsNe)
      (drafts_quotes hsound hnames)
  · exact absoluteDocument_holds hconfig hbackground htext (drafts_writes hsound)
      (drafts_tidy hsound) (drafts_ends hpairsNe) (drafts_quotes hsound hnames)
  · exact compileFragments_returns hmodest hplaced hnames hcodes background

/-- A picture, and another one in a link below it. -/
theorem compile_rendered_twoPictures :
    ∃ fragments area text html,
      fragments.map (fun f => (f.left, f.top, f.width, f.height, f.linkWrapped))
        = [(0, 0, 40, 20, false), (1, 21, 30, 10, true)] ∧
      canvas fragments (40 : Rat) 40 = .ok area ∧
      absoluteDocument ({} : Config Rat) fragments 40 40 .none = .ok text ∧
      compile {} area (40 : Rat) 40 .none = .ok html ∧
      compile {} text (40 : Rat) 40 .none = .ok html ∧
      compileFragments {} fragments (40 : Rat) 40 .none = .ok html := by
  have hpixels : pixelOf 0 = 0 ∧ pixelOf (3 / 5) = 1 ∧ pixelOf (41 / 2) = 21 ∧ pixelOf 10 = 10 ∧
      pixelOf 20 = 20 ∧ pixelOf 30 = 30 ∧ pixelOf 40 = 40 := by decide +kernel
  rcases hpixels with ⟨h0, h1, h21, h10, h20, h30, h40⟩
  rcases Render.image_rat "first.png" 0 0 40 20 with ⟨first, hfirst⟩
  rcases Render.image_rat "second.png" (3 / 5) (41 / 2) 30 10 with ⟨second, hsecond⟩
  rw [h0, h40, h20] at hfirst
  rw [h1, h21, h30, h10] at hsecond
  let fragments : List Fragment :=
    [⟨first, 0, 0, 40, 20, false, "left", "top"⟩,
      ⟨linkMarkup "7" second, 1, 21, 30, 10, true, "left", "top"⟩]
  have hrendered : ∀ f ∈ fragments, IsRendered Rat ["7"] f :=
    List.forall_mem_cons.mpr ⟨.drawn (.image hfirst),
      List.forall_mem_singleton.mpr (.linked (.image hsecond) (List.mem_singleton_self "7"))⟩
  have hnumbers : ∀ ns ∈ [[0, 0, 40, 20], [1, 21, 30, 10]], ∀ n ∈ ns, IsModest n := by
    decide +kernel
  have hmodest : IsModestLayout ({} : Config Rat) fragments 40 40 :=
    ⟨⟨by decide +kernel, by decide +kernel⟩, isModest_fragments hnumbers,
      ⟨_, _, roundHalfUp_rat 40, by rw [h40]; decide +kernel, roundInt_rat _⟩, _,
      roundHalfUp_rat 40⟩
  rcases compile_rendered isPlain_default isPlain_none (List.cons_ne_nil _ _) hrendered
    (by decide) (by simp) 40 40 with ⟨area, text, harea, htext, hfromArea, hfromText, hreturns⟩
  rcases hreturns (by decide) hmodest with ⟨html, hhtml⟩
  exact ⟨fragments, area, text, html, rfl, harea, htext, (hfromArea html).mpr hhtml,
    (hfromText html).mpr hhtml, hhtml⟩

end Letterpress.Document
