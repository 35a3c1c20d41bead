import Letterpress.Proofs.Document.Structure
import Letterpress.Proofs.Layout.Keeping
import Letterpress.Proofs.Number.Modest

/-!
# Documents with Modest Numbers

A document in table layout is written unless one of its numbers is too long. All of them
are sums of a few numbers of the fragments and the settings, so they can be written if
those are modest.

The texts of fragments also have to be read. Only a long code in a name stops that.

## Main definitions

* `Fragment.IsModest`, `Config.IsModest`: The numbers that are written are modest.
* `IsModestLayout`: All that is laid out is modest.
* `IsShort`: A number that is still modest with others of its kind added.
* `HasShortLengths`: What the lengths of a table are read from is not too long.

## Theorems

* `tableDocument_returns`: A document with modest numbers is written.
* `lift_returns`: Fragments with short numbers and short codes are lifted.
* `compileFragments_returns`: Fragments with modest numbers and short codes are compiled.
* `fragmentOf_returns`: A table with short lengths becomes a fragment with modest numbers.
-/

namespace Letterpress

/-- The place and the size of a fragment are modest. -/
structure Fragment.IsModest (f : Fragment) : Prop where
  left : Letterpress.IsModest f.left
  top : Letterpress.IsModest f.top
  width : Letterpress.IsModest f.width
  height : Letterpress.IsModest f.height

/-- The numbers of a fragment are modest if all four of them are. -/
theorem isModest_fragments {fragments : List Fragment}
    (h : ∀ ns ∈ fragments.map fun f => [f.left, f.top, f.width, f.height], ∀ n ∈ ns, IsModest n) :
    ∀ f ∈ fragments, f.IsModest := by
  intro f hf
  have hnumbers := h _ (List.mem_map_of_mem hf)
  simp only [List.forall_mem_cons] at hnumbers
  rcases hnumbers with ⟨hleft, htop, hwidth, hheight, -⟩
  exact ⟨hleft, htop, hwidth, hheight⟩

/-- The settings that add to the numbers of a document are modest. -/
structure Config.IsModest {K : Type} [Scalar K] (config : Config K) : Prop where
  border : Letterpress.IsModest config.containerBorder
  padding : Letterpress.IsModest config.containerPadding

namespace Document

open Render (PlacedTable HasDraft)

variable {K : Type} [Scalar K] {config : Config K} {background : Background}

section Writing

variable {f : Fragment} {fragments : List Fragment} {width : Int}

/-- The lowest edge of fragments is the lower edge of one of them. -/
theorem natAbs_lowest {bound : Nat} {fs : List Fragment} {b : Int} (hb : b.natAbs ≤ bound)
    (hfs : ∀ f ∈ fs, f.bottom.natAbs ≤ bound) :
    (fs.foldl (fun b g => max b g.bottom) b).natAbs ≤ bound := by
  induction fs generalizing b with
  | nil => exact hb
  | cons f fs ih =>
      rw [List.forall_mem_cons] at hfs
      have hstep : (max b f.bottom).natAbs ≤ bound := by
        have hf := hfs.1
        omega
      exact ih hstep hfs.2

theorem natAbs_containerHeight (hconfig : config.IsModest)
    (hfragments : ∀ f ∈ fragments, f.IsModest) :
    (containerHeight config fragments).natAbs ≤ 5 * modestBound := by
  -- A lower edge is a sum of two numbers, and two borders and the padding are added to it.
  have hbottom : ∀ f ∈ fragments, f.bottom.natAbs ≤ 2 * modestBound := by
    intro f hf
    have htop := (hfragments f hf).top
    have hheight := (hfragments f hf).height
    unfold IsModest at htop hheight
    rw [Fragment.bottom]
    omega
  have hborder := hconfig.border
  have hpadding := hconfig.padding
  unfold IsModest at hborder hpadding
  cases fragments with
  | nil =>
      rw [containerHeight]
      omega
  | cons f fs =>
      rw [List.forall_mem_cons] at hbottom
      have hlowest := natAbs_lowest hbottom.1 hbottom.2
      rw [containerHeight]
      generalize fs.foldl (fun b g => max b g.bottom) f.bottom = lowest at hlowest
      change (lowest + 2 * config.containerBorder + config.containerPadding).natAbs ≤ _
      omega

theorem writing_returns {numbers : List Int} (h : ∀ n ∈ numbers, n.natAbs ≤ 9 * modestBound)
    (text : String) : writing numbers text = .ok text :=
  writing_ok.mpr ⟨List.all_eq_true.mpr fun n hn => isWritable_sum (h n hn), rfl⟩

/-- A fragment with modest numbers is written. -/
theorem fragmentTable_returns (hf : f.IsModest) {innerWidth : Int}
    (hinner : innerWidth.natAbs ≤ 3 * modestBound) :
    ∃ text, fragmentTable f innerWidth = .ok text := by
  refine ⟨_, writing_returns (fun n hn => ?_) _⟩
  have hleft := hf.left
  have htop := hf.top
  have hwidth := hf.width
  unfold IsModest at hleft htop hwidth
  unfold writtenNumbers at hn
  split at hn
  · simp only [List.mem_cons, List.not_mem_nil, or_false] at hn
    rcases hn with rfl | rfl | rfl <;> omega
  · simp only [List.mem_cons, List.not_mem_nil, or_false] at hn
    rcases hn with rfl | rfl | rfl | rfl | rfl <;> omega

/-- A container with modest numbers is written. -/
theorem containerOf_returns (hconfig : config.IsModest) (hwidth : IsModest width)
    (hfragments : ∀ f ∈ fragments, f.IsModest) (background : Background) :
    ∃ text, containerOf config fragments width background = .ok text := by
  have hheight := natAbs_containerHeight hconfig hfragments
  have hborder := hconfig.border
  unfold IsModest at hborder hwidth
  have htables : ∃ tables, (inReadingOrder fragments).mapM
      (fun f => fragmentTable f (width - 2 * config.containerBorder)) = .ok tables :=
    except_mapM_returns fun f hf =>
      fragmentTable_returns (hfragments f (Layout.mem_sortOn hf)) (by omega)
  rcases htables with ⟨tables, htables⟩
  have hnumbers : ∀ n ∈ [config.containerBorder, width, containerHeight config fragments,
      width - 2 * config.containerBorder,
      containerHeight config fragments - 2 * config.containerBorder],
      n.natAbs ≤ 9 * modestBound := by
    simp only [List.forall_mem_cons]
    exact ⟨by omega, by omega, by omega, by omega, by omega, by simp⟩
  simp only [containerOf]
  exact ⟨_, except_bind_ok.mpr ⟨tables, htables, writing_returns hnumbers _⟩⟩

/-- A container with modest numbers is written on a canvas whose width is a number of pixels. -/
theorem container_returns (hconfig : config.IsModest) {canvasWidth : K}
    (hrounded : Scalar.roundHalfUp canvasWidth = .ok width) (hwidth : IsModest width)
    (hfragments : ∀ f ∈ fragments, f.IsModest) (background : Background) :
    ∃ text, container config fragments canvasWidth background = .ok text := by
  rcases containerOf_returns hconfig hwidth hfragments background with ⟨text, htext⟩
  rw [container, hrounded]
  exact ⟨text, numeral_ok.mpr htext⟩

/-- A document with modest numbers is written. -/
theorem tableDocument_returns (hconfig : config.IsModest)
    (hfragments : ∀ f ∈ fragments, f.IsModest) {canvasWidth canvasHeight : K} {height : Int}
    (hrounded : Scalar.roundHalfUp canvasWidth = .ok width) (hwidth : IsModest width)
    (hheight : Scalar.roundHalfUp canvasHeight = .ok height) (background : Background) :
    ∃ text, tableDocument config fragments canvasWidth canvasHeight background = .ok text := by
  rcases containerOf_returns hconfig hwidth hfragments background with ⟨body, hbody⟩
  refine ⟨document config (centered width body) (baseStyles ++ containerStyles), ?_⟩
  simp only [tableDocument, container, emailDocument, hrounded, hheight, except_bind_ok,
    except_pure_ok, number_ok]
  exact ⟨body, ⟨width, rfl, numeral_ok.mpr hbody⟩, height, rfl, width, rfl, rfl⟩

end Writing

/-- Fragments with modest numbers on a canvas of modest width. -/
structure IsModestLayout (config : Config K) (fragments : List Fragment) (width height : K) :
    Prop where
  config : config.IsModest
  fragments : ∀ f ∈ fragments, f.IsModest
  width : ∃ w again, Scalar.roundHalfUp width = .ok w ∧ IsModest w ∧
    Scalar.roundInt (K := K) w = .ok again
  height : ∃ h, Scalar.roundHalfUp height = .ok h

section Compiling

variable {names : List String} {f : Fragment} {t : PlacedTable}

/-- The numbers of a draft are those of its fragment. -/
theorem isReadable_draft (h : HasDraft names f t) (hf : f.IsModest) : t.IsReadable where
  left := h.draft.left ▸ hf.left.writable
  top := h.draft.top ▸ hf.top.writable
  width := h.draft.width ▸ hf.width.writable
  height n hn := h.draft.height n hn ▸ hf.height.writable

/-- Fragments with short numbers and short codes are lifted. -/
theorem lift_returns {fragments : List Fragment}
    (hdrafts : ∀ f ∈ fragments, ∃ t : PlacedTable, HasDraft names f t ∧ t.IsReadable)
    (hnames : ∀ name ∈ names, '"' ∉ name.toList)
    (hcodes : ∀ name ∈ names, Text.hasLongCode name.toList = false) {width : K} {w again : Int}
    (hwidth : Scalar.roundHalfUp width = .ok w)
    (hagain : Scalar.roundInt (K := K) w = .ok again) :
    ∃ lifted, lift config fragments width = .ok lifted := by
  rcases exists_pairs hdrafts with ⟨pairs, rfl, hpairs⟩
  have hdecodes : ∃ decoded, pairs.mapM decodePair = .ok decoded :=
    except_mapM_returns fun p hp => by
      rcases (hpairs p hp).1.sound.decodes hcodes with ⟨t', ht'⟩
      exact ⟨(p.1, t'), except_map_ok.mpr ⟨t', ht', rfl⟩⟩
  rcases hdecodes with ⟨decoded, hdecoded⟩
  refine ⟨decoded.map fun p => liftedFrom w p.1 p.2, ?_⟩
  rw [lift_drafts (fun p hp => (hpairs p hp).1) hnames (fun p hp => (hpairs p hp).2) hwidth hagain,
    hdecoded]
  rfl

/-- Fragments with modest numbers and short codes are compiled. -/
theorem compileFragments_returns {fragments : List Fragment} {width height : K}
    (hmodest : IsModestLayout config fragments width height)
    (hdrafts : ∀ f ∈ fragments, ∃ t : PlacedTable, HasDraft names f t)
    (hnames : ∀ name ∈ names, '"' ∉ name.toList)
    (hcodes : ∀ name ∈ names, Text.hasLongCode name.toList = false) (background : Background) :
    ∃ text, compileFragments config fragments width height background = .ok text := by
  rcases hmodest with ⟨hconfig, hfragments, ⟨w, again, hwidth, hmodest, hagain⟩, h, hheight⟩
  have hreadable : ∀ f ∈ fragments, ∃ t : PlacedTable, HasDraft names f t ∧ t.IsReadable := by
    intro f hf
    rcases hdrafts f hf with ⟨t, ht⟩
    exact ⟨t, ht, isReadable_draft ht (hfragments f hf)⟩
  have hlifts : ∃ lifted, lift config fragments width = .ok lifted :=
    lift_returns hreadable hnames hcodes hwidth hagain
  rcases hlifts with ⟨lifted, hlift⟩
  -- A width is cut to the canvas when it is lifted, and both are modest.
  have hlifted : ∀ f ∈ lifted, f.IsModest := by
    rcases lift_ok hdrafts hnames hlift with ⟨canvas, pairs, hcanvas, rfl, -, rfl⟩
    obtain rfl : w = canvas := by simpa [hwidth] using hcanvas
    intro f hf
    rcases List.mem_map.mp hf with ⟨p, hp, rfl⟩
    have hp := hfragments p.1 (List.mem_map_of_mem hp)
    have hsize : IsModest (min p.1.width w) := by
      have hown := hp.width
      unfold IsModest at hown hmodest ⊢
      omega
    exact ⟨hp.left, hp.top, hsize, hp.height⟩
  rcases tableDocument_returns hconfig hlifted hwidth hmodest hheight background with
    ⟨text, htext⟩
  exact ⟨text, except_bind_ok.mpr ⟨lifted, hlift, htext⟩⟩

end Compiling

section Reading

/-- A number that is still modest when others of its kind are added to it. -/
def IsShort (n : Int) : Prop :=
  10 * n.natAbs ≤ modestBound

instance (n : Int) : Decidable (IsShort n) :=
  Nat.decLe (10 * n.natAbs) modestBound

/-- The texts that the lengths of a table are read from. -/
def lengthTexts (n : Markup.Node) : List String :=
  ["top", "left", "width", "height", "padding-top", "padding-bottom"].filterMap
    (Style.valueOf? (styleOf n)) ++ (n.get? "height").toList

/-- None of the lengths of a table takes thousands of characters. -/
def HasShortLengths (n : Markup.Node) : Prop :=
  ∀ text ∈ lengthTexts n, text.toList.length < 4000

variable {table : Markup.Node}

theorem isShort_of_lt {n : Int} {k : Nat} (hk : k < 4000) (h : n.natAbs < Nat.pow 10 k) :
    IsShort n := by
  have hbound : Nat.pow 10 k * 10 ≤ modestBound := by
    unfold modestBound
    generalize 4000 = m at hk ⊢
    exact Nat.pow_le_pow_right (by decide : 0 < 10) hk
  rw [IsShort]
  omega

/-- A short text is read as a short number, or as none. -/
theorem readPixels_short {value : Option String}
    (h : ∀ text ∈ value, text.toList.length < 4000) (fallback : Int) :
    ∃ n, Style.readPixels value fallback = .ok n ∧ (IsShort n ∨ n = fallback) := by
  cases value with
  | none => exact ⟨fallback, rfl, Or.inr rfl⟩
  | some text =>
      have hlength := h text rfl
      rcases leadingInt?_short (Nat.le_trans (Nat.le_of_lt hlength)
        (show 4000 ≤ Text.numeralLimit by decide)) with ⟨read, hread, hbound⟩
      refine ⟨read.getD fallback, by rw [Style.readPixels, hread]; rfl, ?_⟩
      cases read with
      | none => exact Or.inr rfl
      | some n => exact Or.inl (isShort_of_lt hlength (hbound n rfl))

theorem declared_short (h : HasShortLengths table) {property : String}
    (hproperty : property ∈ ["top", "left", "width", "height", "padding-top", "padding-bottom"])
    (fallback : Int) :
    ∃ n, declared table property fallback = .ok n ∧ (IsShort n ∨ n = fallback) :=
  readPixels_short (fun text htext => h text (List.mem_append_left _
    (List.mem_filterMap.mpr ⟨property, hproperty, htext⟩))) fallback

theorem isShort_zero : IsShort 0 :=
  Nat.zero_le modestBound

/-- A length that is zero by default is short. -/
theorem declared_short_zero (h : HasShortLengths table) {property : String}
    (hproperty : property ∈ ["top", "left", "width", "height", "padding-top", "padding-bottom"]) :
    ∃ n, declared table property 0 = .ok n ∧ IsShort n := by
  rcases declared_short h hproperty 0 with ⟨n, hn, hshort | rfl⟩
  · exact ⟨n, hn, hshort⟩
  · exact ⟨0, hn, isShort_zero⟩

theorem ownHeight_short (h : HasShortLengths table) :
    ∃ n, ownHeight table = .ok n ∧ IsShort n := by
  rcases declared_short_zero h (show "height" ∈ _ by decide) with ⟨height, hheight, hshort⟩
  have hattribute : ∃ n, Style.readPixels (table.get? "height") 0 = .ok n ∧ IsShort n := by
    have htext : ∀ text ∈ table.get? "height", text.toList.length < 4000 := fun text htext =>
      h text (List.mem_append_right _ (Option.mem_toList.mpr htext))
    rcases readPixels_short htext 0 with ⟨n, hn, hshort | rfl⟩
    · exact ⟨n, hn, hshort⟩
    · exact ⟨0, hn, isShort_zero⟩
  rcases hattribute with ⟨n, hn, hn'⟩
  rw [ownHeight, hheight]
  by_cases hzero : height = 0
  · exact ⟨n, by rw [← hn, hzero]; rfl, hn'⟩
  · refine ⟨height, ?_, hshort⟩
    change (if height ≠ 0 then _ else _) = _
    rw [if_pos hzero]
    rfl

/-- A table with short lengths becomes a fragment with modest numbers. -/
theorem fragmentOf_returns (h : HasShortLengths table)
    (hfallback : IsShort config.fallbackFragmentHeight) {canvas : Int} (hcanvas : IsModest canvas)
    (markup : String) (linked : Bool) :
    ∃ f, fragmentOf config canvas table markup linked = .ok f ∧ f.IsModest := by
  rcases declared_short_zero h (show "top" ∈ _ by decide) with ⟨top, htop, hshortTop⟩
  rcases declared_short_zero h (show "left" ∈ _ by decide) with ⟨left, hleft, hshortLeft⟩
  rcases declared_short h (show "width" ∈ _ by decide) canvas with ⟨width, hwidth, hshortWidth⟩
  rcases declared_short_zero h (show "padding-top" ∈ _ by decide) with ⟨above, habove, hshortAbove⟩
  rcases declared_short_zero h (show "padding-bottom" ∈ _ by decide) with
    ⟨below, hbelow, hshortBelow⟩
  rcases ownHeight_short h with ⟨own, hown, hshortOwn⟩
  have hheight : declaredHeight config table
      = .ok ((if own ≠ 0 then own else config.fallbackFragmentHeight) + (above + below)) := by
    rw [declaredHeight, hown, habove, hbelow]
    rfl
  rw [fragmentOf, htop, hleft, hwidth, hheight]
  refine ⟨_, rfl, ?_⟩
  -- All of them are sums of at most three short numbers, or the width of the canvas.
  unfold IsShort at hshortTop hshortLeft hshortWidth hshortAbove hshortBelow hshortOwn hfallback
  have hmodestWidth : IsModest width := by
    rcases hshortWidth with hshort | rfl
    · unfold IsModest
      omega
    · exact hcanvas
  unfold IsModest at hcanvas hmodestWidth
  constructor
  · change left.natAbs ≤ modestBound
    omega
  · change top.natAbs ≤ modestBound
    omega
  · change (min width canvas).natAbs ≤ modestBound
    omega
  · change ((if own ≠ 0 then own else config.fallbackFragmentHeight) + (above + below)).natAbs
      ≤ modestBound
    split <;> omega

end Reading

end Document

end Letterpress
