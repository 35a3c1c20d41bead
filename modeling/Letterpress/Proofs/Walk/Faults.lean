import Letterpress.Proofs.Number.Exact
import Letterpress.Proofs.Session.Faults
import Letterpress.Proofs.Walk.Alike

/-!
# What Can Stop a Walk

Only arithmetic can stop the walk over a frame. What the design tool fails to deliver is
attempted, and every part of a node that is asked for is there. A walk fails in the ways
in which four operations fail: rounding, rounding up, reading a whole number as a scalar,
and dividing by the step of the grid of table rows. With rationals none of them does.

Texts and tables are written from the design alone. A font that cannot be had is noted and
makes no difference to the markup, so two walks show the same texts and the same tables
whatever their hosts answer.

## Main definitions

* `Config.FailsIn`: How the arithmetic of a walk fails.
* `Fault.IsNumber`: A fault of arithmetic.

## Theorems

* `failsIn_rat`: With rationals nothing fails.
* `text_agree`, `synthesize_agree`: Texts and tables do not depend on the host.
* `visit_stops`, `walk_stops`: What can stop a visit, and a walk.
-/

open Letterpress.Task

namespace Letterpress

variable {K ω ω' : Type} [Scalar K] {config : Config K} {Q : NumberError → Prop}

/-- The arithmetic that is done with the settings fails in the given ways only. -/
structure Config.FailsIn (config : Config K) (Q : NumberError → Prop) : Prop where
  round : ∀ x : K, Letterpress.FailsIn Q (Scalar.roundHalfUp x)
  ceil : ∀ x : K, Letterpress.FailsIn Q (Scalar.ceil x)
  ofInt : ∀ n : Int, Letterpress.FailsIn Q (Scalar.ofInt? n : Except NumberError K)
  divide : ∀ x : K, Letterpress.FailsIn Q (Scalar.divide? x config.rowBucket)

theorem failsIn_any (config : Config K) : config.FailsIn fun _ => True :=
  ⟨fun _ _ _ => trivial, fun _ _ _ => trivial, fun _ _ _ => trivial, fun _ _ _ => trivial⟩

/-- With rationals nothing fails, as long as the grid of table rows has steps. -/
theorem failsIn_rat {config : Config Rat} (hgrid : config.rowBucket ≠ 0) :
    config.FailsIn fun _ => False where
  round x := by
    rw [roundHalfUp_rat]
    exact failsIn_ok _
  ceil x := by
    rw [ceil_rat]
    exact failsIn_ok _
  ofInt n := by
    rw [ofInt?_rat]
    exact failsIn_ok _
  divide x := by
    have hzero : Scalar.isZero config.rowBucket = false := by
      simpa [Scalar.isZero, Scalar.reading] using hgrid
    rw [Scalar.divide?, hzero]
    exact failsIn_ok _

/-- The fault is one of arithmetic. -/
def Fault.IsNumber (Q : NumberError → Prop) (fault : Fault) : Prop :=
  ∃ e, Q e ∧ fault = .number e

theorem isNumber_number (e : NumberError) (h : Q e) : Fault.IsNumber Q (.number e) :=
  ⟨e, h, rfl⟩

theorem failsIn_number {α : Type} {x : Except NumberError α} (h : FailsIn Q x) :
    FailsIn (Fault.IsNumber Q) (liftM x : Except Fault α) :=
  h.mapError isNumber_number

section Writing

variable (h : config.FailsIn Q)

include h

namespace Style

theorem pixels_failsIn (x : K) : FailsIn Q (pixels x) :=
  (h.round x).bind fun _ => failsIn_pure _

theorem channelByte_failsIn (x : K) : FailsIn Q (channelByte x) :=
  (h.round _).bind fun _ => failsIn_pure _

theorem bytes_failsIn (c : Rgb K) : FailsIn Q (bytes c) :=
  (channelByte_failsIn h _).bind fun _ => (channelByte_failsIn h _).bind fun _ =>
    (channelByte_failsIn h _).bind fun _ => failsIn_pure _

theorem hex_failsIn (c : Rgb K) : FailsIn Q (hex c) :=
  (bytes_failsIn h c).bind fun _ => failsIn_pure _

theorem translucent_failsIn (c : Rgb K) (opacity : K) : FailsIn Q (translucent c opacity) :=
  (bytes_failsIn h c).bind fun _ => failsIn_pure _

end Style

namespace Render

theorem placedTable_failsIn (x y width : K) (height : Option K) (rows : String) :
    FailsIn Q (placedTable x y width height rows) := by
  have hstyle : FailsIn Q (placedStyle x y width height) :=
    (Style.pixels_failsIn h x).bind fun _ => (Style.pixels_failsIn h y).bind fun _ =>
      (Style.pixels_failsIn h width).bind fun _ =>
        (failsIn_optionMapM (Style.pixels_failsIn h) height).bind fun _ => failsIn_pure _
  exact hstyle.bind fun _ => failsIn_pure _

theorem placedFragment_failsIn (x y width height : K) (rows : String) :
    FailsIn Q (placedFragment x y width height rows) :=
  (placedTable_failsIn h _ _ _ _ _).bind fun _ => (h.round x).bind fun _ =>
    (h.round y).bind fun _ => (h.round width).bind fun _ => (h.round height).bind fun _ =>
      failsIn_pure _

theorem image_failsIn (source : String) (x y width height : K) :
    FailsIn Q (image source x y width height) :=
  (h.round width).bind fun _ => (h.round height).bind fun _ => placedFragment_failsIn h _ _ _ _ _

theorem paintCss_failsIn (paint : Option (Paint K)) : FailsIn Q (paintCss paint) := by
  unfold paintCss
  split
  · split
    · exact (Style.hex_failsIn h _).map some
    · exact (Style.translucent_failsIn h _ _).map some
  · exact failsIn_pure none

theorem borderCss_failsIn (stroke : Option (Stroke K)) : FailsIn Q (borderCss stroke) := by
  unfold borderCss
  split
  · split
    · exact failsIn_pure none
    · exact (Style.pixels_failsIn h _).bind fun _ => (Style.translucent_failsIn h _ _).bind
        fun _ => failsIn_pure _
  · exact failsIn_pure none

theorem cornersCss_failsIn (body : ShapeBody K) : FailsIn Q (cornersCss body) := by
  unfold cornersCss
  split
  · exact failsIn_pure _
  · split
    · exact failsIn_pure none
    · split
      · exact (failsIn_mapM (Style.pixels_failsIn h) _).bind fun _ => failsIn_pure _
      · exact (Style.pixels_failsIn h _).map some

/-- A shape is shown unless arithmetic fails: it has the outline that it is asked for. -/
theorem shape_failsIn {node : Node K} (hmarkup : hasMarkup node = true) (x y : K) :
    FailsIn (Fault.IsNumber Q) (shape node x y) := by
  cases node with
  | container _ _ _ | text _ _ | image _ _ => exact absurd hmarkup (by simp [hasMarkup])
  | shape c b =>
      unfold shape
      split
      · exact failsIn_pure none
      · rename_i box _
        have hstyle : FailsIn (Fault.IsNumber Q) (shapeStyle (.shape c b) box) :=
          (failsIn_number (Style.pixels_failsIn h _)).bind fun _ =>
            (failsIn_number (Style.pixels_failsIn h _)).bind fun _ =>
              (failsIn_number (paintCss_failsIn h _)).bind fun _ =>
                (failsIn_ok b).bind fun body =>
                  (failsIn_number (borderCss_failsIn h body.stroke)).bind fun _ =>
                    (failsIn_number (cornersCss_failsIn h body)).bind fun _ => failsIn_pure _
        exact hstyle.bind fun _ =>
          (failsIn_number (placedFragment_failsIn h _ _ _ _ _)).bind fun _ => failsIn_pure _

theorem lineHeightCss_failsIn (height : LineHeight K) : FailsIn Q (lineHeightCss height) := by
  unfold lineHeightCss
  split
  · exact (Style.pixels_failsIn h _).map some
  · exact failsIn_pure _
  · exact failsIn_pure none

theorem paragraphLineHeight_failsIn (body : TextBody K) :
    FailsIn Q (paragraphLineHeight body) := by
  unfold paragraphLineHeight
  split
  · exact failsIn_pure _
  · exact (lineHeightCss_failsIn h _).bind fun _ => failsIn_pure _

theorem spans_failsIn (body : TextBody K) : FailsIn Q (spans config body) := by
  have hspan : ∀ run, FailsIn Q (span config body.characters run) := by
    intro run
    unfold span
    dsimp only
    split
    · exact failsIn_pure ""
    · have hstyle : FailsIn Q (spanStyle config run) :=
        (failsIn_optionMapM (Style.hex_failsIn h) _).bind fun _ =>
          (lineHeightCss_failsIn h _).bind fun _ => failsIn_pure _
      exact hstyle.bind fun _ => failsIn_pure _
  exact (failsIn_mapM hspan _).bind fun _ => failsIn_pure _

end Render

namespace Table

theorem radiusPixels_failsIn (radius : Int) : FailsIn Q (radiusPixels K radius) := by
  have hround : FailsIn Q (Scalar.roundInt (K := K) radius) :=
    (h.ofInt radius).bind fun x => h.round x
  exact hround.bind fun _ => failsIn_pure _

theorem cellMarkup_failsIn (cell : Cell K) (content : String) :
    FailsIn Q (cellMarkup config cell content) := by
  have hradius : ∀ radius, FailsIn Q (radiusCss K radius) := by
    intro radius
    unfold radiusCss
    split
    · exact failsIn_pure "0"
    · exact radiusPixels_failsIn h radius
  have hcorners : FailsIn Q (cornersCss K cell.corners) := by
    unfold cornersCss
    split
    · exact failsIn_pure none
    · exact (failsIn_mapM hradius _).bind fun _ => failsIn_pure _
  have hstyle : FailsIn Q (cellStyle config cell) := hcorners.bind fun _ => failsIn_pure _
  exact hstyle.bind fun _ => failsIn_pure _

theorem tableMarkup_failsIn (x y width : K) (rows : List String) :
    FailsIn Q (tableMarkup config x y width rows) := by
  have hstyle : FailsIn Q (innerStyle config) :=
    (radiusPixels_failsIn h _).bind fun _ => failsIn_pure _
  exact hstyle.bind fun _ => Render.placedTable_failsIn h _ _ _ _ _

theorem cellsFrom_failsIn (donors : List (Donor K)) (row rows columns column : Nat)
    (cells : List (TextLeaf K × String)) :
    FailsIn Q (cellsFrom config row rows columns donors column cells) := by
  induction cells generalizing column with
  | nil => exact failsIn_pure []
  | cons cell rest ih =>
      have hbackground : FailsIn Q (cellBackground config (row = 0) cell.1 donors) := by
        refine (failsIn_optionMapM (Style.hex_failsIn h) _).bind fun color => ?_
        cases color <;> exact failsIn_pure _
      exact hbackground.bind fun _ => (ih (column + 1)).bind fun _ => failsIn_pure _

theorem leafRows_failsIn (leaves : List (TextLeaf K)) : FailsIn Q (leafRows config leaves) := by
  have hfill : ∀ (items : List (TextLeaf K)) (buckets : List (Int × List (TextLeaf K))),
      FailsIn Q (Layout.fillBuckets leafExtent config.rowBucket items buckets) := by
    intro items
    induction items with
    | nil => exact fun buckets => failsIn_pure buckets
    | cons item rest ih =>
        intro buckets
        have hnumber : FailsIn Q (Layout.bucketNumber config.rowBucket (leafExtent.y item)) :=
          (h.divide _).bind fun x => h.round x
        exact hnumber.bind fun _ => ih _
  exact (hfill leaves []).bind fun _ => failsIn_pure _

end Table

theorem growth_failsIn (expected : Int) (height : K) : FailsIn Q (growth expected height) := by
  unfold growth
  refine (h.ofInt expected).bind fun x => ?_
  dsimp only
  split
  · exact h.ceil _
  · exact failsIn_pure 0

theorem isPaper_failsIn (p : Placed K) (frame : Rect K) :
    FailsIn Q (p.isPaper config frame) := by
  have hsame : ∀ a b : K, FailsIn Q (samePixels a b) := fun a b =>
    (h.round a).bind fun _ => (h.round b).bind fun _ => failsIn_pure _
  have hnone : ∀ a : K, FailsIn Q (noPixels a) := fun a =>
    (h.round a).bind fun _ => failsIn_pure _
  -- Sizes and edges are compared one after another, up to the first that differs.
  have hfills : FailsIn Q (p.fillsFrame frame) := by
    refine (hsame _ _).bind fun width => ?_
    cases width with
    | false => exact failsIn_pure false
    | true =>
        refine (hsame _ _).bind fun height => ?_
        cases height with
        | false => exact failsIn_pure false
        | true =>
            refine (hnone _).bind fun left => ?_
            cases left with
            | false => exact failsIn_pure false
            | true => exact hnone _
  unfold Placed.isPaper
  split
  · refine hfills.bind fun covers => ?_
    cases covers <;> exact failsIn_pure _
  · exact failsIn_pure false

end Writing

section Showing

variable (h : config.FailsIn Q) {host : Host ω K} {host' : Host ω' K}

namespace Render

omit [Scalar K] in
theorem missingFonts_returns (host : Host ω K) (fonts : List FontName) :
    StopsIn (fun _ => False) (missingFonts host fonts) := by
  induction fonts with
  | nil => exact stopsIn_pure []
  | cons font rest ih =>
      refine (stopsIn_attempt _).bind fun outcome => ih.bind fun missing => ?_
      cases outcome <;> exact stopsIn_pure _

omit [Scalar K] in
/-- Asking for fonts always returns. -/
theorem loadFonts_returns (host : Host ω K) (body : TextBody K) :
    StopsIn (fun _ => False) (loadFonts host body) := by
  refine (missingFonts_returns host _).bind fun missing => ?_
  by_cases hmissing : missing = []
  · rw [if_pos hmissing]
    exact stopsIn_pure true
  · rw [if_neg hmissing]
    exact (stopsIn_warn _).bind fun _ => stopsIn_pure false

include h in
/-- The spans of a text are the same whichever fonts can be had. -/
theorem loadedSpans_agree (body : TextBody K) :
    Agree (Fault.IsNumber Q) (loadedSpans host config body) (loadedSpans host' config body) :=
  Agree.after (loadFonts_returns host body) (loadFonts_returns host' body) fun _ _ =>
    agree_number (spans_failsIn h body) isNumber_number

include h in
theorem textBlock_agree (body : TextBody K) :
    Agree (Fault.IsNumber Q) (textBlock host config body) (textBlock host' config body) :=
  (loadedSpans_agree h body).bind fun _ =>
    (agree_number (paragraphLineHeight_failsIn h body) isNumber_number).bind fun _ =>
      agree_pure _

include h in
/-- A text is shown the same way whatever the host answers. -/
theorem text_agree {node : Node K} (htext : node.isText = true) (x y : K) :
    Agree (Fault.IsNumber Q) (text host config node x y) (text host' config node x y) := by
  cases node with
  | container _ _ _ | shape _ _ | image _ _ => exact absurd htext (by simp [Node.isText])
  | text c b =>
      unfold text
      split
      · exact agree_pure none
      · exact (agree_lift (failsIn_ok b)).bind fun body =>
          (loadedSpans_agree h body).bind fun _ =>
            (agree_number (paragraphLineHeight_failsIn h body) isNumber_number).bind fun _ =>
              (agree_number (placedFragment_failsIn h _ _ _ _ _) isNumber_number).bind fun _ =>
                agree_pure _

end Render

namespace Table

include h

theorem cellsMarkup_agree (cells : List (Cell K)) :
    Agree (Fault.IsNumber Q) (cellsMarkup host config cells)
      (cellsMarkup host' config cells) := by
  induction cells with
  | nil => exact agree_pure ""
  | cons cell rest ih =>
      exact (Render.textBlock_agree h _).bind fun _ =>
        (agree_number (cellMarkup_failsIn h _ _) isNumber_number).bind fun _ =>
          ih.bind fun _ => agree_pure _

theorem rowsMarkup_agree (donors : List (Donor K)) (count row : Nat)
    (rows : List (List (TextLeaf K))) :
    Agree (Fault.IsNumber Q) (rowsMarkup host config donors count row rows)
      (rowsMarkup host' config donors count row rows) := by
  induction rows generalizing row with
  | nil => exact agree_pure []
  | cons leaves rest ih =>
      exact (agree_number (cellsFrom_failsIn h _ _ _ _ _ _) isNumber_number).bind fun cells =>
        (cellsMarkup_agree h cells).bind fun _ => (ih (row + 1)).bind fun _ => agree_pure _

/-- A region is rebuilt as the same table whatever the host answers. -/
theorem synthesize_agree (node : Node K) (x y : K) :
    Agree (Fault.IsNumber Q) (synthesize host config node x y)
      (synthesize host' config node x y) := by
  unfold synthesize
  split
  · split
    · exact agree_pure none
    · exact (agree_number (leafRows_failsIn h _) isNumber_number).bind fun rows =>
        (rowsMarkup_agree h _ _ _ rows).bind fun _ =>
          (agree_number (tableMarkup_failsIn h _ _ _ _) isNumber_number).bind fun _ =>
            agree_pure _
  · exact agree_pure none

end Table

end Showing

section Visiting

variable (h : config.FailsIn Q) (host : Host ω K)

include h

theorem visitTable_stops (p : Placed K) (y : K) (w : Walk) :
    StopsIn (Fault.IsNumber Q) (visitTable host config p y w) := by
  refine (Table.synthesize_agree h _ _ _).stopsIn.bind fun table =>
    (stopsIn_number (growth_failsIn h _ _) isNumber_number).bind fun d => ?_
  cases table with
  | none => exact stopsIn_pure _
  | some table =>
      exact (stopsIn_number (h.round _) isNumber_number).bind fun _ =>
        (stopsIn_number (h.round _) isNumber_number).bind fun _ =>
          (stopsIn_number (h.round _) isNumber_number).bind fun _ => stopsIn_pure _

theorem visitPicture_stops (p : Placed K) (y : K) (w : Walk) :
    StopsIn (Fault.IsNumber Q) (visitPicture host config p y w) := by
  refine (stopsIn_attempt _).bind fun answer => ?_
  cases answer with
  | error fault => exact (stopsIn_warn _).bind fun _ => stopsIn_pure _
  | ok data =>
      exact (stopsIn_number (Render.image_failsIn h _ _ _ _ _) isNumber_number).bind fun _ =>
        stopsIn_pure _

theorem visitNode_stops (p : Placed K) (y : K) (w : Walk) :
    StopsIn (Fault.IsNumber Q) (visitNode host config p y w) := by
  rw [visitNode_eq]
  cases gifId? p.node.name with
  | some gif =>
      exact (stopsIn_number (Render.image_failsIn h _ _ _ _ _) isNumber_number).bind fun _ =>
        stopsIn_pure _
  | none =>
      dsimp only
      split
      · exact (Render.text_agree h ‹_› _ _).stopsIn.bind fun _ => stopsIn_pure _
      · split
        · exact (stopsIn_lift (Render.shape_failsIn h ‹_› _ _)).bind fun _ => stopsIn_pure _
        · exact visitPicture_stops h host p y w

omit h in
theorem visitLink_stops {P : Fault → Prop} (host : Host ω K) (config : Config K)
    (node : Node K) (target : String) (fragment : Fragment) (w : Walk) :
    StopsIn P (visitLink host config node target fragment w) := by
  refine (stopsIn_attempt _).bind fun answer => ?_
  cases answer with
  | error fault => exact (stopsIn_warn _).bind fun _ => stopsIn_pure _
  | ok data => exact stopsIn_pure _

/-- Only arithmetic can stop the visit of a child. -/
theorem visit_stops (p : Placed K) (w : Walk) :
    StopsIn (Fault.IsNumber Q) (visit host config p w) := by
  have hmade : ∀ y, StopsIn (Fault.IsNumber Q) (visitUnlinked host config p y w) := by
    intro y
    unfold visitUnlinked
    split
    · exact visitTable_stops h host p y w
    · exact visitNode_stops h host p y w
  rw [visit_eq]
  refine (stopsIn_number (h.ofInt _) isNumber_number).bind fun shift =>
    (hmade _).bind fun ⟨made, w₁⟩ => ?_
  rcases made with _ | fragment
  · exact stopsIn_pure _
  · rcases linkTarget? p.node.name with _ | target
    · exact stopsIn_pure _
    · exact (visitLink_stops host config p.node target fragment w₁).bind fun _ => stopsIn_pure _

theorem visitAll_stops (frame : Rect K) (children : List (Placed K)) (w : Walk) :
    StopsIn (Fault.IsNumber Q) (visitAll host config frame children w) := by
  induction children generalizing w with
  | nil => exact stopsIn_pure w
  | cons p rest ih =>
      refine (stopsIn_number (isPaper_failsIn h p frame) isNumber_number).bind fun paper => ?_
      cases paper with
      | true => exact ih w
      | false => exact (visit_stops h host p w).bind fun w₁ => ih w₁

theorem backgroundOf_stops (frame : Node K) (w : Walk) :
    StopsIn (Fault.IsNumber Q) (backgroundOf host config frame w) := by
  unfold backgroundOf
  split
  · exact stopsIn_pure w
  · exact (stopsIn_number (Style.hex_failsIn h _) isNumber_number).bind fun _ => stopsIn_pure _
  · refine (stopsIn_attempt _).bind fun answer => ?_
    split
    · exact (stopsIn_warn _).bind fun _ => stopsIn_pure _
    · exact (stopsIn_warn _).bind fun _ => stopsIn_pure _
    · exact stopsIn_pure _

/-- A walk is stopped by arithmetic, unless its root has no bounds or is no container. -/
theorem walk_stops {P : Fault → Prop} (root : Node K)
    (hnumber : ∀ fault, Fault.IsNumber Q fault → P fault)
    (hbounds : root.bounds = none → P (.unboundedRoot root.name))
    (hlist : FailsIn P root.childList) : StopsIn P (walk host config root) := by
  have hmono : ∀ {α : Type} {t : Task ω K α}, StopsIn (Fault.IsNumber Q) t → StopsIn P t :=
    fun ht s => (ht s).mono hnumber
  unfold walk
  split
  · exact stopsIn_throw (hbounds ‹_›)
  · exact (hmono (backgroundOf_stops h host root {})).bind fun w =>
      (stopsIn_lift hlist).bind fun children => hmono (visitAll_stops h host _ _ w)

end Visiting

end Letterpress
