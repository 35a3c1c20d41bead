import Letterpress.Proofs.Layout.Rows
import Letterpress.Proofs.Session.Calls
import Letterpress.Proofs.Table.Cells
import Letterpress.Proofs.Walk.Faults
import Letterpress.Proofs.Walk.Offset

/-!
# Calls of a Walk

A walk touches the world by calls to the design tool only, whether it ends with
fragments or with a fault: fonts for its texts, pictures for what has no markup and for
links, and the picture of its background.

Which calls these are, and in which order, is read off the frame but for one thing: a link
is pictured only if it made a fragment, and whether it did may depend on an answer. First
comes the background. Then children are done with one after another, so that all calls for
a child come before those for the next. A walk that is stopped has made the calls up to
there.

## Main definitions

* `IsByFirstUse`: A list has what is used, each once, in the order of first use.
* `fontCalls`, `regionCalls`: The calls for a text, and for a region.
* `ownCalls`, `childCalls`: The calls for a child, without and with its link.
* `IsCourse`: A walk on its way over a frame.

## Theorems

* `text_asks`, `synthesize_asks`: Showing texts and tables.
* `visit_asks`: The visit of a child.
* `walk_asks`: The walk over a frame.
* `isByFirstUse_eraseDups`: Leaving out what has been listed before.
* `text_makes`, `synthesize_makes`: The calls for texts and tables.
* `visit_calls`, `visit_stopped`: The calls of a visit, and of one that is stopped.
* `Visits.calls`, `visitAll_stopped`: The calls of a run.
* `walk_returned`, `walk_stopped`, `walk_calls`: The calls of the walk over a frame.
-/

open Letterpress.Task

namespace Letterpress

variable {K ω : Type} [Scalar K] {host : Host ω K} {config : Config K}

namespace Render

omit [Scalar K] in
theorem missingFonts_asks (fonts : List FontName) : Asks host (missingFonts host fonts) := by
  induction fonts with
  | nil => exact asks_pure []
  | cons font rest ih =>
      refine (asks_loadFont font).attempt.bind fun outcome => ih.bind fun missing => ?_
      cases outcome <;> exact asks_pure _

omit [Scalar K] in
theorem loadFonts_asks (body : TextBody K) : Asks host (loadFonts host body) := by
  refine (missingFonts_asks _).bind fun missing => ?_
  by_cases hmissing : missing = []
  · rw [if_pos hmissing]
    exact asks_pure true
  · rw [if_neg hmissing]
    exact (asks_warn _).bind fun _ => asks_pure false

theorem loadedSpans_asks (body : TextBody K) : Asks host (loadedSpans host config body) :=
  (loadFonts_asks body).bind fun _ => asks_number _

theorem textBlock_asks (body : TextBody K) : Asks host (textBlock host config body) :=
  (loadedSpans_asks body).bind fun _ => (asks_number _).bind fun _ => asks_pure _

theorem text_asks (node : Node K) (x y : K) : Asks host (text host config node x y) := by
  unfold text
  cases node.bounds with
  | none => exact asks_pure none
  | some box =>
      exact (asks_lift _).bind fun body => (loadedSpans_asks body).bind fun _ =>
        (asks_number _).bind fun _ => (asks_number _).bind fun _ => asks_pure _

end Render

namespace Table

theorem cellsMarkup_asks (cells : List (Cell K)) : Asks host (cellsMarkup host config cells) := by
  induction cells with
  | nil => exact asks_pure ""
  | cons cell rest ih =>
      exact (Render.textBlock_asks _).bind fun _ => (asks_number _).bind fun _ =>
        ih.bind fun _ => asks_pure _

theorem rowsMarkup_asks (donors : List (Donor K)) (count row : Nat)
    (rows : List (List (TextLeaf K))) :
    Asks host (rowsMarkup host config donors count row rows) := by
  induction rows generalizing row with
  | nil => exact asks_pure []
  | cons leaves rest ih =>
      exact (asks_number _).bind fun cells => (cellsMarkup_asks cells).bind fun _ =>
        (ih (row + 1)).bind fun _ => asks_pure _

theorem synthesize_asks (node : Node K) (x y : K) :
    Asks host (synthesize host config node x y) := by
  unfold synthesize
  split
  · split
    · exact asks_pure none
    · exact (asks_number _).bind fun rows => (rowsMarkup_asks _ _ _ rows).bind fun _ =>
        (asks_number _).bind fun _ => asks_pure _
  · exact asks_pure none

end Table

theorem visitTable_asks (p : Placed K) (y : K) (w : Walk) :
    Asks host (visitTable host config p y w) := by
  refine (Table.synthesize_asks _ _ _).bind fun table => (asks_number _).bind fun d => ?_
  cases table with
  | none => exact asks_pure _
  | some table =>
      exact (asks_number _).bind fun _ => (asks_number _).bind fun _ =>
        (asks_number _).bind fun _ => asks_pure _

theorem visitPicture_asks (p : Placed K) (y : K) (w : Walk) :
    Asks host (visitPicture host config p y w) := by
  refine (asks_rasterize _ _).attempt.bind fun answer => ?_
  cases answer with
  | error fault => exact (asks_warn _).bind fun _ => asks_pure _
  | ok data => exact (asks_number _).bind fun _ => asks_pure _

theorem visitNode_asks (p : Placed K) (y : K) (w : Walk) :
    Asks host (visitNode host config p y w) := by
  unfold visitNode
  split
  · exact (asks_number _).bind fun _ => asks_pure _
  · exact (Render.text_asks _ _ _).bind fun _ => asks_pure _
  · split
    · exact (asks_lift _).bind fun _ => asks_pure _
    · exact visitPicture_asks p y w

theorem visitLink_asks (node : Node K) (target : String) (fragment : Fragment) (w : Walk) :
    Asks host (visitLink host config node target fragment w) := by
  refine (asks_rasterize _ _).attempt.bind fun answer => ?_
  cases answer with
  | error fault => exact (asks_warn _).bind fun _ => asks_pure _
  | ok data => exact asks_pure _

/-- The visit of a child asks the design tool only. -/
theorem visit_asks (p : Placed K) (w : Walk) : Asks host (visit host config p w) := by
  have hmade : ∀ y, Asks host (visitUnlinked host config p y w) := by
    intro y
    unfold visitUnlinked
    split
    · exact visitTable_asks p y w
    · exact visitNode_asks p y w
  rw [visit_eq]
  refine (asks_number _).bind fun shift => (hmade _).bind fun ⟨made, w₁⟩ => ?_
  rcases made with _ | fragment
  · exact asks_pure _
  · rcases linkTarget? p.node.name with _ | target
    · exact asks_pure _
    · exact (visitLink_asks p.node target fragment w₁).bind fun _ => asks_pure _

theorem visitAll_asks (frame : Rect K) (children : List (Placed K)) (w : Walk) :
    Asks host (visitAll host config frame children w) := by
  induction children generalizing w with
  | nil => exact asks_pure w
  | cons p rest ih =>
      refine (asks_number _).bind fun paper => ?_
      cases paper with
      | true => exact ih w
      | false => exact (visit_asks p w).bind fun w₁ => ih w₁

theorem backgroundOf_asks (frame : Node K) (w : Walk) :
    Asks host (backgroundOf host config frame w) := by
  unfold backgroundOf
  cases frame.firstFill with
  | none => exact asks_pure w
  | some paint =>
      cases paint with
      | solid color opacity => exact (asks_number (Style.hex color)).bind fun _ => asks_pure _
      | image ref opacity =>
          refine (asks_imageBytes ref).attempt.bind fun answer => ?_
          split
          · exact (asks_warn _).bind fun _ => asks_pure _
          · exact (asks_warn _).bind fun _ => asks_pure _
          · exact asks_pure _

/-- The walk over a frame asks the design tool only. -/
theorem walk_asks (root : Node K) : Asks host (walk host config root) := by
  unfold walk
  split
  · exact asks_throw _
  · exact (backgroundOf_asks root {}).bind fun w => (asks_lift _).bind fun _ => visitAll_asks _ _ w

section FirstUses

variable {α : Type} [DecidableEq α]

/-- The list has what is used, each once, in the order of first use. -/
structure IsByFirstUse (used listed : List α) : Prop where
  distinct : listed.Nodup
  mem_iff : ∀ a, a ∈ listed ↔ a ∈ used
  ordered : listed.Pairwise fun a b => used.idxOf a < used.idxOf b

/-- Leaving out what has been listed before leaves the order of first use. -/
theorem isByFirstUse_eraseDups (used : List α) : IsByFirstUse used used.eraseDups := by
  induction used using List.reverseRecOn with
  | nil => exact ⟨List.nodup_nil, fun a => Iff.rfl, List.Pairwise.nil⟩
  | append_singleton used a ih =>
      -- What was used before is first used where it was.
      have hbefore : used.eraseDups.Pairwise fun b c =>
          (used ++ [a]).idxOf b < (used ++ [a]).idxOf c := by
        refine ih.ordered.imp_of_mem fun {b c} hb hc hbc => ?_
        rwa [List.idxOf_append_of_mem ((ih.mem_iff b).mp hb),
          List.idxOf_append_of_mem ((ih.mem_iff c).mp hc)]
      rw [List.eraseDups_append]
      by_cases ha : a ∈ used
      · have hnone : [a].removeAll used = [] := by simp [List.removeAll, ha]
        rw [hnone, List.eraseDups_nil, List.append_nil]
        refine ⟨ih.distinct, fun b => ?_, hbefore⟩
        rw [ih.mem_iff, List.mem_append, List.mem_singleton]
        exact ⟨Or.inl, fun h => h.elim id fun hb => hb ▸ ha⟩
      · have hnew : ([a].removeAll used).eraseDups = [a] := by
          simp [List.removeAll, ha, List.eraseDups_cons]
        rw [hnew]
        refine ⟨?_, fun b => ?_, ?_⟩
        · refine List.nodup_append.mpr ⟨ih.distinct, List.pairwise_singleton _ a,
            fun b hb c hc hbc => ?_⟩
          rw [List.mem_singleton] at hc
          exact ha (hc ▸ hbc ▸ (ih.mem_iff b).mp hb)
        · rw [List.mem_append, List.mem_append, ih.mem_iff]
        · refine List.pairwise_append.mpr ⟨hbefore, List.pairwise_singleton _ a,
            fun b hb c hc => ?_⟩
          have hused := (ih.mem_iff b).mp hb
          rw [List.mem_singleton] at hc
          rw [hc, List.idxOf_append_of_mem hused, List.idxOf_append_of_notMem ha]
          exact Nat.lt_add_right _ (List.idxOf_lt_length_of_mem hused)

end FirstUses

section Order

namespace Render

omit [Scalar K] in
/-- The calls for the fonts of a text: one for each, in the order of first use. -/
def fontCalls (body : TextBody K) : List (Request K) :=
  (fonts body).map .loadFont

omit [Scalar K] in
/-- Every font is asked for, whichever of them could not be had before. -/
theorem missingFonts_makes (fonts : List FontName) :
    Makes (missingFonts host fonts) (fonts.map .loadFont) := by
  induction fonts with
  | nil => exact makes_pure []
  | cons font rest ih =>
      have hfont := makes_attempt (.loadFont font : Request K) (host.loadFont font)
      refine hfont.bind fun outcome => ih.bind_quiet fun missing => ?_
      cases outcome <;> exact makes_pure _

omit [Scalar K] in
theorem loadFonts_makes (body : TextBody K) : Makes (loadFonts host body) (fontCalls body) := by
  refine (missingFonts_makes _).bind_quiet fun missing => ?_
  by_cases hmissing : missing = []
  · rw [if_pos hmissing]
    exact makes_pure true
  · rw [if_neg hmissing]
    exact (makes_warn _).bind_quiet fun _ => makes_pure false

theorem loadedSpans_makes (body : TextBody K) :
    Makes (loadedSpans host config body) (fontCalls body) :=
  (loadFonts_makes body).bind_quiet fun _ => makes_number _

theorem textBlock_makes (body : TextBody K) :
    Makes (textBlock host config body) (fontCalls body) :=
  (loadedSpans_makes body).bind_quiet fun _ => makes_number_bind fun _ _ => makes_pure _

/-- Showing a text with bounds asks for its fonts. -/
theorem text_makes {node : Node K} {box : Rect K} {body : TextBody K}
    (hbounds : node.bounds = some box) (hbody : node.textBody = .ok body) (x y : K) :
    Makes (text host config node x y) (fontCalls body) := by
  unfold text
  rw [hbounds]
  refine makes_lift_bind fun found hfound => ?_
  rw [← Except.ok.inj (hbody.symm.trans hfound)]
  exact (loadedSpans_makes body).bind_quiet fun _ => makes_number_bind fun _ _ =>
    makes_number_bind fun _ _ => makes_pure _

end Render

namespace Table

/-- The calls for a region: the fonts of its texts, row by row. -/
def regionCalls (config : Config K) (node : Node K) : List (Request K) :=
  match leafRows config (textLeaves node) with
  | .ok rows => rows.flatten.flatMap fun leaf => Render.fontCalls leaf.body
  | .error _ => []

theorem cellsMarkup_makes (cells : List (Cell K)) :
    Makes (cellsMarkup host config cells)
      ((cells.map Cell.leaf).flatMap fun leaf => Render.fontCalls leaf.body) := by
  induction cells with
  | nil => exact makes_pure ""
  | cons cell rest ih =>
      exact (Render.textBlock_makes _).bind fun _ => makes_number_bind fun _ _ =>
        ih.bind_quiet fun _ => makes_pure _

theorem rowsMarkup_makes (donors : List (Donor K)) (count row : Nat)
    (rows : List (List (TextLeaf K))) :
    Makes (rowsMarkup host config donors count row rows)
      (rows.flatten.flatMap fun leaf => Render.fontCalls leaf.body) := by
  induction rows generalizing row with
  | nil => exact makes_pure []
  | cons leaves rest ih =>
      rw [List.flatten_cons, List.flatMap_append]
      refine makes_number_bind fun cells hcells => ?_
      rw [← (rowCells_ok hcells).1]
      exact (cellsMarkup_makes cells).bind fun _ => (ih (row + 1)).bind_quiet fun _ =>
        makes_pure _

theorem leafRows_nil : leafRows config [] = .ok [] := by
  have hsorted := (Layout.sort_perm (Layout.firstBefore (K := K) leafExtent) []).eq_nil
  simp only [leafRows, Layout.bucketRows, Layout.fillBuckets, pure_bind, List.map_nil, hsorted]
  rfl

/-- Rebuilding a region with bounds asks for the fonts of its texts. -/
theorem synthesize_makes {node : Node K} {box : Rect K} (hbounds : node.bounds = some box)
    (hregion : node.isTableRegion = true) (x y : K) :
    Makes (synthesize host config node x y) (regionCalls config node) := by
  cases node with
  | text _ _ | shape _ _ | image _ _ => exact absurd hregion (by simp [Node.isTableRegion])
  | container common kind children =>
      unfold synthesize regionCalls
      cases hleaves : textLeaves (Node.container common kind children) with
      | nil =>
          simp only [hbounds, leafRows_nil]
          exact makes_pure none
      | cons leaf leaves =>
          simp only [hbounds]
          refine makes_number_bind fun rows hrows => ?_
          rw [hrows]
          exact (rowsMarkup_makes _ _ _ rows).bind_quiet fun _ => makes_number_bind fun _ _ =>
            makes_pure _

end Table

/-- The calls for a child before its link, if it is one: by the manner in which it is shown. -/
def ownCalls (config : Config K) (p : Placed K) : List (Request K) :=
  match p.node.manner, p.node with
  | .table, node => Table.regionCalls config node
  | .text, .text _ body => Render.fontCalls body
  | .picture, node => [.rasterize (pictured node) config.rasterScale]
  | _, _ => []

/-- The calls for a child and what its visit made: its own, and then its preview if it is a
    link that made something. -/
def childCalls (config : Config K) (step : Placed K × Option Fragment) : List (Request K) :=
  ownCalls config step.1 ++
    if step.2.isSome && hasDirective step.1.node.name Directive.link then
      [.rasterize step.1.node config.previewScale]
    else []

/-- The call for the background of a frame, if that is a picture. -/
def backgroundCalls (root : Node K) : List (Request K) :=
  match root.firstFill with
  | some (.image ref _) => [.imageBytes ref]
  | _ => []

theorem backgroundOf_makes (root : Node K) (w : Walk) :
    Makes (backgroundOf host config root w) (backgroundCalls root) := by
  unfold backgroundOf backgroundCalls
  cases root.firstFill with
  | none => exact makes_pure w
  | some paint =>
      cases paint with
      | solid color opacity => exact makes_number_bind fun _ _ => makes_pure _
      | image ref opacity =>
          refine (makes_attempt _ _).bind_quiet fun answer => ?_
          split
          · exact (makes_warn _).bind_quiet fun _ => makes_pure _
          · exact (makes_warn _).bind_quiet fun _ => makes_pure _
          · exact makes_pure _

theorem visitTable_makes {p : Placed K} (hbounds : p.node.bounds = some p.box)
    (hregion : p.node.isTableRegion = true) (y : K) (w : Walk) :
    Makes (visitTable host config p y w) (Table.regionCalls config p.node) := by
  refine (Table.synthesize_makes hbounds hregion _ _).bind_quiet fun table =>
    makes_number_bind fun d _ => ?_
  cases table with
  | none => exact makes_pure _
  | some table =>
      exact makes_number_bind fun _ _ => makes_number_bind fun _ _ =>
        makes_number_bind fun _ _ => makes_pure _

theorem visitPicture_makes (p : Placed K) (y : K) (w : Walk) :
    Makes (visitPicture host config p y w)
      [.rasterize (pictured p.node) config.rasterScale] := by
  refine (makes_attempt _ _).bind_quiet fun answer => ?_
  cases answer with
  | error fault => exact (makes_warn _).bind_quiet fun _ => makes_pure _
  | ok data => exact makes_number_bind fun _ _ => makes_pure _

theorem visitUnlinked_makes {p : Placed K} (hbounds : p.node.bounds = some p.box) (y : K)
    (w : Walk) : Makes (visitUnlinked host config p y w) (ownCalls config p) := by
  rw [visitUnlinked_manner]
  unfold ownCalls
  cases hmanner : p.node.manner with
  | table => exact visitTable_makes hbounds (manner_eq_table.mp hmanner) y w
  | gif id => exact makes_number_bind fun _ _ => makes_pure _
  | shape => exact makes_lift_bind fun _ _ => makes_pure _
  | picture => exact visitPicture_makes p y w
  | text =>
      have htext := isText_of_manner hmanner
      cases hnode : p.node with
      | text common body =>
          have hbody : p.node.textBody = .ok body := by rw [hnode]; rfl
          simp only []
          rw [← hnode]
          exact (Render.text_makes hbounds hbody _ _).bind_quiet fun _ => makes_pure _
      | container _ _ _ | shape _ _ | image _ _ => simp [hnode, Node.isText] at htext

theorem visitLink_makes (node : Node K) (target : String) (fragment : Fragment) (w : Walk) :
    Makes (visitLink host config node target fragment w)
      [.rasterize node config.previewScale] := by
  refine (makes_attempt _ _).bind_quiet fun answer => ?_
  cases answer with
  | error fault => exact (makes_warn _).bind_quiet fun _ => makes_pure _
  | ok data => exact makes_pure _

omit [Scalar K] in
/-- The names with a link directive are those that lead somewhere. -/
theorem linkTarget?_isSome (name : String) :
    (linkTarget? name).isSome = hasDirective name Directive.link := by
  unfold linkTarget?
  split <;> simp_all

/-- A visit that ends makes the calls for the child and for what it made. -/
theorem visit_calls {p : Placed K} {w w₁ : Walk} {made : Option Fragment} {s s₁ : Session ω K}
    (hbounds : p.node.bounds = some p.box) (h : visit host config p w s = (.ok w₁, s₁))
    (hmade : w₁.fragments = w.fragments ++ made.toList) :
    s₁.requests = s.requests ++ childCalls config (p, made) := by
  rw [visit_eq] at h
  simp only [Task.bind_ok, Task.number_ok] at h
  rcases h with ⟨shift, s₀, ⟨-, rfl⟩, ⟨own, w₂⟩, s₂, hown, hlink⟩
  have hfirst := (visitUnlinked_makes hbounds _ w).returned hown
  have hkept := (visitUnlinked_step hown).2.1
  have hdirective := linkTarget?_isSome p.node.name
  -- The calls for a link follow those for the child, if there is both a fragment and a target.
  cases own with
  | none =>
      rw [Task.pure_ok] at hlink
      rcases hlink with ⟨rfl, rfl⟩
      rw [Walk.addFragment, hkept] at hmade
      rw [← made_unique hmade, hfirst, childCalls]
      simp
  | some fragment =>
      cases htarget : linkTarget? p.node.name with
      | none =>
          rw [htarget] at hdirective hlink
          simp only [Task.pure_ok] at hlink
          rcases hlink with ⟨rfl, rfl⟩
          rw [hfirst, childCalls, ← hdirective]
          simp
      | some target =>
          rw [htarget] at hdirective hlink
          simp only [Task.bind_ok, Task.pure_ok] at hlink
          rcases hlink with ⟨⟨wrapped, w₃⟩, s₃, hwrapped, rfl, rfl⟩
          rw [Walk.addFragment, (visitLink_keeps hwrapped).2.fragments, hkept] at hmade
          rw [← made_unique hmade, (visitLink_makes _ _ _ _).returned hwrapped, hfirst, childCalls,
            ← hdirective, List.append_assoc]
          rfl

/-- A visit that is stopped has made no calls but the child's own. -/
theorem visit_stopped {p : Placed K} {w : Walk} {s s₁ : Session ω K} {fault : Fault}
    (hbounds : p.node.bounds = some p.box) (h : visit host config p w s = (.error fault, s₁)) :
    ∃ part, part <+: ownCalls config p ∧ s₁.requests = s.requests ++ part := by
  rw [visit_eq] at h
  rcases bind_error.mp h with h | ⟨shift, s₀, hshift, h⟩
  · have hquiet : s₁.requests = s.requests := by
      rw [← (makes_number (Scalar.ofInt? w.offset : Except NumberError K)).quiet s, h]
    exact ⟨[], List.nil_prefix, by rw [hquiet, List.append_nil]⟩
  rcases Task.number_ok.mp hshift with ⟨-, rfl⟩
  rcases bind_error.mp h with h | ⟨⟨own, w₂⟩, s₂, hown, h⟩
  · exact (visitUnlinked_makes hbounds _ w).stopped h
  have hpure : ∀ w', StopsIn (fun _ => False) (pure w' : Task ω K Walk) := stopsIn_pure
  -- A link around a fragment never stops a visit.
  cases own with
  | none => exact (hpure _ s₂ fault (congrArg Prod.fst h)).elim
  | some fragment =>
      cases htarget : linkTarget? p.node.name with
      | none =>
          rw [htarget] at h
          exact (hpure _ s₂ fault (congrArg Prod.fst h)).elim
      | some target =>
          rw [htarget] at h
          exact ((visitLink_stops host config _ _ _ _).bind (fun _ => hpure _) s₂ fault
            (congrArg Prod.fst h)).elim

/-- The calls of a run are those for its children, one child after another. -/
theorem Visits.calls {steps : List (Placed K × Option Fragment)} {w w' : Walk}
    {s s' : Session ω K} (h : Visits host config steps w s w' s')
    (hbounds : ∀ step ∈ steps, step.1.node.bounds = some step.1.box) :
    s'.requests = s.requests ++ steps.flatMap (childCalls config) := by
  induction h with
  | nil w s => exact (List.append_nil _).symm
  | @cons p made rest w w₁ w' s s₁ s' hvisit hmade hrest ih =>
      rw [List.forall_mem_cons] at hbounds
      rw [ih hbounds.2, visit_calls hbounds.1 hvisit hmade, List.flatMap_cons, List.append_assoc]

/-- A child that stops a walk before it is known to be a blank sheet is not left out. -/
theorem isElided_of_stopped {p : Placed K} {frame : Rect K} {s s' : Session ω K} {fault : Fault}
    (h : (liftM (p.isPaper config frame) : Task ω K Bool) s = (.error fault, s')) :
    p.isElided config frame = false := by
  unfold Placed.isElided
  cases hpaper : p.isPaper config frame with
  | error e => rfl
  | ok paper =>
      rw [hpaper] at h
      have hok : Except.ok paper = .error fault := congrArg Prod.fst h
      exact absurd hok (by simp)

/-- A walk over children that is stopped has visited some of them, in order, and was stopped
    at the next. -/
theorem visitAll_stopped {frame : Rect K} (children : List (Placed K)) {w : Walk}
    {s s' : Session ω K} {fault : Fault}
    (hbounds : ∀ p ∈ children, p.node.bounds = some p.box)
    (h : visitAll host config frame children w s = (.error fault, s')) :
    ∃ steps next rest w₁ s₁ part, Visits host config steps w s w₁ s₁ ∧
      steps.map Prod.fst ++ next :: rest = children.filter (fun p => !p.isElided config frame) ∧
      part <+: ownCalls config next ∧ s'.requests = s₁.requests ++ part := by
  induction children generalizing w s with
  | nil =>
      have hok : Except.ok w = .error fault := congrArg Prod.fst h
      exact absurd hok (by simp)
  | cons p children ih =>
      rw [List.forall_mem_cons] at hbounds
      rw [visitAll] at h
      rcases bind_error.mp h with h | ⟨paper, s₀, hread, h⟩
      -- Even to ask whether a child is paper can fail, before any call is made for it.
      · have hquiet : s'.requests = s.requests := by
          rw [← (makes_number (p.isPaper config frame)).quiet s, h]
        refine ⟨[], p, children.filter fun p => !p.isElided config frame, w, s, [], .nil w s, ?_,
          List.nil_prefix, by rw [hquiet, List.append_nil]⟩
        rw [List.filter_cons_of_pos (by rw [isElided_of_stopped h]; rfl)]
        rfl
      rcases Task.number_ok.mp hread with ⟨hpaper, rfl⟩
      have helided : p.isElided config frame = paper := by
        simp only [Placed.isElided, hpaper]
      by_cases hp : paper = true
      · rw [if_pos hp] at h
        rw [List.filter_cons_of_neg (by simp [helided, hp])]
        exact ih hbounds.2 h
      · rw [if_neg hp] at h
        rw [List.filter_cons_of_pos (by simp [helided, hp])]
        rcases bind_error.mp h with h | ⟨w₁, s₁, hvisit, h⟩
        -- Either this visit was stopped, or it ended and a later one was.
        · rcases visit_stopped hbounds.1 h with ⟨part, hpart, hrequests⟩
          exact ⟨[], p, _, w, s, part, .nil w s, rfl, hpart, hrequests⟩
        · rcases ih hbounds.2 h with ⟨steps, next, rest, w₂, s₂, part, hvisits, hsteps, hrest⟩
          rcases visit_step hvisit with ⟨shift, d, made, -, -, -, hmade, -, -⟩
          refine ⟨(p, made) :: steps, next, rest, w₂, s₂, part, .cons hvisit hmade hvisits, ?_, hrest⟩
          rw [List.map_cons, List.cons_append, hsteps]

/-- A walk on its way over a frame: the children that it has visited, each with the fragment
    that it made, and those that are still ahead. All of them are the visible children with
    bounds but for the blank sheets, from top to bottom, and in the order of the frame where
    tops are the same. -/
structure IsCourse (host : Host ω K) (config : Config K) (root : Node K) (s : Session ω K)
    (steps : List (Placed K × Option Fragment)) (ahead : List (Placed K)) (w : Walk)
    (s' : Session ω K) : Prop where
  order : ∃ frame nodes, root.bounds = some frame ∧ root.childList = .ok nodes ∧
    ((∀ p ∈ nodes.filterMap (placed? frame), IsFinite p.y) →
      Layout.SortedWithin (fun a b => Layout.before a.y b.y) (nodes.filterMap (placed? frame))
        (placedChildren frame nodes)) ∧
    steps.map Prod.fst ++ ahead
      = (placedChildren frame nodes).filter fun p => !p.isElided config frame
  visits : ∃ before s₀, backgroundOf host config root {} s = (.ok before, s₀) ∧
    Visits host config steps before s₀ w s'

theorem bounds_of_placed {steps : List (Placed K × Option Fragment)} {ahead : List (Placed K)}
    {frame : Rect K} {nodes : List (Node K)} (hsteps : steps.map Prod.fst ++ ahead
      = (placedChildren frame nodes).filter fun p => !p.isElided config frame) :
    ∀ step ∈ steps, step.1.node.bounds = some step.1.box := by
  intro step hstep
  have hmem := hsteps ▸ List.mem_append_left _ (List.mem_map_of_mem hstep)
  exact (mem_placedChildren (List.mem_of_mem_filter hmem)).2.2

variable [FiniteArithmetic K]

/-- A walk that returns has visited all children, and made all calls for them. -/
theorem walk_returned {root : Node K} {w : Walk} {s s' : Session ω K}
    (h : walk host config root s = (.ok w, s')) :
    ∃ steps, IsCourse host config root s steps [] w s' ∧
      s'.requests = s.requests ++ backgroundCalls root ++ steps.flatMap (childCalls config) := by
  cases hbounds : root.bounds with
  | none => simp only [walk, hbounds, Task.throw_ok] at h
  | some frame =>
      rcases walk_visits hbounds h with ⟨nodes, steps, before, s₀, hnodes, hsteps, hbefore, hvisits⟩
      rw [← List.append_nil (steps.map Prod.fst)] at hsteps
      refine ⟨steps, ⟨⟨frame, nodes, hbounds, hnodes, Layout.sortOn_within, hsteps⟩, before, s₀,
        hbefore, hvisits⟩, ?_⟩
      rw [hvisits.calls (bounds_of_placed hsteps), (backgroundOf_makes root {}).returned hbefore]

/-- A walk that is stopped was at its background or came to a child, and had made the calls up
    to there. -/
theorem walk_stopped {root : Node K} {s s' : Session ω K} {fault : Fault}
    (h : walk host config root s = (.error fault, s')) :
    (∃ part, part <+: backgroundCalls root ∧ s'.requests = s.requests ++ part) ∨
      ∃ steps next rest w₁ s₁ part, IsCourse host config root s steps (next :: rest) w₁ s₁ ∧
        part <+: ownCalls config next ∧
        s'.requests
          = s.requests ++ backgroundCalls root ++ steps.flatMap (childCalls config) ++ part := by
  cases hbounds : root.bounds with
  | none =>
      simp only [walk, hbounds] at h
      rcases (makes_throw _).stopped h with ⟨part, hpart, hrequests⟩
      exact Or.inl ⟨part, hpart.trans List.nil_prefix, hrequests⟩
  | some frame =>
      simp only [walk, hbounds] at h
      -- What can stop a walk, in order: its background, the reading of its children, a child.
      rcases bind_error.mp h with h | ⟨before, s₀, hbefore, h⟩
      · exact Or.inl ((backgroundOf_makes root {}).stopped h)
      have hbackground := (backgroundOf_makes root {}).returned hbefore
      rcases bind_error.mp h with h | ⟨nodes, s₁, hnodes, h⟩
      · refine Or.inl ⟨_, List.prefix_refl _, ?_⟩
        rw [← hbackground, ← (makes_lift root.childList).quiet s₀, h]
      rcases Task.lift_ok.mp hnodes with ⟨hlist, rfl⟩
      rcases visitAll_stopped _ (fun p hp => (mem_placedChildren hp).2.2) h with
        ⟨steps, next, rest, w₁, s₁, part, hvisits, hsteps, hpart, hrequests⟩
      refine Or.inr ⟨steps, next, rest, w₁, s₁, part, ⟨⟨frame, nodes, hbounds, hlist,
        Layout.sortOn_within, hsteps⟩, before, s₀, hbefore, hvisits⟩, hpart, ?_⟩
      rw [hrequests, hvisits.calls (bounds_of_placed hsteps), hbackground]

/-- The calls of the walk over a frame, whatever is answered to them. One asks for the picture
    of the background, if the first fill is one. Then the children follow one after another:
    for each of them its own calls, and the preview if it is a link that made something. A
    walk that is stopped has made the calls up to where it was stopped. The fonts of a text
    are all that its runs use, each once, in the order of first use. -/
theorem walk_calls (host : Host ω K) (config : Config K) (root : Node K) (s : Session ω K) :
    (∀ w s', walk host config root s = (.ok w, s') →
      ∃ steps, IsCourse host config root s steps [] w s' ∧
        s'.requests = s.requests ++ backgroundCalls root ++ steps.flatMap (childCalls config)) ∧
    (∀ fault s', walk host config root s = (.error fault, s') →
      (∃ part, part <+: backgroundCalls root ∧ s'.requests = s.requests ++ part) ∨
      ∃ steps next rest w₁ s₁ part, IsCourse host config root s steps (next :: rest) w₁ s₁ ∧
        part <+: ownCalls config next ∧
        s'.requests
          = s.requests ++ backgroundCalls root ++ steps.flatMap (childCalls config) ++ part) ∧
    (∀ body : TextBody K, IsByFirstUse (body.runs.map TextRun.font) (Render.fonts body)) :=
  ⟨fun _ _ => walk_returned, fun _ _ => walk_stopped, fun _ => isByFirstUse_eraseDups _⟩

/-- What a request is about. -/
def Request.subject : Request K → String
  | .loadFont font => font.family
  | .rasterize node _ => node.name
  | .imageBytes ref => ref
  | .balance | .setBalance _ => "credits"

end Order

/-- A run in a font. -/
def runIn (family : String) : TextRun Rat :=
  ⟨0, 1, ⟨family, "Regular"⟩, 400, 12, [], ⟨.auto, 0⟩, .none⟩

/-- A frame on a picture: a table of two rows, a linked photo above it that comes later in the
    frame, a text in two fonts, an animation and a line. -/
def leaflet : Node Rat :=
  .container ⟨"0", "Leaflet", true, some ⟨0, 0, 100, 200⟩, [.image "paper" 1]⟩ .frame
    [.container ⟨"1", "[table] Prices", true, some ⟨0, 50, 100, 60⟩, []⟩ .group
        [.text ⟨"2", "Lower", true, some ⟨0, 80, 50, 20⟩, []⟩ ⟨"b", [runIn "Rubik"], "LEFT", none⟩,
          .text ⟨"3", "Upper", true, some ⟨0, 50, 50, 20⟩, []⟩ ⟨"a", [runIn "Inter"], "LEFT", none⟩],
      .image ⟨"4", "[link] photo", true, some ⟨0, 0, 100, 40⟩, []⟩ "IMAGE",
      .text ⟨"5", "Caption", true, some ⟨0, 120, 100, 20⟩, []⟩
        ⟨"c", [runIn "Lato", runIn "Inter", runIn "Lato"], "LEFT", none⟩,
      .image ⟨"6", "[gif] wave", true, some ⟨0, 150, 20, 20⟩, []⟩ "IMAGE",
      .shape ⟨"7", "Line", true, some ⟨0, 190, 100, 2⟩, []⟩ ⟨.line, none, none⟩]

/-- No font can be had, and yet all are asked for, in their order. -/
theorem walk_calls_leaflet :
    ∃ (w : Walk) (s' : Session Unit Rat) (steps : List (Placed Rat × Option Fragment)),
      walk fontlessHost {} leaflet ⟨(), [], []⟩ = (.ok w, s') ∧
      s'.requests = backgroundCalls leaflet ++ steps.flatMap (childCalls {}) ∧
      s'.requests.map Request.subject
        = ["paper", "[link] photo", "[link] photo", "Inter", "Rubik", "Lato", "Inter"] := by
  have hsubjects : (walk fontlessHost {} leaflet ⟨(), [], []⟩).1.toOption.isSome = true ∧
      (walk fontlessHost {} leaflet ⟨(), [], []⟩).2.requests.map Request.subject
        = ["paper", "[link] photo", "[link] photo", "Inter", "Rubik", "Lato", "Inter"] := by
    decide +kernel
  rcases hrun : walk fontlessHost {} leaflet ⟨(), [], []⟩ with ⟨result, s'⟩
  rw [hrun] at hsubjects
  cases result with
  | error fault => exact absurd hsubjects.1 (by simp [Except.toOption])
  | ok w =>
      rcases (walk_calls fontlessHost {} leaflet ⟨(), [], []⟩).1 w s' hrun with
        ⟨steps, -, hrequests⟩
      exact ⟨w, s', steps, rfl, hrequests, hsubjects.2⟩

end Letterpress
