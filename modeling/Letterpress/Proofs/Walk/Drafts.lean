import Letterpress.Proofs.Document.Modest
import Letterpress.Proofs.Document.Structure
import Letterpress.Proofs.Render.TextDrafts
import Letterpress.Proofs.Table.Drafts
import Letterpress.Proofs.Walk.Alike
import Letterpress.Proofs.Walk.Offset

/-!
# Drafts of a Walk

Every fragment of a walk is a sound placed table, whichever way its child was shown,
and the names in it are those of the frame. Only a region that is rebuilt grows with its
content, and only a picture or an animation refers to anything outside. The background is
plain, since its picture is named by the walk.

Between the walk over a frame and the mail there is one more step, which turns its
fragments into tables. It works on text, so it could lose a fragment or take something
else for one. It does not, whatever the texts and the names of the frame are.

## Main definitions

* `Manner.source?`: The address of the picture that a child is shown by.
* `IsChildDraft`: What the draft of a child is, by the manner of the child.
* `Walk.HasDrafts`: All fragments so far have drafts.

## Theorems

* `visitUnlinked_draft`: The fragment of a child before its link is wrapped.
* `visit_made_draft`: The fragment that a visit adds.
* `visit_drafts`: A visit adds fragments with drafts only.
* `walk_drafts`: All fragments of a walk have drafts, and its background is plain.
* `walk_compiled`: The structure of the document that a walk is compiled to.
-/

namespace Letterpress

open Render (PlacedTable HasDraft)

variable {K ω : Type} [Scalar K]

/-- The name of the next picture is inert. -/
theorem nextName_inert (w : Walk) {kind : String} (h : Text.IsInert kind) :
    Text.IsInert (w.nextName kind) := by
  rw [Walk.nextName]
  simp only [Text.isInert_append]
  exact ⟨⟨⟨h, by decide⟩, Text.isInert_nat _⟩, by decide⟩

/-- The background of a frame is plain. -/
theorem paints_plain {config : Config K} (hconfig : config.IsPlain) {w w' : Walk}
    (h : w.Paints config w') (hw : w.background.IsPlain) : w'.background.IsPlain := by
  rcases h with hkeep | ⟨color, hex, hhex, hcolor⟩ | himage
  · rw [hkeep]
    exact hw
  · rw [hcolor]
    exact isPlain_color (Style.hex_inert hhex)
  · rw [himage]
    exact isPlain_image (assetPath_inert hconfig (nextName_inert w (by decide)))

/-- The address of the picture that a child is shown by, if it is shown by one. -/
def Manner.source? (config : Config K) (w : Walk) : Manner → Option String
  | .gif id => some (config.assetPath (id ++ ".gif"))
  | .picture => some (config.assetPath (w.nextName "image"))
  | _ => none

/-- The draft of a fragment that shows a child. Only a rebuilt region has no height, since it
    grows with its content. -/
structure IsChildDraft (names : List String) (config : Config K) (w : Walk) (node : Node K)
    (f : Fragment) (t : PlacedTable) : Prop where
  draft : HasDraft names f t
  height : t.height = if node.manner = .table then none else some f.height
  shows : Render.ShowsOnly t.rows (node.manner.source? config w)
  text : ∀ body, node.manner = .text → node.textBody = .ok body → Render.ShowsText t.rows body

variable [InertText K] {names : List String} {host : Host ω K} {config : Config K}
  {p : Placed K} {y : K}
  {w w' : Walk} {made : Option Fragment} {s s' : Session ω K}

/-- A rebuilt region. -/
theorem visitTable_draft (hconfig : config.IsPlain) (hbox : p.node.bounds = some p.box)
    (hnames : ∀ name ∈ p.node.names, name ∈ names)
    (h : visitTable host config p y w s = (.ok (made, w'), s')) :
    ∀ f ∈ made, ∃ t : PlacedTable, HasDraft names f t ∧ t.link = none ∧ t.height = none ∧
      Render.ShowsOnly t.rows none := by
  simp only [visitTable, Task.bind_ok, Task.number_ok] at h
  rcases h with ⟨table, s₁, htable, d, s₂, -, h⟩
  cases table with
  | none =>
      simp only [Task.pure_ok, Prod.mk.injEq] at h
      simp [← h.1.1]
  | some table =>
      simp only [Task.bind_ok, Task.number_ok, Task.pure_ok, Prod.mk.injEq] at h
      rcases h with ⟨left, s₃, ⟨hleft, -⟩, top, s₄, ⟨htop, -⟩, width, s₅, ⟨hwidth, -⟩, ⟨rfl, rfl⟩,
        -⟩
      rcases Table.synthesize_draft hconfig hbox htable hnames with
        ⟨left', top', width', ns, hleft', htop', hwidth', hwritten, hsound, hself⟩
      -- Both the visit and the table have rounded the same numbers.
      obtain rfl : left' = left := by simpa [hleft] using hleft'.symm
      obtain rfl : top' = top := by simpa [htop] using htop'.symm
      obtain rfl : width' = width := by simpa [hwidth] using hwidth'.symm
      intro f hf
      rw [← Option.some.inj hf]
      exact ⟨⟨none, left', top', width', none, ns⟩,
        ⟨⟨hwritten, rfl, rfl, rfl, by simp, rfl⟩, hsound⟩, rfl, rfl, hself⟩

/-- The fragment of a child before its link is wrapped. -/
theorem visitUnlinked_draft (hconfig : p.node.manner = .table → config.IsPlain)
    (hbox : p.node.bounds = some p.box) (hnames : ∀ name ∈ p.node.names, name ∈ names)
    (h : visitUnlinked host config p y w s = (.ok (made, w'), s')) :
    ∀ f ∈ made, ∃ t : PlacedTable, IsChildDraft names config w p.node f t ∧ t.link = none := by
  intro f hf
  rw [Option.mem_def] at hf
  subst hf
  -- What is no text and no region is a placed table of its own height.
  have hother : ∀ {source : Option String}, p.node.manner.source? config w = source →
      p.node.manner ≠ .text → p.node.manner ≠ .table →
      (∃ t : PlacedTable, HasDraft names f t ∧ t.link = none ∧ t.height = some f.height ∧
        Render.ShowsOnly t.rows source) →
      ∃ t : PlacedTable, IsChildDraft names config w p.node f t ∧ t.link = none := by
    rintro source rfl htext htable ⟨t, ht, hlink, hheight, hshows⟩
    exact ⟨t, ⟨ht, by rw [if_neg htable, hheight], hshows,
      fun _ hmanner => absurd hmanner htext⟩, hlink⟩
  cases hmanner : p.node.manner with
  | table =>
      rw [visitUnlinked_manner, hmanner] at h
      rcases visitTable_draft (hconfig hmanner) hbox hnames h f rfl with
        ⟨t, ht, hlink, hheight, hshows⟩
      exact ⟨t, ⟨ht, by rw [if_pos hmanner, hheight], by rw [hmanner]; exact hshows,
        fun _ htext => absurd (hmanner.symm.trans htext) (by simp)⟩, hlink⟩
  | gif id =>
      rcases visitUnlinked_gif hmanner h with ⟨g, hg, -, himage⟩
      obtain rfl := Option.some.inj hg
      exact hother (by rw [hmanner]; rfl) (by simp [hmanner]) (by simp [hmanner])
        (Render.image_draft himage)
  | text =>
      simp only [visitUnlinked_manner, hmanner, Task.bind_ok, Task.pure_ok, Prod.mk.injEq] at h
      rcases h with ⟨_, _, htext, ⟨rfl, rfl⟩, -⟩
      rcases Render.text_draft htext (fun body hbody name hname =>
        hnames name (families_names hbody name hname)) with ⟨t, body, ht, hlink, hheight, hbody,
        hshows⟩
      refine ⟨t, ⟨ht, by simp [hmanner, hheight], ?_, fun other _ hother => ?_⟩, hlink⟩
      · rw [hmanner]
        exact hshows.showsOnly
      · rw [← Except.ok.inj (hbody.symm.trans hother)]
        exact hshows
  | shape =>
      simp only [visitUnlinked_manner, hmanner, Task.bind_ok, Task.lift_ok, Task.pure_ok,
        Prod.mk.injEq] at h
      rcases h with ⟨_, _, ⟨hshape, -⟩, ⟨rfl, rfl⟩, -⟩
      exact hother (by rw [hmanner]; rfl) (by simp [hmanner]) (by simp [hmanner])
        (Render.shape_draft hshape)
  | picture =>
      rcases visitUnlinked_picture hmanner h with ⟨_, -, hnone, -⟩ | ⟨_, g, -, himage, hg, -⟩
      · exact absurd hnone (by simp)
      · obtain rfl := Option.some.inj hg
        exact hother (by rw [hmanner]; rfl) (by simp [hmanner]) (by simp [hmanner])
          (Render.image_draft himage)

/-- The fragment that a visit adds, with or without a link around it. -/
theorem visit_made_draft (hconfig : p.node.manner = .table → config.IsPlain)
    (hbox : p.node.bounds = some p.box) (hnames : ∀ name ∈ p.node.names, name ∈ names)
    (h : visit host config p w s = (.ok w', s'))
    (hmade : w'.fragments = w.fragments ++ made.toList) :
    ∀ f ∈ made, ∃ t : PlacedTable, IsChildDraft names config w p.node f t ∧
      ∀ id ∈ t.link, id = p.node.id := by
  rcases visit_made h hmade with ⟨shift, own, w₁, s₁, -, hown, hlink⟩
  have hdraft := visitUnlinked_draft hconfig hbox hnames hown
  rcases hlink with ⟨rfl, -, -⟩ | ⟨fragment, target, wrapped, w₂, rfl, -, hwrapped, rfl, -⟩
  · intro f hf
    rcases hdraft f hf with ⟨t, ht, hnone⟩
    exact ⟨t, ht, by simp [hnone]⟩
  · intro f hf
    rw [← Option.some.inj hf]
    rcases hdraft fragment rfl with ⟨t, ht, hnone⟩
    rcases (visitLink_keeps hwrapped).1 with rfl | rfl
    · exact ⟨t, ht, by simp [hnone]⟩
    · exact ⟨_, ⟨Render.link_draft ht.draft hnone (hnames _ (id_names p.node)), ht.height,
        ht.shows, ht.text⟩, fun id hid => (Option.some.inj hid).symm⟩

/-- All fragments of a walk have drafts. -/
def Walk.HasDrafts (names : List String) (w : Walk) : Prop :=
  ∀ f ∈ w.fragments, ∃ t : PlacedTable, HasDraft names f t

/-- A visit adds fragments with drafts only. -/
theorem visit_drafts (hconfig : config.IsPlain) (hbox : p.node.bounds = some p.box)
    (hnames : ∀ name ∈ p.node.names, name ∈ names) (hw : w.HasDrafts names)
    (h : visit host config p w s = (.ok w', s')) : w'.HasDrafts names := by
  rcases visit_step h with ⟨_, _, made, -, -, -, hmade, -, -⟩
  intro f hf
  rw [hmade, List.mem_append, Option.mem_toList] at hf
  rcases hf with hold | hnew
  · exact hw f hold
  · rcases visit_made_draft (fun _ => hconfig) hbox hnames h hmade f hnew with ⟨t, ht, -⟩
    exact ⟨t, ht.draft⟩

theorem visitAll_drafts (hconfig : config.IsPlain) {frame : Rect K} {ps : List (Placed K)}
    (hps : ∀ p ∈ ps, p.node.bounds = some p.box ∧ ∀ name ∈ p.node.names, name ∈ names)
    (hw : w.HasDrafts names) (h : visitAll host config frame ps w s = (.ok w', s')) :
    w'.HasDrafts names ∧ w'.background = w.background := by
  induction ps generalizing w s with
  | nil =>
      rw [visitAll, Task.pure_ok] at h
      rw [← h.1]
      exact ⟨hw, rfl⟩
  | cons p ps ih =>
      rw [List.forall_mem_cons] at hps
      simp only [visitAll, Task.bind_ok, Task.number_ok] at h
      rcases h with ⟨paper, s₁, ⟨-, rfl⟩, h⟩
      cases paper with
      | true => exact ih hps.2 hw h
      | false =>
          simp only [Bool.false_eq_true, if_false, Task.bind_ok] at h
          rcases h with ⟨w₁, s₁, hvisit, hrest⟩
          have hfirst := visit_drafts hconfig hps.1.1 hps.1.2 hw hvisit
          rcases visit_step hvisit with ⟨_, _, _, -, -, -, -, -, hbackground⟩
          rcases ih hps.2 hfirst hrest with ⟨hdrafts, hsame⟩
          exact ⟨hdrafts, hsame.trans hbackground⟩

/-- The fragments of a walk have drafts with the names of the frame, and its background
    is plain. -/
theorem walk_drafts (hconfig : config.IsPlain) {root : Node K}
    (h : walk host config root s = (.ok w, s')) :
    w.HasDrafts root.names ∧ w.background.IsPlain := by
  cases hbounds : root.bounds with
  | none =>
      simp only [walk, hbounds, Task.throw_ok] at h
  | some frame =>
      simp only [walk, hbounds, Task.bind_ok, Task.lift_ok] at h
      rcases h with ⟨before, s₀, hbefore, nodes, _, ⟨hnodes, rfl⟩, h⟩
      rcases backgroundOf_step hbefore with ⟨hempty, -, hpaints⟩
      have hstart : before.HasDrafts root.names := fun f hf => by
        rw [hempty] at hf
        exact absurd hf List.not_mem_nil
      -- The names of a child are among those of the frame it is in.
      have hchildren : ∀ p ∈ placedChildren frame nodes,
          p.node.bounds = some p.box ∧ ∀ name ∈ p.node.names, name ∈ root.names := by
        intro p hp
        rcases mem_placedChildren hp with ⟨hchild, -, hbox⟩
        exact ⟨hbox, child_names hnodes hchild⟩
      have hall := visitAll_drafts hconfig hchildren hstart h
      refine ⟨hall.1, ?_⟩
      rw [hall.2]
      exact paints_plain hconfig hpaints isPlain_none

end Letterpress

namespace Letterpress

open Document (IsInOrder IsModestLayout IsTableOf isContainerCell)

variable {K ω : Type} [Scalar K] [InertText K] {host : Host ω K} {config : Config K}
  {root : Node K} {s s' : Session ω K} {w : Walk}

/-- The document of a walk has one container, which shows the fragments of the walk in
    their order on the page, each of them once and in a table of its own. Unless a number
    or a code in a name is too long, there is such a document. -/
theorem walk_compiled (hconfig : config.IsPlain)
    (hnames : ∀ name ∈ root.names, '"' ∉ name.toList)
    (h : walk host config root s = (.ok w, s')) (hne : w.fragments ≠ []) (width height : K) :
    (∀ text, Document.compileFragments config w.fragments width height w.background = .ok text →
      ∃ (canvas : Int) (tree cell : Markup.Node) (ordered : List Fragment),
        Scalar.roundHalfUp width = .ok canvas ∧ Markup.parse text = .ok tree ∧
        tree.elementsBelow.filter isContainerCell = [cell] ∧ IsInOrder w.fragments ordered ∧
        List.Forall₂ (IsTableOf canvas config.containerBorder) ordered cell.elementChildren) ∧
    ((∀ name ∈ root.names, Text.hasLongCode name.toList = false) →
      IsModestLayout config w.fragments width height →
        ∃ text, Document.compileFragments config w.fragments width height w.background
          = .ok text) := by
  rcases walk_drafts hconfig h with ⟨hdrafts, hbackground⟩
  constructor
  · exact fun text htext =>
      Document.compileFragments_structure hconfig hbackground hne hdrafts hnames htext
  · exact fun hcodes hmodest =>
      Document.compileFragments_returns hmodest hdrafts hnames hcodes w.background

/-- A table and a line, in a container with two tables. -/
theorem walk_compiled_priceList :
    ∃ (w : Walk) (s : Session Unit Rat) (text : String) (canvas : Int) (tree cell : Markup.Node)
      (ordered : List Fragment),
      walk picturelessHost {} priceList ⟨(), [], []⟩ = (.ok w, s) ∧
      w.fragments.map (fun f => [f.left, f.top, f.width, f.height])
        = [[0, 10, 100, 48], [0, 78, 200, 2]] ∧
      Document.compileFragments {} w.fragments (200 : Rat) 100 w.background = .ok text ∧
      Markup.parse text = .ok tree ∧ tree.elementsBelow.filter isContainerCell = [cell] ∧
      IsInOrder w.fragments ordered ∧
      List.Forall₂ (IsTableOf canvas 1) ordered cell.elementChildren := by
  have hwalked : (walk picturelessHost {} priceList ⟨(), [], []⟩).1.toOption.map
      (fun w => w.fragments.map fun f => [f.left, f.top, f.width, f.height])
      = some [[0, 10, 100, 48], [0, 78, 200, 2]] := by
    decide +kernel
  rcases Task.returned_of_read hwalked with ⟨w, s, hrun, hnumbers⟩
  have hne : w.fragments ≠ [] := by
    intro hempty
    simp [hempty] at hnumbers
  have hmodest : IsModestLayout ({} : Config Rat) w.fragments 200 100 :=
    ⟨⟨by decide +kernel, by decide +kernel⟩,
      isModest_fragments (by rw [hnumbers]; decide +kernel),
      ⟨_, _, roundHalfUp_rat 200, by decide +kernel, roundInt_rat _⟩, _, roundHalfUp_rat 100⟩
  rcases walk_compiled isPlain_default (by decide) hrun hne (200 : Rat) 100 with
    ⟨hstructure, hreturns⟩
  rcases hreturns (by decide) hmodest with ⟨text, htext⟩
  rcases hstructure text htext with ⟨canvas, tree, cell, ordered, -, hparse, hcell, horder,
    htables⟩
  exact ⟨w, s, text, canvas, tree, cell, ordered, hrun, hnumbers, htext, hparse, hcell, horder,
    htables⟩

end Letterpress
