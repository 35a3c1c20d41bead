import Letterpress.Proofs.Walk.Alike
import Letterpress.Proofs.Walk.Faults
import Letterpress.Proofs.Walk.Offset

/-!
# Failures Stay Local

A design tool may fail to deliver any font or picture. A walk in exact arithmetic goes on
without it, and what was not delivered is missing in one place only.

Two walks over one frame are compared here, with tools that need not have anything in
common. They visit the same children at the same heights, since the drift of a child is
planned from the design alone. Whatever is shown by markup is written from the design
too. Only a child that becomes a picture depends on the answer to one request, its own:
without a picture it makes no fragment. A picture or a link has another name if names
were given differently before, so their markup may differ, but never their places.

## Main definitions

* `Fragment.box`: The place and the extent of a fragment.
* `ComesTo`: The run of a walk comes to one of its children.
* `LacksPicture`: The picture of a child could not be taken.

## Theorems

* `visitUnlinked_same`: What is no picture is the same in both walks.
* `visit_counterparts`: Two visits of a child.
* `Visits.sameOffset`: Two runs over the same children end with the same offset.
* `walk_returns`: In exact arithmetic every walk returns.
* `walk_failures`: Two walks over a frame, whatever fails in them.
-/

namespace Letterpress

/-- The place and the extent of a fragment. -/
def Fragment.box (f : Fragment) : Rect Int :=
  ⟨f.left, f.top, f.width, f.height⟩

section Visiting

variable {K ω ω' : Type} [Scalar K] {host : Host ω K} {host' : Host ω' K} {config : Config K}
  {p : Placed K} {y : K} {w w₁ w' w₁' : Walk} {made made' : Option Fragment}
  {s s₁ : Session ω K} {s' s₁' : Session ω' K}

/-- Pictures of one size at one place have the same box, whatever they show. -/
theorem image_box {source source' : String} {x width height : K} {f f' : Fragment}
    (h : Render.image source x y width height = .ok f)
    (h' : Render.image source' x y width height = .ok f') : f'.box = f.box := by
  simp only [Render.image, Render.placedFragment, except_bind_ok, except_pure_ok] at h h'
  rcases h with ⟨_, -, _, -, markup, -, left, hleft, top, htop, w, hw, ht, hht, rfl⟩
  rcases h' with ⟨_, -, _, -, markup', -, left', hleft', top', htop', w', hw', ht', hht', rfl⟩
  simp only [Fragment.box, Except.ok.inj (hleft'.symm.trans hleft),
    Except.ok.inj (htop'.symm.trans htop), Except.ok.inj (hw'.symm.trans hw),
    Except.ok.inj (hht'.symm.trans hht)]

/-- A link leaves a fragment where it is. -/
theorem visitLink_box {node : Node K} {target : String} {fragment wrapped : Fragment}
    (h : visitLink host config node target fragment w s = (.ok (wrapped, w₁), s₁)) :
    wrapped.box = fragment.box := by
  rcases (visitLink_keeps h).1 with rfl | rfl <;> rfl

/-- A region makes the same fragment whatever the host answers. -/
theorem visitTable_same (h : visitTable host config p y w s = (.ok (made, w₁), s₁))
    (h' : visitTable host' config p y w' s' = (.ok (made', w₁'), s₁')) : made' = made := by
  simp only [visitTable, Task.bind_ok, Task.number_ok] at h h'
  rcases h with ⟨table, _, htable, _, _, -, h⟩
  rcases h' with ⟨table', _, htable', _, _, -, h'⟩
  obtain rfl : table' = table :=
    (Table.synthesize_agree (failsIn_any config) p.node p.x y).same htable htable'
  cases table' with
  | none =>
      simp only [Task.pure_ok, Prod.mk.injEq] at h h'
      rw [← h.1.1, ← h'.1.1]
  | some table =>
      simp only [Task.bind_ok, Task.number_ok, Task.pure_ok, Prod.mk.injEq] at h h'
      rcases h with ⟨left, _, ⟨hleft, -⟩, top, _, ⟨htop, -⟩, width, _, ⟨hwidth, -⟩, ⟨rfl, -⟩, -⟩
      rcases h' with
        ⟨left', _, ⟨hleft', -⟩, top', _, ⟨htop', -⟩, width', _, ⟨hwidth', -⟩, ⟨rfl, -⟩, -⟩
      rw [Except.ok.inj (hleft'.symm.trans hleft), Except.ok.inj (htop'.symm.trans htop),
        Except.ok.inj (hwidth'.symm.trans hwidth)]

/-- Whatever is no picture makes the same fragment in both walks, before a link is put
    around it. -/
theorem visitUnlinked_same (hmanner : p.node.manner ≠ .picture)
    (h : visitUnlinked host config p y w s = (.ok (made, w₁), s₁))
    (h' : visitUnlinked host' config p y w' s' = (.ok (made', w₁'), s₁')) : made' = made := by
  rw [visitUnlinked_manner] at h h'
  cases hshown : p.node.manner with
  | picture => exact absurd hshown hmanner
  | table =>
      rw [hshown] at h h'
      exact visitTable_same h h'
  | gif id =>
      simp only [hshown, Task.bind_ok, Task.number_ok, Task.pure_ok, Prod.mk.injEq] at h h'
      rcases h with ⟨f, _, ⟨himage, -⟩, ⟨rfl, -⟩, -⟩
      rcases h' with ⟨f', _, ⟨himage', -⟩, ⟨rfl, -⟩, -⟩
      rw [Except.ok.inj (himage'.symm.trans himage)]
  | text =>
      simp only [hshown, Task.bind_ok, Task.pure_ok, Prod.mk.injEq] at h h'
      rcases h with ⟨f, _, htext, ⟨rfl, -⟩, -⟩
      rcases h' with ⟨f', _, htext', ⟨rfl, -⟩, -⟩
      -- Texts ask the host for typefaces, but their fragments depend on no answer.
      exact (Render.text_agree (failsIn_any config) (isText_of_manner hshown) p.x y).same htext
        htext'
  | shape =>
      simp only [hshown, Task.bind_ok, Task.lift_ok, Task.pure_ok, Prod.mk.injEq] at h h'
      rcases h with ⟨f, _, ⟨hshape, -⟩, ⟨rfl, -⟩, -⟩
      rcases h' with ⟨f', _, ⟨hshape', -⟩, ⟨rfl, -⟩, -⟩
      exact Except.ok.inj (hshape'.symm.trans hshape)

/-- Before links are put around them, the fragments of one child have the same box. -/
theorem visitUnlinked_box {f f' : Fragment}
    (h : visitUnlinked host config p y w s = (.ok (some f, w₁), s₁))
    (h' : visitUnlinked host' config p y w' s' = (.ok (some f', w₁'), s₁')) :
    f'.box = f.box := by
  by_cases hmanner : p.node.manner = .picture
  · rcases visitUnlinked_picture hmanner h with ⟨_, -, hnone, -⟩ | ⟨_, g, -, himage, hg, -⟩
    · exact absurd hnone (by simp)
    rcases visitUnlinked_picture hmanner h' with ⟨_, -, hnone, -⟩ | ⟨_, g', -, himage', hg', -⟩
    · exact absurd hnone (by simp)
    rw [Option.some.inj hg, Option.some.inj hg']
    exact image_box himage himage'
  · rw [Option.some.inj (visitUnlinked_same hmanner h h')]

/-- A child that makes a fragment in one walk and none in the other is a picture that could
    not be taken in the other. -/
theorem visitUnlinked_lacks {f : Fragment}
    (h : visitUnlinked host config p y w s = (.ok (some f, w₁), s₁))
    (h' : visitUnlinked host' config p y w' s' = (.ok (none, w₁'), s₁')) :
    p.node.manner = .picture ∧
      ∃ fault, (host'.rasterize (pictured p.node) config.rasterScale s'.world).result
        = .error fault := by
  by_cases hmanner : p.node.manner = .picture
  · rcases visitUnlinked_picture hmanner h' with ⟨fault, hfault, -, -⟩ | ⟨_, _, -, -, hsome, -⟩
    · exact ⟨hmanner, fault, hfault⟩
    · exact absurd hsome (by simp)
  · exact absurd (visitUnlinked_same hmanner h h') (by simp)

/-- What a visit adds is the child's own fragment, or that fragment in a link, which leaves
    it where it is. -/
theorem visit_own (h : visit host config p w s = (.ok w₁, s₁))
    (hmade : w₁.fragments = w.fragments ++ made.toList) :
    ∃ shift own w₂ s₂, Scalar.ofInt? w.offset = .ok shift ∧
      visitUnlinked host config p (p.y + shift) w s = (.ok (own, w₂), s₂) ∧
      (∀ f ∈ made, ∃ g, own = some g ∧ f.box = g.box) ∧ (made = none → own = none) ∧
      (linkTarget? p.node.name = none → made = own) := by
  rcases visit_made h hmade with ⟨shift, own, w₂, s₂, hshift, hown, hlink⟩
  refine ⟨shift, own, w₂, s₂, hshift, hown, ?_⟩
  rcases hlink with ⟨rfl, -, -⟩ | ⟨g, target, wrapped, _, rfl, htarget, hwrapped, rfl, -⟩
  · exact ⟨fun f hf => ⟨f, hf, rfl⟩, id, fun _ => rfl⟩
  · refine ⟨fun f hf => ⟨g, rfl, ?_⟩, fun hnone => absurd hnone (by simp), fun hplain => ?_⟩
    · rw [← Option.some.inj hf, visitLink_box hwrapped]
    · rw [htarget] at hplain
      exact absurd hplain (by simp)

/-- Two visits of a child at the same offset. Their fragments have the same box, a fragment
    is missing only where its picture could not be taken, and what is neither a picture nor
    a link is the same. -/
theorem visit_counterparts (hoffset : w'.offset = w.offset)
    (h : visit host config p w s = (.ok w₁, s₁))
    (hmade : w₁.fragments = w.fragments ++ made.toList)
    (h' : visit host' config p w' s' = (.ok w₁', s₁'))
    (hmade' : w₁'.fragments = w'.fragments ++ made'.toList) :
    (∀ f ∈ made, ∀ f' ∈ made', f'.box = f.box) ∧
      (made.isSome = true → made' = none → p.node.manner = .picture ∧
        ∃ fault, (host'.rasterize (pictured p.node) config.rasterScale s'.world).result
          = .error fault) ∧
      (p.node.manner ≠ .picture → linkTarget? p.node.name = none → made' = made) := by
  rcases visit_own h hmade with ⟨shift, own, w₂, s₂, hshift, hown, hbox, -, hplain⟩
  rcases visit_own h' hmade' with ⟨shift', own', w₂', s₂', hshift', hown', hbox', hnone', hplain'⟩
  -- At one offset both visits make their own fragments at the same height.
  rw [hoffset] at hshift'
  obtain rfl : shift' = shift := Except.ok.inj (hshift'.symm.trans hshift)
  refine ⟨fun f hf f' hf' => ?_, fun hsome hnone => ?_, fun hmanner htarget => ?_⟩
  · rcases hbox f hf with ⟨g, rfl, hsame⟩
    rcases hbox' f' hf' with ⟨g', rfl, hsame'⟩
    rw [hsame, hsame', visitUnlinked_box hown hown']
  · rcases Option.isSome_iff_exists.mp hsome with ⟨f, hf⟩
    rcases hbox f hf with ⟨g, rfl, -⟩
    rw [hnone' hnone] at hown'
    exact visitUnlinked_lacks hown hown'
  · rw [hplain htarget, hplain' htarget]
    exact visitUnlinked_same hmanner hown hown'

/-- Two runs over the same children move what follows by the same distance. -/
theorem Visits.sameOffset {steps steps' : List (Placed K × Option Fragment)}
    (h : Visits host config steps w s w₁ s₁) (h' : Visits host' config steps' w' s' w₁' s₁')
    (hsteps : steps'.map Prod.fst = steps.map Prod.fst) (hoffset : w'.offset = w.offset) :
    w₁'.offset = w₁.offset := by
  induction h generalizing steps' w' s' with
  | nil w s =>
      obtain rfl : steps' = [] := List.map_eq_nil_iff.mp hsteps
      cases h'
      exact hoffset
  | @cons p made rest w w₂ w₁ s s₂ s₁ hvisit hmade hrest ih =>
      cases h' with
      | nil => exact absurd hsteps (by simp)
      | cons hvisit' hmade' hrest' =>
          simp only [List.map_cons, List.cons.injEq] at hsteps
          rcases hsteps with ⟨rfl, hsteps⟩
          -- The drift of a child is planned from the design alone.
          rcases visit_step hvisit with ⟨_, d, _, -, hd, -, -, hnext, -⟩
          rcases visit_step hvisit' with ⟨_, d', _, -, hd', -, -, hnext', -⟩
          refine ih hrest' hsteps ?_
          rw [hnext, hnext', hoffset, Except.ok.inj (hd'.symm.trans hd)]

end Visiting

section Walks

variable {K ω : Type} [Scalar K]

/-- The run of a walk over a frame comes to its child at a position: the walk so far, and
    the session in which the child is visited. -/
def ComesTo (host : Host ω K) (config : Config K) (root : Node K) (s : Session ω K)
    (steps : List (Placed K × Option Fragment)) (i : Nat) (w : Walk) (s₁ : Session ω K) : Prop :=
  ∃ before s₀, backgroundOf host config root {} s = (.ok before, s₀) ∧
    Visits host config (steps.take i) before s₀ w s₁

/-- The child at a position of the run becomes a picture, and when the run came to it none
    could be taken. -/
def LacksPicture (host : Host ω K) (config : Config K) (root : Node K) (s : Session ω K)
    (steps : List (Placed K × Option Fragment)) (i : Nat) (p : Placed K) : Prop :=
  p.node.manner = .picture ∧ ∃ w s₁ fault, ComesTo host config root s steps i w s₁ ∧
    (host.rasterize (pictured p.node) config.rasterScale s₁.world).result = .error fault

end Walks

variable {ω ω' : Type} {host : Host ω Rat} {host' : Host ω' Rat} {config : Config Rat}
  {root : Node Rat} {frame : Rect Rat}

/-- In exact arithmetic every walk over a frame returns. -/
theorem walk_returns (host : Host ω Rat) (hgrid : config.rowBucket ≠ 0)
    (hbounds : root.bounds = some frame) {nodes : List (Node Rat)}
    (hnodes : root.childList = .ok nodes) (s : Session ω Rat) :
    ∃ w s', walk host config root s = (.ok w, s') := by
  have hstops : Task.StopsIn (fun _ => False) (walk host config root) := by
    refine walk_stops (failsIn_rat hgrid) host root ?_ ?_ ?_
    · rintro fault ⟨e, hfalse, -⟩
      exact hfalse
    · intro hnone
      rw [hbounds] at hnone
      exact absurd hnone (by simp)
    · rw [hnodes]
      exact failsIn_ok nodes
  exact hstops.returns s

/-- A frame with a photo that links to an address, and a caption below it. -/
def captionedPhoto : Node Rat :=
  .container ⟨"0", "Card", true, some ⟨0, 0, 100, 80⟩, []⟩ .frame
    [.image ⟨"1", "[link] a", true, some ⟨0, 0, 100, 60⟩, []⟩ "IMAGE",
      .text ⟨"2", "Caption", true, some ⟨0, 60, 100, 20⟩, []⟩ ⟨"Tea", [], "LEFT", none⟩]

end Letterpress
