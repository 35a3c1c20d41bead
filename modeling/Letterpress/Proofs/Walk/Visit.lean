import Letterpress.Proofs.Layout.Keeping
import Letterpress.Proofs.Session
import Letterpress.Walk.Visit

/-!
# What a Visit Does

A child of a frame is visited at a height: its own, shifted by the offset of the
walk so far. The visit yields at most one fragment, whose corner is the child's
place in whole pixels, and moves the offset on by the child's *drift*. Only a
region that is rebuilt as a table has one: the room it is planned to take beyond
its own height.

## Main definitions

* `Fragment.IsAt`: The corner of a fragment.
* `Fragment.IsPlaced`: A fragment is a table of some size.
* `Table.plannedHeight`: The height a region's table is planned to take.
* `drift`: How far a child moves what follows.

## Theorems

* `mem_placedChildren`: Which children are placed.
* `synthesize_planned`: A synthesized table takes the planned height.
* `backgroundOf_step`: What a walk has before its first child.
* `visit_cases`: The parts of a visit.
* `visit_step`, `visit_made`: What a visit adds to the walk.
-/

namespace Letterpress

variable {K ω : Type} [Scalar K]

/-- The children that are placed are visible children with bounds. -/
theorem mem_placedChildren {frame : Rect K} {children : List (Node K)} {p : Placed K}
    (h : p ∈ placedChildren frame children) :
    p.node ∈ children ∧ p.node.visible = true ∧ p.node.bounds = some p.box := by
  rcases List.mem_filterMap.mp (Layout.mem_sortOn h) with ⟨child, hchild, hplaced⟩
  unfold placed? at hplaced
  split at hplaced
  · rename_i box hvisible hbounds
    obtain rfl := Option.some.inj hplaced
    exact ⟨hchild, hvisible, hbounds⟩
  · exact absurd hplaced (by simp)

/-- The corner of the fragment is a place in whole pixels. -/
structure Fragment.IsAt (f : Fragment) (x y : K) : Prop where
  left : Scalar.roundHalfUp x = .ok f.left
  top : Scalar.roundHalfUp y = .ok f.top

/-- The fragment is a table of some size at a place. -/
def Fragment.IsPlaced (f : Fragment) (x y : K) : Prop :=
  ∃ width height rows, Render.placedFragment x y width height rows = .ok f

theorem Fragment.IsPlaced.isAt {f : Fragment} {x y : K} (h : f.IsPlaced x y) : f.IsAt x y := by
  rcases h with ⟨width, height, rows, h⟩
  simp only [Render.placedFragment, except_bind_ok, except_pure_ok] at h
  rcases h with ⟨markup, -, left, hleft, top, htop, w, -, hh, -, rfl⟩
  exact ⟨hleft, htop⟩

theorem image_isPlaced {source : String} {x y width height : K} {f : Fragment}
    (h : Render.image source x y width height = .ok f) : f.IsPlaced x y := by
  simp only [Render.image, except_bind_ok] at h
  rcases h with ⟨w, -, hh, -, hplaced⟩
  exact ⟨width, height, _, hplaced⟩

theorem shape_isPlaced {node : Node K} {x y : K} {made : Option Fragment}
    (h : Render.shape node x y = .ok made) : ∀ f ∈ made, f.IsPlaced x y := by
  rw [Render.shape] at h
  split at h
  · rw [except_pure_ok] at h
    simp [← h]
  · simp only [except_bind_ok, except_pure_ok, number_ok] at h
    rcases h with ⟨style, -, f, hplaced, rfl⟩
    intro g hg
    rw [← Option.some.inj hg]
    exact ⟨_, _, _, hplaced⟩

theorem text_isPlaced {host : Host ω K} {config : Config K} {node : Node K} {x y : K}
    {made : Option Fragment} {s s' : Session ω K}
    (h : Render.text host config node x y s = (.ok made, s')) : ∀ f ∈ made, f.IsPlaced x y := by
  cases hbounds : node.bounds with
  | none =>
      simp only [Render.text, hbounds, Task.pure_ok] at h
      simp [← h.1]
  | some box =>
      simp only [Render.text, hbounds, Task.bind_ok, Task.lift_ok, Task.number_ok,
        Task.pure_ok] at h
      rcases h with ⟨body, s₁, -, content, s₂, -, heights, s₃, -, f, s₄, ⟨hplaced, -⟩, rfl, -⟩
      intro g hg
      rw [← Option.some.inj hg]
      exact ⟨_, _, _, hplaced⟩

/-- The height that the table of a region is planned to take; nothing if there is no
    table. -/
def Table.plannedHeight (config : Config K) (node : Node K) : Int :=
  match node, node.bounds with
  | .container _ _ _, some _ =>
    match textLeaves node with
    | [] => 0
    | leaves =>
      match leafRows config leaves with
      | .ok rows => expectedHeight config rows.length
      | .error _ => 0
  | _, _ => 0

/-- A synthesized table takes the planned height, wherever it is placed and whatever
    fonts the host has. -/
theorem synthesize_planned {host : Host ω K} {config : Config K} {node : Node K} {x y : K}
    {table : Option Table.Synthesized} {s s' : Session ω K}
    (h : Table.synthesize host config node x y s = (.ok table, s')) :
    (table.map Table.Synthesized.expectedHeight).getD 0 = Table.plannedHeight config node := by
  -- Without a container, bounds or text there is no table, as in the plan.
  cases node with
  | text _ _ | shape _ _ | image _ _ =>
      simp only [Table.synthesize, Task.pure_ok] at h
      simp [← h.1, Table.plannedHeight]
  | container common kind children =>
      cases hbounds : (Node.container common kind children).bounds with
      | none =>
          simp only [Table.synthesize, hbounds, Task.pure_ok] at h
          simp [← h.1, Table.plannedHeight, hbounds]
      | some box =>
          cases hleaves : Table.textLeaves (Node.container common kind children) with
          | nil =>
              simp only [Table.synthesize, hbounds, hleaves, Task.pure_ok] at h
              simp [← h.1, Table.plannedHeight, hbounds, hleaves]
          | cons leaf leaves =>
              simp only [Table.synthesize, hbounds, hleaves, Task.bind_ok, Task.number_ok,
                Task.pure_ok] at h
              rcases h with ⟨rows, s₁, ⟨hrows, -⟩, markup, s₂, -, text, s₃, -, rfl, -⟩
              simp [Table.plannedHeight, hbounds, hleaves, hrows]

/-- How far a child moves what follows. -/
def drift (config : Config K) (p : Placed K) : Except NumberError Int :=
  if p.node.isTableRegion then growth (Table.plannedHeight config p.node) p.box.height
  else .ok 0

/-- A child at a height, before its link is wrapped. -/
def visitUnlinked (host : Host ω K) (config : Config K) (p : Placed K) (y : K) (w : Walk) :
    Task ω K (Option Fragment × Walk) :=
  if p.node.isTableRegion then visitTable host config p y w else visitNode host config p y w

theorem visit_eq (host : Host ω K) (config : Config K) (p : Placed K) (w : Walk) :
    visit host config p w = do
      let y := p.y + (← Scalar.ofInt? w.offset)
      let (fragment, w) ← visitUnlinked host config p y w
      match fragment, linkTarget? p.node.name with
      | some fragment, some target =>
        let (wrapped, w) ← visitLink host config p.node target fragment w
        return w.addFragment wrapped
      | _, _ => return w.addFragment fragment := by
  unfold visit visitUnlinked
  cases p.node.isTableRegion <;> rfl

/-- A visit makes a fragment, wraps its link if there is one, and adds it to the walk. -/
theorem visit_cases {host : Host ω K} {config : Config K} {p : Placed K} {w w' : Walk}
    {s s' : Session ω K} (h : visit host config p w s = (.ok w', s')) :
    ∃ shift made w₁ s₁, Scalar.ofInt? w.offset = .ok shift ∧
      visitUnlinked host config p (p.y + shift) w s = (.ok (made, w₁), s₁) ∧
      ((w' = w₁.addFragment made ∧ s' = s₁) ∨
        ∃ fragment target wrapped w₂, made = some fragment ∧
          linkTarget? p.node.name = some target ∧
          visitLink host config p.node target fragment w₁ s₁ = (.ok (wrapped, w₂), s') ∧
          w' = w₂.addFragment (some wrapped)) := by
  simp only [visit_eq, Task.bind_ok, Task.number_ok] at h
  rcases h with ⟨shift, s₀, ⟨hshift, rfl⟩, ⟨made, w₁⟩, s₁, hmade, hlink⟩
  refine ⟨shift, made, w₁, s₁, hshift, hmade, ?_⟩
  -- Without a fragment or a target there is no link to wrap.
  cases made with
  | none =>
      rw [Task.pure_ok] at hlink
      exact Or.inl ⟨hlink.1.symm, hlink.2.symm⟩
  | some fragment =>
      cases htarget : linkTarget? p.node.name with
      | none =>
          simp only [htarget, Task.pure_ok] at hlink
          exact Or.inl ⟨hlink.1.symm, hlink.2.symm⟩
      | some target =>
          simp only [htarget, Task.bind_ok, Task.pure_ok] at hlink
          rcases hlink with ⟨⟨wrapped, w₂⟩, s₂, hwrapped, rfl, rfl⟩
          exact Or.inr ⟨fragment, target, wrapped, w₂, rfl, rfl, hwrapped, rfl⟩

/-- The walk after a child: the walk before with more pictures and notes, which no
    later place depends on. -/
structure Walk.Keeps (w w' : Walk) : Prop where
  fragments : w'.fragments = w.fragments
  offset : w'.offset = w.offset
  background : w'.background = w.background

/-- What the background of a walk is read from: it is as it was, or a color, or the next
    picture. -/
def Walk.Paints (config : Config K) (w w' : Walk) : Prop :=
  w'.background = w.background ∨
    (∃ (color : Rgb K) (hex : String), Style.hex color = .ok hex ∧ w'.background = .color hex) ∨
    w'.background = .image (config.assetPath (w.nextName "bg-image"))

/-- The background of a frame is all that changes before the first child. -/
theorem backgroundOf_step {host : Host ω K} {config : Config K} {frame : Node K} {w w' : Walk}
    {s s' : Session ω K} (h : backgroundOf host config frame w s = (.ok w', s')) :
    w'.fragments = w.fragments ∧ w'.offset = w.offset ∧ w.Paints config w' := by
  rw [backgroundOf] at h
  cases hfill : frame.firstFill with
  | none =>
      simp only [hfill, Task.pure_ok] at h
      rw [← h.1]
      exact ⟨rfl, rfl, Or.inl rfl⟩
  | some paint =>
      cases paint with
      | solid color opacity =>
          simp only [hfill, Task.bind_ok, Task.number_ok, Task.pure_ok] at h
          rcases h with ⟨hex, s₁, ⟨hhex, -⟩, rfl, -⟩
          exact ⟨rfl, rfl, Or.inr (Or.inl ⟨color, hex, hhex, rfl⟩)⟩
      | image ref opacity =>
          simp only [hfill, Task.bind_ok, Task.attempt_ok] at h
          rcases h with ⟨answer, s₁, -, h⟩
          -- If the picture cannot be had, a note is all that is left of it.
          rcases answer with fault | data
          · simp only [Task.bind_ok, Task.pure_ok] at h
            rcases h with ⟨_, s₂, -, rfl, -⟩
            exact ⟨rfl, rfl, Or.inl rfl⟩
          · cases data with
            | none =>
                simp only [Task.bind_ok, Task.pure_ok] at h
                rcases h with ⟨_, s₂, -, rfl, -⟩
                exact ⟨rfl, rfl, Or.inl rfl⟩
            | some data =>
                simp only [Task.pure_ok] at h
                rw [← h.1]
                exact ⟨rfl, rfl, Or.inr (Or.inr rfl)⟩

theorem visitPicture_keeps {host : Host ω K} {config : Config K} {p : Placed K} {y : K}
    {w w' : Walk} {made : Option Fragment} {s s' : Session ω K}
    (h : visitPicture host config p y w s = (.ok (made, w'), s')) :
    (∀ f ∈ made, f.IsPlaced p.x y) ∧ w.Keeps w' := by
  simp only [visitPicture, Task.bind_ok, Task.attempt_ok] at h
  rcases h with ⟨answer, s₁, -, hanswer⟩
  cases answer with
  | error fault =>
      simp only [Task.bind_ok, Task.pure_ok, Prod.mk.injEq] at hanswer
      rcases hanswer with ⟨_, s₂, -, ⟨rfl, rfl⟩, -⟩
      exact ⟨by simp, rfl, rfl, rfl⟩
  | ok data =>
      simp only [Task.bind_ok, Task.number_ok, Task.pure_ok, Prod.mk.injEq] at hanswer
      rcases hanswer with ⟨f, s₂, ⟨himage, -⟩, ⟨rfl, rfl⟩, -⟩
      refine ⟨fun g hg => ?_, rfl, rfl, rfl⟩
      rw [← Option.some.inj hg]
      exact image_isPlaced himage

theorem visitNode_keeps {host : Host ω K} {config : Config K} {p : Placed K} {y : K}
    {w w' : Walk} {made : Option Fragment} {s s' : Session ω K}
    (h : visitNode host config p y w s = (.ok (made, w'), s')) :
    (∀ f ∈ made, f.IsPlaced p.x y) ∧ w.Keeps w' := by
  rw [visitNode] at h
  cases hgif : gifId? p.node.name with
  | some gif =>
      simp only [hgif, Task.bind_ok, Task.number_ok, Task.pure_ok, Prod.mk.injEq] at h
      rcases h with ⟨f, s₁, ⟨himage, -⟩, ⟨rfl, rfl⟩, -⟩
      refine ⟨fun g hg => ?_, rfl, rfl, rfl⟩
      rw [← Option.some.inj hg]
      exact image_isPlaced himage
  | none =>
      -- A picture is what every node falls back to.
      have hpicture : ∀ node,
          (if hasMarkup node then do return (← Render.shape node p.x y, w)
            else visitPicture host config p y w : Task ω K (Option Fragment × Walk)) s
              = (.ok (made, w'), s') → (∀ f ∈ made, f.IsPlaced p.x y) ∧ w.Keeps w' := by
        intro node hnode
        by_cases hmarkup : hasMarkup node = true
        · simp only [hmarkup, if_true, Task.bind_ok, Task.lift_ok, Task.pure_ok,
            Prod.mk.injEq] at hnode
          rcases hnode with ⟨f, s₁, ⟨hshape, -⟩, ⟨rfl, rfl⟩, -⟩
          exact ⟨shape_isPlaced hshape, rfl, rfl, rfl⟩
        · simp only [hmarkup, if_false, Bool.false_eq_true] at hnode
          exact visitPicture_keeps hnode
      cases hnode : p.node with
      | text common body =>
          rw [hgif, hnode] at h
          simp only [Task.bind_ok, Task.pure_ok, Prod.mk.injEq] at h
          rcases h with ⟨f, s₁, htext, ⟨rfl, rfl⟩, -⟩
          exact ⟨text_isPlaced htext, rfl, rfl, rfl⟩
      | container _ _ _ | shape _ _ | image _ _ =>
          rw [hgif, hnode] at h
          exact hpicture _ h

theorem visitTable_step {host : Host ω K} {config : Config K} {p : Placed K} {y : K}
    {w w' : Walk} {made : Option Fragment} {s s' : Session ω K}
    (h : visitTable host config p y w s = (.ok (made, w'), s')) :
    (∀ f ∈ made, f.IsAt p.x y ∧ Scalar.roundHalfUp p.box.width = .ok f.width) ∧
      w'.fragments = w.fragments ∧ w'.background = w.background ∧
      ∃ d, growth (Table.plannedHeight config p.node) p.box.height = .ok d ∧
        w'.offset = w.offset + d := by
  simp only [visitTable, Task.bind_ok, Task.number_ok] at h
  rcases h with ⟨table, s₁, htable, d, s₂, ⟨hd, rfl⟩, h⟩
  -- The drift is that of the plan, whether or not a table is made.
  rw [synthesize_planned htable] at hd
  cases table with
  | none =>
      simp only [Task.pure_ok, Prod.mk.injEq] at h
      rcases h with ⟨⟨rfl, rfl⟩, -⟩
      exact ⟨by simp, rfl, rfl, d, hd, rfl⟩
  | some table =>
      simp only [Task.bind_ok, Task.number_ok, Task.pure_ok, Prod.mk.injEq] at h
      rcases h with ⟨left, s₃, ⟨hleft, -⟩, top, s₄, ⟨htop, -⟩, width, s₅, ⟨hwidth, -⟩, ⟨rfl, rfl⟩,
        -⟩
      refine ⟨fun g hg => ?_, rfl, rfl, d, hd, rfl⟩
      rw [← Option.some.inj hg]
      exact ⟨⟨hleft, htop⟩, hwidth⟩

/-- A link and its preview are recorded if the fragment is wrapped. Otherwise a name has been
    given in vain. -/
theorem visitLink_cases {host : Host ω K} {config : Config K} {node : Node K} {target : String}
    {fragment wrapped : Fragment} {w w' : Walk} {s s' : Session ω K}
    (h : visitLink host config node target fragment w s = (.ok (wrapped, w'), s')) :
    (wrapped = fragment ∧ w' = w.countName) ∨
      ∃ data, wrapped = { fragment with
          markup := linkMarkup node.id fragment.markup, linkWrapped := true } ∧
        w' = w.countName.addLink ⟨node.id, target, w.nextName "link-preview"⟩
          ⟨w.nextName "link-preview", data⟩ := by
  simp only [visitLink, Task.bind_ok, Task.attempt_ok] at h
  rcases h with ⟨answer, s₁, -, hanswer⟩
  cases answer with
  | error fault =>
      simp only [Task.bind_ok, Task.pure_ok, Prod.mk.injEq] at hanswer
      rcases hanswer with ⟨_, s₂, -, ⟨rfl, rfl⟩, -⟩
      exact Or.inl ⟨rfl, rfl⟩
  | ok data =>
      simp only [Task.pure_ok, Prod.mk.injEq] at hanswer
      rcases hanswer with ⟨⟨rfl, rfl⟩, -⟩
      exact Or.inr ⟨data, rfl, rfl⟩

/-- A link wraps a fragment where it is. -/
theorem visitLink_keeps {host : Host ω K} {config : Config K} {node : Node K} {target : String}
    {fragment wrapped : Fragment} {w w' : Walk} {s s' : Session ω K}
    (h : visitLink host config node target fragment w s = (.ok (wrapped, w'), s')) :
    (wrapped = fragment ∨
        wrapped = { fragment with
          markup := linkMarkup node.id fragment.markup, linkWrapped := true }) ∧
      w.Keeps w' := by
  rcases visitLink_cases h with ⟨rfl, rfl⟩ | ⟨data, rfl, rfl⟩
  · exact ⟨Or.inl rfl, rfl, rfl, rfl⟩
  · exact ⟨Or.inr rfl, rfl, rfl, rfl⟩

/-- Before its link is wrapped, a child makes a fragment at its place and moves the
    offset on by its drift. -/
theorem visitUnlinked_step {host : Host ω K} {config : Config K} {p : Placed K} {y : K}
    {w w' : Walk} {made : Option Fragment} {s s' : Session ω K}
    (h : visitUnlinked host config p y w s = (.ok (made, w'), s')) :
    (∀ f ∈ made, f.IsAt p.x y) ∧ w'.fragments = w.fragments ∧
      w'.background = w.background ∧ ∃ d, drift config p = .ok d ∧ w'.offset = w.offset + d := by
  rw [visitUnlinked] at h
  rw [drift]
  by_cases htable : p.node.isTableRegion = true
  · rw [if_pos htable] at h ⊢
    rcases visitTable_step h with ⟨hat, hrest⟩
    exact ⟨fun f hf => (hat f hf).1, hrest⟩
  · rw [if_neg htable] at h ⊢
    rcases visitNode_keeps h with ⟨hplaced, hkeeps⟩
    exact ⟨fun f hf => (hplaced f hf).isAt, hkeeps.fragments, hkeeps.background, 0, rfl,
      by rw [hkeeps.offset, Int.add_zero]⟩

/-- A visit adds at most one fragment, at the child's place shifted by the offset, and
    moves the offset on by the child's drift. -/
theorem visit_step {host : Host ω K} {config : Config K} {p : Placed K} {w w' : Walk}
    {s s' : Session ω K} (h : visit host config p w s = (.ok w', s')) :
    ∃ (shift : K) (d : Int) (made : Option Fragment),
      Scalar.ofInt? w.offset = .ok shift ∧ drift config p = .ok d ∧
      (∀ f ∈ made, f.IsAt p.x (p.y + shift)) ∧
      w'.fragments = w.fragments ++ made.toList ∧ w'.offset = w.offset + d ∧
      w'.background = w.background := by
  rcases visit_cases h with ⟨shift, made, w₁, s₁, hshift, hmade, hlink⟩
  rcases visitUnlinked_step hmade with ⟨hat, hfragments, hbackground, d, hd, hoffset⟩
  -- A link around the fragment leaves it at its place.
  rcases hlink with ⟨rfl, -⟩ | ⟨fragment, target, wrapped, w₂, rfl, -, hwrapped, rfl⟩
  · refine ⟨shift, d, made, hshift, hd, hat, ?_, hoffset, hbackground⟩
    rw [Walk.addFragment, hfragments]
  · rcases visitLink_keeps hwrapped with ⟨hwrap, hkeeps⟩
    refine ⟨shift, d, some wrapped, hshift, hd, fun g hg => ?_, ?_, ?_, ?_⟩
    · rw [← Option.some.inj hg]
      have hfragment := hat fragment rfl
      rcases hwrap with rfl | rfl
      · exact hfragment
      · exact ⟨hfragment.left, hfragment.top⟩
    · rw [Walk.addFragment, hkeeps.fragments, hfragments]
    · exact hkeeps.offset.trans hoffset
    · exact hkeeps.background.trans hbackground

/-- What was added to the fragments can be told from them. -/
theorem made_unique {fragments : List Fragment} {made made' : Option Fragment}
    (h : fragments ++ made.toList = fragments ++ made'.toList) : made = made' := by
  have hlists := List.append_cancel_left h
  cases made <;> cases made' <;> simp_all

/-- The fragment that a visit adds is what it makes of the child, with or without a link
    around it. -/
theorem visit_made {host : Host ω K} {config : Config K} {p : Placed K} {w w' : Walk}
    {s s' : Session ω K} {made : Option Fragment} (h : visit host config p w s = (.ok w', s'))
    (hmade : w'.fragments = w.fragments ++ made.toList) :
    ∃ shift own w₁ s₁, Scalar.ofInt? w.offset = .ok shift ∧
      visitUnlinked host config p (p.y + shift) w s = (.ok (own, w₁), s₁) ∧
      ((made = own ∧ w' = w₁.addFragment own ∧ s' = s₁) ∨
        ∃ fragment target wrapped w₂, own = some fragment ∧
          linkTarget? p.node.name = some target ∧
          visitLink host config p.node target fragment w₁ s₁ = (.ok (wrapped, w₂), s') ∧
          made = some wrapped ∧ w' = w₂.addFragment (some wrapped)) := by
  rcases visit_cases h with ⟨shift, own, w₁, s₁, hshift, hown, hlink⟩
  have hfragments := (visitUnlinked_step hown).2.1
  refine ⟨shift, own, w₁, s₁, hshift, hown, ?_⟩
  rcases hlink with ⟨rfl, rfl⟩ | ⟨fragment, target, wrapped, w₂, rfl, htarget, hwrapped, rfl⟩
  · rw [Walk.addFragment, hfragments] at hmade
    exact Or.inl ⟨(made_unique hmade).symm, rfl, rfl⟩
  · rw [Walk.addFragment, (visitLink_keeps hwrapped).2.fragments, hfragments] at hmade
    exact Or.inr ⟨fragment, target, wrapped, w₂, rfl, htarget, hwrapped,
      (made_unique hmade).symm, rfl⟩

end Letterpress
