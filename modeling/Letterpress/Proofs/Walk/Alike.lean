import Letterpress.Proofs.Session.Calls
import Letterpress.Proofs.Walk.Visit
import Mathlib.Data.List.Forall2

/-!
# Walks Side by Side

Two frames may differ in something that does not show: in where they lie, or in what they
hide. Their children then come in pairs of *twins*, which stand at the same place, are
written with the same markup and differ at most in the node that is put before the design
tool for a picture. A tool that cannot tell the twins apart answers alike, and the walks
over both frames have the same result.

What remains to be shown for two such frames is that their children are twins.

A child of a frame is shown in one of five manners: rebuilt as a table, as an animation
that is filled in later, as a text, as a shape, or as a picture that the design tool
takes. Which of them it is, is read off the child alone. What the tool answers decides at
most whether there is a picture.

## Main definitions

* `Placed.Twins`: Two children that are shown the same way.
* `Manner`: How a child is shown.
* `Node.manner`: The manner in which a node is shown.

## Theorems

* `textBlock_alike`, `text_alike`, `synthesize_alike`: Showing texts and tables.
* `visitTable_again`, `visitPicture_alike_of_shot`, `visitLink_alike_of_shot`: The parts of
  a visit.
* `visit_alike`: The visits of twins.
* `visitAll_alike`: Twins one after another.
* `walk_alike`: The walks over two frames with twins.
* `visitUnlinked_manner`: A visit goes by the manner of the child.
* `visitUnlinked_picture`: A child that becomes a picture, with and without an answer.
-/

open Letterpress.Task

namespace Letterpress

variable {K ω : Type} [Scalar K] {host : Host ω K} {config : Config K} {R : ω → ω → Prop}
  {twins : Node K → Node K → Prop}

section Showing

variable (hhost : host.BlindTo R twins)

include hhost

namespace Render

omit [Scalar K] in
theorem missingFonts_alike (fonts : List FontName) :
    Alike R (missingFonts host fonts) (missingFonts host fonts) := by
  induction fonts with
  | nil => exact alike_pure []
  | cons font rest ih =>
      -- Loading is tried for every font, whatever the others did.
      refine (hhost.loadFont_alike font).attempt.bind fun outcome => ih.bind fun missing => ?_
      cases outcome <;> exact alike_pure _

omit [Scalar K] in
theorem loadFonts_alike (body : TextBody K) :
    Alike R (loadFonts host body) (loadFonts host body) := by
  refine (missingFonts_alike hhost _).bind fun missing => ?_
  by_cases hmissing : missing = []
  · rw [if_pos hmissing]
    exact alike_pure true
  · rw [if_neg hmissing]
    exact (alike_warn _).bind fun _ => alike_pure false

theorem loadedSpans_alike (body : TextBody K) :
    Alike R (loadedSpans host config body) (loadedSpans host config body) :=
  (loadFonts_alike hhost body).bind fun _ => alike_number _

theorem textBlock_alike (body : TextBody K) :
    Alike R (textBlock host config body) (textBlock host config body) :=
  (loadedSpans_alike hhost body).bind fun _ => (alike_number _).bind fun _ => alike_pure _

theorem text_alike (node : Node K) (x y : K) :
    Alike R (text host config node x y) (text host config node x y) := by
  unfold text
  cases node.bounds with
  | none => exact alike_pure none
  | some box =>
      exact (alike_lift _).bind fun body => (loadedSpans_alike hhost body).bind fun _ =>
        (alike_number _).bind fun _ => (alike_number _).bind fun _ => alike_pure _

end Render

namespace Table

theorem cellsMarkup_alike (cells : List (Cell K)) :
    Alike R (cellsMarkup host config cells) (cellsMarkup host config cells) := by
  induction cells with
  | nil => exact alike_pure ""
  | cons cell rest ih =>
      exact (Render.textBlock_alike hhost _).bind fun _ => (alike_number _).bind fun _ =>
        ih.bind fun _ => alike_pure _

theorem rowsMarkup_alike (donors : List (Donor K)) (count row : Nat)
    (rows : List (List (TextLeaf K))) :
    Alike R (rowsMarkup host config donors count row rows)
      (rowsMarkup host config donors count row rows) := by
  induction rows generalizing row with
  | nil => exact alike_pure []
  | cons leaves rest ih =>
      exact (alike_number _).bind fun cells => (cellsMarkup_alike hhost cells).bind fun _ =>
        (ih (row + 1)).bind fun _ => alike_pure _

theorem synthesize_alike (node : Node K) (x y : K) :
    Alike R (synthesize host config node x y) (synthesize host config node x y) := by
  unfold synthesize
  split
  · split
    · exact alike_pure none
    · exact (alike_number _).bind fun rows => (rowsMarkup_alike hhost _ _ _ rows).bind fun _ =>
        (alike_number _).bind fun _ => alike_pure _
  · exact alike_pure none

end Table

end Showing

/-- The node is a text. -/
def Node.isText : Node K → Bool
  | .text _ _ => true
  | _ => false

/-- A child that is no table is shown by its name and by what it is. -/
theorem visitNode_eq (p : Placed K) (y : K) (w : Walk) :
    visitNode host config p y w =
      match gifId? p.node.name with
      | some gif => do
        let source := config.assetPath (gif ++ ".gif")
        let fragment ← Render.image source p.x y p.box.width p.box.height
        return (some fragment, w.addGif ⟨gif⟩)
      | none =>
        if p.node.isText then do return (← Render.text host config p.node p.x y, w)
        else if hasMarkup p.node then do return (← Render.shape p.node p.x y, w)
        else visitPicture host config p y w := by
  rcases p with ⟨node, box, px, py⟩
  unfold visitNode
  cases gifId? node.name <;> cases node <;> rfl

/-- The two children stand at the same place and are shown the same way, up to pictures of
    nodes that are related. -/
structure Placed.Twins (host : Host ω K) (config : Config K) (twins : Node K → Node K → Prop)
    (p p' : Placed K) : Prop where
  x : p'.x = p.x
  y : p'.y = p.y
  width : p'.box.width = p.box.width
  height : p'.box.height = p.box.height
  id : p'.node.id = p.node.id
  name : p'.node.name = p.node.name
  isText : p'.node.isText = p.node.isText
  isTableRegion : p'.node.isTableRegion = p.node.isTableRegion
  hasMarkup : hasMarkup p'.node = hasMarkup p.node
  table : p.node.isTableRegion = true → ∀ x y,
    Table.synthesize host config p'.node x y = Table.synthesize host config p.node x y
  text : ∀ x y, Render.text host config p'.node x y = Render.text host config p.node x y
  shape : ∀ x y, Render.shape p'.node x y = Render.shape p.node x y
  node : twins p.node p'.node
  pictured : twins (pictured p.node) (pictured p'.node)

variable {p p' : Placed K}

/-- A region is rebuilt the same way again. -/
theorem visitTable_again (hhost : host.BlindTo R twins) (p : Placed K) (y : K) (w : Walk) :
    Alike R (visitTable host config p y w) (visitTable host config p y w) := by
  unfold visitTable
  refine (Table.synthesize_alike hhost _ _ _).bind fun table => (alike_number _).bind fun d => ?_
  cases table with
  | none => exact alike_pure _
  | some table =>
      exact (alike_number _).bind fun _ => (alike_number _).bind fun _ =>
        (alike_number _).bind fun _ => alike_pure _

/-- Children at the same place become pictures alike if the pictures are taken alike. -/
theorem visitPicture_alike_of_shot {host' : Host ω K} (hx : p'.x = p.x)
    (hwidth : p'.box.width = p.box.width) (hheight : p'.box.height = p.box.height)
    (hname : p'.node.name = p.node.name)
    (hshot : Alike R
      (ask (.rasterize (pictured p.node) config.rasterScale)
        (host.rasterize (pictured p.node) config.rasterScale))
      (ask (.rasterize (pictured p'.node) config.rasterScale)
        (host'.rasterize (pictured p'.node) config.rasterScale)))
    (y : K) (w : Walk) :
    Alike R (visitPicture host config p y w) (visitPicture host' config p' y w) := by
  unfold visitPicture
  rw [hx, hwidth, hheight, hname]
  refine hshot.attempt.bind fun answer => ?_
  cases answer with
  | error fault => exact (alike_warn _).bind fun _ => alike_pure _
  | ok data => exact (alike_number _).bind fun _ => alike_pure _

/-- Links are wrapped alike if their previews are taken alike. -/
theorem visitLink_alike_of_shot {node node' : Node K} (hid : node'.id = node.id)
    (hname : node'.name = node.name)
    (hshot : Alike R
      (ask (.rasterize node config.previewScale) (host.rasterize node config.previewScale))
      (ask (.rasterize node' config.previewScale) (host.rasterize node' config.previewScale)))
    (target : String) (fragment : Fragment) (w : Walk) :
    Alike R (visitLink host config node target fragment w)
      (visitLink host config node' target fragment w) := by
  unfold visitLink
  rw [hid, hname]
  refine hshot.attempt.bind fun answer => ?_
  cases answer with
  | error fault => exact (alike_warn _).bind fun _ => alike_pure _
  | ok data => exact alike_pure _

section Visiting

variable (hhost : host.BlindTo R twins) (hp : p.Twins host config twins p')

include hhost hp

theorem visitTable_alike (hregion : p.node.isTableRegion = true) (y : K) (w : Walk) :
    Alike R (visitTable host config p y w) (visitTable host config p' y w) := by
  have hsame : visitTable host config p' y w = visitTable host config p y w := by
    unfold visitTable
    rw [hp.table hregion, hp.x, hp.width, hp.height]
  rw [hsame]
  exact visitTable_again hhost p y w

theorem visitPicture_alike (y : K) (w : Walk) :
    Alike R (visitPicture host config p y w) (visitPicture host config p' y w) :=
  visitPicture_alike_of_shot hp.x hp.width hp.height hp.name
    (hhost.rasterize_alike hp.pictured _) y w

theorem visitNode_alike (y : K) (w : Walk) :
    Alike R (visitNode host config p y w) (visitNode host config p' y w) := by
  have hpicture : Alike R (visitPicture host config p y w) (visitPicture host config p' y w) :=
    visitPicture_alike hhost hp y w
  rw [visitNode_eq, visitNode_eq, hp.name, hp.isText, hp.hasMarkup, hp.text, hp.shape, hp.x,
    hp.width, hp.height]
  cases gifId? p.node.name with
  | some gif => exact (alike_number _).bind fun _ => alike_pure _
  | none =>
      dsimp only
      split
      · exact (Render.text_alike hhost _ _ _).bind fun _ => alike_pure _
      · split
        · exact (alike_lift _).bind fun _ => alike_pure _
        · exact hpicture

theorem visitLink_alike (target : String) (fragment : Fragment) (w : Walk) :
    Alike R (visitLink host config p.node target fragment w)
      (visitLink host config p'.node target fragment w) :=
  visitLink_alike_of_shot hp.id hp.name (hhost.rasterize_alike hp.node _) target fragment w

/-- The visits of twins. -/
theorem visit_alike (w : Walk) :
    Alike R (visit host config p w) (visit host config p' w) := by
  have hmade : ∀ y, Alike R (visitUnlinked host config p y w)
      (visitUnlinked host config p' y w) := by
    intro y
    unfold visitUnlinked
    rw [hp.isTableRegion]
    split
    · exact visitTable_alike hhost hp ‹_› y w
    · exact visitNode_alike hhost hp y w
  rw [visit_eq, visit_eq, hp.y, hp.name]
  -- The link depends on the name, and on whether there is a fragment to wrap.
  refine (alike_number _).bind fun shift => (hmade _).bind fun ⟨made, w₁⟩ => ?_
  rcases made with _ | fragment
  · exact alike_pure _
  · rcases linkTarget? p.node.name with _ | target
    · exact alike_pure _
    · exact (visitLink_alike hhost hp target fragment w₁).bind fun _ => alike_pure _

end Visiting

/-- Twins are visited one after another, and the same of them are blank sheets. -/
theorem visitAll_alike (hhost : host.BlindTo R twins) {frame frame' : Rect K}
    {children children' : List (Placed K)}
    (h : List.Forall₂ (fun p p' => p.Twins host config twins p' ∧
      p'.isPaper config frame' = p.isPaper config frame) children children') (w : Walk) :
    Alike R (visitAll host config frame children w)
      (visitAll host config frame' children' w) := by
  induction h generalizing w with
  | nil => exact alike_pure w
  | cons hfirst hrest ih =>
      rw [visitAll, visitAll, hfirst.2]
      refine (alike_number _).bind fun paper => ?_
      cases paper with
      | true => exact ih w
      | false => exact (visit_alike hhost hfirst.1 w).bind fun w₁ => ih w₁

/-- Frames with the same first fill have the same background. -/
theorem backgroundOf_alike (hhost : host.BlindTo R twins) {frame frame' : Node K}
    (hfill : frame'.firstFill = frame.firstFill) (w : Walk) :
    Alike R (backgroundOf host config frame w) (backgroundOf host config frame' w) := by
  unfold backgroundOf
  rw [hfill]
  cases frame.firstFill with
  | none => exact alike_pure w
  | some paint =>
      cases paint with
      | solid color opacity => exact (alike_number (Style.hex color)).bind fun _ => alike_pure _
      | image ref opacity =>
          refine (hhost.imageBytes_alike ref).attempt.bind fun answer => ?_
          split
          · exact (alike_warn _).bind fun _ => alike_pure _
          · exact (alike_warn _).bind fun _ => alike_pure _
          · exact alike_pure _

/-- The walks over two frames whose children are twins are alike. -/
theorem walk_alike (hhost : host.BlindTo R twins) {root root' : Node K}
    (hname : root'.name = root.name) (hfill : root'.firstFill = root.firstFill)
    {area : Rect K → Rect K} (hbounds : root'.bounds = root.bounds.map area)
    {nodes : List (Node K) → List (Node K)} (hlist : root'.childList = nodes <$> root.childList)
    (htwins : ∀ frame children, root.childList = .ok children →
      List.Forall₂ (fun p p' => p.Twins host config twins p' ∧
        p'.isPaper config (area frame) = p.isPaper config frame)
        (placedChildren frame children) (placedChildren (area frame) (nodes children))) :
    Alike R (walk host config root) (walk host config root') := by
  unfold walk
  rw [hname, hbounds, hlist]
  cases root.bounds with
  | none => exact alike_throw _
  | some frame =>
      refine (backgroundOf_alike hhost hfill {}).bind fun w => ?_
      cases hchildren : root.childList with
      | error fault => exact alike_throw fault
      | ok children => exact visitAll_alike hhost (htwins frame children hchildren) w

end Letterpress

namespace Letterpress

/-- How a child of a frame is shown. -/
inductive Manner where
  | table
  | gif (id : String)
  | text
  | shape
  | picture
  deriving DecidableEq

/-- The manner in which a node is shown as a child of a frame. -/
def Node.manner {K : Type} (node : Node K) : Manner :=
  if node.isTableRegion then .table
  else
    match gifId? node.name with
    | some id => .gif id
    | none => if node.isText then .text else if hasMarkup node then .shape else .picture

variable {K ω : Type} [Scalar K] {host : Host ω K} {config : Config K} {p : Placed K}
  {y : K} {w w' : Walk} {made : Option Fragment} {s s' : Session ω K}

omit [Scalar K] in
/-- What is shown as a text is a text. -/
theorem isText_of_manner {node : Node K} (h : node.manner = .text) : node.isText = true := by
  unfold Node.manner at h
  grind

omit [Scalar K] in
/-- What is rebuilt as a table is a region. -/
theorem manner_eq_table {node : Node K} : node.manner = .table ↔ node.isTableRegion = true := by
  unfold Node.manner
  grind

/-- A visit goes by the manner in which the child is shown. -/
theorem visitUnlinked_manner (host : Host ω K) (config : Config K) (p : Placed K) (y : K)
    (w : Walk) :
    visitUnlinked host config p y w =
      match p.node.manner with
      | .table => visitTable host config p y w
      | .gif id => do
        let source := config.assetPath (id ++ ".gif")
        let fragment ← Render.image source p.x y p.box.width p.box.height
        return (some fragment, w.addGif ⟨id⟩)
      | .text => do return (← Render.text host config p.node p.x y, w)
      | .shape => do return (← Render.shape p.node p.x y, w)
      | .picture => visitPicture host config p y w := by
  unfold visitUnlinked Node.manner
  -- The visit asks the same questions as the manner, and in the same order.
  by_cases htable : p.node.isTableRegion = true
  · rw [if_pos htable, if_pos htable]
  · rw [if_neg htable, if_neg htable, visitNode_eq]
    cases gifId? p.node.name with
    | some id => rfl
    | none =>
        dsimp only
        by_cases htext : p.node.isText = true
        · rw [if_pos htext, if_pos htext]
        · rw [if_neg htext, if_neg htext]
          by_cases hmarkup : hasMarkup p.node = true
          · rw [if_pos hmarkup, if_pos hmarkup]
          · rw [if_neg hmarkup, if_neg hmarkup]

/-- An animation is shown by a picture that the design tool is not asked for. -/
theorem visitUnlinked_gif {id : String} (hmanner : p.node.manner = .gif id)
    (h : visitUnlinked host config p y w s = (.ok (made, w'), s')) :
    ∃ f, made = some f ∧ w' = w.addGif ⟨id⟩ ∧
      Render.image (config.assetPath (id ++ ".gif")) p.x y p.box.width p.box.height = .ok f := by
  rw [visitUnlinked_manner, hmanner] at h
  simp only [Task.bind_ok, Task.number_ok, Task.pure_ok, Prod.mk.injEq] at h
  rcases h with ⟨f, _, ⟨himage, -⟩, ⟨rfl, rfl⟩, -⟩
  exact ⟨f, rfl, rfl, himage⟩

/-- A child that becomes a picture has its picture taken first of all. If none can be taken
    there is no fragment; a name is given in either case. -/
theorem visitUnlinked_picture (hmanner : p.node.manner = .picture)
    (h : visitUnlinked host config p y w s = (.ok (made, w'), s')) :
    (∃ fault, (host.rasterize (pictured p.node) config.rasterScale s.world).result
        = .error fault ∧ made = none ∧ w' = w.countName) ∨
      ∃ data f, (host.rasterize (pictured p.node) config.rasterScale s.world).result = .ok data ∧
        Render.image (config.assetPath (w.nextName "image")) p.x y p.box.width p.box.height
          = .ok f ∧
        made = some f ∧ w' = w.countName.addAsset ⟨w.nextName "image", data⟩ := by
  rw [visitUnlinked_manner, hmanner] at h
  simp only [visitPicture, Task.bind_ok, Task.attempt_ok] at h
  rcases h with ⟨answer, s₁, hask, hanswer⟩
  have hresult : (host.rasterize (pictured p.node) config.rasterScale s.world).result = answer :=
    congrArg Prod.fst hask
  cases answer with
  | error fault =>
      simp only [Task.bind_ok, Task.pure_ok, Prod.mk.injEq] at hanswer
      rcases hanswer with ⟨_, _, -, ⟨rfl, rfl⟩, -⟩
      exact Or.inl ⟨fault, hresult, rfl, rfl⟩
  | ok data =>
      simp only [Task.bind_ok, Task.number_ok, Task.pure_ok, Prod.mk.injEq] at hanswer
      rcases hanswer with ⟨f, _, ⟨himage, -⟩, ⟨rfl, rfl⟩, -⟩
      exact Or.inr ⟨data, f, hresult, himage, rfl, rfl⟩

end Letterpress
