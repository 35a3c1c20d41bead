import Letterpress.Proofs.Layout.Images
import Letterpress.Proofs.Walk.Alike

/-!
# Walks with a Camera

A walk comes back to the nodes of its frame again and again: it looks at a child before it
visits the child, has its picture taken, and looks at it once more for the preview of a
link. A *camera* says what it means to look at a child and to take its picture. The walk
with a camera keeps the position of each child, so that a camera may go by the position
and not by the child that it is handed.

With a camera that hands back what it is given, this is the walk.

## Main definitions

* `Camera`: How children are looked at and pictured.
* `placedPositions`: The children that are exported, with their positions.
* `visitBy`, `visitAllBy`, `walkBy`: The walk with a camera.
* `Camera.Alike`: Two cameras that see the same.

## Theorems

* `walkBy_plain`: With a camera that adds nothing, it is the walk.
* `mem_placedPositions`: A child is found at its position.
* `walkBy_alike`: Walks with cameras that see the same are alike.
-/

open Letterpress.Task

namespace Letterpress

variable {K ω : Type}

/-- How the child at a position is looked at and pictured. -/
structure Camera (ω K : Type) where
  /-- The child as it stands now. -/
  look : Nat → Placed K → Task ω K (Placed K)
  /-- The tool that takes the child's picture. -/
  shooting : Nat → Host ω K

/-- The camera that shows what it is given. -/
def Camera.plain (host : Host ω K) : Camera ω K where
  look _ p := pure p
  shooting _ := host

variable [Scalar K]

/-- The children of a frame that are exported, with their positions among all children. -/
def placedPositions (frame : Rect K) (children : List (Node K)) : List (Placed K × Nat) :=
  Layout.sortOn Layout.before (fun q : Placed K × Nat => q.1.y)
    (children.zipIdx.filterMap fun q => (placed? frame q.1).map fun p => (p, q.2))

section Walking

variable (camera : Camera ω K) (host : Host ω K) (config : Config K)

/-- A child at a height, before its link is wrapped. -/
def visitUnlinkedBy (i : Nat) (p : Placed K) (y : K) (w : Walk) :
    Task ω K (Option Fragment × Walk) :=
  match p.node.manner with
  | .picture => visitPicture (camera.shooting i) config p y w
  | _ => visitUnlinked host config p y w

/-- One child of a frame. It is looked at once more for the preview of its link. -/
def visitBy (i : Nat) (p : Placed K) (w : Walk) : Task ω K Walk := do
  let y := p.y + (← Scalar.ofInt? w.offset)
  let (fragment, w) ← visitUnlinkedBy camera host config i p y w
  match fragment, linkTarget? p.node.name with
  | some fragment, some target =>
    let p ← camera.look i p
    let (wrapped, w) ← visitLink host config p.node target fragment w
    return w.addFragment wrapped
  | _, _ => return w.addFragment fragment

/-- The children of a frame, one after another. -/
def visitAllBy (frame : Rect K) : List (Placed K × Nat) → Walk → Task ω K Walk
  | [], w => return w
  | (p, i) :: rest, w => do
    let p ← camera.look i p
    if ← p.isPaper config frame then visitAllBy frame rest w
    else visitAllBy frame rest (← visitBy camera host config i p w)

/-- The walk over a frame with a camera. -/
def walkBy (root : Node K) : Task ω K Walk :=
  match root.bounds with
  | none => throw (.unboundedRoot root.name)
  | some frame => do
    let w ← backgroundOf host config root {}
    let children ← root.childList
    visitAllBy camera host config frame (placedPositions frame children) w

end Walking

/-- A child that is exported is found at its position. -/
theorem mem_placedPositions {frame : Rect K} {children : List (Node K)} {p : Placed K} {i : Nat}
    (h : (p, i) ∈ placedPositions frame children) : children[i]? = some p.node := by
  rcases List.mem_filterMap.mp (Layout.mem_sortOn h) with ⟨⟨child, j⟩, hchild, hplaced⟩
  rcases Option.map_eq_some_iff.mp hplaced with ⟨p', hp, hsame⟩
  obtain ⟨rfl, rfl⟩ := Prod.mk.inj hsame
  have hnode : p'.node = child := by
    unfold placed? at hp
    split at hp
    · exact (Option.some.inj hp) ▸ rfl
    · exact absurd hp (by simp)
  rw [hnode]
  exact List.mk_mem_zipIdx_iff_getElem?.mp hchild

/-- The positions change nothing about the order. -/
theorem placedPositions_fst (frame : Rect K) (children : List (Node K)) :
    (placedPositions frame children).map Prod.fst = placedChildren frame children := by
  have hplaced : ∀ n, ((children.zipIdx n).filterMap
      fun q => (placed? frame q.1).map fun p => (p, q.2)).map Prod.fst
      = children.filterMap (placed? frame) := by
    induction children with
    | nil => exact fun n => rfl
    | cons child rest ih =>
        intro n
        rw [List.zipIdx_cons, List.filterMap_cons, List.filterMap_cons]
        cases placed? frame child with
        | none => exact ih (n + 1)
        | some p => exact congrArg (p :: ·) (ih (n + 1))
  rw [placedChildren, ← hplaced 0, Layout.sortOn_images]
  rfl

section Plain

variable (host : Host ω K) (config : Config K)

theorem visitUnlinkedBy_plain (i : Nat) (p : Placed K) (y : K) (w : Walk) :
    visitUnlinkedBy (.plain host) host config i p y w = visitUnlinked host config p y w := by
  unfold visitUnlinkedBy
  cases hmanner : p.node.manner with
  | picture =>
      rw [visitUnlinked_manner, hmanner]
      rfl
  | table | gif | text | shape => rfl

theorem visitBy_plain (i : Nat) (p : Placed K) (w : Walk) :
    visitBy (.plain host) host config i p w = visit host config p w := by
  rw [visit_eq, visitBy]
  simp only [visitUnlinkedBy_plain]
  rfl

theorem visitAllBy_plain (frame : Rect K) (children : List (Placed K × Nat)) (w : Walk) :
    visitAllBy (.plain host) host config frame children w
      = visitAll host config frame (children.map Prod.fst) w := by
  induction children generalizing w with
  | nil => rfl
  | cons q rest ih =>
      rcases q with ⟨p, i⟩
      rw [List.map_cons, visitAllBy, visitAll, Camera.plain, pure_bind]
      refine congrArg _ (funext fun paper => ?_)
      cases paper with
      | true => exact ih w
      | false =>
          change (visitBy (.plain host) host config i p w >>= fun w₁ => _) = _
          rw [visitBy_plain]
          exact congrArg _ (funext fun w₁ => ih w₁)

/-- With a camera that adds nothing, the walk is the walk. -/
theorem walkBy_plain (root : Node K) :
    walkBy (.plain host) host config root = walk host config root := by
  unfold walkBy walk
  cases root.bounds with
  | none => rfl
  | some frame => simp only [visitAllBy_plain, placedPositions_fst]

end Plain

section Alike

variable {camera camera' : Camera ω K} {host : Host ω K} {config : Config K} {root : Node K}
  {R : ω → ω → Prop}

/-- The cameras see the same of the children of a frame, and a tool shows the same of those
    that are links. -/
structure Camera.Alike (R : ω → ω → Prop) (host : Host ω K) (config : Config K)
    (root : Node K) (camera camera' : Camera ω K) : Prop where
  look : ∀ (i : Nat) (p : Placed K), root.children[i]? = some p.node →
    ∀ f f' : Placed K → Task ω K Walk, Task.Alike R (f p) (f' p) →
      Task.Alike R (camera.look i p >>= f) (camera'.look i p >>= f')
  shooting : ∀ (i : Nat) (node : Node K), root.children[i]? = some node → Task.Alike R
    (ask (.rasterize (pictured node) config.rasterScale)
      ((camera.shooting i).rasterize (pictured node) config.rasterScale))
    (ask (.rasterize (pictured node) config.rasterScale)
      ((camera'.shooting i).rasterize (pictured node) config.rasterScale))
  preview : ∀ (i : Nat) (node : Node K), root.children[i]? = some node →
    hasDirective node.name Directive.link = true → Task.Alike R
      (ask (.rasterize node config.previewScale) (host.rasterize node config.previewScale))
      (ask (.rasterize node config.previewScale) (host.rasterize node config.previewScale))

variable {twins : Node K → Node K → Prop} (hhost : host.BlindTo R twins)
  (hcamera : camera.Alike R host config root camera')

include hhost hcamera

theorem visitUnlinkedBy_alike {i : Nat} {p : Placed K} (hp : root.children[i]? = some p.node)
    (y : K) (w : Walk) :
    Alike R (visitUnlinkedBy camera host config i p y w)
      (visitUnlinkedBy camera' host config i p y w) := by
  unfold visitUnlinkedBy
  rw [visitUnlinked_manner]
  -- The cameras come in only where a picture is taken.
  cases p.node.manner with
  | table => exact visitTable_again hhost p y w
  | gif id => exact (alike_number _).bind fun _ => alike_pure _
  | text => exact (Render.text_alike hhost _ _ _).bind fun _ => alike_pure _
  | shape => exact (alike_lift _).bind fun _ => alike_pure _
  | picture =>
      exact visitPicture_alike_of_shot rfl rfl rfl rfl (hcamera.shooting i p.node hp) y w

theorem visitBy_alike {i : Nat} {p : Placed K} (hp : root.children[i]? = some p.node)
    (w : Walk) :
    Alike R (visitBy camera host config i p w) (visitBy camera' host config i p w) := by
  unfold visitBy
  refine (alike_number _).bind fun shift =>
    (visitUnlinkedBy_alike hhost hcamera hp _ w).bind fun ⟨made, w₁⟩ => ?_
  rcases made with _ | fragment
  · exact alike_pure _
  · cases htarget : linkTarget? p.node.name with
    | none => exact alike_pure _
    | some target =>
        have hlink : hasDirective p.node.name Directive.link = true := by
          by_contra hno
          rw [linkTarget?, if_neg hno] at htarget
          exact absurd htarget (by simp)
        exact hcamera.look i p hp _ _ ((visitLink_alike_of_shot rfl rfl
          (hcamera.preview i p.node hp hlink) target fragment w₁).bind fun _ => alike_pure _)

theorem visitAllBy_alike (frame : Rect K) {children : List (Placed K × Nat)}
    (h : ∀ p i, (p, i) ∈ children → root.children[i]? = some p.node) (w : Walk) :
    Alike R (visitAllBy camera host config frame children w)
      (visitAllBy camera' host config frame children w) := by
  induction children generalizing w with
  | nil => exact alike_pure w
  | cons q rest ih =>
      rcases q with ⟨p, i⟩
      have hp : root.children[i]? = some p.node := h p i List.mem_cons_self
      have hrest := ih fun p' i' hmem => h p' i' (List.mem_cons_of_mem _ hmem)
      refine hcamera.look i p hp _ _ ((alike_number _).bind fun paper => ?_)
      cases paper with
      | true => exact hrest w
      | false => exact (visitBy_alike hhost hcamera hp w).bind fun w₁ => hrest w₁

/-- Walks with cameras that see the same are alike. -/
theorem walkBy_alike :
    Alike R (walkBy camera host config root) (walkBy camera' host config root) := by
  unfold walkBy
  cases root.bounds with
  | none => exact alike_throw _
  | some frame =>
      refine (backgroundOf_alike hhost rfl {}).bind fun w => ?_
      cases hchildren : root.childList with
      | error fault => exact alike_throw fault
      | ok children =>
          refine visitAllBy_alike hhost hcamera frame (fun p i hmem => ?_) w
          rw [Node.childList_ok hchildren]
          exact mem_placedPositions hmem

end Alike

end Letterpress
