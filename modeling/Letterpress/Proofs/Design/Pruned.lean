import Letterpress.Design.Directive
import Letterpress.Design.Part
import Letterpress.Preview.StaticHost

/-!
# Pruned Designs

An invisible node hides everything below it. Pruning a tree takes all such nodes out,
with what they hide; only the root of the tree stays whether it is visible or not.

Every question about a node itself has the same answer after pruning. Painting skips
invisible nodes one by one as it comes to them, so a pruned tree is painted by the same
steps, and a design tool that paints cannot tell whether a tree has been pruned.

## Main definitions

* `Node.pruned`: A tree without its invisible nodes.

## Theorems

* `prunedAll_eq`: The children of a pruned tree are its visible children, pruned.
* `visible_of_pruned`: All nodes of a pruned tree below its root are visible.
* `paint_pruned`: A pruned tree is painted by the same steps.
* `rasterize_pruned`: A pruned tree has the same picture.
-/

namespace Letterpress

namespace Node

variable {K : Type}

mutual

/-- The node, and all that is visible below it. -/
def pruned : Node K → Node K
  | container c k cs => container c k (prunedAll cs)
  | text c b => text c b
  | shape c b => shape c b
  | image c k => image c k

/-- The visible ones of the nodes, pruned. -/
def prunedAll : List (Node K) → List (Node K)
  | [] => []
  | n :: ns => if n.visible then pruned n :: prunedAll ns else prunedAll ns

end

theorem prunedAll_eq (ns : List (Node K)) : prunedAll ns = (ns.filter visible).map pruned := by
  induction ns with
  | nil => rfl
  | cons n ns ih =>
      rw [prunedAll, ih]
      by_cases hvisible : n.visible = true
      · rw [if_pos hvisible, List.filter_cons_of_pos hvisible, List.map_cons]
      · rw [if_neg hvisible, List.filter_cons_of_neg hvisible]

/-- A visible node stays, and what is below it is pruned. -/
theorem prunedAll_visible {n : Node K} (h : n.visible = true) (ns : List (Node K)) :
    prunedAll (n :: ns) = n.pruned :: prunedAll ns := by
  rw [prunedAll, if_pos h]

/-- An invisible node is left out with everything below it. -/
theorem prunedAll_hidden {n : Node K} (h : n.visible = false) (ns : List (Node K)) :
    prunedAll (n :: ns) = prunedAll ns := by
  rw [prunedAll, h]
  exact if_neg Bool.false_ne_true

@[simp]
theorem common_pruned (n : Node K) : n.pruned.common = n.common := by
  cases n <;> rfl

@[simp]
theorem id_pruned (n : Node K) : n.pruned.id = n.id := by
  rw [id, common_pruned]
  rfl

@[simp]
theorem name_pruned (n : Node K) : n.pruned.name = n.name := by
  rw [name, common_pruned]
  rfl

@[simp]
theorem visible_pruned (n : Node K) : n.pruned.visible = n.visible := by
  rw [visible, common_pruned]
  rfl

@[simp]
theorem bounds_pruned (n : Node K) : n.pruned.bounds = n.bounds := by
  rw [bounds, common_pruned]
  rfl

@[simp]
theorem fills_pruned (n : Node K) : n.pruned.fills = n.fills := by
  rw [fills, common_pruned]
  rfl

@[simp]
theorem firstFill_pruned (n : Node K) : n.pruned.firstFill = n.firstFill := by
  rw [firstFill, fills_pruned]
  rfl

@[simp]
theorem fillColor?_pruned (n : Node K) : n.pruned.fillColor? = n.fillColor? := by
  rw [fillColor?, firstFill_pruned]
  rfl

@[simp]
theorem isTableRegion_pruned (n : Node K) : n.pruned.isTableRegion = n.isTableRegion := by
  cases n <;> rfl

theorem childList_pruned (n : Node K) : n.pruned.childList = prunedAll <$> n.childList := by
  cases n <;> rfl

@[simp]
theorem textBody_pruned (n : Node K) : n.pruned.textBody = n.textBody := by
  cases n <;> rfl

@[simp]
theorem shapeBody_pruned (n : Node K) : n.pruned.shapeBody = n.shapeBody := by
  cases n <;> rfl

theorem withoutFills_pruned (n : Node K) : n.pruned.withoutFills = n.withoutFills.pruned := by
  cases n <;> rfl

mutual

/-- All nodes of a pruned tree below its root are visible. -/
theorem visible_of_pruned : ∀ (n : Node K), ∀ m ∈ preorderList n.pruned.children,
    m.visible = true
  | container _ _ cs => visible_of_prunedAll cs
  | text _ _ | shape _ _ | image _ _ => fun _ hm => absurd hm List.not_mem_nil

theorem visible_of_prunedAll : ∀ (ns : List (Node K)), ∀ m ∈ preorderList (prunedAll ns),
    m.visible = true
  | [] => fun _ hm => absurd hm List.not_mem_nil
  | n :: ns => by
    intro m hm
    cases hvisible : n.visible with
    | false =>
        rw [prunedAll_hidden hvisible] at hm
        exact visible_of_prunedAll ns m hm
    | true =>
        rw [prunedAll_visible hvisible, preorderList, List.mem_append] at hm
        rcases hm with hfirst | hrest
        · -- The node itself is visible, and below it the tree is pruned.
          rw [preorder_eq] at hfirst
          rcases List.mem_cons.mp hfirst with rfl | hbelow
          · rw [visible_pruned, hvisible]
          · exact visible_of_pruned n m hbelow
        · exact visible_of_prunedAll ns m hrest

end

end Node

namespace Preview

variable {K : Type} [Scalar K] {gallery : Gallery} {origin : Rect K} {scale : K}

theorem paintedArea_pruned (n : Node K) :
    paintedArea origin scale n.pruned = paintedArea origin scale n := by
  rw [paintedArea, paintedArea, Node.visible_pruned, Node.bounds_pruned]

/-- Nothing is painted of an invisible node. -/
theorem paint_hidden {n : Node K} (h : n.visible = false) :
    paint gallery origin scale n = .ok [] := by
  have harea : paintedArea origin scale n = .ok none := by
    rw [paintedArea, h]
    rfl
  cases n <;> simp only [paint, paintLeaf, harea] <;> rfl

mutual

/-- A pruned tree is painted by the same steps. -/
theorem paint_pruned : ∀ (n : Node K),
    paint gallery origin scale n.pruned = paint gallery origin scale n
  | .container c k cs => by
    have harea : paintedArea origin scale (.container c k (Node.prunedAll cs))
        = paintedArea origin scale (.container c k cs) :=
      paintedArea_pruned (.container c k cs)
    have hself : ∀ area, paintSelf gallery area (.container c k (Node.prunedAll cs))
        = paintSelf gallery area (.container c k cs) := fun _ => rfl
    rw [Node.pruned, paint, paint, harea]
    simp only [hself, paintAll_pruned cs]
  | .text _ _ => rfl
  | .shape _ _ => rfl
  | .image _ _ => rfl

theorem paintAll_pruned : ∀ (ns : List (Node K)),
    paintAll gallery origin scale (Node.prunedAll ns) = paintAll gallery origin scale ns
  | [] => rfl
  | n :: ns => by
    cases hvisible : n.visible with
    | true =>
        rw [Node.prunedAll_visible hvisible, paintAll, paintAll, paint_pruned n,
          paintAll_pruned ns]
    | false =>
        rw [Node.prunedAll_hidden hvisible, paintAll_pruned ns, paintAll, paint_hidden hvisible]
        change _ = (do return [] ++ (← paintAll gallery origin scale ns))
        cases paintAll gallery origin scale ns <;> rfl

end

end Preview

/-- A pruned tree has the same picture. -/
theorem StaticHost.rasterize_pruned {K : Type} [Scalar K] (h : StaticHost) (n : Node K)
    (scale : K) (t : FileTree) : h.rasterize n.pruned scale t = h.rasterize n scale t := by
  rw [StaticHost.rasterize, StaticHost.rasterize, Node.bounds_pruned, Node.name_pruned]
  simp only [Preview.paint_pruned]

end Letterpress
