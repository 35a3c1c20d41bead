import Letterpress.Proofs.Layout.Clusters
import Letterpress.Proofs.Walk.Tables
import Letterpress.Walk.Summary

/-!
# Rows of a Frame

A summary shows the children of a frame in rows. They are the connected components of the
bands that the children take, and every visible child with bounds is in exactly one of them.
A frame without bounds has no corner from which its children could be placed, so it has no
rows at all, whatever its children are.

## Main definitions

* `Node.isPlaced`: The node is shown, and it is known where.

## Theorems

* `placedChildren_nodes`: The children that are placed are those that are shown with bounds.
* `placedRows_nodes`: Rows hold every placed child once.
* `rows_components`: Rows are connected components, and hold every placed child once.
-/

namespace Letterpress

open Layout (Extent Linked Row clusterRows)

section Children

variable {K : Type} [Scalar K]

/-- The node is shown, and it is known where. -/
def Node.isPlaced {K : Type} (n : Node K) : Bool :=
  n.visible && n.bounds.isSome

/-- A child has a place exactly if it is shown with bounds. -/
theorem isSome_placed? (frame : Rect K) (child : Node K) :
    (placed? frame child).isSome = child.isPlaced := by
  rw [placed?, Node.isPlaced]
  cases child.visible <;> cases child.bounds <;> rfl

/-- The children that are placed are those that are shown with bounds. -/
theorem placedChildren_nodes (frame : Rect K) (children : List (Node K)) :
    ((placedChildren frame children).map Placed.node).Perm (children.filter Node.isPlaced) := by
  have hnodes : (children.filterMap (placed? frame)).map Placed.node
      = children.filter Node.isPlaced := by
    induction children with
    | nil => rfl
    | cons child rest ih =>
        have hsome := isSome_placed? frame child
        cases hchild : placed? frame child with
        | none =>
            rw [hchild, Option.isSome_none] at hsome
            rw [List.filterMap_cons_none hchild, ih, List.filter_cons_of_neg (by simp [← hsome])]
        | some p =>
            rw [hchild, Option.isSome_some] at hsome
            rw [List.filterMap_cons_some hchild, List.map_cons, ih, placed?_node hchild,
              List.filter_cons_of_pos hsome.symm]
  rw [← hnodes]
  exact (Layout.sort_perm _ _).map Placed.node

/-- The rows of a frame hold every placed child once; a frame without bounds has no rows. -/
theorem placedRows_nodes (config : Config K) (common : Common K) (kind : ContainerKind)
    (children : List (Node K)) :
    ∃ placed, exportedChildren (.container common kind children) = .ok placed ∧
      (((placedRows config placed).flatMap Row.items).map Placed.node).Perm
        (if common.bounds.isSome then children.filter Node.isPlaced else []) := by
  rcases common with ⟨id, name, visible, _ | frame, fills⟩
  · exact ⟨[], rfl, (Layout.clusterRows_perm _ _ []).map Placed.node⟩
  · refine ⟨placedChildren frame children, rfl, ?_⟩
    exact ((Layout.clusterRows_perm _ _ _).map Placed.node).trans
      (placedChildren_nodes frame children)

end Children

/-- Rows are the connected components of overlapping bands. For items of any heights that are
    not negative and any tolerance above zero, the rows hold the items once; two items share a
    row exactly if a chain of items whose bands overlap links them; the edges of a row are the
    highest top and the lowest bottom of its members, which stand from left to right; every
    row lies above the next, with the tolerance between them; and the order of the items makes
    no difference to the rows but for the order of their members.

    So every child of a frame that is shown with bounds is in the rows of the frame once, if the
    frame has bounds. A frame without bounds has no rows. -/
theorem rows_components :
    (∀ {α : Type} (e : Extent α Rat) {tolerance : Rat} {items : List α}, 0 < tolerance →
      (∀ a ∈ items, 0 ≤ e.height a) →
      ((clusterRows e tolerance items).flatMap Row.items).Perm items ∧
      (∀ a ∈ items, ∀ b ∈ items, (∃ row ∈ clusterRows e tolerance items,
        a ∈ row.items ∧ b ∈ row.items) ↔ Linked e tolerance items a b) ∧
      (∀ row ∈ clusterRows e tolerance items,
        IsLeast (e.y '' {a | a ∈ row.items}) row.y ∧
        IsGreatest (e.bottom '' {a | a ∈ row.items}) row.bottom ∧
        row.items.Pairwise fun a b => e.x a ≤ e.x b) ∧
      (clusterRows e tolerance items).Pairwise
        (fun upper lower => upper.bottom + tolerance ≤ lower.y) ∧
      ∀ others, items.Perm others → List.Forall₂ Row.Resembles
        (clusterRows e tolerance items) (clusterRows e tolerance others)) ∧
    ∀ (config : Config Rat) (common : Common Rat) (kind : ContainerKind)
      (children : List (Node Rat)),
      ∃ placed, exportedChildren (.container common kind children) = .ok placed ∧
        (((placedRows config placed).flatMap Row.items).map Placed.node).Perm
          (if common.bounds.isSome then children.filter Node.isPlaced else []) := by
  refine ⟨fun {_} e {tolerance items} htolerance hheights => ?_, placedRows_nodes⟩
  have hrows := Layout.clusterRows_isClustering htolerance hheights
  refine ⟨hrows.perm, fun a ha b _ => hrows.shares_iff ha, fun row hrow => ?_, hrows.apart,
    fun others hothers => ?_⟩
  -- The rows are sorted in themselves after they are grown.
  · have hcluster := hrows.clusters row hrow
    rw [Layout.clusterRows_eq] at hrow
    rcases List.mem_map.mp hrow with ⟨grown, -, rfl⟩
    exact ⟨hcluster.top, hcluster.bottom, Layout.sortOn_pairwise e.x grown.items⟩
  · have hheights' : ∀ a ∈ others, 0 ≤ e.height a := fun a ha =>
      hheights a (hothers.symm.subset ha)
    have hrows' := Layout.clusterRows_isClustering htolerance hheights'
    exact hrows.resembles hrows' htolerance hheights hothers

/-- Four boxes: a tall one, one that starts below it within the tolerance, one beside both, and
    one that is apart. -/
def tallBoxes : List (String × Rat × Rat × Rat) :=
  [("late", 10, 55, 10), ("next", 0, 80, 10), ("tall", 40, 0, 50), ("beside", 0, 20, 5)]

/-- A frame with bounds, one child that is placed and two that are not. -/
def boundedFrame : Common Rat × List (Node Rat) :=
  (⟨"1", "Card", true, some ⟨0, 0, 100, 100⟩, []⟩,
    [.image ⟨"2", "Hidden", false, some ⟨0, 0, 10, 10⟩, []⟩ "IMAGE",
      .image ⟨"3", "Shown", true, some ⟨10, 10, 10, 10⟩, []⟩ "IMAGE",
      .image ⟨"4", "Nowhere", true, none, []⟩ "IMAGE"])

/-- The box below the tall one is linked with the box beside it, though it starts far below
    that; and the reverse of the list has the same rows. -/
theorem rows_components_tallBoxes :
    0 < (10 : Rat) ∧ (∀ a ∈ tallBoxes, 0 ≤ Layout.boxExtent.height a) ∧
      (clusterRows Layout.boxExtent 10 tallBoxes).map
        (fun row => (row.y, row.bottom, row.items.map Prod.fst))
        = [(0, 65, ["beside", "late", "tall"]), (80, 90, ["next"])] ∧
      Linked Layout.boxExtent 10 tallBoxes ("beside", 0, 20, 5) ("late", 10, 55, 10) ∧
      List.Forall₂ Row.Resembles (clusterRows Layout.boxExtent 10 tallBoxes)
        (clusterRows Layout.boxExtent 10 tallBoxes.reverse) ∧
      ∃ placed, exportedChildren (.container boundedFrame.1 .frame boundedFrame.2) = .ok placed ∧
        ((placedRows {} placed).flatMap Row.items).length = 1 := by
  have hpositive : 0 < (10 : Rat) := by
    norm_num
  have hheights : ∀ a ∈ tallBoxes, 0 ≤ Layout.boxExtent.height a := by
    decide +kernel
  rcases rows_components.1 Layout.boxExtent hpositive hheights with
    ⟨-, hshares, -, -, hreordered⟩
  rcases rows_components.2 {} boundedFrame.1 .frame boundedFrame.2 with ⟨placed, hplaced, hnodes⟩
  refine ⟨hpositive, hheights, by decide +kernel, ?_,
    hreordered _ (List.reverse_perm _).symm, placed, hplaced, ?_⟩
  · exact (hshares _ (by decide +kernel) _ (by decide +kernel)).mp (by decide +kernel)
  · rw [← List.length_map Placed.node, hnodes.length_eq]
    rfl

/-- A frame without bounds, and with a child that has them. -/
def unboundedFrame : Node Rat :=
  .container ⟨"1", "Root", true, none, []⟩ .frame
    [.image ⟨"2", "Text", true, some ⟨0, 0, 100, 20⟩, []⟩ "IMAGE"]

/-- The child of a frame without bounds is in no row. -/
theorem rows_of_unboundedFrame :
    ¬ ∃ placed, exportedChildren unboundedFrame = .ok placed ∧
      (((placedRows {} placed).flatMap Row.items).map Placed.node).Perm
        (unboundedFrame.children.filter Node.isPlaced) := by
  rintro ⟨placed, hplaced, hnodes⟩
  obtain rfl : [] = placed := except_pure_ok.mp hplaced
  have hnone : (((placedRows {} []).flatMap Row.items).map (Placed.node (K := Rat))).Perm [] :=
    (Layout.clusterRows_perm _ _ []).map Placed.node
  exact absurd (hnodes.symm.trans hnone).length_eq (by decide)

end Letterpress
