import Letterpress.Proofs.Design.Places
import Letterpress.Table.Source

/-!
# What Is Collected for a Table

The texts of a region are collected by a walk that turns back at invisible nodes, the region
itself among them, so a text is collected if all nodes on the way to it are visible. The walk
for the nodes that lend color starts with the children of the region. So the region neither
lends color nor hides anything, but all nodes between it and a lending one are visible.

Both walks list what they collect in preorder, with one entry for each node.

## Main definitions

* `TextLeaf.node`: The text of a leaf.
* `isBoundedText`, `isLending`: The nodes that are collected wherever they are shown.

## Theorems

* `textLeaves_picked`, `donors_picked`: Both lists are picked by walks past invisible nodes.
* `collected_shown`: What is collected stands at the places that are shown.
-/

namespace Letterpress.Table

variable {K : Type}

/-- The text of a leaf. -/
def TextLeaf.node (leaf : TextLeaf K) : Node K :=
  .text leaf.common leaf.body

/-- The node is a text with bounds. -/
def isBoundedText : Node K → Bool
  | .text c _ => c.bounds.isSome
  | _ => false

/-- The node is a shape or a container with bounds, and something is painted on it. -/
def isLending : Node K → Bool
  | .container c _ _ | .shape c _ => c.bounds.isSome && !c.fills.isEmpty
  | .text _ _ | .image _ _ => false

section Leaves

theorem leafOf_nodes (c : Common K) (b : TextBody K) :
    (leafOf c b).map TextLeaf.node
      = if c.visible then [Node.text c b].filter isBoundedText else [] := by
  unfold leafOf
  cases hbounds : c.bounds with
  | none => simp [isBoundedText, hbounds]
  | some box =>
      by_cases hvisible : c.visible = true
      · simp [hvisible, isBoundedText, hbounds, TextLeaf.node]
      · simp [hvisible]

mutual

/-- The texts of a tree are the ones that are picked by a walk past invisible nodes. -/
theorem textLeaves_picked : (n : Node K) →
    (textLeaves n).map TextLeaf.node = n.picked isBoundedText
  | .text c b => leafOf_nodes c b
  | .container c k cs => by
    have hself : [Node.container c k cs].filter isBoundedText = [] := rfl
    rw [textLeaves, Node.picked, hself, List.nil_append]
    by_cases hvisible : c.visible = true
    · rw [if_pos hvisible, if_pos hvisible, textLeavesOf_picked cs]
    · rw [if_neg hvisible, if_neg hvisible, List.map_nil]
  | .shape c b => (ite_self _).symm
  | .image c k => (ite_self _).symm

theorem textLeavesOf_picked : (ns : List (Node K)) →
    (textLeavesOf ns).map TextLeaf.node = Node.pickedAll isBoundedText ns
  | [] => rfl
  | n :: ns => by
    rw [textLeavesOf, List.map_append, textLeaves_picked n, textLeavesOf_picked ns,
      Node.pickedAll]

end

end Leaves

section Donors

theorem donorOf_nodes (n : Node K) :
    (donorOf n).map Donor.node = if n.bounds.isSome && !n.fills.isEmpty then [n] else [] := by
  unfold donorOf
  cases n.bounds with
  | none => rfl
  | some box => cases n.fills.isEmpty <;> rfl

theorem donorOf_lending {n : Node K} (h : isLending n = (n.bounds.isSome && !n.fills.isEmpty)) :
    (donorOf n).map Donor.node = [n].filter isLending := by
  rw [donorOf_nodes, ← h, List.filter_cons, List.filter_nil]

mutual

/-- What lends color in a tree is picked by a walk past invisible nodes. -/
theorem donorsFrom_picked : (n : Node K) →
    (donorsFrom n).map Donor.node = n.picked isLending
  | .container c k cs => by
    rw [donorsFrom, Node.picked]
    by_cases hvisible : c.visible = true
    · rw [if_pos hvisible, if_pos hvisible, List.map_append, donorOf_lending rfl,
        donors_picked cs]
    · rw [if_neg hvisible, if_neg hvisible, List.map_nil]
  | .shape c b => by
    rw [donorsFrom, Node.picked]
    by_cases hvisible : c.visible = true
    · rw [if_pos hvisible, if_pos hvisible, donorOf_lending rfl]
    · rw [if_neg hvisible, if_neg hvisible, List.map_nil]
  | .text c b => (ite_self _).symm
  | .image c k => (ite_self _).symm

theorem donors_picked : (ns : List (Node K)) →
    (donors ns).map Donor.node = Node.pickedAll isLending ns
  | [] => rfl
  | n :: ns => by
    rw [donors, List.map_append, donorsFrom_picked n, donors_picked ns, Node.pickedAll]

end

end Donors

/-- The places of a region are those of its preorder, each once. The texts that are collected
    stand at those where a text has bounds and all nodes on the way from the region on are
    visible. The nodes that lend color stand at those below the region where a shape or a
    container has bounds and fills, and all nodes on the way below the region are visible. -/
theorem collected_shown (c : Common K) (kind : ContainerKind) (cs : List (Node K)) :
    let region := Node.container c kind cs
    region.places.map region.at? = region.preorder.map some ∧ region.places.Nodup ∧
      (textLeaves region).map (fun leaf => some leaf.node)
        = (region.places.filter fun p =>
            (region.at? p).any isBoundedText && region.isShown p).map region.at? ∧
      (donors cs).map (fun donor => some donor.node)
        = (region.places.tail.filter fun p =>
            (region.at? p).any isLending && region.isShownBelow p).map region.at? := by
  intro region
  refine ⟨Node.map_at?_places region, Node.nodup_places region, ?_, ?_⟩
  · have hpicked := congrArg (List.map some) (textLeaves_picked region)
    rw [List.map_map, Node.picked_places] at hpicked
    exact hpicked
  · have hpicked := congrArg (List.map some) (donors_picked cs)
    rw [List.map_map] at hpicked
    exact hpicked.trans (Node.pickedAll_places isLending region)

end Letterpress.Table
