import Letterpress.Design.Node
import Mathlib.Data.List.Infix
import Mathlib.Data.List.Nodup

/-!
# Places in a Design

Two nodes of a design may be alike in everything, so a node is told by its place: the positions
of the children that lead to it. The places of a tree in preorder are those of its nodes, each
of them once.

A walk that turns back at invisible nodes comes to the places that are *shown*: the node there
is visible, and so is every node on the way. So the nodes that such a walk picks are a part of
the preorder, and whether a node is picked depends on the nodes above it, not on how the walk
goes.

## Main definitions

* `Node.at?`, `Node.places`: The node at a place, and the places of a tree.
* `Node.isShown`, `Node.isShownBelow`: All nodes on the way to a place are visible.
* `Node.picked`: The nodes that a walk past invisible nodes picks.

## Theorems

* `map_at?_places`, `nodup_places`: The places are those of the preorder, each once.
* `map_placesFrom`: What is told of the places below a node is told of those in its children.
* `picked_places`, `pickedAll_places`: What is picked stands at the places that are shown.
-/

namespace Letterpress.Node

variable {K : Type}

/-- The positions of the children that lead to a node. -/
abbrev Place := List Nat

/-- The node at a place. -/
def at? (n : Node K) : Place → Option (Node K)
  | [] => some n
  | i :: p => n.children[i]?.bind fun child => child.at? p

mutual

/-- The places in a tree, parents before their children. -/
def places : Node K → List Place
  | container _ _ cs => [] :: placesFrom 0 cs
  | text _ _ | shape _ _ | image _ _ => [[]]

/-- The places in a list of siblings, of which the first has the given position. -/
def placesFrom (i : Nat) : List (Node K) → List Place
  | [] => []
  | n :: ns => n.places.map (i :: ·) ++ placesFrom (i + 1) ns

end

/-- The node at a place is visible. -/
def isVisibleAt (n : Node K) (p : Place) : Bool :=
  (n.at? p).any visible

/-- The node at a place is visible, and so are all nodes above it. -/
def isShown (n : Node K) (p : Place) : Bool :=
  p.inits.all n.isVisibleAt

/-- The node at a place is visible, and so are the nodes above it, the root left aside. -/
def isShownBelow (n : Node K) (p : Place) : Bool :=
  p.inits.tail.all n.isVisibleAt

mutual

/-- The nodes with a property that a walk comes to, if it turns back at invisible nodes. -/
def picked (keep : Node K → Bool) : Node K → List (Node K)
  | container c k cs =>
    if c.visible then [container c k cs].filter keep ++ pickedAll keep cs else []
  | text c b => if c.visible then [text c b].filter keep else []
  | shape c b => if c.visible then [shape c b].filter keep else []
  | image c k => if c.visible then [image c k].filter keep else []

/-- The nodes with a property that a walk over several trees comes to. -/
def pickedAll (keep : Node K → Bool) : List (Node K) → List (Node K)
  | [] => []
  | n :: ns => n.picked keep ++ pickedAll keep ns

end

section Places

theorem places_eq (n : Node K) : n.places = [] :: placesFrom 0 n.children := by
  cases n <;> rfl

theorem at?_child (n : Node K) (i : Nat) (p : Place) :
    n.at? (i :: p) = n.children[i]?.bind fun child => child.at? p :=
  rfl

/-- What is told of the places in a list of siblings is told of those in each sibling. -/
theorem map_placesFrom {β : Type} {f : Place → β} {g : Node K → Place → β}
    (before ns : List (Node K))
    (h : ∀ i child p, (before ++ ns)[i]? = some child → f (i :: p) = g child p) :
    (placesFrom before.length ns).map f = ns.flatMap fun child => child.places.map (g child) := by
  induction ns generalizing before with
  | nil => rfl
  | cons n ns ih =>
      have hself : f ∘ (before.length :: ·) = g n := by
        funext p
        exact h before.length n p (by simp)
      have hrest := ih (before ++ [n]) fun i child p hchild => h i child p (by simpa using hchild)
      rw [List.length_append, List.length_singleton] at hrest
      rw [placesFrom, List.map_append, List.map_map, hself, hrest, List.flatMap_cons]

theorem map_placesFrom_at? (n : Node K) :
    (placesFrom 0 n.children).map n.at? = n.children.flatMap fun child =>
      child.places.map child.at? :=
  map_placesFrom [] n.children fun i child p (hchild : n.children[i]? = some child) => by
    rw [at?_child, hchild, Option.bind_some]

mutual

/-- The nodes at the places of a tree are those of its preorder. -/
theorem map_at?_places : (n : Node K) → n.places.map n.at? = n.preorder.map some
  | container c k cs => by
    rw [places_eq, List.map_cons, map_placesFrom_at?, preorder_eq, List.map_cons]
    exact congrArg _ (flatMap_at?_places cs)
  | text _ _ | shape _ _ | image _ _ => rfl

theorem flatMap_at?_places : (ns : List (Node K)) →
    (ns.flatMap fun n => n.places.map n.at?) = (preorderList ns).map some
  | [] => rfl
  | n :: ns => by
    rw [List.flatMap_cons, preorderList, List.map_append, map_at?_places n, flatMap_at?_places ns]

end

theorem isSome_at? {n : Node K} {p : Place} (h : p ∈ n.places) : (n.at? p).isSome = true := by
  have hmem : n.at? p ∈ n.places.map n.at? := List.mem_map_of_mem h
  rw [map_at?_places] at hmem
  rcases List.mem_map.mp hmem with ⟨m, -, hm⟩
  rw [← hm, Option.isSome_some]

theorem mem_placesFrom {i : Nat} {ns : List (Node K)} {p : Place} (h : p ∈ placesFrom i ns) :
    ∃ j rest, i ≤ j ∧ p = j :: rest := by
  induction ns generalizing i with
  | nil => exact absurd h List.not_mem_nil
  | cons n ns ih =>
      rw [placesFrom, List.mem_append, List.mem_map] at h
      rcases h with ⟨rest, -, rfl⟩ | h
      · exact ⟨i, rest, Nat.le_refl i, rfl⟩
      · rcases ih h with ⟨j, rest, hj, rfl⟩
        exact ⟨j, rest, by omega, rfl⟩

mutual

/-- No place of a tree is listed twice. -/
theorem nodup_places : (n : Node K) → n.places.Nodup
  | container c k cs => by
    rw [places_eq, List.nodup_cons]
    refine ⟨fun h => ?_, nodup_placesFrom 0 cs⟩
    rcases mem_placesFrom h with ⟨_, _, _, h⟩
    exact List.cons_ne_nil _ _ h.symm
  | text _ _ | shape _ _ | image _ _ => List.nodup_singleton _

theorem nodup_placesFrom (i : Nat) : (ns : List (Node K)) → (placesFrom i ns).Nodup
  | [] => List.nodup_nil
  | n :: ns => by
    rw [placesFrom, List.nodup_append']
    refine ⟨(nodup_places n).map fun p q h => (List.cons.inj h).2, nodup_placesFrom (i + 1) ns,
      ?_⟩
    -- The places of the siblings start with a greater number.
    intro p hp hq
    rcases List.mem_map.mp hp with ⟨rest, -, rfl⟩
    rcases mem_placesFrom hq with ⟨j, rest', hj, h⟩
    have hij := (List.cons.inj h).1
    omega

end

end Places

section Shown

variable {keep : Node K → Bool}

theorem isShownBelow_cons {n child : Node K} {i : Nat} (h : n.children[i]? = some child)
    (p : Place) : n.isShownBelow (i :: p) = child.isShown p := by
  have hbelow : n.isVisibleAt ∘ (i :: ·) = child.isVisibleAt := by
    funext q
    rw [Function.comp, isVisibleAt, at?_child, h, Option.bind_some, isVisibleAt]
  rw [isShownBelow, List.inits_cons, List.tail_cons, List.all_map, hbelow, isShown]

theorem isShown_eq (n : Node K) (p : Place) :
    n.isShown p = (n.visible && n.isShownBelow p) := by
  have hinits : p.inits = [] :: p.inits.tail := by cases p <;> rfl
  rw [isShown, hinits, List.all_cons]
  rfl

theorem picked_eq (keep : Node K → Bool) (n : Node K) :
    n.picked keep = if n.visible then [n].filter keep ++ pickedAll keep n.children else [] := by
  cases n with
  | container c k cs => rfl
  | text c b | shape c b | image c k =>
      simp only [picked, children, pickedAll, List.append_nil]
      rfl

/-- The node at a place, if it is shown and has a property. -/
def pick? (keep : Node K → Bool) (n : Node K) (p : Place) : Option (Node K) :=
  if (n.at? p).any keep && n.isShown p then n.at? p else none

/-- The node at a place, if it has a property and is shown, the root left aside. -/
def pickBelow? (keep : Node K → Bool) (n : Node K) (p : Place) : Option (Node K) :=
  if (n.at? p).any keep && n.isShownBelow p then n.at? p else none

theorem pickBelow?_cons {n child : Node K} {i : Nat} (h : n.children[i]? = some child)
    (p : Place) : n.pickBelow? keep (i :: p) = child.pick? keep p := by
  rw [pickBelow?, isShownBelow_cons h, at?_child, h, Option.bind_some, pick?]

/-- Nothing is picked in an invisible tree. In a visible one the root does not matter. -/
theorem pick?_eq (keep : Node K → Bool) (n : Node K) :
    n.pick? keep = if n.visible then n.pickBelow? keep else fun _ => none := by
  funext p
  rw [pick?, isShown_eq]
  cases n.visible with
  | true => rw [Bool.true_and, if_pos rfl, pickBelow?]
  | false =>
      rw [Bool.false_and, Bool.and_false, if_neg Bool.false_ne_true, if_neg Bool.false_ne_true]

/-- What is picked below a node is what is picked in its children. -/
theorem filterMap_pickBelow? (keep : Node K → Bool) (n : Node K) :
    (placesFrom 0 n.children).filterMap (n.pickBelow? keep)
      = n.children.flatMap fun child => child.places.filterMap (child.pick? keep) := by
  have hmap := map_placesFrom (f := n.pickBelow? keep) (g := pick? keep) [] n.children
    fun i child p (hchild : n.children[i]? = some child) => pickBelow?_cons hchild p
  have hpicks := congrArg (List.filterMap fun m => m) hmap
  simp only [List.filterMap_map, List.filterMap_flatMap] at hpicks
  exact hpicks

theorem filterMap_pick?_of_children {n : Node K}
    (h : (n.children.flatMap fun child => child.places.filterMap (child.pick? keep))
      = pickedAll keep n.children) :
    n.places.filterMap (n.pick? keep) = n.picked keep := by
  rw [pick?_eq, picked_eq]
  cases n.visible with
  | false =>
      rw [if_neg Bool.false_ne_true, if_neg Bool.false_ne_true]
      exact List.filterMap_none _
  | true =>
      have hroot : n.pickBelow? keep [] = if keep n then some n else none := by
        rw [pickBelow?, isShownBelow, List.inits, List.tail_cons, List.all_nil, Bool.and_true]
        rfl
      rw [if_pos rfl, if_pos rfl, places_eq, List.filterMap_cons, hroot, filterMap_pickBelow?, h]
      by_cases hkeep : keep n = true
      · rw [if_pos hkeep, List.filter_cons_of_pos hkeep]
        rfl
      · rw [if_neg hkeep, List.filter_cons_of_neg hkeep]
        rfl

mutual

theorem filterMap_pick? (keep : Node K → Bool) :
    (n : Node K) → n.places.filterMap (n.pick? keep) = n.picked keep
  | container _ _ cs => filterMap_pick?_of_children (flatMap_pick? keep cs)
  | text _ _ => filterMap_pick?_of_children rfl
  | shape _ _ => filterMap_pick?_of_children rfl
  | image _ _ => filterMap_pick?_of_children rfl

theorem flatMap_pick? (keep : Node K → Bool) : (ns : List (Node K)) →
    (ns.flatMap fun n => n.places.filterMap (n.pick? keep)) = pickedAll keep ns
  | [] => rfl
  | n :: ns => by
    rw [List.flatMap_cons, filterMap_pick? keep n, flatMap_pick? keep ns, pickedAll]

end

/-- The nodes at some places of a tree, one for each place. -/
theorem map_at?_filter (n : Node K) (test : Place → Bool) {ps : List Place}
    (h : ps.Sublist n.places) :
    (ps.filterMap fun p => if test p then n.at? p else none).map some
      = (ps.filter test).map n.at? := by
  rw [← List.filterMap_filter, List.map_filterMap_some_eq_filter_map_isSome,
    List.filter_eq_self]
  intro m hm
  rcases List.mem_map.mp hm with ⟨p, hp, rfl⟩
  exact isSome_at? (h.subset (List.mem_of_mem_filter hp))

/-- A walk past invisible nodes picks the nodes that are shown, in preorder. -/
theorem picked_places (keep : Node K → Bool) (n : Node K) :
    (n.picked keep).map some
      = (n.places.filter fun p => (n.at? p).any keep && n.isShown p).map n.at? := by
  rw [← filterMap_pick?]
  exact map_at?_filter n _ (List.Sublist.refl _)

/-- A walk over the children of a node picks the nodes that are shown once the node itself is
    left aside. -/
theorem pickedAll_places (keep : Node K → Bool) (n : Node K) :
    (pickedAll keep n.children).map some
      = (n.places.tail.filter fun p => (n.at? p).any keep && n.isShownBelow p).map n.at? := by
  have htail : placesFrom 0 n.children = n.places.tail := by rw [places_eq, List.tail_cons]
  rw [← flatMap_pick?, ← filterMap_pickBelow?, htail]
  exact map_at?_filter n _ (List.tail_sublist n.places)

end Shown

end Letterpress.Node
