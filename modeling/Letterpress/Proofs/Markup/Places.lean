import Letterpress.Markup.Node
import Mathlib.Data.List.Infix

/-!
# Places in a Tree

A change at a place of a tree is seen from the places on the way to it and from those below
it, and from nowhere else. The outermost elements with a property are at places of which none
lies below another, so changes to them do not interfere; they are found in the order of the
document.

## Main definitions

* `IsFirst`: A place passes a test, and none above it does.
* `siblingPlaces`: The places below a node, from those in its children.
* `holdsAt`: There is an element with a property at a place.
* `IsOutermostAt`: It is in no other such element below the root.

## Theorems

* `at?_modifyAt_above`, `at?_modifyAt_apart`, `map_at?_modifyAt`: What is found after a change.
* `mem_siblingPlaces`, `siblingPlaces_sorted`: What is listed child by child, and in which order.
* `mem_outermost`: The outermost elements are all of these.
* `outermost_sorted`: They are found in order.
-/

namespace Letterpress.Markup.Node

variable {f : Node → Node} {n : Node} {p q : Path} {P : Node → Bool}

theorem at?_cons (n : Node) (i : Nat) (p : Path) :
    n.at? (i :: p) = n.children[i]?.bind fun child => child.at? p := by
  rw [at?]
  cases n.children[i]? <;> rfl

theorem at?_append (n : Node) (p q : Path) :
    n.at? (p ++ q) = (n.at? p).bind fun below => below.at? q := by
  induction p generalizing n with
  | nil => rfl
  | cons i p ih =>
      rw [List.cons_append, at?_cons, at?_cons]
      cases n.children[i]? with
      | none => rfl
      | some child => exact ih child

theorem children_modifyAt (f : Node → Node) (i : Nat) (p : Path) (n : Node) :
    (n.modifyAt f (i :: p)).children = n.children.modify i (modifyAt f p) := by
  cases n with
  | element tag as children => rfl
  | text data | comment data | declaration data => simp [modifyAt, children]

/-- On the way to a changed place, the change is one further down. -/
theorem at?_modifyAt_above (f : Node → Node) (n : Node) (p q : Path) :
    (n.modifyAt f (p ++ q)).at? p = (n.at? p).map (modifyAt f q) := by
  induction p generalizing n with
  | nil => rfl
  | cons i p ih =>
      rw [List.cons_append, at?_cons, children_modifyAt, List.getElem?_modify_eq, at?_cons]
      cases n.children[i]? with
      | none => rfl
      | some child => exact ih child

/-- Places that are neither above nor below a changed one are as they were. -/
theorem at?_modifyAt_apart (hpq : ¬ p <+: q) (hqp : ¬ q <+: p) :
    (n.modifyAt f p).at? q = n.at? q := by
  induction p generalizing n q with
  | nil => exact absurd List.nil_prefix hpq
  | cons i p ih =>
      cases q with
      | nil => exact absurd List.nil_prefix hqp
      | cons j q =>
          rw [at?_cons, children_modifyAt, at?_cons]
          by_cases hij : i = j
          · subst hij
            rw [List.getElem?_modify_eq]
            cases n.children[i]? with
            | none => rfl
            | some child =>
                exact ih (fun h => hpq (List.cons_prefix_cons.mpr ⟨rfl, h⟩))
                  (fun h => hqp (List.cons_prefix_cons.mpr ⟨rfl, h⟩))
          · rw [List.getElem?_modify_ne _ _ hij]

/-- Apart from their children, the nodes of a tree are as they were, but for the one at a
    changed place. -/
theorem map_at?_modifyAt {β : Type} {g : Node → β}
    (hg : ∀ tag as children children', g (.element tag as children) = g (.element tag as children'))
    (hf : ∀ n, (f n).children = n.children) (hself : p = q → ∀ n, g (f n) = g n) (n : Node) :
    ((n.modifyAt f p).at? q).map g = (n.at? q).map g := by
  induction p generalizing n q with
  | nil =>
      cases q with
      | nil => exact congrArg some (hself rfl n)
      | cons j q =>
          change ((f n).at? (j :: q)).map g = _
          rw [at?_cons, hf, at?_cons]
  | cons i p ih =>
      cases q with
      | nil =>
          cases n with
          | element tag as children => exact congrArg some (hg tag as _ children)
          | text data | comment data | declaration data => rfl
      | cons j q =>
          rw [at?_cons, children_modifyAt, at?_cons]
          -- A change in one child leaves the other children as they are.
          by_cases hij : i = j
          · subst hij
            rw [List.getElem?_modify_eq]
            cases n.children[i]? with
            | none => rfl
            | some child => exact ih (fun hpq => hself (hpq ▸ rfl)) child
          · rw [List.getElem?_modify_ne _ _ hij]

/-- A place passes a test, and none on the way to it does; the root is left aside. -/
structure IsFirst (test : Path → Bool) (p : Path) : Prop where
  passes : test p = true
  first : ∀ q, q <+: p → q ≠ [] → test q = true → q = p

section First

variable {test : Path → Bool} {i : Nat}

instance : Decidable (IsFirst test p) :=
  decidable_of_iff (test p = true ∧ ∀ q ∈ p.inits, q ≠ [] → test q = true → q = p)
    ⟨fun h => ⟨h.1, fun q hq => h.2 q ((List.mem_inits q p).mpr hq)⟩,
      fun h => ⟨h.passes, fun q hq => h.first q ((List.mem_inits q p).mp hq)⟩⟩

theorem isFirst_singleton : IsFirst test [i] ↔ test [i] = true := by
  refine ⟨IsFirst.passes, fun h => ⟨h, fun q hq hne _ => ?_⟩⟩
  exact hq.eq_of_length_le (List.length_pos_iff.mpr hne)

/-- Below a child, a place is a first one if the child is none, and if it is one seen from the
    child. -/
theorem isFirst_cons (hp : p ≠ []) : IsFirst test (i :: p) ↔
    test [i] = false ∧ IsFirst (fun q => test (i :: q)) p := by
  constructor
  · intro h
    refine ⟨?_, h.passes, fun q hq hne hpasses => ?_⟩
    -- If the child passed the test, it would be the first place on the way.
    · by_contra hpasses
      rw [Bool.not_eq_false] at hpasses
      have hchild := h.first [i] (List.cons_prefix_cons.mpr ⟨rfl, List.nil_prefix⟩)
        (List.cons_ne_nil _ _) hpasses
      exact hp (List.cons.inj hchild).2.symm
    · have hplace := h.first (i :: q) (List.cons_prefix_cons.mpr ⟨rfl, hq⟩)
        (List.cons_ne_nil _ _) hpasses
      exact (List.cons.inj hplace).2
  · rintro ⟨hchild, h⟩
    refine ⟨h.passes, fun q hq hne hpasses => ?_⟩
    cases q with
    | nil => exact absurd rfl hne
    | cons j q =>
        obtain ⟨rfl, hrest⟩ := List.cons_prefix_cons.mp hq
        have hq : q ≠ [] := by
          rintro rfl
          rw [hchild] at hpasses
          exact Bool.false_ne_true hpasses
        rw [h.first q hrest hq hpasses]

end First

/-- The places in a list of siblings, of which the first has the given position, if those in each
    sibling are told. -/
def siblingPlaces (places : Node → List Path) (i : Nat) : List Node → List Path
  | [] => []
  | n :: ns => (places n).map (i :: ·) ++ siblingPlaces places (i + 1) ns

section Siblings

variable {places : Node → List Path} {i : Nat} {ns : List Node}

theorem mem_siblingPlaces : p ∈ siblingPlaces places i ns ↔
    ∃ j child rest, ns[j]? = some child ∧ p = (i + j) :: rest ∧ rest ∈ places child := by
  induction ns generalizing i with
  | nil => simp [siblingPlaces]
  | cons n ns ih =>
      rw [siblingPlaces, List.mem_append, List.mem_map, ih]
      constructor
      · rintro (⟨rest, hrest, rfl⟩ | ⟨j, child, rest, hchild, rfl, hrest⟩)
        · exact ⟨0, n, rest, rfl, rfl, hrest⟩
        · exact ⟨j + 1, child, rest, hchild, by rw [Nat.add_right_comm, Nat.add_assoc], hrest⟩
      · rintro ⟨j, child, rest, hchild, rfl, hrest⟩
        cases j with
        | zero =>
            obtain rfl := Option.some.inj hchild
            exact Or.inl ⟨rest, hrest, rfl⟩
        | succ j =>
            refine Or.inr ⟨j, child, rest, hchild, ?_, hrest⟩
            rw [Nat.add_right_comm, Nat.add_assoc]

theorem cons_mem_siblingPlaces : i :: p ∈ siblingPlaces places 0 ns ↔
    ∃ child, ns[i]? = some child ∧ p ∈ places child := by
  rw [mem_siblingPlaces]
  constructor
  · rintro ⟨j, child, rest, hchild, hplace, hrest⟩
    rw [Nat.zero_add, List.cons_eq_cons] at hplace
    rcases hplace with ⟨rfl, rfl⟩
    exact ⟨child, hchild, hrest⟩
  · rintro ⟨child, hchild, hrest⟩
    exact ⟨i, child, p, hchild, by rw [Nat.zero_add], hrest⟩

theorem not_nil_mem_siblingPlaces : [] ∉ siblingPlaces places i ns := by
  rw [mem_siblingPlaces]
  rintro ⟨j, child, rest, -, hplace, -⟩
  exact List.cons_ne_nil _ _ hplace.symm

/-- The places in a sibling come before those in the siblings after it. -/
theorem siblingPlaces_sorted (hn : (places n).Pairwise (· < ·))
    (hns : (siblingPlaces places (i + 1) ns).Pairwise (· < ·)) :
    (siblingPlaces places i (n :: ns)).Pairwise (· < ·) := by
  rw [siblingPlaces, List.pairwise_append, List.pairwise_map]
  refine ⟨hn.imp fun h => List.cons_lt_cons_iff.mpr (Or.inr ⟨rfl, h⟩), hns, ?_⟩
  rintro p hp q hq
  rcases List.mem_map.mp hp with ⟨rest, -, rfl⟩
  rcases mem_siblingPlaces.mp hq with ⟨j, child, rest', -, rfl, -⟩
  exact List.cons_lt_cons_iff.mpr (Or.inl (by omega))

end Siblings

/-- There is an element with the property at the place. -/
def holdsAt (P : Node → Bool) (n : Node) (p : Path) : Bool :=
  (n.at? p).any fun m => m.isElement && P m

/-- There is an element with the property at the place, below the node itself, and it is in
    no other such element. -/
structure IsOutermostAt (P : Node → Bool) (n : Node) (p : Path) : Prop where
  below : p ≠ []
  holds : n.holdsAt P p = true
  first : ∀ q, q <+: p → q ≠ [] → n.holdsAt P q = true → q = p

section Outermost

theorem holdsAt_cons (P : Node → Bool) (n : Node) (i : Nat) (p : Path) :
    n.holdsAt P (i :: p) = n.children[i]?.any fun child => child.holdsAt P p := by
  rw [holdsAt, at?_cons]
  cases n.children[i]? <;> rfl

theorem outermostAll_eq (P : Node → Bool) (i : Nat) (ns : List Node) : outermostAll P i ns
    = siblingPlaces (fun n => if n.isElement && P n then [[]] else n.outermost P) i ns := by
  induction ns generalizing i with
  | nil => rfl
  | cons n ns ih => rw [outermostAll, ih, siblingPlaces]

theorem mem_outermost_cons {i : Nat} : i :: p ∈ n.outermost P ↔
    ∃ child, n.children[i]? = some child ∧
      p ∈ if child.isElement && P child then [[]] else child.outermost P := by
  cases n with
  | element tag as children =>
      rw [outermost, outermostAll_eq]
      exact cons_mem_siblingPlaces
  | text data | comment data | declaration data => simp [outermost, children]

theorem not_nil_mem_outermost : [] ∉ n.outermost P := by
  cases n with
  | element tag as children =>
      rw [outermost, outermostAll_eq]
      exact not_nil_mem_siblingPlaces
  | text data | comment data | declaration data => exact List.not_mem_nil

theorem isOutermostAt_iff : n.IsOutermostAt P p ↔ p ≠ [] ∧ IsFirst (n.holdsAt P) p :=
  ⟨fun h => ⟨h.below, h.holds, h.first⟩, fun h => ⟨h.1, h.2.passes, h.2.first⟩⟩

/-- An element is outermost if its parent's child is on the way to it: it is this child, or it
    is outermost below it and the child has not the property. -/
theorem isOutermostAt_cons {i : Nat} : n.IsOutermostAt P (i :: p) ↔
    ∃ child, n.children[i]? = some child ∧
      if child.isElement && P child then p = [] else child.IsOutermostAt P p := by
  cases hchild : n.children[i]? with
  | none =>
      refine ⟨fun h => ?_, fun ⟨child, hnone, _⟩ => absurd hnone (by simp)⟩
      have hholds := h.holds
      rw [holdsAt_cons, hchild] at hholds
      exact absurd hholds Bool.false_ne_true
  | some child =>
      simp only [Option.some.injEq, exists_eq_left']
      -- Seen from the child, the property holds at the same places.
      have hbelow : (fun q => n.holdsAt P (i :: q)) = child.holdsAt P := by
        funext q
        rw [holdsAt_cons, hchild]
        rfl
      have hself : n.holdsAt P [i] = (child.isElement && P child) := congrFun hbelow []
      rw [isOutermostAt_iff, and_iff_right (List.cons_ne_nil i p)]
      by_cases hp : p = []
      · rw [hp, isFirst_singleton, hself]
        split
        · exact iff_of_true ‹_› rfl
        · exact iff_of_false ‹_› fun h => h.below rfl
      · rw [isFirst_cons hp, hbelow, hself]
        split
        · exact iff_of_false (fun h => absurd h.1 (ne_false_of_eq_true ‹_›)) hp
        · rw [isOutermostAt_iff, and_iff_right hp]
          exact and_iff_right (Bool.not_eq_true _ ▸ ‹_›)

/-- The outermost elements with a property are found, and nothing else is. -/
theorem mem_outermost : p ∈ n.outermost P ↔ n.IsOutermostAt P p := by
  induction p generalizing n with
  | nil => exact iff_of_false not_nil_mem_outermost fun h => h.below rfl
  | cons i p ih =>
      rw [mem_outermost_cons, isOutermostAt_cons]
      refine exists_congr fun child => and_congr_right fun _ => ?_
      split
      · exact List.mem_singleton
      · exact ih

mutual

/-- The outermost elements are found in the order of the document. -/
theorem outermost_sorted (P : Node → Bool) : (n : Node) → (n.outermost P).Pairwise (· < ·)
  | .element tag as children => by
    rw [outermost]
    exact outermostAll_sorted P 0 children
  | .text _ => List.Pairwise.nil
  | .comment _ => List.Pairwise.nil
  | .declaration _ => List.Pairwise.nil

theorem outermostAll_sorted (P : Node → Bool) (i : Nat) :
    (ns : List Node) → (outermostAll P i ns).Pairwise (· < ·)
  | [] => List.Pairwise.nil
  | n :: ns => by
    have hrest := outermostAll_sorted P (i + 1) ns
    rw [outermostAll_eq] at hrest ⊢
    refine siblingPlaces_sorted ?_ hrest
    split
    · exact List.pairwise_singleton _ _
    · exact outermost_sorted P n

end

/-- None of the outermost elements is below another one. -/
theorem outermost_apart (hp : p ∈ n.outermost P) (hq : q ∈ n.outermost P) (h : p <+: q) : p = q :=
  (mem_outermost.mp hq).first p h (mem_outermost.mp hp).below (mem_outermost.mp hp).holds

end Outermost

end Letterpress.Markup.Node
