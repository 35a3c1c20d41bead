import Letterpress.Proofs.Markup.Places
import Mathlib.Data.List.Nodup

/-!
# Searching a Tree for Outermost Elements

A search for the outermost elements of a kind goes down from child to child and turns back where
it finds one. What it may ask of an element is more than the element itself can tell: an element
knows what it is in, so a search is for *places*, and a property of elements is one case of it.

Whatever is searched for, the places that are found are a part of the list of all elements: those
that have no other such place above them. So nothing is found twice, nothing that is found is
inside of something else that is, and every element that is searched for is found or is inside of
one that is.

## Main definitions

* `outermostWhere`: The search for places.

## Theorems

* `outermost_eq_where`: A search for a property of elements is one for places.
* `elementPaths_above`, `elementPaths_sorted`: The places of all elements, in order.
* `outermostWhere_eq_filter`: What is found, as a part of all elements.
* `exists_first`: Every place that is searched for has a first one above it.
* `outermost_search`: What a search finds.
-/

namespace Letterpress.Markup.Node

mutual

/-- The places of elements below a node that pass a test and have no other such place above
    them. -/
def outermostWhere (test : Path → Bool) : Node → List Path
  | element _ _ children => outermostWhereAll test 0 children
  | text _ | comment _ | declaration _ => []

/-- The outermost places of elements that pass a test in a list of siblings, of which the first
    has the given position. -/
def outermostWhereAll (test : Path → Bool) (i : Nat) : List Node → List Path
  | [] => []
  | n :: ns =>
    (if n.isElement && test [i] then [[]] else n.outermostWhere fun p => test (i :: p)).map (i :: ·)
      ++ outermostWhereAll test (i + 1) ns

end

section First

variable {test : Path → Bool} {i : Nat} {p : Path}

/-- On the way to a place that passes a test there is a first one. -/
theorem exists_first (hp : p ≠ []) (h : test p = true) :
    ∃ q, q <+: p ∧ q ≠ [] ∧ IsFirst test q := by
  induction p generalizing test with
  | nil => exact absurd rfl hp
  | cons i p ih =>
      cases hchild : test [i] with
      | true => exact ⟨[i], List.cons_prefix_cons.mpr ⟨rfl, List.nil_prefix⟩,
          List.cons_ne_nil _ _, isFirst_singleton.mpr hchild⟩
      | false =>
          have hne : p ≠ [] := by
            rintro rfl
            rw [hchild] at h
            exact Bool.false_ne_true h
          rcases @ih (fun q => test (i :: q)) hne h with ⟨q, hq, hqne, hfirst⟩
          exact ⟨i :: q, List.cons_prefix_cons.mpr ⟨rfl, hq⟩, List.cons_ne_nil _ _,
            (isFirst_cons hqne).mpr ⟨hchild, hfirst⟩⟩

end First

section Elements

variable {n : Node} {p q : Path}

theorem elementPathsAll_eq (i : Nat) (ns : List Node) : elementPathsAll i ns
    = siblingPlaces (fun n => if n.isElement then [] :: n.elementPaths else []) i ns := by
  induction ns generalizing i with
  | nil => rfl
  | cons n ns ih => rw [elementPathsAll, ih, siblingPlaces]

theorem elementPaths_leaf (h : n.isElement = false) : n.elementPaths = [] := by
  cases n with
  | element tag as children => exact absurd h (by simp [isElement])
  | text data | comment data | declaration data => rfl

theorem mem_elementPaths_cons {i : Nat} : i :: p ∈ n.elementPaths ↔
    ∃ child, n.children[i]? = some child ∧ child.isElement = true ∧
      (p = [] ∨ p ∈ child.elementPaths) := by
  cases n with
  | element tag as children =>
      rw [elementPaths, elementPathsAll_eq, cons_mem_siblingPlaces]
      refine exists_congr fun child => and_congr_right fun _ => ?_
      rw [List.mem_ite_nil_right, List.mem_cons]
  | text data | comment data | declaration data => simp [elementPaths, children]

theorem not_nil_mem_elementPaths : [] ∉ n.elementPaths := by
  cases n with
  | element tag as children =>
      rw [elementPaths, elementPathsAll_eq]
      exact not_nil_mem_siblingPlaces
  | text data | comment data | declaration data => exact List.not_mem_nil

/-- What is on the way to an element is an element. -/
theorem elementPaths_above (hp : p ∈ n.elementPaths) (h : q <+: p) (hq : q ≠ []) :
    q ∈ n.elementPaths := by
  induction q generalizing n p with
  | nil => exact absurd rfl hq
  | cons i q ih =>
      rcases h with ⟨rest, rfl⟩
      rw [List.cons_append, mem_elementPaths_cons] at hp
      rcases hp with ⟨child, hchild, helement, hbelow⟩
      refine mem_elementPaths_cons.mpr ⟨child, hchild, helement, ?_⟩
      by_cases hnil : q = []
      · exact Or.inl hnil
      · refine Or.inr (ih (hbelow.resolve_left fun h => ?_) (List.prefix_append q rest) hnil)
        exact hnil (List.append_eq_nil_iff.mp h).1

mutual

/-- The elements are listed in the order of the document. -/
theorem elementPaths_sorted : (n : Node) → n.elementPaths.Pairwise (· < ·)
  | element _ _ children => elementPathsAll_sorted 0 children
  | text _ | comment _ | declaration _ => List.Pairwise.nil

theorem elementPathsAll_sorted (i : Nat) :
    (ns : List Node) → (elementPathsAll i ns).Pairwise (· < ·)
  | [] => List.Pairwise.nil
  | n :: ns => by
    have hrest := elementPathsAll_sorted (i + 1) ns
    rw [elementPathsAll_eq] at hrest ⊢
    refine siblingPlaces_sorted ?_ hrest
    split
    · refine List.pairwise_cons.mpr ⟨fun p hp => ?_, elementPaths_sorted n⟩
      cases p with
      | nil => exact absurd hp not_nil_mem_elementPaths
      | cons j p => exact List.nil_lt_cons j p
    · exact List.Pairwise.nil

end

theorem nodup_elementPaths (n : Node) : n.elementPaths.Nodup :=
  (elementPaths_sorted n).imp fun {p q} (h : p < q) (hpq : p = q) => List.lt_irrefl q (hpq ▸ h)

end Elements

section Search

mutual

/-- A search finds the places of elements that are first ones. -/
theorem outermostWhere_eq_filter (test : Path → Bool) : (n : Node) →
    n.outermostWhere test = n.elementPaths.filter fun p => decide (IsFirst test p)
  | element _ _ children => outermostWhereAll_eq_filter test 0 children
  | text _ | comment _ | declaration _ => rfl

theorem outermostWhereAll_eq_filter (test : Path → Bool) (i : Nat) : (ns : List Node) →
    outermostWhereAll test i ns
      = (elementPathsAll i ns).filter fun p => decide (IsFirst test p)
  | [] => rfl
  | n :: ns => by
    have hbelow : ∀ p ∈ n.elementPaths, IsFirst test (i :: p) ↔
        test [i] = false ∧ IsFirst (fun q => test (i :: q)) p := fun p hp =>
      isFirst_cons fun h => not_nil_mem_elementPaths (h ▸ hp)
    rw [outermostWhereAll, elementPathsAll, List.filter_append,
      outermostWhereAll_eq_filter test (i + 1) ns, outermostWhere_eq_filter _ n]
    congr 1
    cases hn : n.isElement with
    | false =>
        rw [elementPaths_leaf hn]
        rfl
    | true =>
        rw [Bool.true_and, if_pos rfl, List.map_cons]
        cases hchild : test [i] with
        | true =>
            -- The child is found, so nothing below it is a first one.
            rw [if_pos rfl, List.filter_cons_of_pos, List.filter_map, List.filter_eq_nil_iff.mpr]
            · rfl
            · intro p hp h
              have hfalse := ((hbelow p hp).mp (of_decide_eq_true h)).1
              rw [hchild] at hfalse
              exact Bool.false_ne_true hfalse.symm
            · exact decide_eq_true (isFirst_singleton.mpr hchild)
        | false =>
            rw [if_neg Bool.false_ne_true, List.filter_cons_of_neg, List.filter_map]
            · refine congrArg _ (List.filter_congr fun p hp => ?_)
              exact decide_eq_decide.mpr ((hbelow p hp).trans (and_iff_right hchild)).symm
            · intro h
              rw [isFirst_singleton.mp (of_decide_eq_true h)] at hchild
              exact Bool.false_ne_true hchild.symm

end

mutual

/-- A search for elements with a property is one for the places where there are some. -/
theorem outermost_eq_where (P : Node → Bool) : (n : Node) →
    n.outermost P = n.outermostWhere (n.holdsAt P)
  | element tag as children => outermostAll_eq_where P tag as [] children
  | text _ | comment _ | declaration _ => rfl

theorem outermostAll_eq_where (P : Node → Bool) (tag : String) (as : List Attribute)
    (before : List Node) : (ns : List Node) → outermostAll P before.length ns
      = outermostWhereAll ((element tag as (before ++ ns)).holdsAt P) before.length ns
  | [] => rfl
  | n :: ns => by
    have hchild : (fun p => (element tag as (before ++ n :: ns)).holdsAt P (before.length :: p))
        = n.holdsAt P := by
      funext p
      rw [holdsAt_cons, children, List.getElem?_append_right (Nat.le_refl _), Nat.sub_self]
      rfl
    have hself : (n.isElement && (element tag as (before ++ n :: ns)).holdsAt P [before.length])
        = (n.isElement && P n) := by
      have hroot : n.holdsAt P [] = (n.isElement && P n) := rfl
      rw [congrFun hchild [], hroot, ← Bool.and_assoc, Bool.and_self]
    have hrest := outermostAll_eq_where P tag as (before ++ [n]) ns
    rw [List.length_append, List.length_singleton, List.append_assoc,
      List.singleton_append] at hrest
    rw [outermostAll, outermostWhereAll, hself, hchild, ← outermost_eq_where P n, hrest]

end

/-- What a search finds is the part of all elements whose places pass the test while no element
    above them, below the root, does. Nothing is found twice, nothing that is found lies inside
    of something else that is, and each element that passes is found or lies inside of one that
    is. A search for a property of elements is one for the places where it holds. -/
theorem outermost_search (n : Node) (test : Path → Bool) :
    n.outermostWhere test = (n.elementPaths.filter fun p => decide (IsFirst test p)) ∧
      (n.outermostWhere test).Nodup ∧
      (∀ p ∈ n.outermostWhere test, ∀ q ∈ n.outermostWhere test, p <+: q → p = q) ∧
      (∀ p ∈ n.elementPaths, test p = true → ∃ q ∈ n.outermostWhere test, q <+: p) ∧
      ∀ P, n.outermost P = n.outermostWhere (n.holdsAt P) := by
  have hfilter := outermostWhere_eq_filter test n
  have hmem : ∀ p, p ∈ n.outermostWhere test ↔ p ∈ n.elementPaths ∧ IsFirst test p := fun p => by
    rw [hfilter, List.mem_filter, decide_eq_true_iff]
  refine ⟨hfilter, ?_, fun p hp q hq hpq => ?_, fun p hp hpasses => ?_,
    fun P => outermost_eq_where P n⟩
  · rw [hfilter]
    exact (nodup_elementPaths n).filter _
  · have hne : p ≠ [] := fun h => not_nil_mem_elementPaths (h ▸ ((hmem p).mp hp).1)
    exact ((hmem q).mp hq).2.first p hpq hne ((hmem p).mp hp).2.passes
  · have hne : p ≠ [] := fun h => not_nil_mem_elementPaths (h ▸ hp)
    rcases exists_first hne hpasses with ⟨q, hqp, hqne, hfirst⟩
    exact ⟨q, (hmem q).mpr ⟨elementPaths_above hp hqp hqne, hfirst⟩, hqp⟩

/-- A table in the cell of another one. -/
def nestedTables : Node :=
  root [element "div" [] [text "Prices", element "table" [] [element "tr" []
    [element "td" [] [element "table" [] []]]]]]

/-- The inner table is not found, but the one that it is inside of. -/
theorem outermost_search_nestedTables :
    let isTable := fun n : Node => n.tag? = some "table"
    let inner := [0, 1, 0, 0, 0]
    nestedTables.holdsAt isTable inner = true ∧ inner ∈ nestedTables.elementPaths ∧
      nestedTables.outermost isTable = [[0, 1]] ∧
      ∃ q ∈ nestedTables.outermost isTable, q <+: inner := by
  intro isTable inner
  have hholds : nestedTables.holdsAt isTable inner = true := by decide
  have hinner : inner ∈ nestedTables.elementPaths := by decide
  have h := outermost_search nestedTables (nestedTables.holdsAt isTable)
  rw [h.2.2.2.2 isTable]
  exact ⟨hholds, hinner, by decide, h.2.2.2.1 inner hinner hholds⟩

end Search

end Letterpress.Markup.Node
