import Mathlib.Data.List.Basic
import Mathlib.Order.Lattice

/-!
# Stable Rearrangements

What it means to sort a list stably, with nothing said about how.

A list is *rearranged* when its items change places and no two tied items pass
each other. Ties are tested one class at a time: whatever an item is tied with
comes out in the order it went in. A rearrangement in which no item is less than
one before it is the stable sort, and there is only one.

Rearrangements compose and can be put side by side, so a sorting procedure is
justified move by move. The only move that any of them makes is
`rearranges_swap`: two neighboring blocks change places when everything in the
second is less than everything in the first.

## Main definitions

* `IsStrictWeak`: A test is the strict order of a linear preorder.
* `tied`: Neither of two items is less than the other.
* `Ordered`: No item is less than one before it.
* `Rearranges`: The items change places, tied ones keep their order.
* `StablySorted`: A list is the stable sort of another.

## Theorems

* `le_trans`: Not being less is transitive.
* `rearranges_swap`: Two blocks change places.
* `rearranges_reverse`: A strictly falling list is reversed.
* `ordered_append`: Putting two ordered lists together.
* `stablySorted_unique`: A list has one stable sort.
* `StablySorted.map`: Items are sorted when their keys are.
-/

namespace Letterpress.Layout

variable {α : Type}

/-- The test is the strict order of a linear preorder: it never holds both ways,
    and what is between two items in order is after the first or before the
    second. -/
structure IsStrictWeak (lt : α → α → Bool) : Prop where
  asymm : ∀ a b, lt a b = true → lt b a = false
  split : ∀ a b c, lt a c = true → lt a b = true ∨ lt b c = true

/-- Neither item is less than the other. -/
def tied (lt : α → α → Bool) (a b : α) : Bool :=
  !lt a b && !lt b a

/-- No item of the list is less than one before it. -/
def Ordered (lt : α → α → Bool) (items : List α) : Prop :=
  items.Pairwise fun a b => lt b a = false

/-- The items of the first list change places to form the second, and tied items
    keep their order. -/
structure Rearranges (lt : α → α → Bool) (before after : List α) : Prop where
  perm : before.Perm after
  ties : ∀ a, before.filter (tied lt a) = after.filter (tied lt a)

/-- The second list is the stable sort of the first. -/
structure StablySorted (lt : α → α → Bool) (input output : List α) : Prop where
  rearranges : Rearranges lt input output
  ordered : Ordered lt output

variable {lt : α → α → Bool}

theorem IsStrictWeak.irrefl (h : IsStrictWeak lt) (a : α) : lt a a = false := by
  by_cases haa : lt a a = true
  · exact h.asymm a a haa
  · simpa using haa

/-- Not being less is transitive. -/
theorem IsStrictWeak.le_trans (h : IsStrictWeak lt) {a b c : α} (hab : lt b a = false)
    (hbc : lt c b = false) : lt c a = false := by
  by_contra hca
  rcases h.split c b a (by simpa using hca) with hcb | hba
  · rw [hbc] at hcb
    exact absurd hcb (by decide)
  · rw [hab] at hba
    exact absurd hba (by decide)

theorem IsStrictWeak.trans_le (h : IsStrictWeak lt) {a b c : α} (hab : lt a b = true)
    (hbc : lt c b = false) : lt a c = true := by
  rcases h.split a c b hab with hac | hcb
  · exact hac
  · rw [hbc] at hcb
    exact absurd hcb (by decide)

theorem IsStrictWeak.le_trans_lt (h : IsStrictWeak lt) {a b c : α} (hab : lt b a = false)
    (hbc : lt b c = true) : lt a c = true := by
  rcases h.split b a c hbc with hba | hac
  · rw [hab] at hba
    exact absurd hba (by decide)
  · exact hac

/-- The comparison of keys compares strictly if the comparison of values does. -/
theorem IsStrictWeak.onKey {κ : Type} {lt : κ → κ → Bool} (h : IsStrictWeak lt) (key : α → κ) :
    IsStrictWeak fun a b => lt (key a) (key b) :=
  ⟨fun a b => h.asymm (key a) (key b), fun a b c => h.split (key a) (key b) (key c)⟩

/-- A linear order compares strictly. -/
theorem isStrictWeak_lt {κ : Type} [LinearOrder κ] :
    IsStrictWeak fun a b : κ => decide (a < b) := by
  constructor
  · intro a b hab
    rw [decide_eq_false_iff_not]
    exact lt_asymm (of_decide_eq_true hab)
  · intro a b c hac
    rw [decide_eq_true_iff, decide_eq_true_iff]
    rcases lt_or_ge a b with hab | hba
    · exact Or.inl hab
    · exact Or.inr (lt_of_le_of_lt hba (of_decide_eq_true hac))

theorem rearranges_refl (items : List α) : Rearranges lt items items :=
  ⟨List.Perm.refl items, fun _ => rfl⟩

theorem Rearranges.trans {l₁ l₂ l₃ : List α} (h₁ : Rearranges lt l₁ l₂)
    (h₂ : Rearranges lt l₂ l₃) : Rearranges lt l₁ l₃ :=
  ⟨h₁.perm.trans h₂.perm, fun a => (h₁.ties a).trans (h₂.ties a)⟩

theorem Rearranges.symm {l m : List α} (h : Rearranges lt l m) : Rearranges lt m l :=
  ⟨h.perm.symm, fun a => (h.ties a).symm⟩

theorem Rearranges.append {l₁ l₂ m₁ m₂ : List α} (hl : Rearranges lt l₁ l₂)
    (hm : Rearranges lt m₁ m₂) : Rearranges lt (l₁ ++ m₁) (l₂ ++ m₂) := by
  refine ⟨hl.perm.append hm.perm, fun a => ?_⟩
  rw [List.filter_append, List.filter_append, hl.ties a, hm.ties a]

theorem Rearranges.cons {l m : List α} (x : α) (h : Rearranges lt l m) :
    Rearranges lt (x :: l) (x :: m) :=
  Rearranges.append (rearranges_refl [x]) h

/-- Two blocks change places when everything in the second is less than everything
    in the first. An item cannot be tied with a member of each block, since that
    would tie the two with one another. -/
theorem rearranges_swap (h : IsStrictWeak lt) (l m : List α)
    (hlm : ∀ x ∈ l, ∀ y ∈ m, lt y x = true) : Rearranges lt (l ++ m) (m ++ l) := by
  refine ⟨List.perm_append_comm, fun a => ?_⟩
  rw [List.filter_append, List.filter_append]
  by_cases hl : l.filter (tied lt a) = []
  · rw [hl, List.nil_append, List.append_nil]
  · have hm : m.filter (tied lt a) = [] := by
      rcases List.exists_mem_of_ne_nil _ hl with ⟨x, hx⟩
      rw [List.mem_filter] at hx
      simp only [List.filter_eq_nil_iff]
      intro y hy hty
      simp only [tied, Bool.and_eq_true, Bool.not_eq_true'] at hx hty
      have hxy : lt y x = false := h.le_trans hx.2.1 hty.2
      rw [hlm x hx.1 y hy] at hxy
      exact absurd hxy (by decide)
    rw [hm, List.nil_append, List.append_nil]

/-- A strictly falling list is reversed. -/
theorem rearranges_reverse (h : IsStrictWeak lt) (items : List α)
    (hfall : items.Pairwise fun a b => lt b a = true) : Rearranges lt items items.reverse := by
  induction items with
  | nil => exact rearranges_refl []
  | cons x rest ih =>
      rw [List.pairwise_cons] at hfall
      rw [List.reverse_cons]
      have hrest : Rearranges lt (x :: rest) (x :: rest.reverse) := (ih hfall.2).cons x
      refine hrest.trans (rearranges_swap h [x] rest.reverse fun y hy z hz => ?_)
      rw [List.mem_singleton] at hy
      rw [hy]
      exact hfall.1 z (List.mem_reverse.mp hz)

theorem ordered_nil : Ordered lt [] :=
  List.Pairwise.nil

theorem ordered_singleton (x : α) : Ordered lt [x] :=
  List.pairwise_singleton _ x

theorem ordered_cons {x : α} {rest : List α} :
    Ordered lt (x :: rest) ↔ (∀ y ∈ rest, lt y x = false) ∧ Ordered lt rest :=
  List.pairwise_cons

/-- Two ordered lists make one when nothing in the second is less than anything in
    the first. -/
theorem ordered_append {l m : List α} :
    Ordered lt (l ++ m) ↔
      Ordered lt l ∧ Ordered lt m ∧ ∀ x ∈ l, ∀ y ∈ m, lt y x = false :=
  List.pairwise_append

theorem Ordered.sublist {l m : List α} (hm : Ordered lt m) (h : l.Sublist m) : Ordered lt l :=
  List.Pairwise.sublist h hm

/-- The reverse of a strictly falling list is ordered. -/
theorem ordered_reverse (h : IsStrictWeak lt) (items : List α)
    (hfall : items.Pairwise fun a b => lt b a = true) : Ordered lt items.reverse :=
  List.pairwise_reverse.mpr (hfall.imp fun hab => h.asymm _ _ hab)

/-- The first item of a stable sort is the first of those that nothing is less
    than. -/
theorem stablySorted_unique (h : IsStrictWeak lt) {l m : List α} (hl : Ordered lt l)
    (hm : Ordered lt m) (hr : Rearranges lt l m) : l = m := by
  induction l generalizing m with
  | nil => exact (List.nil_perm.mp hr.perm).symm
  | cons x l ih =>
      cases m with
      | nil => exact absurd hr.perm.symm (List.nil_perm.not.mpr (List.cons_ne_nil x l))
      | cons y m =>
          rw [ordered_cons] at hl hm
          -- Both heads are least, so they are tied, and each heads its class.
          have hyx : lt y x = false := by
            rcases List.mem_cons.mp (hr.perm.symm.subset List.mem_cons_self) with heq | hmem
            · rw [heq]
              exact h.irrefl x
            · exact hl.1 y hmem
          have hxy : lt x y = false := by
            rcases List.mem_cons.mp (hr.perm.subset List.mem_cons_self) with heq | hmem
            · rw [heq]
              exact h.irrefl y
            · exact hm.1 x hmem
          have hhead := hr.ties x
          rw [List.filter_cons_of_pos (by simp [tied, h.irrefl x]),
            List.filter_cons_of_pos (by simp [tied, hxy, hyx])] at hhead
          have heq : x = y := (List.cons.inj hhead).1
          subst heq
          refine congrArg (x :: ·) (ih hl.2 hm.2 ⟨hr.perm.cons_inv, fun a => ?_⟩)
          have ha := hr.ties a
          by_cases hax : tied lt a x = true
          · rw [List.filter_cons_of_pos hax, List.filter_cons_of_pos hax] at ha
            exact (List.cons.inj ha).2
          · rwa [List.filter_cons_of_neg hax, List.filter_cons_of_neg hax] at ha

/-- Tied items are tied with the same items. -/
theorem IsStrictWeak.tied_congr (h : IsStrictWeak lt) {a b : α} (hab : tied lt a b = true) (x : α) :
    tied lt a x = tied lt b x := by
  simp only [tied, Bool.and_eq_true, Bool.not_eq_true'] at hab
  have hless : lt a x = lt b x := by
    rw [Bool.eq_iff_iff]
    exact ⟨h.le_trans_lt hab.1, h.le_trans_lt hab.2⟩
  have hmore : lt x a = lt x b := by
    rw [Bool.eq_iff_iff]
    exact ⟨fun hx => h.trans_le hx hab.2, fun hx => h.trans_le hx hab.1⟩
  rw [tied, tied, hless, hmore]

/-- Items are sorted when their keys are. -/
theorem StablySorted.map {β : Type} {lt : β → β → Bool} (hlt : IsStrictWeak lt) (g : α → β)
    {input output : List α} (h : StablySorted (fun a b => lt (g a) (g b)) input output) :
    StablySorted lt (input.map g) (output.map g) := by
  refine ⟨⟨h.rearranges.perm.map g, fun b => ?_⟩, List.pairwise_map.mpr h.ordered⟩
  rw [List.filter_map, List.filter_map]
  -- What is tied with a value is tied with the key of an item, or there is none.
  by_cases hsome : ∃ a ∈ input, tied lt b (g a) = true
  · rcases hsome with ⟨a, -, hba⟩
    have hsame : tied lt b ∘ g = tied (fun a b => lt (g a) (g b)) a :=
      funext fun x => hlt.tied_congr hba (g x)
    rw [hsame, h.rearranges.ties a]
  · push Not at hsome
    have hnone : ∀ l : List α, l ⊆ input → l.filter (tied lt b ∘ g) = [] := fun l hl =>
      List.filter_eq_nil_iff.mpr fun a ha => hsome a (hl ha)
    rw [hnone input (List.Subset.refl input), hnone output h.rearranges.perm.symm.subset]

end Letterpress.Layout
