import Letterpress.Proofs.Layout.Buckets
import Letterpress.Proofs.Layout.Keeping
import Letterpress.Proofs.Number.Finite
import Mathlib.Data.List.Induction

/-!
# Rows of Items

Grouping items into rows loses no item and doubles none. An item joins the bucket of its
step, and there is one bucket for each step; so a bucket is what is left of the items when
those of other steps are left out, in the order of the items. Each bucket is then sorted
from left to right.

Only finite coordinates are in order. An item at an undefined place would be tied with
every other, so stability is stated for comparisons among the items themselves.

## Main definitions

* `SortedWithin`: A list is the stable sort of another, as far as its items are compared.
* `Buckets`: What is known of buckets that hold some items.

## Theorems

* `sortOn_within`: Sorting by finite keys is stable.
* `grouped_buckets`: Items are in the bucket of their step.
* `bucketRows_sorted`: Rows are sorted buckets, and hold all items once.
-/

namespace Letterpress.Layout

variable {α : Type}

/-- The second list is the stable sort of the first, as far as its items are compared with
    one another. -/
structure SortedWithin (lt : α → α → Bool) (input output : List α) : Prop where
  perm : output.Perm input
  ordered : Ordered lt output
  ties : ∀ a ∈ input, output.filter (tied lt a) = input.filter (tied lt a)

/-- Sorting rows by themselves keeps the items of all. -/
theorem flatten_sorted {κ : Type} (lt : κ → κ → Bool) (key : α → κ) (buckets : List (List α)) :
    (buckets.map (sortOn lt key)).flatten.Perm buckets.flatten := by
  induction buckets with
  | nil => exact List.Perm.refl []
  | cons bucket buckets ih => exact (sort_perm _ bucket).append ih

section Finite

variable {K : Type} [Scalar K] [FiniteArithmetic K]

/-- Sorting by finite keys is stable. -/
theorem sortOn_within {key : α → K} {items : List α} (h : ∀ a ∈ items, IsFinite (key a)) :
    SortedWithin (fun a b => before (key a) (key b)) items (sortOn before key items) := by
  -- The items carry along that their keys are finite, for the comparison to be an order.
  let finite (a : {a // a ∈ items}) : {x : K // IsFinite x} := ⟨key a.val, h a.val a.property⟩
  have hsorted := sort_stable (FiniteArithmetic.before_isStrictWeak.onKey finite) items.attach
  have himages : sortOn before key items
      = (sort (fun a b => before (finite a).val (finite b).val) items.attach).map Subtype.val := by
    rw [← sort_images Subtype.val fun a b => before (key a) (key b), List.attach_map_subtype_val]
    rfl
  refine ⟨sort_perm _ items, ?_, fun a ha => ?_⟩
  · rw [himages]
    exact List.pairwise_map.mpr hsorted.ordered
  · have hties := congrArg (List.map Subtype.val) (hsorted.rearranges.ties ⟨a, ha⟩)
    conv_rhs => rw [← List.attach_map_subtype_val items]
    rw [himages, List.filter_map, List.filter_map]
    exact hties.symm

end Finite

/-- What is known of buckets that hold some items. -/
structure Buckets (number : α → Int) (items : List α) (buckets : List (Int × List α)) :
    Prop where
  /-- There is one bucket for each number. -/
  distinct : buckets.Pairwise fun b c => b.1 ≠ c.1
  /-- A bucket holds the items of its number in their order. -/
  members : ∀ b ∈ buckets, b.2 = items.filter fun a => number a = b.1
  /-- Every item has its bucket. -/
  complete : ∀ a ∈ items, ∃ b ∈ buckets, b.1 = number a

section Grouping

variable {number : α → Int}

/-- The numbers of buckets after one more item. -/
theorem numbers_addToBucket (n : Int) (item : α) (buckets : List (Int × List α)) :
    (addToBucket n item buckets).map Prod.fst
      = if n ∈ buckets.map Prod.fst then buckets.map Prod.fst
        else buckets.map Prod.fst ++ [n] := by
  induction buckets with
  | nil => rfl
  | cons b rest ih =>
      rcases b with ⟨m, members⟩
      rw [addToBucket]
      by_cases hm : m = n
      · simp [hm]
      · have hne : n ≠ m := fun h => hm h.symm
        rw [if_neg hm, List.map_cons, ih, List.map_cons]
        by_cases hmem : n ∈ rest.map Prod.fst
        · rw [if_pos hmem, if_pos (List.mem_cons_of_mem m hmem)]
        · rw [if_neg hmem, if_neg fun h => hmem ((List.mem_cons.mp h).resolve_left hne)]
          rfl

/-- A bucket after one more item: its own members, and the item if it has its number. -/
theorem members_addToBucket {n : Int} {item : α} {buckets : List (Int × List α)}
    (hdistinct : buckets.Pairwise fun b c => b.1 ≠ c.1) {b : Int × List α}
    (h : b ∈ addToBucket n item buckets) :
    (∃ c ∈ buckets, c.1 = b.1 ∧ b.2 = c.2 ++ if b.1 = n then [item] else []) ∨
      b = (n, [item]) ∧ ∀ c ∈ buckets, c.1 ≠ n := by
  induction buckets with
  | nil => exact Or.inr ⟨List.mem_singleton.mp h, by simp⟩
  | cons first rest ih =>
      rcases first with ⟨m, members⟩
      rw [List.pairwise_cons] at hdistinct
      rw [addToBucket] at h
      by_cases hm : m = n
      · rw [if_pos hm] at h
        refine Or.inl ?_
        rcases List.mem_cons.mp h with rfl | hrest
        · exact ⟨(m, members), List.mem_cons_self, rfl, by rw [if_pos hm]⟩
        · -- No other bucket has the number.
          have hother : b.1 ≠ n := fun hb => hdistinct.1 b hrest (hm.trans hb.symm)
          exact ⟨b, List.mem_cons_of_mem _ hrest, rfl, by rw [if_neg hother, List.append_nil]⟩
      · rw [if_neg hm] at h
        rcases List.mem_cons.mp h with rfl | hrest
        · exact Or.inl ⟨(m, members), List.mem_cons_self, rfl, by rw [if_neg hm, List.append_nil]⟩
        · rcases ih hdistinct.2 hrest with ⟨c, hc, hself⟩ | ⟨rfl, hnone⟩
          · exact Or.inl ⟨c, List.mem_cons_of_mem _ hc, hself⟩
          · exact Or.inr ⟨rfl, List.forall_mem_cons.mpr ⟨hm, hnone⟩⟩

/-- One more item. -/
theorem Buckets.add {items : List α} {buckets : List (Int × List α)}
    (h : Buckets number items buckets) (item : α) :
    Buckets number (items ++ [item]) (addToBucket (number item) item buckets) := by
  have hnumbers := numbers_addToBucket (number item) item buckets
  refine ⟨?_, fun b hb => ?_, fun a ha => ?_⟩
  · -- A number comes in only if it is new.
    rw [← List.pairwise_map (f := Prod.fst) (R := (· ≠ ·)), hnumbers]
    have hold : (buckets.map Prod.fst).Pairwise (· ≠ ·) := List.pairwise_map.mpr h.distinct
    split
    · exact hold
    · rename_i hnew
      refine List.pairwise_append.mpr ⟨hold, List.pairwise_singleton _ _, fun m hm n hn => ?_⟩
      rw [List.mem_singleton.mp hn]
      exact fun heq => hnew (heq ▸ hm)
  · have hsingle : [item].filter (fun a => number a = b.1)
        = if b.1 = number item then [item] else [] := by
      by_cases hself : number item = b.1
      · simp [hself]
      · rw [if_neg fun h => hself h.symm]
        simp [hself]
    rw [List.filter_append, hsingle]
    rcases members_addToBucket h.distinct hb with ⟨c, hc, hsame, hmembers⟩ | ⟨rfl, hnone⟩
    · rw [hmembers, h.members c hc, hsame]
    · -- The item has opened the bucket, and so no other item has its number.
      have hempty : items.filter (fun a => number a = number item) = [] := by
        refine List.filter_eq_nil_iff.mpr fun a ha hsame => ?_
        rcases h.complete a ha with ⟨c, hc, hnumber⟩
        exact hnone c hc (hnumber.trans (of_decide_eq_true hsame))
      rw [hempty, if_pos rfl]
      rfl
  · have hmem : number a ∈ (addToBucket (number item) item buckets).map Prod.fst := by
      rw [hnumbers]
      rcases List.mem_append.mp ha with hold | hnew
      · have hnumber := List.mem_map.mpr (h.complete a hold)
        split
        · exact hnumber
        · exact List.mem_append_left _ hnumber
      · rw [List.mem_singleton.mp hnew]
        split
        · assumption
        · exact List.mem_append_right _ (List.mem_singleton_self _)
    exact List.mem_map.mp hmem

/-- Items are in the bucket of their number, in their order. -/
theorem grouped_buckets (number : α → Int) (items : List α) :
    Buckets number items (grouped number items) := by
  induction items using List.reverseRecOn with
  | nil => exact ⟨List.Pairwise.nil, by simp [grouped], by simp⟩
  | append_singleton items item ih =>
      rw [grouped, List.foldl_append]
      exact ih.add item

/-- Adding an item to its bucket adds it to all items. -/
theorem flatten_addToBucket (n : Int) (item : α) (buckets : List (Int × List α)) :
    ((addToBucket n item buckets).map Prod.snd).flatten.Perm
      ((buckets.map Prod.snd).flatten ++ [item]) := by
  induction buckets with
  | nil => exact List.Perm.refl _
  | cons b rest ih =>
      rcases b with ⟨m, members⟩
      rw [addToBucket]
      split
      · simp only [List.map_cons, List.flatten_cons, List.append_assoc]
        exact List.Perm.append_left members List.perm_append_comm
      · simp only [List.map_cons, List.flatten_cons, List.append_assoc]
        exact ih.append_left members

/-- Buckets hold all items once. -/
theorem flatten_grouped (number : α → Int) (items : List α) :
    ((grouped number items).map Prod.snd).flatten.Perm items := by
  induction items using List.reverseRecOn with
  | nil => exact List.Perm.refl []
  | append_singleton items item ih =>
      rw [grouped, List.foldl_append]
      exact (flatten_addToBucket _ _ _).trans (ih.append_right [item])

end Grouping

section Rows

variable {K : Type} [Scalar K] [FiniteArithmetic K] {e : Extent α K} {granularity : K}

/-- The step of the grid that an item is on, if it has one. -/
def step? (e : Extent α K) (granularity : K) (item : α) : Option Int :=
  (bucketNumber granularity (e.y item)).toOption

/-- Items with steps are put into rows, each of which holds the items of one step from left
    to right. The rows hold all items once. -/
theorem bucketRows_sorted {items : List α}
    (hsteps : ∀ item ∈ items, ∃ n, bucketNumber granularity (e.y item) = .ok n)
    (hx : ∀ item ∈ items, IsFinite (e.x item)) :
    ∃ rows, bucketRows e granularity items = .ok rows ∧ rows.flatten.Perm items ∧
      ∀ row ∈ rows, ∃ n, SortedWithin (fun a b => before (e.x a) (e.x b))
        (items.filter fun item => step? e granularity item = some n) row := by
  have hnumber : ∀ item ∈ items, bucketNumber granularity (e.y item)
      = .ok ((step? e granularity item).getD 0) := by
    intro item hitem
    rcases hsteps item hitem with ⟨n, hn⟩
    rw [step?, hn]
    rfl
  let number (item : α) := (step? e granularity item).getD 0
  refine ⟨_, bucketRows_ok hnumber, ?_, fun row hrow => ?_⟩
  · -- The rows are the buckets with their items in another order.
    exact (flatten_sorted before e.x _).trans
      (((sort_perm _ _).flatten).trans (flatten_grouped number items))
  · rcases List.mem_map.mp hrow with ⟨members, hmembers, rfl⟩
    rcases List.mem_map.mp (mem_sort _ hmembers) with ⟨bucket, hbucket, rfl⟩
    -- Each bucket is what is left of the items when those of other steps are dropped.
    have hbuckets := (grouped_buckets number items).members bucket hbucket
    have hfilter : items.filter (fun item => step? e granularity item = some bucket.1)
        = bucket.2 := by
      rw [hbuckets]
      refine List.filter_congr fun item hitem => ?_
      rcases hsteps item hitem with ⟨n, hn⟩
      simp [number, step?, hn, Except.toOption]
    refine ⟨bucket.1, ?_⟩
    rw [hfilter]
    refine sortOn_within fun item hitem => hx item ?_
    rw [hbuckets] at hitem
    exact List.mem_of_mem_filter hitem

end Rows

end Letterpress.Layout
