import Letterpress.Proofs.Layout.Clusters
import Letterpress.Proofs.Layout.Rows
import Mathlib.Order.WithBot

/-!
# Rows from Top to Bottom

Rows are put in order by their first members alone, and the first member of a row is not
its highest one: it is the one that came first in the list. Still the rows lie one below
the other, every item of a row above every item of the next. Rounding to a step keeps the
order of coordinates, so whatever is on a lower step is lower; first members in order
are on steps in order, and every row has a step of its own.

The two ways of grouping differ, and still one refines the other. Tops that round to one step
of a grid are less than a step apart. So, if the tolerance is at least a step, the bands of two
items on one step overlap, whatever lies between them in the order of the items, and a row of
the grid is never torn apart by clusters. The converse fails: items on two steps can overlap.

## Theorems

* `firstBefore_isStrictWeak`: First members compare strictly.
* `lt_of_stepOf_lt`: What is on a lower step is lower.
* `grouped_nonempty`: No bucket is empty.
* `bucketRows_bands`: Rows hold the items of their step, from left to right, and lie one
  below the other.
* `lt_add_of_stepOf_eq`: Coordinates on one step are less than a step apart.
* `overlap_of_stepOf_eq`: Items on one step overlap.
* `bucketRows_refine`: Every bucket lies within a cluster.
-/

namespace Letterpress.Layout

variable {α : Type}

/-- The top of the first member of a bucket. -/
def firstTop (e : Extent α Rat) (members : List α) : WithBot Rat :=
  members.head?.map e.y

/-- Buckets are compared by the tops of their first members. -/
theorem firstBefore_isStrictWeak (e : Extent α Rat) : IsStrictWeak (firstBefore e) := by
  have hkey : firstBefore e = fun l m => decide (firstTop e l < firstTop e m) := by
    funext l m
    rcases l with _ | ⟨a, l⟩ <;> rcases m with _ | ⟨b, m⟩
    · rfl
    · exact (decide_eq_true (WithBot.bot_lt_coe (e.y b))).symm
    · exact (decide_eq_false (WithBot.not_lt_bot _)).symm
    · exact decide_eq_decide.mpr WithBot.coe_lt_coe.symm
  rw [hkey]
  exact isStrictWeak_lt.onKey (firstTop e)

/-- Rounding to a step keeps the order. -/
theorem stepOf_mono {granularity x y : Rat} (h : 0 < granularity) (hle : x ≤ y) :
    stepOf granularity x ≤ stepOf granularity y :=
  pixelOf_mono (div_le_div_of_nonneg_right hle h.le)

/-- What is on a lower step is lower. -/
theorem lt_of_stepOf_lt {granularity x y : Rat} (h : 0 < granularity)
    (hsteps : stepOf granularity x < stepOf granularity y) : x < y := by
  by_contra hle
  exact absurd (stepOf_mono h (not_lt.mp hle)) (not_le.mpr hsteps)

/-- No bucket is empty. -/
theorem grouped_nonempty (number : α → Int) (items : List α) :
    ∀ b ∈ grouped number items, b.2 ≠ [] := by
  induction items using List.reverseRecOn with
  | nil => simp [grouped]
  | append_singleton items item ih =>
      rw [grouped, List.foldl_append]
      exact addToBucket_nonempty (number item) item ih

section Grid

variable (e : Extent α Rat) (granularity : Rat) (items : List α)

/-- The buckets of items, in the order of their first members. -/
def sortedBuckets : List (List α) :=
  sort (firstBefore e) ((grouped (fun a => stepOf granularity (e.y a)) items).map Prod.snd)

/-- The items on the step of a given one. -/
def stepMates (a : α) : List α :=
  items.filter fun b => stepOf granularity (e.y b) = stepOf granularity (e.y a)

variable {e granularity items}

theorem mem_stepMates {a b : α} : b ∈ stepMates e granularity items a ↔
    b ∈ items ∧ stepOf granularity (e.y b) = stepOf granularity (e.y a) := by
  rw [stepMates, List.mem_filter, decide_eq_true_iff]

/-- A bucket is not empty, and holds what is on the step of its members. -/
theorem mem_sortedBuckets {bucket : List α} (h : bucket ∈ sortedBuckets e granularity items) :
    bucket ≠ [] ∧ ∀ a ∈ bucket, bucket = stepMates e granularity items a := by
  rcases List.mem_map.mp (mem_sort _ h) with ⟨b, hb, rfl⟩
  have hmembers := (grouped_buckets _ items).members b hb
  refine ⟨grouped_nonempty _ items b hb, fun a ha => ?_⟩
  rw [hmembers, List.mem_filter, decide_eq_true_iff] at ha
  rw [stepMates, ha.2]
  exact hmembers

/-- No two buckets share a step, wherever sorting puts them. -/
theorem sortedBuckets_apart : (sortedBuckets e granularity items).Pairwise fun l m =>
    ∀ a ∈ l, ∀ b ∈ m, stepOf granularity (e.y a) ≠ stepOf granularity (e.y b) := by
  have hbuckets := grouped_buckets (fun a => stepOf granularity (e.y a)) items
  have hnumber : ∀ bucket ∈ grouped (fun a => stepOf granularity (e.y a)) items,
      ∀ a ∈ bucket.2, stepOf granularity (e.y a) = bucket.1 := by
    intro bucket hbucket a ha
    rw [hbuckets.members bucket hbucket, List.mem_filter, decide_eq_true_iff] at ha
    exact ha.2
  have hgrouped : ((grouped (fun a => stepOf granularity (e.y a)) items).map Prod.snd).Pairwise
      fun l m => ∀ a ∈ l, ∀ b ∈ m, stepOf granularity (e.y a) ≠ stepOf granularity (e.y b) := by
    refine List.pairwise_map.mpr (hbuckets.distinct.imp_of_mem ?_)
    intro b c hb hc hne x hx y hy
    rw [hnumber b hb x hx, hnumber c hc y hy]
    exact hne
  exact hgrouped.perm (sort_perm _ _).symm fun hlm b hb a ha => (hlm a ha b hb).symm

/-- Every bucket lies above the next. First members are in order, so their steps are in
    order, and the steps differ. -/
theorem sortedBuckets_bands (h : 0 < granularity) :
    (sortedBuckets e granularity items).Pairwise fun upper lower =>
      ∀ a ∈ upper, ∀ b ∈ lower, e.y a < e.y b := by
  have hordered : Ordered (firstBefore e) (sortedBuckets e granularity items) :=
    (sort_stable (firstBefore_isStrictWeak e) _).ordered
  refine (hordered.and sortedBuckets_apart).imp_of_mem ?_
  rintro upper lower hupper hlower ⟨hfirst, hapart⟩ a ha b hb
  -- All members of a bucket are on the step of any one of them.
  have hsame : ∀ bucket ∈ sortedBuckets e granularity items, ∀ c ∈ bucket, ∀ d ∈ bucket,
      stepOf granularity (e.y c) = stepOf granularity (e.y d) := by
    intro bucket hbucket c hc d hd
    rw [(mem_sortedBuckets hbucket).2 d hd, mem_stepMates] at hc
    exact hc.2
  rcases upper with _ | ⟨first, upper⟩
  · exact absurd ha List.not_mem_nil
  rcases lower with _ | ⟨second, lower⟩
  · exact absurd hb List.not_mem_nil
  -- Buckets are sorted by their first members, which decide on all others.
  have hle : e.y first ≤ e.y second := not_lt.mp (of_decide_eq_false hfirst)
  have hsteps : stepOf granularity (e.y first) ≤ stepOf granularity (e.y second) :=
    stepOf_mono h hle
  refine lt_of_stepOf_lt h ?_
  rw [hsame _ hupper a ha first List.mem_cons_self, hsame _ hlower b hb second List.mem_cons_self]
  exact lt_of_le_of_ne hsteps (hapart first List.mem_cons_self second List.mem_cons_self)

/-- Sorting the members of the buckets, and the buckets, loses and doubles nothing. -/
theorem flatten_sortedBuckets (e : Extent α Rat) (granularity : Rat) (items : List α) :
    ((sortedBuckets e granularity items).map (sortOn before e.x)).flatten.Perm items :=
  (flatten_sorted before e.x _).trans ((sort_perm _ _).flatten.trans (flatten_grouped _ items))

/-- Items are put into rows, and none is lost or doubled. Two items share a row exactly if
    they are on one step. A row is what is on the step of its members, from left to right
    with ties in the order of the items; no row is empty; and rows lie one below the other,
    every item of a row above every item of the next. -/
theorem bucketRows_bands (e : Extent α Rat) {granularity : Rat} (h : 0 < granularity)
    (items : List α) :
    ∃ rows, bucketRows e granularity items = .ok rows ∧ rows.flatten.Perm items ∧
      (∀ a ∈ items, ∀ b ∈ items, (∃ row ∈ rows, a ∈ row ∧ b ∈ row) ↔
        stepOf granularity (e.y a) = stepOf granularity (e.y b)) ∧
      (∀ row ∈ rows, row ≠ [] ∧ ∀ a ∈ row,
        StablySorted (fun b c => before (e.x b) (e.x c)) (stepMates e granularity items a) row) ∧
      rows.Pairwise fun upper lower => ∀ a ∈ upper, ∀ b ∈ lower, e.y a < e.y b := by
  -- Sorting a bucket keeps its members, so all is settled by what a bucket holds.
  have hmem : ∀ (bucket : List α) (a : α), a ∈ sortOn before e.x bucket ↔ a ∈ bucket :=
    fun bucket a => (sort_perm _ bucket).mem_iff
  have hflatten := flatten_sortedBuckets e granularity items
  refine ⟨_, bucketRows_rat e h.ne' items, hflatten, fun a ha b hb => ⟨?_, fun hsteps => ?_⟩,
    fun row hrow => ?_, ?_⟩
  · rintro ⟨row, hrow, harow, hbrow⟩
    rcases List.mem_map.mp hrow with ⟨bucket, hbucket, rfl⟩
    rw [hmem] at harow hbrow
    rw [(mem_sortedBuckets hbucket).2 b hbrow, mem_stepMates] at harow
    exact harow.2
  · rcases List.mem_flatten.mp (hflatten.symm.subset ha) with ⟨row, hrow, harow⟩
    refine ⟨row, hrow, harow, ?_⟩
    rcases List.mem_map.mp hrow with ⟨bucket, hbucket, rfl⟩
    rw [hmem] at harow ⊢
    rw [(mem_sortedBuckets hbucket).2 a harow, mem_stepMates]
    exact ⟨hb, hsteps.symm⟩
  · rcases List.mem_map.mp hrow with ⟨bucket, hbucket, rfl⟩
    rcases mem_sortedBuckets hbucket with ⟨hne, hmates⟩
    refine ⟨fun hempty => ?_, fun a ha => ?_⟩
    · have hperm := sort_perm (fun a b => before (e.x a) (e.x b)) bucket
      exact hne (List.nil_perm.mp (hempty ▸ hperm))
    · rw [← hmates a ((hmem bucket a).mp ha)]
      exact sortOn_stable before_isStrictWeak e.x bucket
  · refine List.pairwise_map.mpr ((sortedBuckets_bands h).imp fun hbands a ha b hb => ?_)
    exact hbands a ((hmem _ a).mp ha) b ((hmem _ b).mp hb)

end Grid

/-- Names with the places where they stand. -/
def placeExtent : Extent (String × Rat × Rat) Rat :=
  ⟨fun a => a.2.1, fun a => a.2.2, fun _ => 0⟩

/-- Of two names on one step the first in the list is not the highest one, and of two with
    one left edge the first in the list stays first. -/
theorem bucketRows_bands_names :
    0 < (5 : Rat) ∧ ∃ rows,
      bucketRows placeExtent 5 [("d", 0, 40), ("b", 40, 21), ("a", 10, 19), ("c", 40, 18)]
        = .ok rows ∧
      rows = [[("a", 10, 19), ("b", 40, 21), ("c", 40, 18)], [("d", 0, 40)]] ∧
      rows.Pairwise fun upper lower => ∀ a ∈ upper, ∀ b ∈ lower, a.2.2 < b.2.2 := by
  have hpositive : 0 < (5 : Rat) := by norm_num
  rcases bucketRows_bands placeExtent hpositive
    [("d", 0, 40), ("b", 40, 21), ("a", 10, 19), ("c", 40, 18)] with ⟨rows, hrows, -, -, -, hbands⟩
  refine ⟨hpositive, rows, hrows, ?_, hbands⟩
  have hself : bucketRows placeExtent 5
      [("d", 0, 40), ("b", 40, 21), ("a", 10, 19), ("c", 40, 18)]
      = .ok [[("a", 10, 19), ("b", 40, 21), ("c", 40, 18)], [("d", 0, 40)]] := by
    decide +kernel
  exact Except.ok.inj (hrows.symm.trans hself)

/-- Coordinates on one step are less than a step apart. -/
theorem lt_add_of_stepOf_eq {granularity x y : Rat} (h : 0 < granularity)
    (hstep : stepOf granularity x = stepOf granularity y) : y < x + granularity := by
  have hlower : (stepOf granularity x : Rat) ≤ x / granularity + 1 / 2 :=
    Int.floor_le _
  have hupper : y / granularity + 1 / 2 < (stepOf granularity y : Rat) + 1 :=
    Int.lt_floor_add_one _
  rw [← hstep] at hupper
  have hquotient : y / granularity < x / granularity + 1 := by
    linarith
  calc y = y / granularity * granularity := (div_mul_cancel₀ y h.ne').symm
    _ < (x / granularity + 1) * granularity := mul_lt_mul_of_pos_right hquotient h
    _ = x + granularity := by
        rw [add_mul, one_mul, div_mul_cancel₀ x h.ne']

section Steps

variable {e : Extent α Rat} {granularity tolerance : Rat} {items : List α} {a b : α}

/-- Items on one step overlap, if the tolerance is at least a step. -/
theorem overlap_of_stepOf_eq (h : 0 < granularity) (hle : granularity ≤ tolerance)
    (hheights : ∀ c ∈ items, 0 ≤ e.height c) (ha : a ∈ items) (hb : b ∈ items)
    (hstep : stepOf granularity (e.y a) = stepOf granularity (e.y b)) :
    Overlap e tolerance items a b := by
  have htolerance : 0 < tolerance := lt_of_lt_of_le h hle
  have hnear := lt_add_of_stepOf_eq h hstep
  have hnear' := lt_add_of_stepOf_eq h hstep.symm
  have hheight := hheights a ha
  have hheight' := hheights b hb
  rcases le_total (e.y a) (e.y b) with habove | hbelow
  · exact overlap_of_within htolerance ha hb hheight' habove (by linarith)
  · exact (overlap_of_within htolerance hb ha hheight hbelow (by linarith)).symm

open Classical in
/-- What is on the step of an item is a part of what is linked with it. -/
theorem stepMates_sublist (h : 0 < granularity) (hle : granularity ≤ tolerance)
    (hheights : ∀ c ∈ items, 0 ≤ e.height c) (ha : a ∈ items) :
    (stepMates e granularity items a).Sublist
      (items.filter fun b => Linked e tolerance items a b) := by
  have hfilter : stepMates e granularity items a
      = (items.filter fun b => decide (Linked e tolerance items a b)).filter fun b =>
          decide (stepOf granularity (e.y b) = stepOf granularity (e.y a)) := by
    rw [List.filter_filter, stepMates]
    refine List.filter_congr fun b hb => ?_
    by_cases hstep : stepOf granularity (e.y b) = stepOf granularity (e.y a)
    · have hlinked : Linked e tolerance items a b :=
        Relation.ReflTransGen.single (overlap_of_stepOf_eq h hle hheights ha hb hstep.symm)
      rw [decide_eq_true hstep, decide_eq_true hlinked]
      rfl
    · rw [decide_eq_false hstep, Bool.false_and]
  rw [hfilter]
  exact List.filter_sublist

end Steps

/-- Buckets refine clusters. If the step of the grid is no greater than the tolerance, every
    bucket lies within some cluster, with all its members. So any two items that share a
    bucket share a cluster. Both groupings hold all items once. -/
theorem bucketRows_refine (e : Extent α Rat) {granularity tolerance : Rat}
    (h : 0 < granularity) (hle : granularity ≤ tolerance) {items : List α}
    (hheights : ∀ a ∈ items, 0 ≤ e.height a) :
    ∃ buckets, bucketRows e granularity items = .ok buckets ∧ buckets.flatten.Perm items ∧
      ((clusterRows e tolerance items).flatMap Row.items).Perm items ∧
      (∀ bucket ∈ buckets, ∃ row ∈ clusterRows e tolerance items, bucket.Subperm row.items) ∧
      ∀ a b, (∃ bucket ∈ buckets, a ∈ bucket ∧ b ∈ bucket) →
        ∃ row ∈ clusterRows e tolerance items, a ∈ row.items ∧ b ∈ row.items := by
  classical
  have htolerance : 0 < tolerance := lt_of_lt_of_le h hle
  have hclusters := clusterRows_isClustering htolerance hheights
  -- What is on one step with an item is linked with it, since a step is no greater than the
  -- tolerance.
  have hwithin : ∀ bucket ∈ (sortedBuckets e granularity items).map (sortOn before e.x),
      ∃ row ∈ clusterRows e tolerance items, bucket.Subperm row.items := by
    intro sorted hsorted
    rcases List.mem_map.mp hsorted with ⟨bucket, hbucket, rfl⟩
    rcases mem_sortedBuckets hbucket with ⟨hne, hmates⟩
    rcases List.exists_mem_of_ne_nil bucket hne with ⟨a, ha⟩
    have hitem : a ∈ items := by
      rw [hmates a ha, mem_stepMates] at ha
      exact ha.1
    rcases hclusters.exists_row hitem with ⟨row, hrow, harow⟩
    refine ⟨row, hrow, ?_⟩
    have hmembers := hclusters.row_perm htolerance hheights hrow harow
    have hpart := stepMates_sublist h hle hheights hitem
    rw [← hmates a ha] at hpart
    exact (sort_perm _ bucket).subperm.trans (hpart.subperm.trans hmembers.symm.subperm)
  refine ⟨_, bucketRows_rat e h.ne' items, flatten_sortedBuckets e granularity items,
    hclusters.perm, hwithin, ?_⟩
  rintro a b ⟨bucket, hbucket, ha, hb⟩
  rcases hwithin bucket hbucket with ⟨row, hrow, hsubperm⟩
  exact ⟨row, hrow, hsubperm.subset ha, hsubperm.subset hb⟩

/-- Four boxes, two of which lie on either side of a step. -/
def straddlingBoxes : List (String × Rat × Rat × Rat) :=
  [("a", 0, 12, 10), ("c", 0, 60, 0), ("b", 10, 13, 10), ("d", 5, 12, 1)]

/-- The boxes on either side of the step are in two buckets and in one cluster. -/
theorem bucketRows_refine_straddlingBoxes :
    0 < (5 : Rat) ∧ (5 : Rat) ≤ 10 ∧ (∀ a ∈ straddlingBoxes, 0 ≤ boxExtent.height a) ∧
      ∃ buckets, bucketRows boxExtent 5 straddlingBoxes = .ok buckets ∧
        buckets.map (List.map Prod.fst) = [["a", "d"], ["b"], ["c"]] ∧
        (clusterRows boxExtent 10 straddlingBoxes).map (fun row => row.items.map Prod.fst)
          = [["a", "d", "b"], ["c"]] ∧
        ∀ bucket ∈ buckets, ∃ row ∈ clusterRows boxExtent 10 straddlingBoxes,
          bucket.Subperm row.items := by
  have hpositive : 0 < (5 : Rat) := by
    norm_num
  have hle : (5 : Rat) ≤ 10 := by
    norm_num
  have hheights : ∀ a ∈ straddlingBoxes, 0 ≤ boxExtent.height a := by
    decide +kernel
  rcases bucketRows_refine boxExtent hpositive hle hheights with
    ⟨buckets, hbuckets, -, -, hwithin, -⟩
  refine ⟨hpositive, hle, hheights, buckets, hbuckets, ?_, by decide +kernel, hwithin⟩
  have hself : bucketRows boxExtent 5 straddlingBoxes
      = .ok [[("a", 0, 12, 10), ("d", 5, 12, 1)], [("b", 10, 13, 10)], [("c", 0, 60, 0)]] := by
    decide +kernel
  rw [← Except.ok.inj (hself.symm.trans hbuckets)]
  rfl

end Letterpress.Layout
