import Letterpress.Proofs.Layout.Rows
import Mathlib.Data.List.Forall2
import Mathlib.Data.Multiset.Defs
import Mathlib.Logic.Relation
import Mathlib.Order.Bounds.Basic
import Mathlib.Order.Interval.Set.LinearOrder

/-!
# Clusters of Items

An item takes a band of the page, from its top down to a tolerance below it. Rows grow from
top to bottom, and an item is compared with nothing but the lowest edge of the row so far.
That is enough to find the connected components of overlapping bands. Some member reaches
down to the lowest edge, and it starts no lower than the item; so the item overlaps it if it
is admitted. If it is not, then neither it nor any later item reaches up into the row.

What is known of the rows in the end says all about them. They hold the items, their edges
are those of their members, the members are linked by overlaps, and the rows lie apart from
one another. There is only one such grouping, so it does not depend on the order in which the
items are given.

## Main definitions

* `Extent.band`: The band that an item takes.
* `Overlap`, `Linked`: Items whose bands overlap, and chains of them.
* `Row.IsCluster`: A row has the edges of its members, and they are linked.
* `IsClustering`: Rows hold the items as clusters that lie apart.
* `Row.Resembles`: Two rows differ at most in the order of their members.

## Theorems

* `Row.IsCluster.extend`: A cluster that admits an item stays one.
* `growRows_clusters`: Growing rows from a cluster makes clusters that lie apart.
* `clusterRows_isClustering`: Rows are a clustering of the items.
* `IsClustering.shares_iff`: Items share a row exactly if they are linked.
* `IsClustering.resembles`: Items have one clustering, whatever their order.
-/

namespace Letterpress.Layout

variable {α : Type}

section Bands

variable (e : Extent α Rat) (tolerance : Rat)

/-- The lower edge of an item. -/
def Extent.bottom (a : α) : Rat :=
  e.y a + e.height a

/-- The band that an item takes of the page: from its top down to a tolerance below it, the
    lower end left out. -/
def Extent.band (a : α) : Set Rat :=
  Set.Ico (e.y a) (e.y a + e.height a + tolerance)

/-- Both are among the items, and their bands overlap. -/
def Overlap (items : List α) (a b : α) : Prop :=
  a ∈ items ∧ b ∈ items ∧ (e.band tolerance a ∩ e.band tolerance b).Nonempty

/-- There is a chain of items from one to the other in which every band overlaps the next. -/
def Linked (items : List α) : α → α → Prop :=
  Relation.ReflTransGen (Overlap e tolerance items)

variable {e tolerance} {items others : List α} {a b : α}

theorem Overlap.symm (h : Overlap e tolerance items a b) : Overlap e tolerance items b a :=
  ⟨h.2.1, h.1, Set.inter_comm _ _ ▸ h.2.2⟩

theorem Overlap.mono (hsub : items ⊆ others) (h : Overlap e tolerance items a b) :
    Overlap e tolerance others a b :=
  ⟨hsub h.1, hsub h.2.1, h.2.2⟩

/-- What overlaps a band starts before its end. -/
theorem Overlap.lt (h : Overlap e tolerance items a b) :
    e.y b < e.y a + e.height a + tolerance := by
  rcases h.2.2 with ⟨z, ha, hb⟩
  exact lt_of_le_of_lt hb.1 ha.2

/-- An item that starts within the band of a higher one overlaps it. -/
theorem overlap_of_within (htolerance : 0 < tolerance) (ha : a ∈ items) (hb : b ∈ items)
    (hheight : 0 ≤ e.height b) (hle : e.y a ≤ e.y b)
    (hlt : e.y b < e.y a + e.height a + tolerance) : Overlap e tolerance items a b := by
  have hown : e.y b < e.y b + e.height b + tolerance := by
    linarith
  exact ⟨ha, hb, e.y b, ⟨hle, hlt⟩, ⟨le_refl _, hown⟩⟩

/-- An item overlaps itself. -/
theorem overlap_self (htolerance : 0 < tolerance) (ha : a ∈ items) (hheight : 0 ≤ e.height a) :
    Overlap e tolerance items a a :=
  overlap_of_within htolerance ha ha hheight (le_refl _) (by linarith)

/-- A chain can be walked back. -/
theorem Linked.symm (h : Linked e tolerance items a b) : Linked e tolerance items b a := by
  induction h with
  | refl => exact Relation.ReflTransGen.refl
  | tail _ hoverlap ih => exact ih.head hoverlap.symm

theorem Linked.mono (hsub : items ⊆ others) (h : Linked e tolerance items a b) :
    Linked e tolerance others a b :=
  Relation.ReflTransGen.mono (fun _ _ hoverlap => hoverlap.mono hsub) _ _ h

end Bands

section Growing

variable {e : Extent α Rat} {tolerance : Rat}

/-- The edges of a row are the highest top and the lowest bottom of its members, and all its
    members are linked with one another. -/
structure Row.IsCluster (e : Extent α Rat) (tolerance : Rat) (row : Row α Rat) : Prop where
  top : IsLeast (e.y '' {a | a ∈ row.items}) row.y
  bottom : IsGreatest (e.bottom '' {a | a ∈ row.items}) row.bottom
  linked : ∀ a ∈ row.items, ∀ b ∈ row.items, Linked e tolerance row.items a b

theorem isCluster_single (a : α) : (Row.single e a).IsCluster e tolerance := by
  have hmembers : {b | b ∈ (Row.single e a).items} = {a} := by
    ext b
    exact List.mem_singleton
  refine ⟨?_, ?_, fun b hb c hc => ?_⟩
  · rw [hmembers, Set.image_singleton]
    exact isLeast_singleton
  · rw [hmembers, Set.image_singleton]
    exact isGreatest_singleton
  · rw [List.mem_singleton.mp hb, List.mem_singleton.mp hc]
    exact Relation.ReflTransGen.refl

/-- The lower edge of a row with one more item. -/
theorem bottom_extend (row : Row α Rat) (item : α) :
    (row.extend e item).bottom = max row.bottom (e.bottom item) := by
  have hself : row.y + (e.y item - row.y + e.height item) = e.bottom item := by
    rw [Extent.bottom]
    ring
  change row.y + Scalar.larger row.height (e.y item - row.y + e.height item) = _
  rw [Scalar.larger]
  by_cases hlt : row.height < e.y item - row.y + e.height item
  · rw [if_pos hlt, hself, max_eq_right]
    rw [← hself]
    exact (add_lt_add_right hlt row.y).le
  · rw [if_neg hlt, max_eq_left]
    · rfl
    · rw [← hself]
      exact add_le_add_right (not_lt.mp hlt) row.y

/-- A cluster that admits an item below the tops of its members stays a cluster. The member
    that reaches down to the lower edge overlaps the item, and so all others are linked with
    it. -/
theorem Row.IsCluster.extend {row : Row α Rat} (h : row.IsCluster e tolerance)
    (htolerance : 0 < tolerance) {item : α} (hheight : 0 ≤ e.height item)
    (habove : ∀ a ∈ row.items, e.y a ≤ e.y item)
    (hadmits : row.admits e tolerance item = true) :
    (row.extend e item).IsCluster e tolerance := by
  have hadmitted : e.y item < row.bottom + tolerance := of_decide_eq_true hadmits
  have hold : row.items ⊆ row.items ++ [item] := List.subset_append_left row.items [item]
  have hitem : item ∈ row.items ++ [item] := List.mem_append_right _ List.mem_cons_self
  rcases h.top with ⟨⟨first, hfirst, htop⟩, hleast⟩
  rcases h.bottom with ⟨⟨last, hlast, hbottom⟩, hgreatest⟩
  -- The top stays, the bottom may move down, and all members stay linked.
  refine ⟨⟨⟨first, hold hfirst, htop⟩, ?_⟩, ?_, ?_⟩
  · rintro - ⟨a, ha, rfl⟩
    rcases List.mem_append.mp ha with hmember | hnew
    · exact hleast ⟨a, hmember, rfl⟩
    · rw [List.mem_singleton.mp hnew]
      exact htop.symm.le.trans (habove first hfirst)
  · rw [bottom_extend]
    refine ⟨?_, ?_⟩
    · rcases max_choice row.bottom (e.bottom item) with hmax | hmax
      · exact ⟨last, hold hlast, hbottom.trans hmax.symm⟩
      · exact ⟨item, hitem, hmax.symm⟩
    · rintro - ⟨a, ha, rfl⟩
      rcases List.mem_append.mp ha with hmember | hnew
      · exact le_max_of_le_left (hgreatest ⟨a, hmember, rfl⟩)
      · rw [List.mem_singleton.mp hnew]
        exact le_max_right _ _
  -- Any member is linked with the lowest one, and that one overlaps the item.
  · have hlink : ∀ a ∈ row.items, Linked e tolerance (row.items ++ [item]) a item := by
      intro a ha
      refine ((h.linked a ha last hlast).mono hold).tail ?_
      refine overlap_of_within htolerance (hold hlast) hitem hheight (habove last hlast) ?_
      rw [← hbottom] at hadmitted
      exact hadmitted
    intro a ha b hb
    rcases List.mem_append.mp ha with ha | ha <;> rcases List.mem_append.mp hb with hb | hb
    · exact (h.linked a ha b hb).mono hold
    · rw [List.mem_singleton.mp hb]
      exact hlink a ha
    · rw [List.mem_singleton.mp ha]
      exact (hlink b hb).symm
    · rw [List.mem_singleton.mp ha, List.mem_singleton.mp hb]
      exact Relation.ReflTransGen.refl

/-- Growing rows leaves the items in their order. -/
theorem growRows_items {K : Type} [Scalar K] (e : Extent α K) (tolerance : K) (row : Row α K)
    (items : List α) : (growRows e tolerance row items).flatMap Row.items = row.items ++ items := by
  induction items generalizing row with
  | nil => rw [growRows, List.flatMap_singleton, List.append_nil]
  | cons item rest ih =>
      rw [growRows]
      split
      · rw [ih, Row.extend, List.append_assoc]
        rfl
      · rw [List.flatMap_cons, ih]
        rfl

/-- Growing rows from a cluster makes clusters, and they lie apart. The induction is on the
    items that are left, all of them at or below the members of the row being filled. -/
theorem growRows_clusters (htolerance : 0 < tolerance) {row : Row α Rat}
    (hrow : row.IsCluster e tolerance) {items : List α}
    (hheights : ∀ a ∈ items, 0 ≤ e.height a)
    (hsorted : (row.items ++ items).Pairwise fun a b => e.y a ≤ e.y b) :
    (∀ r ∈ growRows e tolerance row items, r.IsCluster e tolerance) ∧
      (growRows e tolerance row items).Pairwise fun upper lower =>
        upper.bottom + tolerance ≤ lower.y := by
  induction items generalizing row with
  | nil => exact ⟨List.forall_mem_singleton.mpr hrow, List.pairwise_singleton _ row⟩
  | cons item rest ih =>
      rw [List.forall_mem_cons] at hheights
      have habove : ∀ a ∈ row.items, e.y a ≤ e.y item := fun a ha =>
        (List.pairwise_append.mp hsorted).2.2 a ha item List.mem_cons_self
      rw [growRows]
      by_cases hadmits : row.admits e tolerance item = true
      · rw [if_pos hadmits]
        refine ih (hrow.extend htolerance hheights.1 habove hadmits) hheights.2 ?_
        change ((row.items ++ [item]) ++ rest).Pairwise _
        rw [List.append_assoc]
        exact hsorted
      · rw [if_neg hadmits]
        have hrest : (item :: rest).Pairwise fun a b => e.y a ≤ e.y b :=
          (List.pairwise_append.mp hsorted).2.1
        rcases ih (isCluster_single item) hheights.2 hrest with ⟨hclusters, hapart⟩
        refine ⟨List.forall_mem_cons.mpr ⟨hrow, hclusters⟩,
          List.pairwise_cons.mpr ⟨fun lower hlower => ?_, hapart⟩⟩
        -- A lower row starts with some item that is left, none of which is above this one.
        rcases (hclusters lower hlower).top.1 with ⟨a, ha, hy⟩
        have hleft : a ∈ item :: rest := by
          have hflat := growRows_items e tolerance (Row.single e item) rest
          rw [← List.singleton_append, ← show (Row.single e item).items = [item] from rfl, ← hflat]
          exact List.mem_flatMap.mpr ⟨lower, hlower, ha⟩
        have hstart : e.y item ≤ e.y a := by
          rcases List.mem_cons.mp hleft with rfl | hlater
          · exact le_refl _
          · exact List.rel_of_pairwise_cons hrest hlater
        have hend : row.bottom + tolerance ≤ e.y item :=
          not_lt.mp fun hlt => hadmits (decide_eq_true hlt)
        exact hy ▸ hend.trans hstart

end Growing

/-- The rows hold the items, each row is a cluster, and the rows lie apart from one another,
    from top to bottom. -/
structure IsClustering (e : Extent α Rat) (tolerance : Rat) (items : List α)
    (rows : List (Row α Rat)) : Prop where
  perm : (rows.flatMap Row.items).Perm items
  clusters : ∀ row ∈ rows, row.IsCluster e tolerance
  apart : rows.Pairwise fun upper lower => upper.bottom + tolerance ≤ lower.y

section Sorting

/-- The row with its members from left to right. -/
def Row.sorted {K : Type} [Scalar K] (e : Extent α K) (row : Row α K) : Row α K :=
  { row with items := sortOn before e.x row.items }

/-- The rows before their members are sorted. -/
def grownRows {K : Type} [Scalar K] (e : Extent α K) (tolerance : K) (items : List α) :
    List (Row α K) :=
  match sortOn before e.y items with
  | [] => []
  | first :: rest => growRows e tolerance (Row.single e first) rest

theorem clusterRows_eq {K : Type} [Scalar K] (e : Extent α K) (tolerance : K) (items : List α) :
    clusterRows e tolerance items = (grownRows e tolerance items).map (Row.sorted e) :=
  rfl

/-- Rows hold all items once, whatever their places are. -/
theorem clusterRows_perm {K : Type} [Scalar K] (e : Extent α K) (tolerance : K)
    (items : List α) : ((clusterRows e tolerance items).flatMap Row.items).Perm items := by
  have hgrown : (grownRows e tolerance items).flatMap Row.items = sortOn before e.y items := by
    rw [grownRows]
    cases sortOn before e.y items with
    | nil => rfl
    | cons first rest => exact growRows_items e tolerance (Row.single e first) rest
  have hsorted : ∀ rows : List (Row α K),
      ((rows.map (Row.sorted e)).flatMap Row.items).Perm (rows.flatMap Row.items) := by
    intro rows
    induction rows with
    | nil => exact List.Perm.refl []
    | cons row rows ih => exact (sort_perm _ row.items).append ih
  rw [clusterRows_eq]
  refine (hsorted _).trans ?_
  rw [hgrown]
  exact sort_perm _ items

theorem sortOn_pairwise (key : α → Rat) (items : List α) :
    (sortOn before key items).Pairwise fun a b => key a ≤ key b :=
  (sortOn_stable before_isStrictWeak key items).ordered.imp fun hle =>
    not_lt.mp (of_decide_eq_false hle)

/-- Sorting its members does not make another cluster of a row. -/
theorem Row.IsCluster.sorted {e : Extent α Rat} {tolerance : Rat} {row : Row α Rat}
    (h : row.IsCluster e tolerance) : (row.sorted e).IsCluster e tolerance := by
  have hmem : ∀ a, a ∈ (row.sorted e).items ↔ a ∈ row.items :=
    fun a => (sort_perm _ row.items).mem_iff
  have hmembers : {a | a ∈ (row.sorted e).items} = {a | a ∈ row.items} :=
    Set.ext hmem
  refine ⟨?_, ?_, fun a ha b hb => ?_⟩
  · rw [hmembers]
    exact h.top
  · rw [hmembers]
    exact h.bottom
  · exact (h.linked a ((hmem a).mp ha) b ((hmem b).mp hb)).mono fun c hc => (hmem c).mpr hc

/-- The rows of items are a clustering of them. -/
theorem clusterRows_isClustering {e : Extent α Rat} {tolerance : Rat} (htolerance : 0 < tolerance)
    {items : List α} (hheights : ∀ a ∈ items, 0 ≤ e.height a) :
    IsClustering e tolerance items (clusterRows e tolerance items) := by
  -- Rows are grown from items in the order of their tops, and sorted in themselves afterwards.
  have hgrown : (∀ r ∈ grownRows e tolerance items, r.IsCluster e tolerance) ∧
      (grownRows e tolerance items).Pairwise fun upper lower =>
        upper.bottom + tolerance ≤ lower.y := by
    have hsorted := sortOn_pairwise e.y items
    have hall : ∀ a ∈ sortOn before e.y items, 0 ≤ e.height a :=
      fun a ha => hheights a ((sort_perm _ items).subset ha)
    rw [grownRows]
    cases hcases : sortOn before e.y items with
    | nil => exact ⟨by simp, List.Pairwise.nil⟩
    | cons first rest =>
        rw [hcases] at hsorted hall
        exact growRows_clusters htolerance (isCluster_single first)
          (fun a ha => hall a (List.mem_cons_of_mem first ha)) hsorted
  refine ⟨clusterRows_perm e tolerance items, fun row hrow => ?_, ?_⟩
  · rw [clusterRows_eq] at hrow
    rcases List.mem_map.mp hrow with ⟨r, hr, rfl⟩
    exact (hgrown.1 r hr).sorted
  · rw [clusterRows_eq]
    exact List.pairwise_map.mpr hgrown.2

end Sorting

/-- Two rows differ at most in the order of their members. -/
structure Row.Resembles (row other : Row α Rat) : Prop where
  y : row.y = other.y
  height : row.height = other.height
  items : row.items.Perm other.items

/-- A row without the order of its members. -/
def Row.view (row : Row α Rat) : Rat × Rat × Multiset α :=
  (row.y, row.height, row.items)

theorem Row.view_eq_iff {row other : Row α Rat} :
    row.view = other.view ↔ row.Resembles other := by
  simp only [Row.view, Prod.mk.injEq, Multiset.coe_eq_coe]
  exact ⟨fun ⟨hy, hheight, hitems⟩ => ⟨hy, hheight, hitems⟩,
    fun h => ⟨h.y, h.height, h.items⟩⟩

section Components

variable {e : Extent α Rat} {tolerance : Rat} {items others : List α}
  {rows : List (Row α Rat)} {row row' : Row α Rat} {a b : α}

theorem IsClustering.mem (h : IsClustering e tolerance items rows) (hrow : row ∈ rows)
    (ha : a ∈ row.items) : a ∈ items :=
  h.perm.subset (List.mem_flatMap.mpr ⟨row, hrow, ha⟩)

/-- Every item has a row. -/
theorem IsClustering.exists_row (h : IsClustering e tolerance items rows) (ha : a ∈ items) :
    ∃ row ∈ rows, a ∈ row.items :=
  List.mem_flatMap.mp (h.perm.symm.subset ha)

/-- Members of a row end before anything in a lower row starts. -/
theorem Row.IsCluster.not_overlap (hupper : row.IsCluster e tolerance)
    (hlower : row'.IsCluster e tolerance) (hapart : row.bottom + tolerance ≤ row'.y)
    (ha : a ∈ row.items) (hb : b ∈ row'.items) : ¬ Overlap e tolerance items a b := by
  intro hoverlap
  have hend : e.bottom a ≤ row.bottom := hupper.bottom.2 ⟨a, ha, rfl⟩
  have hstart : row'.y ≤ e.y b := hlower.top.2 ⟨b, hb, rfl⟩
  have hlt : e.y b < e.bottom a + tolerance := hoverlap.lt
  linarith

/-- Items that overlap are in one row. -/
theorem IsClustering.eq_of_overlap (h : IsClustering e tolerance items rows) (hrow : row ∈ rows)
    (hrow' : row' ∈ rows) (ha : a ∈ row.items) (hb : b ∈ row'.items)
    (hoverlap : Overlap e tolerance items a b) : row = row' := by
  by_contra hne
  -- One of the two rows is above the other.
  have hsides : row.bottom + tolerance ≤ row'.y ∨ row'.bottom + tolerance ≤ row.y := by
    have hpairs := h.apart.imp (S := fun r s : Row α Rat =>
      r = s ∨ r.bottom + tolerance ≤ s.y ∨ s.bottom + tolerance ≤ r.y) fun hle => Or.inr (.inl hle)
    have hall := hpairs.forall_of_forall_of_flip (by simp) (hpairs.imp fun hrel => by tauto)
    exact (hall hrow hrow').resolve_left hne
  rcases hsides with habove | hbelow
  · exact (h.clusters row hrow).not_overlap (h.clusters row' hrow') habove ha hb hoverlap
  · exact (h.clusters row' hrow').not_overlap (h.clusters row hrow) hbelow hb ha hoverlap.symm

/-- The members of a row are the items that are linked with any of them. -/
theorem IsClustering.mem_iff_linked (h : IsClustering e tolerance items rows) (hrow : row ∈ rows)
    (ha : a ∈ row.items) : b ∈ row.items ↔ Linked e tolerance items a b := by
  refine ⟨fun hmember => ?_, fun hlinked => ?_⟩
  · exact ((h.clusters row hrow).linked a ha b hmember).mono fun c hc => h.mem hrow hc
  · -- No overlap along the chain leaves the row.
    induction hlinked with
    | refl => exact ha
    | tail _ hoverlap ih =>
        rcases h.exists_row hoverlap.2.1 with ⟨other, hother, hc⟩
        rw [h.eq_of_overlap hrow hother ih hc hoverlap]
        exact hc

/-- Items share a row exactly if they are linked. -/
theorem IsClustering.shares_iff (h : IsClustering e tolerance items rows) (ha : a ∈ items) :
    (∃ row ∈ rows, a ∈ row.items ∧ b ∈ row.items) ↔ Linked e tolerance items a b := by
  refine ⟨?_, fun hlinked => ?_⟩
  · rintro ⟨row, hrow, harow, hbrow⟩
    exact (h.mem_iff_linked hrow harow).mp hbrow
  · rcases h.exists_row ha with ⟨row, hrow, harow⟩
    exact ⟨row, hrow, harow, (h.mem_iff_linked hrow harow).mpr hlinked⟩

open Classical in
/-- A row holds what is linked with any of its members, as often as the items do. -/
theorem IsClustering.row_perm (h : IsClustering e tolerance items rows)
    (htolerance : 0 < tolerance) (hheights : ∀ c ∈ items, 0 ≤ e.height c) (hrow : row ∈ rows)
    (ha : a ∈ row.items) :
    row.items.Perm (items.filter fun b => Linked e tolerance items a b) := by
  rcases List.append_of_mem hrow with ⟨above, below, rfl⟩
  have hsplit := List.pairwise_append.mp h.apart
  have hself : ∀ c ∈ row.items, Overlap e tolerance items c c := fun c hc =>
    overlap_self htolerance (h.mem hrow hc) (hheights c (h.mem hrow hc))
  -- Rows above and below share no item with this one, for it would overlap itself across them.
  have hnone : ∀ part : List (Row α Rat), (∀ r ∈ part, ∀ c ∈ r.items, c ∉ row.items) →
      (part.flatMap Row.items).filter (fun b => decide (Linked e tolerance items a b)) = [] := by
    intro part hpart
    refine List.filter_eq_nil_iff.mpr fun c hc hlinked => ?_
    rcases List.mem_flatMap.mp hc with ⟨r, hr, hcr⟩
    exact hpart r hr c hcr ((h.mem_iff_linked hrow ha).mpr (of_decide_eq_true hlinked))
  have habove := hnone above fun upper hupper c hcupper hcrow =>
    (h.clusters upper (List.mem_append_left _ hupper)).not_overlap (h.clusters row hrow)
      (hsplit.2.2 upper hupper row List.mem_cons_self) hcupper hcrow (hself c hcrow)
  have hbelow := hnone below fun lower hlower c hclower hcrow =>
    (h.clusters row hrow).not_overlap
      (h.clusters lower (List.mem_append_right _ (List.mem_cons_of_mem _ hlower)))
      (List.rel_of_pairwise_cons hsplit.2.1 hlower) hcrow hclower (hself c hcrow)
  have hown : row.items.filter (fun b => decide (Linked e tolerance items a b)) = row.items :=
    List.filter_eq_self.mpr fun c hc => decide_eq_true ((h.mem_iff_linked hrow ha).mp hc)
  have hfilter := h.perm.filter fun b => decide (Linked e tolerance items a b)
  rw [List.flatMap_append, List.flatMap_cons, List.filter_append, List.filter_append, habove,
    hbelow, hown, List.nil_append, List.append_nil] at hfilter
  exact hfilter

/-- Every row of a clustering is a row of any other one, up to the order of its members. -/
theorem IsClustering.exists_resembling {rows' : List (Row α Rat)}
    (h : IsClustering e tolerance items rows) (h' : IsClustering e tolerance others rows')
    (htolerance : 0 < tolerance) (hheights : ∀ c ∈ items, 0 ≤ e.height c)
    (hothers : items.Perm others) (hrow : row ∈ rows) :
    ∃ row' ∈ rows', row.Resembles row' := by
  classical
  -- A row is found by one of its members, and it is what is linked with that member.
  rcases (h.clusters row hrow).top.1 with ⟨a, ha, -⟩
  rcases h'.exists_row (hothers.subset (h.mem hrow ha)) with ⟨row', hrow', ha'⟩
  have hlinked : ∀ b, Linked e tolerance items a b ↔ Linked e tolerance others a b := fun b =>
    ⟨Linked.mono hothers.subset, Linked.mono hothers.symm.subset⟩
  have hperm : row.items.Perm row'.items := by
    have hfirst := h.row_perm htolerance hheights hrow ha
    have hsecond := h'.row_perm htolerance
      (fun c hc => hheights c (hothers.symm.subset hc)) hrow' ha'
    refine hfirst.trans (((hothers.filter _).trans ?_).trans hsecond.symm)
    simp only [hlinked]
    exact List.Perm.refl _
  -- The edges of a row are determined by its members.
  have hmembers : {c | c ∈ row.items} = {c | c ∈ row'.items} :=
    Set.ext fun c => hperm.mem_iff
  have htop := (h.clusters row hrow).top
  have hbottom := (h.clusters row hrow).bottom
  rw [hmembers] at htop hbottom
  have hy : row.y = row'.y := htop.unique (h'.clusters row' hrow').top
  have hlow : row.y + row.height = row'.y + row'.height :=
    hbottom.unique (h'.clusters row' hrow').bottom
  exact ⟨row', hrow', hy, by linarith, hperm⟩

/-- Rows of a clustering are in strict order from top to bottom. -/
theorem IsClustering.ordered (h : IsClustering e tolerance items rows)
    (htolerance : 0 < tolerance) (hheights : ∀ c ∈ items, 0 ≤ e.height c) :
    rows.Pairwise fun upper lower => upper.y < lower.y := by
  refine h.apart.imp_of_mem fun {upper lower} hupper _ hapart => ?_
  rcases (h.clusters upper hupper).top.1 with ⟨a, ha, htop⟩
  have hbottom : e.bottom a ≤ upper.bottom := (h.clusters upper hupper).bottom.2 ⟨a, ha, rfl⟩
  have hheight := hheights a (h.mem hupper ha)
  rw [Extent.bottom] at hbottom
  linarith

/-- The rows of a clustering are seen in any other one. -/
theorem IsClustering.views_subset {rows' : List (Row α Rat)}
    (h : IsClustering e tolerance items rows) (h' : IsClustering e tolerance others rows')
    (htolerance : 0 < tolerance) (hheights : ∀ c ∈ items, 0 ≤ e.height c)
    (hothers : items.Perm others) : rows.map Row.view ⊆ rows'.map Row.view := by
  intro v hv
  rcases List.mem_map.mp hv with ⟨r, hr, rfl⟩
  rcases h.exists_resembling h' htolerance hheights hothers hr with ⟨s, hs, hresembles⟩
  exact List.mem_map.mpr ⟨s, hs, (Row.view_eq_iff.mpr hresembles).symm⟩

/-- Items have one clustering, in whatever order they are given. Its rows are in strict order
    from top to bottom, and so two clusterings list the same rows in the same order. -/
theorem IsClustering.resembles {rows' : List (Row α Rat)}
    (h : IsClustering e tolerance items rows) (h' : IsClustering e tolerance others rows')
    (htolerance : 0 < tolerance) (hheights : ∀ c ∈ items, 0 ≤ e.height c)
    (hothers : items.Perm others) : List.Forall₂ Row.Resembles rows rows' := by
  have hheights' : ∀ c ∈ others, 0 ≤ e.height c := fun c hc =>
    hheights c (hothers.symm.subset hc)
  have hsorted : (rows.map Row.view).Pairwise fun v w => v.1 < w.1 :=
    List.pairwise_map.mpr (h.ordered htolerance hheights)
  have hsorted' : (rows'.map Row.view).Pairwise fun v w => v.1 < w.1 :=
    List.pairwise_map.mpr (h'.ordered htolerance hheights')
  -- A strict order forbids a row to occur twice, and so having the same rows is enough for a
  -- permutation, and the order for equality.
  have hnodup : ∀ views : List (Rat × Rat × Multiset α),
      views.Pairwise (fun v w => v.1 < w.1) → views.Nodup := fun views hviews =>
    hviews.imp fun hlt heq => absurd (heq ▸ hlt) (lt_irrefl _)
  have hperm : (rows.map Row.view).Perm (rows'.map Row.view) := by
    refine (List.perm_ext_iff_of_nodup (hnodup _ hsorted) (hnodup _ hsorted')).mpr fun v => ?_
    exact ⟨fun hv => h.views_subset h' htolerance hheights hothers hv,
      fun hv => h'.views_subset h htolerance hheights' hothers.symm hv⟩
  have hsame : rows.map Row.view = rows'.map Row.view :=
    hperm.eq_of_pairwise (fun v w _ _ hvw hwv => absurd hvw (lt_asymm hwv)) hsorted hsorted'
  rw [← List.forall₂_eq_eq_eq, List.forall₂_map_left_iff, List.forall₂_map_right_iff] at hsame
  exact hsame.imp fun r s hr => Row.view_eq_iff.mp hr

end Components

/-- Names with the boxes that they take: the left edge, the top and the height. -/
def boxExtent : Extent (String × Rat × Rat × Rat) Rat :=
  ⟨fun a => a.2.1, fun a => a.2.2.1, fun a => a.2.2.2⟩

end Letterpress.Layout
