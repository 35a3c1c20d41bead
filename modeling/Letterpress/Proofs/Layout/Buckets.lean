import Letterpress.Layout.Row
import Letterpress.Proofs.Layout.Images
import Letterpress.Proofs.Layout.Sorting
import Letterpress.Proofs.Number.Exact
import Letterpress.Proofs.Session

/-!
# Buckets of Items

With exact arithmetic every coordinate has its step of the grid, unless the grid has no
steps at all. The rows of a table then depend on the places of its texts in two ways
only: which texts share a step, and which of two texts comes before the other. So they
stay what they are when the texts are replaced by others with the same answers.

## Main definitions

* `stepOf`: The step of a grid that a coordinate rounds to.
* `grouped`: The buckets of items with given numbers.
* `Extent.OrderedAs`: Items and their images are in the same order.

## Theorems

* `bucketRows_ok`, `bucketRows_rat`: Rows are grouped by steps and then sorted.
* `grouped_map`: Groups of images are images of groups.
* `bucketRows_map`: Rows of images are images of rows.
-/

namespace Letterpress.Layout

variable {α β : Type}

/-- Comparing rationals is a strict linear preorder. -/
theorem before_isStrictWeak : IsStrictWeak (before (K := Rat)) :=
  isStrictWeak_lt

/-- The step of a grid that a rational rounds to. -/
def stepOf (granularity y : Rat) : Int :=
  pixelOf (y / granularity)

theorem bucketNumber_rat {granularity : Rat} (h : granularity ≠ 0) (y : Rat) :
    bucketNumber granularity y = .ok (stepOf granularity y) := by
  have hdivide : Scalar.divide? y granularity = .ok (y / granularity) :=
    if_neg (by simpa [Scalar.isZero, Scalar.reading] using h)
  rw [bucketNumber, hdivide]
  exact roundHalfUp_rat (y / granularity)

/-- The buckets of a list of items, each with its number, in order of their first
    members. -/
def grouped (number : α → Int) (items : List α) : List (Int × List α) :=
  items.foldl (fun buckets item => addToBucket (number item) item buckets) []

section Filling

variable {K : Type} [Scalar K] {e : Extent α K} {granularity : K} {number : α → Int}
  {items : List α}

theorem fillBuckets_ok
    (h : ∀ item ∈ items, bucketNumber granularity (e.y item) = .ok (number item))
    (buckets : List (Int × List α)) :
    fillBuckets e granularity items buckets = .ok (items.foldl
      (fun buckets item => addToBucket (number item) item buckets) buckets) := by
  induction items generalizing buckets with
  | nil => rfl
  | cons item rest ih =>
      rw [List.forall_mem_cons] at h
      rw [fillBuckets, h.1, List.foldl_cons]
      exact ih h.2 _

/-- The rows are grouped by the steps of their items and then sorted. -/
theorem bucketRows_ok
    (h : ∀ item ∈ items, bucketNumber granularity (e.y item) = .ok (number item)) :
    bucketRows e granularity items = .ok ((sort (firstBefore e)
      ((grouped number items).map Prod.snd)).map (sortOn before e.x)) := by
  rw [bucketRows, fillBuckets_ok h]
  rfl

end Filling

/-- With exact coordinates every item has a step. -/
theorem bucketRows_rat (e : Extent α Rat) {granularity : Rat} (h : granularity ≠ 0)
    (items : List α) :
    bucketRows e granularity items = .ok ((sort (firstBefore e)
      ((grouped (fun a => stepOf granularity (e.y a)) items).map Prod.snd)).map
        (sortOn before e.x)) :=
  bucketRows_ok fun item _ => bucketNumber_rat h (e.y item)

section Images

variable {f : α → β} {items : List α}

/-- A bucket holds the images of another. Their numbers are those of the same items. -/
structure IsImageBucket (f : α → β) (items : List α) (number : α → Int) (number' : β → Int)
    (bucket : Int × List α) (image : Int × List β) : Prop where
  members : image.2 = bucket.2.map f
  numbers : ∀ a ∈ items, number' (f a) = image.1 ↔ number a = bucket.1

variable {number : α → Int} {number' : β → Int}

theorem addToBucket_images
    (hnumbers : ∀ a ∈ items, ∀ b ∈ items, number' (f a) = number' (f b) ↔ number a = number b)
    {a : α} (ha : a ∈ items) {buckets : List (Int × List α)} {images : List (Int × List β)}
    (h : List.Forall₂ (IsImageBucket f items number number') buckets images) :
    List.Forall₂ (IsImageBucket f items number number') (addToBucket (number a) a buckets)
      (addToBucket (number' (f a)) (f a) images) := by
  induction h with
  | nil => exact .cons ⟨rfl, fun b hb => hnumbers b hb a ha⟩ .nil
  | @cons bucket image buckets images hfirst hrest ih =>
      rcases bucket with ⟨n, members⟩
      rcases image with ⟨n', members'⟩
      have hsame := hfirst.numbers a ha
      rw [addToBucket, addToBucket]
      -- Both add to the bucket at hand, or neither does.
      by_cases hn : n = number a
      · rw [if_pos hn, if_pos (hsame.mpr hn.symm).symm]
        refine .cons ⟨?_, hfirst.numbers⟩ hrest
        rw [List.map_append, ← hfirst.members]
        rfl
      · rw [if_neg hn, if_neg fun hn' => hn (hsame.mp hn'.symm).symm]
        exact .cons hfirst ih

/-- Groups of images are images of groups, if the same items have the same number. -/
theorem grouped_map
    (hnumbers : ∀ a ∈ items, ∀ b ∈ items, number' (f a) = number' (f b) ↔ number a = number b) :
    (grouped number' (items.map f)).map Prod.snd
      = ((grouped number items).map Prod.snd).map (List.map f) := by
  -- The numbers are compared over all items, while the buckets fill up one by one.
  have hfilled : ∀ rest : List α, (∀ a ∈ rest, a ∈ items) →
      ∀ {buckets images}, List.Forall₂ (IsImageBucket f items number number') buckets images →
        List.Forall₂ (IsImageBucket f items number number')
          (rest.foldl (fun bs a => addToBucket (number a) a bs) buckets)
          ((rest.map f).foldl (fun bs b => addToBucket (number' b) b bs) images) := by
    intro rest hrest
    induction rest with
    | nil => exact fun h => h
    | cons a rest ih =>
        intro buckets images h
        rw [List.forall_mem_cons] at hrest
        exact ih hrest.2 (addToBucket_images hnumbers hrest.1 h)
  have hmembers : ∀ {buckets : List (Int × List α)} {images : List (Int × List β)},
      List.Forall₂ (IsImageBucket f items number number') buckets images →
        images.map Prod.snd = (buckets.map Prod.snd).map (List.map f) := by
    intro buckets images h
    induction h with
    | nil => rfl
    | cons hfirst _ ih => rw [List.map_cons, List.map_cons, List.map_cons, ih, hfirst.members]
  exact hmembers (hfilled items (fun _ h => h) .nil)

/-- Of two items, the one that comes first is the one whose image does. -/
structure Extent.OrderedAs (e' : Extent β Rat) (e : Extent α Rat) (f : α → β) : Prop where
  x : ∀ a b, before (e'.x (f a)) (e'.x (f b)) = before (e.x a) (e.x b)
  y : ∀ a b, before (e'.y (f a)) (e'.y (f b)) = before (e.y a) (e.y b)

/-- Rows of images are images of rows, if the images share steps like the items and are in
    the same order. -/
theorem bucketRows_map {e' : Extent β Rat} {e : Extent α Rat} (horder : e'.OrderedAs e f)
    {granularity : Rat}
    (hsteps : ∀ a ∈ items, ∀ b ∈ items,
      stepOf granularity (e'.y (f a)) = stepOf granularity (e'.y (f b)) ↔
        stepOf granularity (e.y a) = stepOf granularity (e.y b)) :
    bucketRows e' granularity (items.map f)
      = List.map (List.map f) <$> bucketRows e granularity items := by
  -- Without a grid there are no rows, except of no items.
  by_cases hzero : granularity = 0
  · subst hzero
    cases items with
    | nil =>
        have hnone : ∀ {γ : Type} (e : Extent γ Rat), bucketRows e 0 [] = .ok [] := by
          intro γ e
          rw [bucketRows, fillBuckets]
          change Except.ok ((sort (firstBefore e) []).map _) = _
          rw [List.eq_nil_iff_forall_not_mem.mpr fun _ hrow => List.not_mem_nil (mem_sort _ hrow)]
          rfl
        rw [List.map_nil, hnone, hnone]
        rfl
    -- The first item has no step, and neither has its image.
    | cons a rest => rfl
  · have hfirst : (fun l m => firstBefore e' (l.map f) (m.map f)) = firstBefore e := by
      funext l m
      rcases l with _ | ⟨a, l⟩ <;> rcases m with _ | ⟨b, m⟩
      · rfl
      · rfl
      · rfl
      · exact horder.y a b
    -- The grid only groups the items: rows and their items are sorted by place.
    have hrow : ∀ row : List α,
        sortOn before e'.x (row.map f) = (sortOn before e.x row).map f := by
      intro row
      rw [sortOn_images]
      have hx : (fun a b => before (e'.x (f a)) (e'.x (f b))) = fun a b => before (e.x a) (e.x b) :=
        funext fun a => funext fun b => horder.x a b
      rw [sortOn, sortOn, hx]
    have hgroups : (grouped (fun b => stepOf granularity (e'.y b)) (items.map f)).map Prod.snd
        = ((grouped (fun a => stepOf granularity (e.y a)) items).map Prod.snd).map (List.map f) :=
      grouped_map hsteps
    rw [bucketRows_rat e' hzero, bucketRows_rat e hzero, hgroups,
      sort_images, hfirst]
    change Except.ok _ = Except.ok _
    rw [List.map_map, List.map_map, Function.comp_def, Function.comp_def]
    simp only [hrow]

end Images

end Letterpress.Layout
