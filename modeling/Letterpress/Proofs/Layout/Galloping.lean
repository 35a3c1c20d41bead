import Letterpress.Layout.Merging
import Mathlib.Data.List.TakeWhile

/-!
# Galloping

Where a search for the end of a stretch ends.

A test that holds for the front of a list and for nothing after it has one
boundary. Bisection finds it between any two positions that enclose it, and a
gallop finds it from any position at all: the strides end with one position on
either side, and bisection does the rest. So a gallop takes the same stretch from
wherever it starts, and what is known about `takeWhile` applies to it.

## Main definitions

* `SplitsAt`: The items that pass a test are those before a position.

## Theorems

* `splitsAt_takeWhile`: A test that falls once splits at the end of its stretch.
* `bisect_eq`: Bisection finds the boundary.
* `stride_spec`: Strides end on either side of the boundary.
* `gallop_eq`: A gallop finds the boundary.
* `stretch_parts`: A test that falls once cuts a list in two.
* `gallop_parts`: A gallop cuts a list where the stretch ends.
-/

namespace Letterpress.Layout

variable {α : Type} {inside : α → Bool} {items : List α} {k : Nat}

/-- The items that pass the test are those before the position. -/
def SplitsAt (inside : α → Bool) (items : List α) (k : Nat) : Prop :=
  ∀ i, passesAt inside items i = decide (i < k)

theorem passesAt_getElem {i : Nat} (h : i < items.length) :
    passesAt inside items i = inside items[i] := by
  rw [passesAt, List.getElem?_eq_getElem h, Option.any_some]

theorem passesAt_length (inside : α → Bool) (items : List α) :
    passesAt inside items items.length = false := by
  rw [passesAt, List.getElem?_eq_none (Nat.le_refl _), Option.any_none]

theorem SplitsAt.le_length (h : SplitsAt inside items k) : k ≤ items.length := by
  by_contra hk
  have hend := h items.length
  rw [passesAt_length, decide_eq_true (by omega)] at hend
  exact absurd hend (by decide)

/-- A test that holds for everything before an item for which it holds splits the
    list at the end of its stretch. -/
theorem splitsAt_takeWhile (h : items.Pairwise fun a b => inside b = true → inside a = true) :
    SplitsAt inside items (items.takeWhile inside).length := by
  induction items with
  | nil =>
      intro i
      rw [passesAt, List.getElem?_nil, Option.any_none, List.takeWhile_nil]
      simp
  | cons x rest ih =>
      rw [List.pairwise_cons] at h
      intro i
      by_cases hx : inside x = true
      · rw [List.takeWhile_cons_of_pos hx, List.length_cons]
        cases i with
        | zero => simp [passesAt, hx]
        | succ i =>
            have hi := ih h.2 i
            simp only [passesAt, List.getElem?_cons_succ, Nat.add_lt_add_iff_right] at hi ⊢
            exact hi
      · rw [List.takeWhile_cons_of_neg hx, List.length_nil, decide_eq_false (by omega)]
        cases i with
        | zero => simpa [passesAt] using hx
        | succ i =>
            -- Nothing later passes, since the first item would pass as well.
            rw [passesAt, List.getElem?_cons_succ, Bool.eq_false_iff]
            intro hany
            rw [Option.any_eq_true] at hany
            rcases hany with ⟨y, hy, hin⟩
            exact hx (h.1 y (List.mem_of_getElem? hy) hin)

/-- Bisection finds the boundary between two positions that enclose it. -/
theorem bisect_eq (h : SplitsAt inside items k) (fuel low high : Nat)
    (hfuel : high - low ≤ fuel) (hlow : low ≤ k) (hhigh : k ≤ high)
    (hlen : high ≤ items.length) : bisect inside items fuel low high = k := by
  induction fuel generalizing low high with
  | zero =>
      rw [bisect]
      omega
  | succ fuel ih =>
      rw [bisect]
      by_cases hlt : low < high
      · rw [if_pos hlt]
        have hmid : (low + high) / 2 < items.length := by omega
        -- The test at the middle says on which side of it the boundary is.
        have htest := h ((low + high) / 2)
        rw [passesAt_getElem hmid] at htest
        simp only [List.getElem?_eq_getElem hmid, htest, decide_eq_true_eq]
        by_cases hk : (low + high) / 2 < k
        · rw [if_pos hk]
          exact ih _ _ (by omega) (by omega) hhigh hlen
        · rw [if_neg hk]
          exact ih _ _ (by omega) hlow (by omega) (by omega)
      · rw [if_neg hlt]
        omega

/-- Strides end with a last step for which the test holds, or none, and a next one
    for which it does not, or that leads out of the room. -/
theorem stride_spec (test : Nat → Bool) (room fuel last next : Nat) (hlast : last < next)
    (hroom : last < room) (htest : last = 0 ∨ test last = true) (hfuel : room ≤ next + fuel) :
    ((stride test room fuel last next).1 = 0 ∨
        test (stride test room fuel last next).1 = true) ∧
      (stride test room fuel last next).1 < (stride test room fuel last next).2 ∧
      (stride test room fuel last next).2 ≤ room ∧
      ((stride test room fuel last next).2 = room ∨
        test (stride test room fuel last next).2 = false) := by
  induction fuel generalizing last next with
  | zero =>
      rw [stride]
      exact ⟨htest, by omega, by omega, Or.inl (by omega)⟩
  | succ fuel ih =>
      rw [stride]
      by_cases hgo : (decide (next < room) && test next) = true
      · rw [if_pos hgo]
        rw [Bool.and_eq_true, decide_eq_true_eq] at hgo
        -- Strides grow at least by one each time, and so the fuel lasts for the room.
        exact ih next (2 * next + 1) (by omega) hgo.1 (Or.inr hgo.2) (by omega)
      · rw [if_neg hgo]
        refine ⟨htest, by omega, by omega, ?_⟩
        by_cases hnext : next < room
        · rw [decide_eq_true hnext, Bool.true_and] at hgo
          rw [Nat.min_eq_left (by omega)]
          exact Or.inr (by simpa using hgo)
        · exact Or.inl (by omega)

/-- A gallop finds the boundary from wherever it starts. -/
theorem gallop_eq (h : SplitsAt inside items k) (start : Nat) (hstart : start ≤ items.length) :
    gallop inside items start = k := by
  have hk := h.le_length
  by_cases hin : start < k
  · have hpass : passesAt inside items start = true := by
      rw [h start, decide_eq_true hin]
    -- Strides to the right end on both sides of the boundary.
    have hs := stride_spec (fun j => passesAt inside items (start + j)) (items.length - start)
      items.length 0 1 (by omega) (by omega) (Or.inl rfl) (by omega)
    simp only [h _, decide_eq_true_eq, decide_eq_false_iff_not] at hs
    simp only [gallop, hpass, if_true, h _]
    rcases hs with ⟨hfirst, hlt, hle, hend⟩
    exact bisect_eq h _ _ _ (by omega) (by omega) (by omega) (by omega)
  · have hpass : passesAt inside items start = false := by
      rw [h start, decide_eq_false hin]
    -- Strides to the left do so too, with the test the other way round.
    have hs := stride_spec (fun j => !passesAt inside items (start - j)) (start + 1)
      items.length 0 1 (by omega) (by omega) (Or.inl rfl) (by omega)
    simp only [h _, Bool.not_eq_true', Bool.not_eq_false', decide_eq_true_eq,
      decide_eq_false_iff_not] at hs
    simp only [gallop, hpass, Bool.false_eq_true, if_false, h _]
    rcases hs with ⟨hfirst, hlt, hle, hend⟩
    exact bisect_eq h _ _ _ (by omega) (by omega) (by omega) (by omega)

/-- A test that falls once cuts a list into the stretch of items that pass it and the
    items that fail it. -/
theorem stretch_parts (h : items.Pairwise fun a b => inside b = true → inside a = true) :
    ∃ front back, items = front ++ back ∧ SplitsAt inside items front.length ∧
      (∀ x ∈ front, inside x = true) ∧ ∀ x ∈ back, inside x = false := by
  refine ⟨items.takeWhile inside, items.dropWhile inside,
    List.takeWhile_append_dropWhile.symm, splitsAt_takeWhile h,
    fun x hx => List.mem_takeWhile_imp hx, ?_⟩
  rw [← List.takeWhile_append_dropWhile (p := inside) (l := items),
    List.pairwise_append] at h
  cases hback : items.dropWhile inside with
  | nil => simp
  | cons y rest =>
      have hy : inside y = false := by
        have hhead := List.head_dropWhile_not inside (l := items) (by simp [hback])
        simpa [hback] using hhead
      rw [hback, List.pairwise_cons] at h
      intro x hx
      rcases List.mem_cons.mp hx with heq | hmem
      · rw [heq]
        exact hy
      · -- Had it passed, the first item that fails would have passed as well.
        by_contra hin
        have hpass := h.2.1.1 x hmem (by simpa using hin)
        rw [hy] at hpass
        exact absurd hpass (by decide)

/-- A gallop cuts a list where the stretch ends. -/
theorem gallop_parts (h : items.Pairwise fun a b => inside b = true → inside a = true)
    (start : Nat) (hstart : start ≤ items.length) :
    ∃ front back, items = front ++ back ∧ gallop inside items start = front.length ∧
      (∀ x ∈ front, inside x = true) ∧ ∀ x ∈ back, inside x = false := by
  rcases stretch_parts h with ⟨front, back, hparts, hsplit, hfront, hback⟩
  exact ⟨front, back, hparts, gallop_eq hsplit start hstart, hfront, hback⟩

end Letterpress.Layout
