import Letterpress.Layout.Share
import Letterpress.Number.Binary64
import Letterpress.Proofs.Text.Numeral
import Mathlib.Algebra.BigOperators.Ring.Finset
import Mathlib.Algebra.Order.BigOperators.Group.List
import Mathlib.Data.List.Forall2

/-!
# Shares Add Up

The shares of a row are a hundred together, and so are the percentages that are written:
whatever the rounding of the others adds or takes away, the last one has back. All of them
are whole numbers of hundredths, so nothing is lost when they are written either.

Each of the others is half a hundredth off at most. The last one has the errors of all of
them, and so it is off by as many halves of a hundredth as there are others.

A percentage is possible if it is between nothing and the whole. The shares of a row are, and
so are their roundings, but the last width has what the other roundings leave. If those are
more than a hundred together, it has less than nothing.

Two roundings never are: what one of them gains by a half the other one has to lose. So rows
of up to three widths are possible, and with four widths there are others already.

## Main definitions

* `trueShare`: The share of a width among the widths of a row.
* `frontHundredths`: The shares of all but the last, in hundredths.
* `IsPossible`: The numeral of a percentage between nothing and the whole.
* `Fits`: The other widths leave something for the last one, or nothing.

## Theorems

* `shares_rat`: The shares of a row are the true ones.
* `sum_trueShare`: The true shares are a hundred together.
* `percentages_rat`: The percentages are numerals of hundredths, ten thousand together.
* `percentages_sum`: The percentages add up to a hundred, and are close to the true shares.
* `isPossible_hundredthsNumeral`: Which numerals of hundredths are possible.
* `possible_iff_float`: Which percentages are possible in floating point.
* `front_possible`: All percentages but the last are possible.
* `possible_iff_fits`: All percentages of a row are possible if it fits.
* `fits_short`, `fits_wide`: Short rows fit, and rows whose last width is not narrow.
* `exists_not_fits`: From four widths on there are rows that do not fit.
-/

namespace Letterpress.Layout

open Scalar

/-- The share of a hundred that a width has among the widths of a row. Negative widths count
    as nothing, and in a row without any width all shares are equal. -/
def trueShare (widths : List Rat) (w : Rat) : Rat :=
  let sum := (widths.map (max · 0)).sum
  if sum = 0 then 100 / widths.length else max w 0 / sum * 100

section Exact

theorem total_rat (xs : List Rat) : total xs = xs.sum := by
  have hzero : (0.0 : Rat) = 0 := by norm_num
  change xs.foldl (· + ·) (0.0 : Rat) = _
  rw [hzero, List.sum_eq_foldl]

theorem usableWidth_rat (w : Rat) : usableWidth w = max w 0 := by
  have hzero : (0.0 : Rat) = 0 := by norm_num
  change (if w < (0.0 : Rat) then (0.0 : Rat) else w) = _
  rw [hzero]
  by_cases hw : w < 0
  · rw [if_pos hw, max_eq_right hw.le]
  · rw [if_neg hw, max_eq_left (not_lt.mp hw)]

theorem usable_nonneg (widths : List Rat) : 0 ≤ (widths.map (max · 0)).sum := by
  refine List.sum_nonneg fun w hw => ?_
  rcases List.mem_map.mp hw with ⟨v, -, rfl⟩
  exact le_max_right v 0

/-- The shares of a row are the true ones. -/
theorem shares_rat (widths : List Rat) : shares widths = widths.map (trueShare widths) := by
  have hzero : (0.0 : Rat) = 0 := by norm_num
  have hhundred : (100.0 : Rat) = 100 := by norm_num
  have hcount : (Scalar.ofNat widths.length : Rat) = widths.length := by
    change Rat.ofScientific widths.length false 0 = _
    simp [Rat.ofScientific]
  have husable : widths.map usableWidth = widths.map (max · 0) :=
    List.map_congr_left fun w _ => usableWidth_rat w
  rw [shares, total_rat, husable, hcount]
  change (if (widths.map (max · 0)).sum ≤ (0.0 : Rat) then widths.map fun _ => (100.0 : Rat) / _
    else widths.map fun w => usableWidth w / _ * (100.0 : Rat)) = _
  rw [hzero, hhundred]
  by_cases hsum : (widths.map (max · 0)).sum = 0
  · rw [if_pos hsum.le]
    refine List.map_congr_left fun w _ => ?_
    rw [trueShare, if_pos hsum]
  -- The sum is never negative, since negative widths count as none.
  · have hpositive : ¬ (widths.map (max · 0)).sum ≤ 0 :=
      fun h => hsum (le_antisymm h (usable_nonneg widths))
    rw [if_neg hpositive]
    refine List.map_congr_left fun w _ => ?_
    rw [trueShare, if_neg hsum, usableWidth_rat]

theorem trueShare_nonneg (widths : List Rat) (w : Rat) : 0 ≤ trueShare widths w := by
  have hsum := usable_nonneg widths
  have hw : 0 ≤ max w 0 := le_max_right w 0
  rw [trueShare]
  split_ifs <;> positivity

/-- The true shares are a hundred together. -/
theorem sum_trueShare {widths : List Rat} (h : widths ≠ []) :
    (widths.map (trueShare widths)).sum = 100 := by
  by_cases hsum : (widths.map (max · 0)).sum = 0
  · have hequal : widths.map (trueShare widths) = List.replicate widths.length
        (100 / (widths.length : Rat)) := by
      rw [← List.map_const']
      refine List.map_congr_left fun w _ => ?_
      rw [trueShare, if_pos hsum]
    have hlength : (widths.length : Rat) ≠ 0 := by
      rwa [Nat.cast_ne_zero, ne_eq, List.length_eq_zero_iff]
    rw [hequal, List.sum_replicate, nsmul_eq_mul, mul_div_cancel₀ _ hlength]
  · have hshare : widths.map (trueShare widths)
        = widths.map fun w => max w 0 * (100 / (widths.map (max · 0)).sum) := by
      refine List.map_congr_left fun w _ => ?_
      rw [trueShare, if_neg hsum]
      ring
    rw [hshare, List.sum_map_mul_right, mul_div_cancel₀ _ hsum]

end Exact

section Rounded

/-- The shares of all but the last width of a row, in hundredths. -/
def frontHundredths (widths : List Rat) : List Int :=
  widths.dropLast.map fun w => hundredthsOf (trueShare widths w)

/-- The hundredths of a row: the last width has what the others leave of ten thousand. -/
def rowHundredths (widths : List Rat) : List Int :=
  frontHundredths widths ++ [10000 - (frontHundredths widths).sum]

theorem sum_hundredths (ns : List Int) :
    (ns.map fun n : Int => (n : Rat) / 100).sum = (ns.sum : Rat) / 100 := by
  simp only [div_eq_mul_inv, List.sum_map_mul_right, Int.cast_list_sum]

/-- The percentages are numerals of hundredths, which are ten thousand together. -/
theorem percentages_rat {widths : List Rat} (h : widths ≠ []) :
    percentages widths
      = (rowHundredths widths).map fun n => hundredthsNumeral (n < 0) n.natAbs := by
  have hfront : (shares widths).dropLast.map toHundredths
      = (frontHundredths widths).map fun n : Int => (n : Rat) / 100 := by
    rw [shares_rat, ← List.map_dropLast, List.map_map, frontHundredths, List.map_map]
    exact List.map_congr_left fun w _ => toHundredths_rat _
  have hhundred : (100.0 : Rat) = 100 := by norm_num
  -- The rest is a whole number of hundredths, so rounding it changes nothing.
  have hlast : toHundredths (100 - ((frontHundredths widths).sum : Rat) / 100)
      = ((10000 - (frontHundredths widths).sum : Int) : Rat) / 100 := by
    have hwhole : 100 - ((frontHundredths widths).sum : Rat) / 100
        = ((10000 - (frontHundredths widths).sum : Int) : Rat) / 100 := by
      push_cast
      ring
    rw [hwhole, toHundredths_rat, hundredthsOf_div]
  have hrounded : roundedShares widths
      = (rowHundredths widths).map fun n : Int => (n : Rat) / 100 := by
    rw [roundedShares]
    · change _ ++ [toHundredths ((100.0 : Rat) - _)] = _
      rw [hfront, total_rat, sum_hundredths, hhundred, hlast, rowHundredths, List.map_append]
      rfl
    · exact h
  rw [percentages, hrounded, List.map_map]
  exact List.map_congr_left fun n _ => fixedHundredths_rat n

theorem length_frontHundredths (widths : List Rat) :
    (frontHundredths widths).length = widths.length - 1 := by
  rw [frontHundredths, List.length_map, List.length_dropLast]

/-- Sums are as far apart as their terms are, all together. -/
theorem abs_sum_sub_le {α : Type} {f g : α → Rat} {ε : Rat} {xs : List α}
    (h : ∀ x ∈ xs, |f x - g x| ≤ ε) : |(xs.map f).sum - (xs.map g).sum| ≤ ε * xs.length := by
  induction xs with
  | nil => simp
  | cons x xs ih =>
      rw [List.forall_mem_cons] at h
      have hhead := abs_le.mp h.1
      have htail := abs_le.mp (ih h.2)
      simp only [List.map_cons, List.sum_cons, List.length_cons]
      push_cast
      rw [abs_le]
      constructor <;> linarith

/-- The share of the last width is what the true shares of the others leave. -/
theorem trueShare_getLast {widths : List Rat} (h : widths ≠ []) :
    trueShare widths (widths.getLast h)
      = 100 - (widths.dropLast.map (trueShare widths)).sum := by
  have hsplit : ∀ f : Rat → Rat,
      (widths.map f).sum = (widths.dropLast.map f).sum + f (widths.getLast h) := by
    intro f
    conv_lhs => rw [← List.dropLast_append_getLast h]
    rw [List.map_append, List.sum_append, List.map_singleton, List.sum_singleton]
  have hsum := sum_trueShare h
  rw [hsplit] at hsum
  linarith

/-- The last width has the errors of all the others. -/
theorem lastHundredths_error {widths : List Rat} (h : widths ≠ []) :
    |((10000 - (frontHundredths widths).sum : Int) : Rat) / 100
        - trueShare widths (widths.getLast h)| ≤ 1 / 200 * (widths.length - 1) := by
  have hfront : ((frontHundredths widths).sum : Rat) / 100
      = (widths.dropLast.map fun w => (hundredthsOf (trueShare widths w) : Rat) / 100).sum := by
    rw [← sum_hundredths, frontHundredths, List.map_map]
    rfl
  -- Each of the others is off by half a hundredth at most.
  have herror : |(widths.dropLast.map fun w => (hundredthsOf (trueShare widths w) : Rat) / 100).sum
      - (widths.dropLast.map (trueShare widths)).sum| ≤ 1 / 200 * widths.dropLast.length :=
    abs_sum_sub_le fun w _ => hundredthsOf_error (trueShare widths w)
  have hcount : (widths.dropLast.length : Rat) = widths.length - 1 := by
    have hpositive : 1 ≤ widths.length := List.length_pos_iff.mpr h
    rw [List.length_dropLast, Nat.cast_sub hpositive, Nat.cast_one]
  have hlast : ((10000 - (frontHundredths widths).sum : Int) : Rat) / 100
      - trueShare widths (widths.getLast h)
      = (widths.dropLast.map (trueShare widths)).sum
        - (widths.dropLast.map fun w => (hundredthsOf (trueShare widths w) : Rat) / 100).sum := by
    rw [trueShare_getLast h, ← hfront]
    push_cast
    ring
  rw [hlast, abs_sub_comm, ← hcount]
  exact herror

/-- The percentages add up to a hundred. All but the last are at most half a hundredth off
    the true share, and the last one by as many halves as there are others. -/
theorem percentages_sum {widths : List Rat} (h : widths ≠ []) :
    (percentages widths).length = widths.length ∧ ∃ (front : List Rat) (last : Rat),
      List.Forall₂ IsTwoPlace (percentages widths) (front ++ [last]) ∧
      front.sum + last = 100 ∧
      List.Forall₂ (fun value w => |value - trueShare widths w| ≤ 0.005) front widths.dropLast ∧
      |last - trueShare widths (widths.getLast h)| ≤ 0.005 * (widths.length - 1) := by
  -- Half a hundredth of a percent, and all hundredths are whole numbers.
  have hhalf : (0.005 : Rat) = 1 / 200 := by norm_num
  rw [hhalf]
  refine ⟨?_, (frontHundredths widths).map fun n : Int => (n : Rat) / 100,
    ((10000 - (frontHundredths widths).sum : Int) : Rat) / 100, ?_, ?_, ?_,
    lastHundredths_error h⟩
  · have hpositive : 1 ≤ widths.length := List.length_pos_iff.mpr h
    rw [percentages_rat h, List.length_map, rowHundredths, List.length_append,
      length_frontHundredths, List.length_singleton]
    omega
  · have hvalues : (frontHundredths widths).map (fun n : Int => (n : Rat) / 100)
        ++ [((10000 - (frontHundredths widths).sum : Int) : Rat) / 100]
        = (rowHundredths widths).map fun n : Int => (n : Rat) / 100 := by
      rw [rowHundredths, List.map_append]
      rfl
    rw [percentages_rat h, hvalues, List.forall₂_map_left_iff, List.forall₂_map_right_iff,
      List.forall₂_same]
    exact fun n _ => isTwoPlace_hundredthsNumeral n
  · rw [sum_hundredths]
    push_cast
    ring
  · rw [frontHundredths, List.map_map, List.forall₂_map_left_iff, List.forall₂_same]
    exact fun w _ => hundredthsOf_error _

/-- A row with a negative width. Its three usable widths are three sevenths, three sevenths and
    one seventh of a hundred, and the last one has less than its share. -/
theorem percentages_sum_clampedRow :
    ([3, -1, 3, 1] : List Rat) ≠ [] ∧
      percentages ([3, -1, 3, 1] : List Rat) = ["42.86", "0.00", "42.86", "14.28"] ∧
      ∃ (front : List Rat) (last : Rat),
        List.Forall₂ IsTwoPlace ["42.86", "0.00", "42.86", "14.28"] (front ++ [last]) ∧
        front.sum + last = 100 ∧ |last - trueShare [3, -1, 3, 1] 1| ≤ 0.015 := by
  have hne : ([3, -1, 3, 1] : List Rat) ≠ [] := List.cons_ne_nil _ _
  have htexts : percentages ([3, -1, 3, 1] : List Rat)
      = ["42.86", "0.00", "42.86", "14.28"] := by
    decide +kernel
  rcases percentages_sum hne with ⟨-, front, last, hvalues, hsum, -, hlast⟩
  rw [htexts] at hvalues
  refine ⟨hne, htexts, front, last, hvalues, hsum, hlast.trans ?_⟩
  norm_num

end Rounded

section Possible

/-- The text is the numeral of a percentage between nothing and the whole, without a minus
    sign. -/
def IsPossible (s : String) : Prop :=
  ∃ q, IsTwoPlace s q ∧ 0 ≤ q ∧ q ≤ 100 ∧ '-' ∉ s.toList

/-- All widths but the last have no more than the whole together, after rounding. -/
def Fits (widths : List Rat) : Prop :=
  (frontHundredths widths).sum ≤ 10000

instance (widths : List Rat) : Decidable (Fits widths) :=
  inferInstanceAs (Decidable (_ ≤ _))

/-- The numeral of hundredths is possible if it has no minus sign and they are at most ten
    thousand. -/
theorem isPossible_hundredthsNumeral (minus : Bool) (n : Nat) :
    IsPossible (hundredthsNumeral minus n) ↔ minus = false ∧ n ≤ 10000 := by
  cases minus with
  | true =>
      have hminus : '-' ∈ (hundredthsNumeral true n).toList := by
        rw [toList_hundredthsNumeral]
        exact List.mem_append_left _ List.mem_cons_self
      constructor
      · rintro ⟨-, -, -, -, hnone⟩
        exact absurd hminus hnone
      · rintro ⟨hfalse, -⟩
        exact absurd hfalse.symm Bool.false_ne_true
  | false =>
      -- Without a sign only the bound is left to be compared.
      have hplaces := isTwoPlace_hundredthsNumeral n
      have hsign : decide ((n : Int) < 0) = false := decide_eq_false (by omega)
      rw [hsign, Int.natAbs_natCast, Int.cast_natCast] at hplaces
      have hnonneg : (0 : Rat) ≤ (n : Rat) / 100 := by positivity
      have hwhole : (n : Rat) / 100 ≤ 100 ↔ n ≤ 10000 := by
        have hproduct : (100 : Rat) * 100 = (10000 : Nat) := by norm_num
        rw [div_le_iff₀ (by norm_num), hproduct, Nat.cast_le]
      constructor
      · rintro ⟨q, hq, -, hhigh, -⟩
        obtain rfl : q = (n : Rat) / 100 :=
          Option.some.inj (hq.value.symm.trans hplaces.value)
        exact ⟨rfl, hwhole.mp hhigh⟩
      · rintro ⟨-, hhigh⟩
        refine ⟨_, hplaces, hnonneg, hwhole.mpr hhigh, fun hminus => ?_⟩
        exact absurd (hplaces.minus_iff.mp hminus) (not_lt.mpr hnonneg)

/-- A floating point number has a possible numeral if it is finite, has no minus sign, and has at
    most ten thousand hundredths. -/
theorem isPossible_float (x : Float) :
    IsPossible (fixedHundredths x) ↔
      ∃ q, reading x = .exact q ∧ negative x = false ∧ hundredths q ≤ 10000 := by
  -- Numerals of hundredths have a point, and the words for other numbers have none.
  have hpoint : ∀ s : String, '.' ∉ s.toList → ¬ IsPossible s := by
    rintro s hnone ⟨q, hq, -⟩
    rcases hq.form with ⟨whole, tens, ones, htext, -⟩
    refine hnone ?_
    rw [htext]
    simp
  have hword : ∀ minus : Bool, '.' ∉ ((if minus then "-" else "") ++ "inf").toList := by
    decide
  cases hread : reading x with
  | exact q =>
      rw [fixedHundredths, hread]
      refine (isPossible_hundredthsNumeral _ _).trans ⟨fun h => ⟨q, rfl, h⟩, ?_⟩
      rintro ⟨r, hr, h⟩
      rw [Reading.exact.inj hr]
      exact h
  | undefined =>
      have htext : fixedHundredths x = "nan" := by
        rw [fixedHundredths, hread]
        change floatText x = _
        rw [floatText, show floatReading x = .undefined from hread]
      rw [htext]
      refine iff_of_false (hpoint _ (by decide)) ?_
      rintro ⟨q, hq, -⟩
      exact absurd hq (by simp)
  | infinite minus =>
      have htext : fixedHundredths x = (if floatNegative x then "-" else "") ++ "inf" := by
        rw [fixedHundredths, hread]
        change floatText x = _
        rw [floatText, show floatReading x = .infinite minus from hread]
      rw [htext]
      refine iff_of_false (hpoint _ (hword _)) ?_
      rintro ⟨q, hq, -⟩
      exact absurd hq (by simp)

/-- All percentages of a row of floating point numbers are possible exactly if its shares are
    finite after rounding, have no minus signs, and are not more than the whole. -/
theorem possible_iff_float (widths : List Float) :
    (∀ s ∈ percentages widths, IsPossible s) ↔
      ∀ x ∈ roundedShares widths,
        ∃ q, reading x = .exact q ∧ negative x = false ∧ hundredths q ≤ 10000 := by
  rw [percentages, List.forall_mem_map]
  exact forall₂_congr fun x _ => isPossible_float x

theorem isPossible_int (n : Int) :
    IsPossible (hundredthsNumeral (n < 0) n.natAbs) ↔ 0 ≤ n ∧ n ≤ 10000 := by
  rw [isPossible_hundredthsNumeral, decide_eq_false_iff_not]
  omega

variable {widths : List Rat}

/-- No width has more than the whole. -/
theorem trueShare_le {w : Rat} (h : w ∈ widths) : trueShare widths w ≤ 100 := by
  have hnonneg : ∀ share ∈ widths.map (trueShare widths), 0 ≤ share := by
    intro share hshare
    rcases List.mem_map.mp hshare with ⟨v, -, rfl⟩
    exact trueShare_nonneg widths v
  calc trueShare widths w ≤ (widths.map (trueShare widths)).sum :=
        List.single_le_sum hnonneg _ (List.mem_map_of_mem h)
    _ = 100 := sum_trueShare (List.ne_nil_of_mem h)

theorem frontHundredths_bounds : ∀ n ∈ frontHundredths widths, 0 ≤ n ∧ n ≤ 10000 := by
  intro n hn
  rcases List.mem_map.mp hn with ⟨w, hw, rfl⟩
  have hle := hundredthsOf_mono (trueShare_le (List.mem_of_mem_dropLast hw))
  have hwhole : hundredthsOf 100 = 10000 := by
    have hhundred : (100 : Rat) = ((10000 : Int) : Rat) / 100 := by norm_num
    rw [hhundred, hundredthsOf_div]
  exact ⟨hundredthsOf_nonneg (trueShare_nonneg _ _), by omega⟩

/-- All percentages but the last are possible. -/
theorem front_possible (h : widths ≠ []) : ∀ s ∈ (percentages widths).dropLast, IsPossible s := by
  intro s hs
  rw [percentages_rat h, ← List.map_dropLast, rowHundredths, List.dropLast_concat] at hs
  rcases List.mem_map.mp hs with ⟨n, hn, rfl⟩
  exact (isPossible_int n).mpr (frontHundredths_bounds n hn)

/-- All percentages of a row are possible exactly if it fits. -/
theorem possible_iff_fits (h : widths ≠ []) :
    (∀ s ∈ percentages widths, IsPossible s) ↔ Fits widths := by
  have hsum : 0 ≤ (frontHundredths widths).sum :=
    List.sum_nonneg fun n hn => (frontHundredths_bounds n hn).1
  -- Only the last one is in question.
  rw [percentages_rat h, List.forall_mem_map, rowHundredths]
  simp only [isPossible_int]
  rw [List.forall_mem_append, List.forall_mem_singleton, Fits]
  constructor
  · rintro ⟨-, hlow, -⟩
    omega
  · intro hfits
    exact ⟨frontHundredths_bounds, by omega, by omega⟩

/-- Two shares of a whole are not rounded to more than the whole. -/
theorem hundredthsOf_add_le {x y : Rat} (h : x + y ≤ 100) :
    hundredthsOf x + hundredthsOf y ≤ 10000 := by
  have hle : hundredthsOf x ≤ hundredthsOf (100 - y) := hundredthsOf_mono (by linarith)
  rw [hundredthsOf_rest] at hle
  omega

/-- Rows of up to three widths fit. -/
theorem fits_short (h : widths.length ≤ 3) : Fits widths := by
  have hnone : (0 : Int) ≤ 10000 := by decide
  match widths, h with
  | [], _ => exact hnone
  | [_], _ => exact hnone
  | [a, b], _ =>
      have hfront : frontHundredths [a, b] = [hundredthsOf (trueShare [a, b] a)] := rfl
      rw [Fits, hfront, List.sum_singleton]
      exact (frontHundredths_bounds _ (hfront ▸ List.mem_singleton_self _)).2
  | [a, b, c], _ =>
      have hsum := sum_trueShare (List.cons_ne_nil a [b, c])
      have hlast := trueShare_nonneg [a, b, c] c
      have hfront : frontHundredths [a, b, c]
          = [hundredthsOf (trueShare [a, b, c] a), hundredthsOf (trueShare [a, b, c] b)] := rfl
      simp only [List.map_cons, List.map_nil, List.sum_cons, List.sum_nil] at hsum
      rw [Fits, hfront, List.sum_pair]
      exact hundredthsOf_add_le (by linarith)

/-- A row fits if the share of its last width makes up for the errors of the others. -/
theorem fits_wide (h : widths ≠ [])
    (hlast : 0.005 * (widths.length - 1) ≤ trueShare widths (widths.getLast h)) :
    Fits widths := by
  have herror := (abs_le.mp (lastHundredths_error h)).1
  have hhalf : (0.005 : Rat) = 1 / 200 := by norm_num
  rw [hhalf] at hlast
  have hrest : (0 : Rat) ≤ ((10000 - (frontHundredths widths).sum : Int) : Rat) / 100 := by
    linarith
  rw [le_div_iff₀ (by norm_num), zero_mul, Int.cast_nonneg_iff] at hrest
  rw [Fits]
  omega

/-- From four widths on there are rows that do not fit: three widths that are all rounded up,
    and others that are nothing. -/
theorem exists_not_fits (n : Nat) (h : 4 ≤ n) :
    ∃ widths : List Rat, widths.length = n ∧ (∀ w ∈ widths, 0 ≤ w) ∧ ¬ Fits widths := by
  obtain ⟨k, rfl⟩ : ∃ k, n = k + 4 := ⟨n - 4, by omega⟩
  generalize hwidths : (33337 :: 33337 :: 33326 :: List.replicate (k + 1) 0 : List Rat) = widths
  have hnonneg : ∀ w ∈ widths, 0 ≤ w := by
    rw [← hwidths]
    intro w hw
    simp only [List.mem_cons, List.mem_replicate] at hw
    rcases hw with rfl | rfl | rfl | ⟨-, rfl⟩ <;> norm_num
  have hsum : (widths.map (max · 0)).sum = 100000 := by
    rw [← hwidths]
    norm_num [List.map_replicate, List.sum_replicate]
  -- In units of a thousandth of a percent the widths are their own shares.
  have hshare : ∀ w, 0 ≤ w → trueShare widths w = w / 1000 := by
    intro w hw
    rw [trueShare, hsum, if_neg (by norm_num), max_eq_left hw]
    ring
  -- Three shares are rounded up, to one hundredth more than there are.
  have hfront : frontHundredths widths = 3334 :: 3334 :: 3333 :: List.replicate k 0 := by
    have hdrop : widths.dropLast = 33337 :: 33337 :: 33326 :: List.replicate k 0 := by
      rw [← hwidths]
      simp [List.dropLast_cons_of_ne_nil, List.dropLast_replicate]
    have hround : ∀ w, 0 ≤ w → hundredthsOf (trueShare widths w) = hundredthsOf (w / 1000) :=
      fun w hw => by rw [hshare w hw]
    rw [frontHundredths, hdrop, List.map_cons, List.map_cons, List.map_cons, List.map_replicate,
      hround _ (by norm_num), hround _ (by norm_num), hround _ le_rfl]
    have hfirst : hundredthsOf (33337 / 1000) = 3334 := by decide +kernel
    have hthird : hundredthsOf (33326 / 1000) = 3333 := by decide +kernel
    have hnone : hundredthsOf (0 / 1000) = 0 := by decide +kernel
    rw [hfirst, hthird, hnone]
  refine ⟨widths, ?_, hnonneg, ?_⟩
  · rw [← hwidths]
    simp
  · rw [Fits, hfront]
    simp

end Possible

end Letterpress.Layout
