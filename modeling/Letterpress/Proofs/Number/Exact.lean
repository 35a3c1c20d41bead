import Letterpress.Number.Exact
import Mathlib.Data.Rat.Floor
import Mathlib.Tactic.Linarith

/-!
# Exact Rounding

With rationals no arithmetic fails, and rounding is what its name says: the floor
of the number and a half. It commutes with moving by whole pixels, so what is
rounded after a shift is what is shifted after rounding.

The nearest whole number is at most a half away, and so the nearest hundredth is at most
half a hundredth away. What already is a whole number of hundredths stays what it is, so
nothing is rounded twice.

A scalar is rounded by its magnitude, and gets its sign back. Because a half goes to the
even neighbour on both sides of zero, that is the same as rounding the number itself.

## Main definitions

* `pixelOf`: The pixel that a rational rounds to.
* `hundredthsOf`: How many hundredths a rational rounds to.

## Theorems

* `roundHalfUp_rat`, `roundInt_rat`, `ceil_rat`, `ofInt?_rat`: No conversion fails.
* `pixelOf_add_int`: Rounding commutes with whole shifts.
* `pixelOf_mono`: Rounding keeps the order.
* `nearestEven_error`: Rounding moves a number by a half at most.
* `nearestEven_mono`: Rounding to even keeps the order.
* `nearestEven_neg`, `nearestEven_add_even`: Rounding treats both signs alike, and commutes
  with whole even shifts.
* `toHundredths_rat`: A rational rounds to its hundredths.
* `hundredthsOf_error`: Rounding to hundredths moves a number by half of one at most.
* `fixedHundredths_rat`: The numeral of a number of hundredths.
-/

namespace Letterpress

/-- The pixel that a rational rounds to: the nearest whole number, halves upwards. -/
def pixelOf (x : Rat) : Int :=
  ⌊x + 1 / 2⌋

theorem roundHalfUp_rat (x : Rat) : Scalar.roundHalfUp x = .ok (pixelOf x) := by
  have hhalf : (0.5 : Rat) = 1 / 2 := by norm_num
  change Except.ok (Rat.floor (x + 0.5)) = _
  rw [hhalf]
  rfl

theorem ofInt?_rat (n : Int) : Scalar.ofInt? n = .ok (n : Rat) := by
  have hmagnitude : (Scalar.ofNat n.natAbs : Rat) = (n.natAbs : Rat) := by
    change Rat.ofScientific n.natAbs false 0 = _
    simp [Rat.ofScientific]
  change Except.ok (if n < 0 then -(Scalar.ofNat n.natAbs : Rat) else Scalar.ofNat n.natAbs) = _
  rw [hmagnitude]
  by_cases hn : n < 0
  · rw [if_pos hn]
    have habs : (n.natAbs : Int) = -n := by omega
    rw [← Int.cast_natCast, habs, Int.cast_neg, neg_neg]
  · rw [if_neg hn]
    have habs : (n.natAbs : Int) = n := by omega
    rw [← Int.cast_natCast, habs]

/-- Rounding commutes with whole shifts. -/
theorem pixelOf_add_int (x : Rat) (n : Int) : pixelOf (x + n) = pixelOf x + n := by
  have hmove : x + n + 1 / 2 = x + 1 / 2 + n := by ring
  rw [pixelOf, pixelOf, hmove, Int.floor_add_intCast]

/-- A whole number is its own pixel. -/
theorem pixelOf_int (n : Int) : pixelOf n = n := by
  have hzero : pixelOf 0 = 0 := by norm_num [pixelOf]
  rw [← zero_add (n : Rat), pixelOf_add_int, hzero, zero_add]

theorem roundInt_rat (n : Int) : Scalar.roundInt (K := Rat) n = .ok n := by
  rw [Scalar.roundInt, ofInt?_rat]
  change Scalar.roundHalfUp (n : Rat) = .ok n
  rw [roundHalfUp_rat, pixelOf_int]

/-- Rounding keeps the order. -/
theorem pixelOf_mono {x y : Rat} (h : x ≤ y) : pixelOf x ≤ pixelOf y :=
  Int.floor_le_floor (by linarith)

/-- The least whole number that is not below a rational. -/
theorem ceil_rat (x : Rat) : Scalar.ceil x = .ok ⌈x⌉ := by
  have hceil : Rat.ceil x = ⌈x⌉ := by
    rw [Rat.ceil_eq_neg_floor_neg]
    change -⌊-x⌋ = ⌈x⌉
    rw [Int.floor_neg, neg_neg]
  rw [← hceil]
  rfl

section Hundredths

open Scalar

/-- Rounding moves a number by a half at most. -/
theorem nearestEven_error (q : Rat) : |(nearestEven q : Rat) - q| ≤ 1 / 2 := by
  have hbelow : ((q.floor : Int) : Rat) ≤ q := Int.floor_le q
  have habove : q < ((q.floor : Int) : Rat) + 1 := Int.lt_floor_add_one q
  rw [nearestEven]
  -- The neighbour below is taken up to a half, the one above from a half on.
  split_ifs <;> push_cast <;> rw [abs_le] <;> constructor <;> linarith

/-- A whole number is nearest to itself. -/
theorem nearestEven_int (n : Int) : nearestEven n = n := by
  rw [nearestEven, Rat.floor_intCast, sub_self, if_pos (by norm_num)]

/-- Rounding goes to one of the two neighbours. -/
theorem nearestEven_neighbour (q : Rat) :
    q.floor ≤ nearestEven q ∧ nearestEven q ≤ q.floor + 1 := by
  rw [nearestEven]
  split_ifs <;> omega

/-- Rounding keeps the order. -/
theorem nearestEven_mono {p q : Rat} (h : p ≤ q) : nearestEven p ≤ nearestEven q := by
  have hfloor : p.floor ≤ q.floor := Int.floor_le_floor h
  rcases Int.lt_or_eq_of_le hfloor with hlt | heq
  · -- Between the two lies a whole number, which neither passes.
    have hp := (nearestEven_neighbour p).2
    have hq := (nearestEven_neighbour q).1
    omega
  · have hrest : p - (q.floor : Rat) ≤ q - (q.floor : Rat) := by linarith
    rw [nearestEven, nearestEven, heq]
    split_ifs <;> first | omega | (exfalso; linarith)

/-- Rounding treats both signs alike. -/
theorem nearestEven_neg (q : Rat) : nearestEven (-q) = -nearestEven q := by
  by_cases hwhole : q = (q.floor : Rat)
  · rw [hwhole, ← Int.cast_neg, nearestEven_int, nearestEven_int]
  · have hbelow : ((q.floor : Int) : Rat) < q :=
      lt_of_le_of_ne (Int.floor_le q) fun h => hwhole h.symm
    have habove : q < ((q.floor : Int) : Rat) + 1 := Int.lt_floor_add_one q
    have hfloor : (-q).floor = -q.floor - 1 := by
      change ⌊-q⌋ = _
      refine Int.floor_eq_iff.mpr ⟨?_, ?_⟩ <;> push_cast <;> linarith
    -- The distances to the two neighbours change places, and so do even and odd.
    rw [nearestEven, nearestEven, hfloor]
    push_cast
    split_ifs <;> first | omega | (exfalso; linarith)

/-- Whole even numbers can be added before rounding or after it. -/
theorem nearestEven_add_even (q : Rat) {n : Int} (h : n % 2 = 0) :
    nearestEven (q + n) = nearestEven q + n := by
  have hfloor : (q + n).floor = q.floor + n := Int.floor_add_intCast q n
  have hrest : q + (n : Rat) - ((q.floor + n : Int) : Rat) = q - (q.floor : Rat) := by
    push_cast
    ring
  rw [nearestEven, nearestEven, hfloor, hrest]
  split_ifs <;> omega

/-- How many hundredths a rational rounds to, halves to even. -/
def hundredthsOf (x : Rat) : Int :=
  nearestEven (x * 100)

theorem hundredthsOf_nonneg {x : Rat} (h : 0 ≤ x) : 0 ≤ hundredthsOf x := by
  have hzero : nearestEven 0 = 0 := nearestEven_int 0
  rw [← hzero]
  exact nearestEven_mono (by linarith)

theorem hundredthsOf_neg (x : Rat) : hundredthsOf (-x) = -hundredthsOf x := by
  rw [hundredthsOf, neg_mul, nearestEven_neg]
  rfl

theorem hundredthsOf_mono {x y : Rat} (h : x ≤ y) : hundredthsOf x ≤ hundredthsOf y :=
  nearestEven_mono (by linarith)

/-- What is left of a hundred is rounded to what is left of ten thousand. -/
theorem hundredthsOf_rest (x : Rat) : hundredthsOf (100 - x) = 10000 - hundredthsOf x := by
  have hrest : (100 - x) * 100 = -(x * 100) + ((10000 : Int) : Rat) := by
    push_cast
    ring
  rw [hundredthsOf, hrest, nearestEven_add_even _ (by decide), nearestEven_neg, hundredthsOf]
  ring

/-- Hundredths round to themselves. -/
theorem hundredthsOf_div (n : Int) : hundredthsOf ((n : Rat) / 100) = n := by
  rw [hundredthsOf, div_mul_cancel₀ _ (by norm_num), nearestEven_int]

/-- Rounding to hundredths moves a number by half of one at most. -/
theorem hundredthsOf_error (x : Rat) : |(hundredthsOf x : Rat) / 100 - x| ≤ 1 / 200 := by
  have herror := abs_le.mp (nearestEven_error (x * 100))
  rw [hundredthsOf, abs_le]
  constructor <;> linarith

/-- The magnitude of a rational has as many hundredths as the rational itself. -/
theorem hundredths_eq (x : Rat) : hundredths x = (hundredthsOf x).natAbs := by
  have habs : hundredths x = (hundredthsOf (if 0 ≤ x then x else -x)).toNat := rfl
  rw [habs]
  by_cases hx : 0 ≤ x
  · have hsign := hundredthsOf_nonneg hx
    rw [if_pos hx]
    omega
  · have hsign : 0 ≤ hundredthsOf (-x) := hundredthsOf_nonneg (by linarith)
    rw [if_neg hx]
    rw [hundredthsOf_neg] at hsign ⊢
    omega

/-- A rational rounds to its hundredths. -/
theorem toHundredths_rat (x : Rat) : toHundredths x = (hundredthsOf x : Rat) / 100 := by
  have hmagnitude : (OfScientific.ofScientific (hundredths x) true 2 : Rat)
      = ((hundredthsOf x).natAbs : Rat) / 100 := by
    change Rat.ofScientific (hundredths x) true 2 = _
    rw [Rat.ofScientific_true_def, Rat.mkRat_eq_div, hundredths_eq]
    norm_num
  change (if decide (x < 0) = true then -_ else _) = _
  rw [hmagnitude, ← Int.cast_natCast, Int.natCast_natAbs]
  by_cases hx : x < 0
  · have hsign : 0 ≤ hundredthsOf (-x) := hundredthsOf_nonneg (by linarith)
    rw [hundredthsOf_neg] at hsign
    rw [if_pos (decide_eq_true hx), abs_of_nonpos (by omega), Int.cast_neg, neg_div, neg_neg]
  · rw [if_neg (by rwa [decide_eq_true_eq]), abs_of_nonneg (hundredthsOf_nonneg (not_lt.mp hx))]

/-- The numeral of a number of hundredths. -/
theorem fixedHundredths_rat (n : Int) :
    fixedHundredths ((n : Rat) / 100) = hundredthsNumeral (n < 0) n.natAbs := by
  have hsign : ((n : Rat) / 100 < 0) ↔ n < 0 := by
    rw [div_lt_iff₀ (by norm_num), zero_mul, Int.cast_lt_zero]
  change hundredthsNumeral (decide ((n : Rat) / 100 < 0)) (hundredths ((n : Rat) / 100)) = _
  rw [hundredths_eq, hundredthsOf_div, decide_eq_decide.mpr hsign]

end Hundredths

end Letterpress
