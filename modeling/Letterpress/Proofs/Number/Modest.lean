import Letterpress.Proofs.Number.Finite

/-!
# Modest Numbers

A number is modest if it is a few hundred digits shorter than the limit on numerals. Sums of
a few modest numbers can still be written, and there is room for any coordinate.

On floating point every number of a layout is modest, whatever the design says. A finite
number lies below the power of two that the exponents end at, some three hundred digits
long, and so do the pixels that it rounds to. These are in the range once more, so they can
be rounded again. A number of rows is a scalar only if it is in the range, since whatever has
more digits than the greatest finite number is rounded to infinity.

Of exact scalars all of this has to be asked.

## Main definitions

* `IsModest`: A number that leaves room for sums.
* `ModestScalars`: A number system in which all numbers of a layout are modest.

## Theorems

* `isWritable_sum`: A sum of a few modest numbers can be written.
* `round_great`: What is not rounded to a finite number.
* `ofNat_finite`, `log2_ofNat`: The whole numbers that are finite.
-/

namespace Letterpress

/-- A bound on numbers, far below the limit of numerals. -/
def modestBound : Nat :=
  Nat.pow 10 4000

/-- A number that leaves room for sums. -/
def IsModest (n : Int) : Prop :=
  n.natAbs ≤ modestBound

instance (n : Int) : Decidable (IsModest n) :=
  Nat.decLe n.natAbs modestBound

/-- Sums of a few modest numbers can be written. -/
theorem isWritable_sum {n : Int} (h : n.natAbs ≤ 9 * modestBound) : Text.isWritable n = true := by
  have hroom : 9 * modestBound < Nat.pow 10 Text.numeralLimit := by decide +kernel
  rw [Text.isWritable, decide_eq_true_eq]
  exact Nat.lt_of_le_of_lt h hroom

theorem IsModest.writable {n : Int} (h : IsModest n) : Text.isWritable n = true :=
  isWritable_sum (Nat.le_trans h (Nat.le_mul_of_pos_left modestBound (by decide)))

/-- A number system in which all numbers of a layout are modest: those that scalars round to,
    which can also be rounded again, and those that count something a scalar is taken of. -/
class ModestScalars (K : Type) [Scalar K] : Prop where
  pixel : ∀ n : Int, IsPixel K n → IsModest n
  again : ∀ n : Int, IsPixel K n → ∃ m, Scalar.roundInt (K := K) n = .ok m
  whole : ∀ (n : Int) (x : K), Scalar.ofInt? n = .ok x → IsModest n

/-- Whole numbers are scalars if their magnitude is finite. -/
theorem ofInt?_ok {K : Type} [Scalar K] {n : Int} {x : K} :
    Scalar.ofInt? n = .ok x ↔ IsFinite (Scalar.ofNat n.natAbs : K) ∧
      x = if n < 0 then -Scalar.ofNat n.natAbs else Scalar.ofNat n.natAbs := by
  unfold Scalar.ofInt? IsFinite
  dsimp only
  cases hread : Scalar.reading (Scalar.ofNat n.natAbs : K) with
  | exact q => simp [eq_comm]
  | undefined => simp
  | infinite negative => simp

end Letterpress

open Float.Model Float.Model.UnpackedFloat

namespace Letterpress

namespace Binary64

section Overflow

variable {s : Sign} {m : Nat} {e : Int} {accuracy : Accuracy}

/-- Finite words have no greater exponents. -/
theorem not_isFinite_pack {hm : 0 < m} (he : greatestExponent < e) :
    ¬ IsFinite (Float.ofModel (Float.Model.pack (.finite s m e hm))) := by
  have hleast : 971 < e := he
  have hbiased : 2047 ≤ (e + (Format.binary64.exponentBias : Int) + (52 : Nat)).toNat := by
    simp only [Format.exponentBias]
    omega
  rw [isFinite_iff, not_not]
  change unpackExponent (UnpackedFloat.pack Format.binary64 (.finite s m e hm)) = -1#11
  delta UnpackedFloat.pack
  dsimp only
  rw [if_pos (show 2048 ≤ _ + 1 by omega)]
  exact unpackExponent_packComponents ..

/-- The first digit is among those that are kept before rounding. -/
theorem first_mantissa_pos (hm : 0 < m) (he : -1074 ≤ e) :
    0 < (shiftToTargetExponent Format.binary64 m e accuracy).1.mantissa := by
  simp only [shiftToTargetExponent, shiftToExponent]
  rw [shift_mantissa, ofAccuracy_mantissa]
  refine Nat.div_pos (le_trans (Nat.pow_le_pow_right (by decide) ?_)
    (Nat.log2_self_le hm.ne')) (Nat.two_pow_pos _)
  rw [targetExponent_binary64]
  unfold totalExponent
  omega

theorem le_roundedMantissa (em : ExtendedMantissa) : em.mantissa ≤ em.roundedMantissa := by
  rcases em with ⟨m, _ | _, _ | _⟩ <;>
    simp only [ExtendedMantissa.roundedMantissa, ExtendedMantissa.accuracy,
      Accuracy.roundToNearestEven] <;> omega

/-- A number with more digits than the greatest ones is not rounded to a finite number. -/
theorem round_great (hm : 0 < m) (he : -1074 ≤ e) (hsize : 1025 ≤ totalExponent m e) :
    ¬ IsFinite (Float.ofModel (Float.Model.pack
      (roundWithAccuracy Format.binary64 s m e accuracy))) := by
  unfold roundWithAccuracy
  dsimp only
  generalize hfirst : shiftToTargetExponent Format.binary64 m e accuracy = first
  have hdigits : 0 < first.1.roundedMantissa :=
    Nat.lt_of_lt_of_le (hfirst ▸ first_mantissa_pos hm he) (le_roundedMantissa _)
  have hexponent : 971 < first.2 := by
    rw [← hfirst, first_exponent]
    omega
  -- Carrying over drops no more than a digit, and the exponent only grows with it.
  rw [dif_neg (first_mantissa_pos hdigits (by omega)).ne']
  refine not_isFinite_pack (lt_of_lt_of_le hexponent ?_)
  rw [first_exponent]
  exact le_max_left _ _

end Overflow

section Whole

variable {n : Nat}

theorem unpack_one :
    (Float.ofBits 0x3FF0000000000000).toModel.unpack
      = .finite .positive (2 ^ 52) (-52) (by decide) :=
  rfl

/-- A finite number times one is finite. -/
theorem mul_one_lands {f : UnpackedFloat} (h : Keeps f) :
    Lands (UnpackedFloat.mul Format.binary64 f
      (.finite .positive (2 ^ 52) (-52) (by decide))) := by
  cases f with
  | infinity _ => exact h.elim
  | notANumber => exact h.elim
  | zero _ => trivial
  | finite s m e hpos =>
      rcases h with ⟨hm, hleast, hmost⟩
      have hmost : e ≤ 971 := hmost
      have hunit : (970 - (e + -52)).toNat = 51 + (971 - e).toNat := by
        omega
      refine lands_below (by omega) ?_
      rw [hunit, Nat.pow_add, ← Nat.mul_assoc]
      refine Nat.lt_of_lt_of_le ?_ (Nat.le_mul_of_pos_right _ (Nat.two_pow_pos _))
      omega

/-- A whole number that fits into a mantissa is written as a machine word, and that word is
    multiplied by a power of ten, here by one. -/
theorem ofNat_short (h : n < 2 ^ 53) : IsFinite (Scalar.ofNat n : Float) := by
  have hword : n.toUInt64.toNat = n :=
    UInt64.toNat_ofNat_of_lt' (Nat.lt_trans h (by decide))
  have hread : IsFinite n.toUInt64.toFloat := by
    refine isFinite_pack (f := UnpackedFloat.ofUInt64 Format.binary64 n.toUInt64) ?_
    refine normalize_lands (by decide) ?_
    rw [hword, Int.natAbs_natCast]
    exact Nat.lt_of_lt_of_le h
      (Nat.le_trans (by decide) (Nat.le_mul_of_pos_right _ (Nat.two_pow_pos _)))
  have hproduct : (Scalar.ofNat n : Float) = Float.ofModel (Float.Model.pack
      (UnpackedFloat.mul Format.binary64 n.toUInt64.toFloat.toModel.unpack
        (Float.ofBits 0x3FF0000000000000).toModel.unpack)) := by
    change Float.ofScientific n false 0 = _
    rw [Float.ofScientific, dif_pos ⟨h, by decide⟩]
    rfl
  rw [hproduct, unpack_one]
  exact isFinite_pack (mul_one_lands (keeps_unpack hread))

/-- A longer one is rounded. -/
theorem ofNat_long (h : 2 ^ 53 ≤ n) :
    (Scalar.ofNat n : Float) = Float.ofModel (Float.Model.pack
      (roundWithAccuracy Format.binary64 .positive (n * 2 ^ 53) (-53) .exact)) := by
  have hslow : ¬ (n < 2 ^ 53 ∧ 0 ≤ 22) := fun hfast => absurd hfast.1 (Nat.not_lt.mpr h)
  have hproduct : UnpackedFloat.ofScientific Format.binary64 n (0 : Nat)
      = roundWithAccuracy Format.binary64 .positive (n * 2 ^ 53) (-53) .exact := by
    unfold UnpackedFloat.ofScientific
    rw [dif_neg (by omega), if_neg (by simp), if_neg (by simp), if_pos (by simp)]
    change roundWithAccuracy Format.binary64 .positive (n <<< 53 * 1) (-53) .exact = _
    rw [Nat.mul_one, Nat.shiftLeft_eq]
  rw [← hproduct]
  change Float.ofScientific n false 0 = _
  rw [Float.ofScientific, dif_neg hslow]
  rfl

/-- A whole number up to the greatest finite number is finite. -/
theorem ofNat_finite (h : n ≤ bound) : IsFinite (Scalar.ofNat n : Float) := by
  by_cases hshort : n < 2 ^ 53
  · exact ofNat_short hshort
  · rw [ofNat_long (Nat.le_of_not_lt hshort)]
    refine isFinite_pack (lands_below (by decide) ?_)
    -- The powers of two are too great to be computed, so their exponent is only named.
    obtain ⟨k, hk, hunit⟩ :
        ∃ k : Nat, greatestExponent = k + 1 ∧ (970 - (-53 : Int)).toNat = k + 53 :=
      ⟨970, rfl, rfl⟩
    rw [hunit, Nat.pow_add, ← Nat.mul_assoc]
    refine Nat.mul_lt_mul_of_pos_right ?_ (Nat.two_pow_pos 53)
    have hpow : 0 < 2 ^ k := Nat.two_pow_pos k
    rw [bound, hk, Nat.pow_eq, Nat.pow_eq, Nat.pow_succ] at h
    omega

/-- A whole number with more digits is not. -/
theorem log2_ofNat (h : IsFinite (Scalar.ofNat n : Float)) : n.log2 < 1024 := by
  by_contra hgreat
  have hn : 0 < n := Nat.pos_of_ne_zero fun hzero => hgreat (by simp [hzero])
  have hlong : 2 ^ 53 ≤ n := (Nat.le_log2 hn.ne').mp (by omega)
  have hpos : 0 < n * 2 ^ 53 := Nat.mul_pos hn (Nat.two_pow_pos 53)
  have hlog : n.log2 + 53 ≤ (n * 2 ^ 53).log2 := by
    rw [Nat.le_log2 hpos.ne', Nat.pow_add]
    exact Nat.mul_le_mul_right _ (Nat.log2_self_le hn.ne')
  rw [ofNat_long hlong] at h
  refine round_great hpos (by decide) ?_ h
  rw [totalExponent]
  omega

theorem isFinite_neg {x : Float} (h : IsFinite x) : IsFinite (-x) := by
  refine isFinite_pack (f := x.toModel.unpack.neg) ?_
  have hkeeps := keeps_unpack h
  cases hx : x.toModel.unpack with
  | infinity _ => exact (hx ▸ hkeeps).elim
  | notANumber => exact (hx ▸ hkeeps).elim
  | zero _ => trivial
  | finite s m e hm =>
      rw [hx] at hkeeps
      exact hkeeps.2.2

end Whole

end Binary64

/-- The range of floating point is far below the limit of numerals, and what lies in it can
    be rounded. -/
instance : ModestScalars Float where
  pixel n h := by
    rcases h with ⟨x, hx⟩
    exact Nat.le_trans (natAbs_roundHalfUp hx) (by decide +kernel)
  again n h := by
    rcases h with ⟨x, hx⟩
    have hmagnitude : IsFinite (Scalar.ofNat n.natAbs : Float) :=
      Binary64.ofNat_finite (natAbs_roundHalfUp hx)
    have hfinite : IsFinite
        (if n < 0 then -Scalar.ofNat n.natAbs else Scalar.ofNat n.natAbs : Float) := by
      split
      · exact Binary64.isFinite_neg hmagnitude
      · exact hmagnitude
    rcases roundHalfUp_returns hfinite with ⟨m, hm⟩
    exact ⟨m, except_bind_ok.mpr ⟨_, ofInt?_ok.mpr ⟨hmagnitude, rfl⟩, hm⟩⟩
  whole n x h := by
    obtain ⟨k, hk, hroom⟩ : ∃ k : Nat, 1024 = k ∧ Nat.pow 2 k ≤ modestBound :=
      ⟨1024, rfl, by decide +kernel⟩
    have hlog : n.natAbs.log2 + 1 ≤ k := hk ▸ Binary64.log2_ofNat (ofInt?_ok.mp h).1
    have hless : n.natAbs < 2 ^ (n.natAbs.log2 + 1) := Nat.lt_log2_self
    exact Nat.le_trans hless.le (Nat.le_trans (Nat.pow_le_pow_right (by decide) hlog) hroom)

end Letterpress
