import Letterpress.Config
import Letterpress.Layout.Row
import Letterpress.Number.Binary64
import Letterpress.Proofs.Layout.Stability
import Letterpress.Proofs.Number.Exact
import Letterpress.Proofs.Session
import Letterpress.Text.Digit
import Mathlib.Algebra.Order.Field.Power
import Mathlib.Data.Prod.Lex
import Mathlib.Order.Compare

/-!
# Finite Numbers

A design may hold numbers that are infinite or undefined, and those have no pixel and no
place in an order. What is said about layout is said about finite numbers. Of the number
system it takes two things: half a pixel more is still finite, so that a finite number has
its nearest pixel, and finite numbers are in order.

What layout takes from a number system holds of floating point. A finite number is far from
the edge of the range compared with half a pixel: between the greatest finite number and
the next power of two lies half a unit of its last digit, and whatever stays below that is
rounded back. Dividing by the steps of the grid leads away from the edge.

Finite numbers are compared by their sign, then by their exponent, then by their mantissa.
Undefined numbers are not less than anything, and so they would be out of order.

## Main definitions

* `Binary64.bound`: The greatest finite floating point number.
* `IsPixel`: Some scalar rounds to the number.
* `IsFinite`: A number is neither infinite nor undefined.
* `FiniteArithmetic`: A number system in which finite numbers have pixels and are in order.
* `Config.IsSteady`: Settings under which finite coordinates have their step of the grid.
* `Keeps`: A number has the digits and exponents of finite words.
* `Lands`: A number is written as a finite word.
* `rank`: Where a finite number stands among the others.

## Theorems

* `mul_twoTo_le`, `value_le`, `reading_le`: How great a floating point number is.
* `natAbs_roundHalfUp`: How great the pixels are that it rounds to.
* `roundHalfUp_returns`: A finite number has its nearest whole number.
* `isFinite_iff`, `isFinite_pack`, `keeps_unpack`: Finite numbers and finite words.
* `lands_small`, `lands_below`: What is rounded to a finite number.
* `add_half_lands`, `div_five_lands`: The sums and quotients of layout are finite.
* `lt_iff_rank`: Finite numbers are compared by their ranks.
-/

namespace Letterpress

namespace Binary64

/-- The greatest exponent of a finite floating point number. -/
def greatestExponent : Nat :=
  971

/-- The greatest finite floating point number, with 53 bits in its mantissa. -/
def bound : Nat :=
  (Nat.pow 2 53 - 1) * Nat.pow 2 greatestExponent

theorem twoTo_nonneg (e : Int) : 0 ≤ twoTo e := by
  unfold twoTo
  split
  · exact div_nonneg zero_le_one (Nat.cast_nonneg _)
  · exact Nat.cast_nonneg _

/-- A number is bounded if its mantissa and its exponent are. -/
theorem mul_twoTo_le {m most : Nat} {e : Int} {k : Nat} (hm : m ≤ most) (he : e ≤ k) :
    m * twoTo e ≤ (most * Nat.pow 2 k : Nat) := by
  have hone : ∀ n : Nat, (1 : Rat) ≤ (Nat.pow 2 n : Nat) := fun n =>
    Nat.one_le_cast.mpr Nat.one_le_two_pow
  have hpower : twoTo e ≤ (Nat.pow 2 k : Nat) := by
    unfold twoTo
    split
    · exact le_trans (div_le_one_of_le₀ (hone _) (Nat.cast_nonneg _)) (hone k)
    · exact Nat.cast_le.mpr (Nat.pow_le_pow_right (by decide) (by omega))
  rw [Nat.cast_mul]
  exact mul_le_mul (Nat.cast_le.mpr hm) hpower (twoTo_nonneg e) (Nat.cast_nonneg most)

/-- The fraction of a number has 52 bits. -/
theorem fraction_lt (bits : UInt64) : (bits &&& 0xFFFFFFFFFFFFF).toNat < 2 ^ 52 := by
  rw [UInt64.toNat_and]
  exact Nat.lt_of_le_of_lt Nat.and_le_right (by decide)

/-- The greatest exponent stands for what is not finite. -/
theorem field_lt {bits : UInt64} (h : (bits >>> 52) &&& 0x7FF ≠ 0x7FF) :
    ((bits >>> 52) &&& 0x7FF).toNat < 2047 := by
  refine Nat.lt_of_le_of_ne ?_ fun hmax => h (UInt64.toNat_inj.mp hmax)
  rw [UInt64.toNat_and]
  exact Nat.and_le_right

/-- A finite number keeps to the bound. -/
theorem value_le {bits : UInt64} (h : (bits >>> 52) &&& 0x7FF ≠ 0x7FF) :
    0 ≤ (ofBits bits).value ∧ (ofBits bits).value ≤ bound := by
  have hfraction := fraction_lt bits
  have hfield := field_lt h
  have hparts : (ofBits bits).mantissa ≤ Nat.pow 2 53 - 1 ∧
      (ofBits bits).exponent ≤ greatestExponent := by
    simp only [ofBits, greatestExponent]
    split
    · exact ⟨Nat.le_trans hfraction.le (by decide), by dsimp only; omega⟩
    · refine ⟨?_, by dsimp only; omega⟩
      change 2 ^ 52 + _ ≤ 2 ^ 53 - 1
      omega
  exact ⟨mul_nonneg (Nat.cast_nonneg _) (twoTo_nonneg _), mul_twoTo_le hparts.1 hparts.2⟩

end Binary64

/-- What is read from a floating point number. -/
theorem reading_le {x : Float} {q : Rat} (h : Scalar.reading x = .exact q) :
    |q| ≤ Binary64.bound := by
  change floatReading x = .exact q at h
  simp only [floatReading] at h
  split at h
  · split at h <;> exact absurd h (by simp)
  · rename_i hfinite
    rcases Binary64.value_le hfinite with ⟨hnonneg, hle⟩
    rw [← Reading.exact.inj h]
    refine le_of_eq_of_le ?_ hle
    split
    · rw [abs_neg, abs_of_nonneg hnonneg]
    · rw [abs_of_nonneg hnonneg]

/-- What a floating point number rounds to. -/
theorem natAbs_roundHalfUp {x : Float} {n : Int} (h : Scalar.roundHalfUp x = .ok n) :
    n.natAbs ≤ Binary64.bound := by
  simp only [Scalar.roundHalfUp, Scalar.floor, except_map_ok, Scalar.rational] at h
  rcases h with ⟨q, hq, rfl⟩
  split at hq
  · rename_i r hread
    obtain rfl := Except.ok.inj hq
    have hbounds := abs_le.mp (reading_le hread)
    have hlow : -(Binary64.bound : Int) ≤ ⌊r⌋ := Int.le_floor.mpr (by exact_mod_cast hbounds.1)
    have hhigh : ⌊r⌋ ≤ (Binary64.bound : Int) := by
      exact_mod_cast le_trans (Int.floor_le r) hbounds.2
    change (⌊r⌋).natAbs ≤ _
    omega
  all_goals exact absurd hq (by simp)

/-- Some scalar rounds to the number. -/
def IsPixel (K : Type) [Scalar K] (n : Int) : Prop :=
  ∃ x : K, Scalar.roundHalfUp x = .ok n

end Letterpress

namespace Letterpress

/-- The number is neither infinite nor undefined. -/
def IsFinite {K : Type} [Scalar K] (x : K) : Prop :=
  ∃ q, Scalar.reading x = .exact q

/-- A number system in which finite numbers have pixels and are in order. -/
class FiniteArithmetic (K : Type) [Scalar K] : Prop where
  /-- Half a pixel more is still finite. -/
  add_half : ∀ x : K, IsFinite x → IsFinite (x + 0.5)
  /-- Finite numbers are in order. -/
  before_isStrictWeak : Layout.IsStrictWeak fun x y : {x : K // IsFinite x} =>
    Layout.before x.val y.val

section Rounding

variable {K : Type} [Scalar K]

/-- Only finite numbers have whole numbers below them. -/
theorem floor_returns {x : K} : (∃ n, Scalar.floor x = .ok n) ↔ IsFinite x := by
  unfold Scalar.floor Scalar.rational IsFinite
  cases hread : Scalar.reading x with
  | exact q => exact ⟨fun _ => ⟨q, rfl⟩, fun _ => ⟨q.floor, rfl⟩⟩
  | undefined => exact ⟨fun ⟨_, h⟩ => absurd h (by simp), fun ⟨_, h⟩ => absurd h (by simp)⟩
  | infinite _ => exact ⟨fun ⟨_, h⟩ => absurd h (by simp), fun ⟨_, h⟩ => absurd h (by simp)⟩

/-- A finite number has its nearest whole number. -/
theorem roundHalfUp_returns [FiniteArithmetic K] {x : K} (h : IsFinite x) :
    ∃ n, Scalar.roundHalfUp x = .ok n :=
  floor_returns.mpr (FiniteArithmetic.add_half x h)

end Rounding

/-- Settings under which finite coordinates have their step of the grid, and the corners of
    tables have their pixels. -/
structure Config.IsSteady {K : Type} [Scalar K] (config : Config K) : Prop where
  step : ∀ y : K, IsFinite y → ∃ z, Scalar.divide? y config.rowBucket = .ok z ∧ IsFinite z
  radius : ∃ n, Scalar.roundInt (K := K) config.cornerRadius = .ok n

section Rationals

theorem isFinite_rat (q : Rat) : IsFinite q :=
  ⟨q, rfl⟩

instance : FiniteArithmetic Rat where
  add_half := fun x _ => isFinite_rat (x + 0.5)
  before_isStrictWeak := Layout.isStrictWeak_lt.onKey Subtype.val

/-- The default settings are steady for rationals. -/
theorem isSteady_default_rat : ({} : Config Rat).IsSteady where
  step := fun y _ => ⟨y / 5.0, if_neg (by norm_num [Scalar.isZero, Scalar.reading]), isFinite_rat _⟩
  radius := ⟨_, roundHalfUp_rat _⟩

end Rationals

end Letterpress

open Float.Model Float.Model.UnpackedFloat

namespace Letterpress

namespace Binary64

section Words

/-- The exponent of infinite and undefined words. -/
theorem field_full (bits : UInt64) :
    (bits >>> 52) &&& 0x7FF = 0x7FF ↔
      @unpackExponent Format.binary64 bits.toBitVec = -1#11 := by
  have hfield : ((bits >>> 52) &&& 0x7FF).toNat = bits.toNat / 2 ^ 52 % 2 ^ 11 := by
    rw [UInt64.toNat_and, UInt64.toNat_shiftRight, Nat.shiftRight_eq_div_pow]
    exact Nat.and_two_pow_sub_one_eq_mod _ 11
  have hexponent : (@unpackExponent Format.binary64 bits.toBitVec).toNat
      = bits.toNat / 2 ^ 52 % 2 ^ 11 := by
    simp only [unpackExponent, BitVec.toNat_cast, BitVec.extractLsb_toNat]
    rw [Nat.shiftRight_eq_div_pow]
    rfl
  rw [← UInt64.toNat_inj, ← BitVec.toNat_inj, hfield, hexponent]
  rfl

/-- A number is finite if its word is. -/
theorem isFinite_iff (x : Float) :
    IsFinite x ↔ @unpackExponent Format.binary64 x.toBits.toBitVec ≠ -1#11 := by
  rw [ne_eq, ← field_full]
  change (∃ q, floatReading x = _) ↔ _
  unfold floatReading
  dsimp only
  by_cases h : (x.toBits >>> 52) &&& 0x7FF = 0x7FF
  · rw [if_pos h]
    refine ⟨fun ⟨q, hq⟩ => ?_, fun hn => absurd h hn⟩
    split at hq <;> exact absurd hq (by simp)
  · rw [if_neg h]
    exact ⟨fun _ => h, fun _ => ⟨_, rfl⟩⟩

instance (x : Float) : Decidable (IsFinite x) :=
  decidable_of_iff _ (isFinite_iff x).symm

/-- The number is written as a finite word, with no more digits than fit. -/
def Lands : UnpackedFloat → Prop
  | .zero _ => True
  | .finite _ _ e _ => e ≤ greatestExponent
  | .infinity _ | .notANumber => False

theorem isFinite_pack {f : UnpackedFloat} (h : Lands f) :
    IsFinite (Float.ofModel (Float.Model.pack f)) := by
  rw [isFinite_iff]
  change unpackExponent (UnpackedFloat.pack Format.binary64 f) ≠ -1#11
  cases f with
  | infinity _ => exact h.elim
  | notANumber => exact h.elim
  | zero s =>
      change unpackExponent (packComponents _ s 0 0) ≠ _
      rw [unpackExponent_packComponents]
      decide
  | finite s m e hm =>
      have hmost : e ≤ 971 := h
      -- The greatest exponent is written as the last field but one.
      have hbiased : (e + (Format.binary64.exponentBias : Int) + (52 : Nat)).toNat < 2047 := by
        simp only [Format.exponentBias]
        omega
      delta UnpackedFloat.pack
      dsimp only
      rw [if_neg (show ¬ 2048 ≤ _ + 1 by omega)]
      split
      · rw [unpackExponent_packComponents, ne_eq, ← BitVec.toNat_inj, BitVec.toNat_ofNat,
          Nat.mod_eq_of_lt (show _ < 2048 by omega)]
        exact hbiased.ne
      · rw [unpackExponent_packComponents]
        decide

/-- The number has the digits and exponents of finite words. -/
def Keeps : UnpackedFloat → Prop
  | .zero _ => True
  | .finite _ m e _ => m < 2 ^ 53 ∧ -1074 ≤ e ∧ e ≤ greatestExponent
  | .infinity _ | .notANumber => False

/-- What is read from a finite word. Without an exponent a word is zero or has a short
    mantissa. With one, its mantissa has a leading digit that is not written. -/
theorem keeps_unpack {x : Float} (h : IsFinite x) : Keeps x.toModel.unpack := by
  replace h : @unpackExponent Format.binary64 x.toModel.toBits.toBitVec ≠ -1#11 :=
    (isFinite_iff x).mp h
  have hmantissa : (@unpackMantissa Format.binary64 x.toModel.toBits.toBitVec).toNat
      < 2 ^ 52 := BitVec.isLt _
  unfold Float.Model.unpack UnpackedFloat.unpack
  dsimp only
  rw [if_neg h]
  generalize @unpackExponent Format.binary64 x.toModel.toBits.toBitVec = field at *
  -- A full field is that of infinities and of what is no number.
  have hfield : field.toNat < 2047 := by
    have hbits : field.toNat < 2048 := field.isLt
    refine Nat.lt_of_le_of_ne (by omega) fun hfull => h (BitVec.toNat_inj.mp hfull)
  by_cases hzero : field = 0#11
  · rw [if_pos hzero, hzero]
    by_cases hnone : @unpackMantissa Format.binary64 x.toModel.toBits.toBitVec = 0#_
    · rw [dif_pos hnone]
      trivial
    · rw [dif_neg hnone]
      exact ⟨lt_trans hmantissa (by decide), by decide, by decide⟩
  · rw [if_neg hzero]
    have hpos : 0 < field.toNat :=
      Nat.pos_of_ne_zero fun hnone => hzero (BitVec.toNat_inj.mp hnone)
    refine ⟨(1#1 ++ _ : BitVec 53).isLt, ?_, ?_⟩
    · simp only [Format.exponentBias]
      omega
    · simp only [Format.exponentBias, greatestExponent]
      omega

end Words

section Digits

theorem log2_le {m k : Nat} (h : m < 2 ^ (k + 1)) : m.log2 ≤ k := by
  by_cases hzero : m = 0
  · rw [hzero, Nat.log2_zero]
    exact Nat.zero_le k
  · exact Nat.le_of_lt_succ ((Nat.log2_lt hzero).mpr h)

theorem ofAccuracy_mantissa (m : Nat) (accuracy : Accuracy) :
    (ExtendedMantissa.ofMantissaAndAccuracy m accuracy).mantissa = m := by
  rcases accuracy with _ | _ | _ | _ <;> rfl

theorem shift_mantissa (em : ExtendedMantissa) (k : Nat) :
    (em >>> k).mantissa = em.mantissa / 2 ^ k := by
  induction k with
  | zero => exact (Nat.div_one _).symm
  | succ k ih =>
      change (em >>> k).mantissa / 2 = _
      rw [ih, Nat.div_div_eq_div_mul, Nat.pow_succ]

/-- The last digit that is dropped decides on rounding up. -/
theorem shift_roundBit (em : ExtendedMantissa) (k : Nat) :
    (em >>> (k + 1)).roundBit = (em.mantissa / 2 ^ k % 2 != 0) := by
  rw [← shift_mantissa]
  rfl

theorem roundedMantissa_le (em : ExtendedMantissa) : em.roundedMantissa ≤ em.mantissa + 1 := by
  rcases em with ⟨m, _ | _, _ | _⟩ <;>
    simp only [ExtendedMantissa.roundedMantissa, ExtendedMantissa.accuracy,
      Accuracy.roundToNearestEven] <;> omega

theorem roundedMantissa_down {em : ExtendedMantissa} (h : em.roundBit = false) :
    em.roundedMantissa = em.mantissa := by
  rcases em with ⟨m, _ | _, _ | _⟩
  · rfl
  · rfl
  · exact absurd h (by simp)
  · exact absurd h (by simp)

theorem targetExponent_binary64 (e : Int) :
    Format.binary64.targetExponent e = max (e - 53) (-1074) :=
  rfl

/-- The digits that are kept before rounding. -/
theorem first_mantissa_lt (m : Nat) (e : Int) (accuracy : Accuracy) :
    (shiftToTargetExponent Format.binary64 m e accuracy).1.mantissa < 2 ^ 53 := by
  simp only [shiftToTargetExponent, shiftToExponent]
  rw [shift_mantissa, ofAccuracy_mantissa, Nat.div_lt_iff_lt_mul (Nat.two_pow_pos _),
    ← Nat.pow_add]
  refine Nat.lt_of_lt_of_le Nat.lt_log2_self (Nat.pow_le_pow_right (by decide) ?_)
  rw [targetExponent_binary64]
  unfold totalExponent
  omega

/-- Their exponent. -/
theorem first_exponent (m : Nat) (e : Int) (accuracy : Accuracy) :
    (shiftToTargetExponent Format.binary64 m e accuracy).2
      = max e (max (totalExponent m e - 53) (-1074)) := by
  simp only [shiftToTargetExponent, shiftToExponent, targetExponent_binary64]
  omega

end Digits

section Rounding

variable {s : Sign} {m : Nat} {e : Int} {accuracy : Accuracy}

/-- Rounding up may carry into one more digit, and then the exponent grows by one. -/
theorem lands_of_first {em : ExtendedMantissa} {e₁ : Int}
    (hfirst : shiftToTargetExponent Format.binary64 m e accuracy = (em, e₁))
    (h : em.roundedMantissa < 2 ^ 53 ∧ e₁ ≤ 971 ∨ em.roundedMantissa < 2 ^ 54 ∧ e₁ ≤ 970) :
    Lands (roundWithAccuracy Format.binary64 s m e accuracy) := by
  have hlog : em.roundedMantissa.log2 ≤ 52 ∧ e₁ ≤ 971 ∨
      em.roundedMantissa.log2 ≤ 53 ∧ e₁ ≤ 970 :=
    h.imp (And.imp_left log2_le) (And.imp_left log2_le)
  have hsecond :
      (shiftToTargetExponent Format.binary64 em.roundedMantissa e₁ .exact).2 ≤ 971 := by
    rw [first_exponent, totalExponent]
    omega
  unfold roundWithAccuracy
  rw [hfirst]
  dsimp only
  generalize shiftToTargetExponent Format.binary64 em.roundedMantissa e₁ .exact = second at *
  by_cases hzero : second.1.mantissa = 0
  · rw [dif_pos hzero]
    trivial
  · rw [dif_neg hzero]
    exact hsecond

/-- A number with one digit less than the greatest ones is rounded to a finite number. -/
theorem lands_small (he : e ≤ 970) (hsize : totalExponent m e ≤ 1023) :
    Lands (roundWithAccuracy Format.binary64 s m e accuracy) := by
  refine lands_of_first rfl (Or.inr ⟨?_, (first_exponent m e accuracy).trans_le (by omega)⟩)
  have hdigits := first_mantissa_lt m e accuracy
  have hround := roundedMantissa_le (shiftToTargetExponent Format.binary64 m e accuracy).1
  exact Nat.lt_of_le_of_lt hround (by omega)

/-- So is a number below the middle between the greatest finite number and the next power of
    two. -/
theorem lands_below (he : e ≤ 970) (hm : m < (2 ^ 54 - 1) * 2 ^ (970 - e).toNat) :
    Lands (roundWithAccuracy Format.binary64 s m e accuracy) := by
  have hsize : totalExponent m e ≤ 1024 := by
    have hlog : m.log2 ≤ 53 + (970 - e).toNat := by
      refine log2_le (Nat.lt_of_lt_of_le hm ?_)
      rw [Nat.add_right_comm, Nat.pow_add]
      exact Nat.mul_le_mul_right _ (by decide)
    unfold totalExponent
    omega
  by_cases hsmall : totalExponent m e ≤ 1023
  · exact lands_small he hsmall
  · -- With the greatest exponent, one digit more than is kept decides on rounding up.
    obtain ⟨k, hk⟩ : ∃ k : Nat, (970 - e).toNat = k := ⟨_, rfl⟩
    have hshift : (Format.binary64.targetExponent (totalExponent m e) - e).toNat = k + 1 := by
      rw [targetExponent_binary64]
      omega
    refine lands_of_first rfl (Or.inl ⟨?_, (first_exponent m e accuracy).trans_le (by omega)⟩)
    rw [hshift]
    generalize hem : ExtendedMantissa.ofMantissaAndAccuracy m accuracy = em
    have hmantissa : em.mantissa = m := by
      rw [← hem, ofAccuracy_mantissa]
    have hless : m / 2 ^ k < 2 ^ 54 - 1 := by
      rw [Nat.div_lt_iff_lt_mul (Nat.two_pow_pos _), ← hk]
      exact hm
    have hkept : (em >>> (k + 1)).mantissa = m / 2 ^ k / 2 := by
      rw [shift_mantissa, hmantissa, Nat.pow_succ, Nat.div_div_eq_div_mul]
    by_cases hbit : m / 2 ^ k % 2 = 0
    · have hdown : (em >>> (k + 1)).roundBit = false := by
        rw [shift_roundBit, hmantissa, hbit]
        rfl
      rw [roundedMantissa_down hdown, hkept]
      omega
    · have hup := roundedMantissa_le (em >>> (k + 1))
      rw [hkept] at hup
      omega

/-- Writing a number with more digits does not make it greater. -/
theorem round_lands (he : e ≤ 970) (hm : m < (2 ^ 54 - 1) * 2 ^ (970 - e).toNat) :
    Lands (UnpackedFloat.round Format.binary64 s m e) := by
  unfold UnpackedFloat.round decreaseExponent
  dsimp only
  generalize (e - Format.binary64.targetExponent (totalExponent m e)).toNat = shift
  refine lands_below (by omega) ?_
  have hexponent : (970 - (e - shift)).toNat = (970 - e).toNat + shift := by
    omega
  rw [Nat.shiftLeft_eq, hexponent, Nat.pow_add, ← Nat.mul_assoc]
  exact Nat.mul_lt_mul_of_pos_right hm (Nat.two_pow_pos _)

theorem normalize_lands {m : Int} (he : e ≤ 970)
    (hm : m.natAbs < (2 ^ 54 - 1) * 2 ^ (970 - e).toNat) :
    Lands (UnpackedFloat.normalize Format.binary64 m e .positive) := by
  unfold UnpackedFloat.normalize
  split
  · exact round_lands he (by omega)
  · trivial
  · exact round_lands he (by omega)

end Rounding

section Layout

variable {f : UnpackedFloat}

/-- Half a pixel does not carry a finite number over the edge of the range. -/
theorem add_half_lands (h : Keeps f) :
    Lands (UnpackedFloat.add Format.binary64 f
      (.finite .positive (2 ^ 52) (-53) (by decide))) := by
  cases f with
  | infinity _ => exact h.elim
  | notANumber => exact h.elim
  | zero _ => exact (by decide : (-53 : Int) ≤ 971)
  | finite s m e hpos =>
      rcases h with ⟨hm, hleast, hmost⟩
      have hmost : e ≤ 971 := hmost
      unfold UnpackedFloat.add decreaseExponent
      dsimp only
      refine normalize_lands (by omega) ?_
      -- Both numbers are counted in units of the smaller exponent.
      obtain ⟨a, ha⟩ : ∃ a : Nat, (e - min e (-53)).toNat = a := ⟨_, rfl⟩
      obtain ⟨b, hb⟩ : ∃ b : Nat, (-53 - min e (-53)).toNat = b := ⟨_, rfl⟩
      have hunit : (970 - min e (-53)).toNat = 1023 + b := by
        omega
      rw [ha, hb, hunit, Nat.shiftLeft_eq, Nat.shiftLeft_eq]
      have hfirst : m * 2 ^ a ≤ (2 ^ 53 - 1) * (2 * 2 ^ (1023 + b)) := by
        rw [← Nat.pow_add_one']
        exact Nat.mul_le_mul (Nat.le_sub_one_of_lt hm)
          (Nat.pow_le_pow_right (by decide) (by omega))
      have hsecond : 2 ^ 52 * 2 ^ b < 2 ^ (1023 + b) := by
        rw [← Nat.pow_add]
        exact Nat.pow_lt_pow_right (by decide) (by omega)
      have hsum : m * 2 ^ a + 2 ^ 52 * 2 ^ b < (2 ^ 54 - 1) * 2 ^ (1023 + b) := by
        omega
      refine Nat.lt_of_le_of_lt ?_ hsum
      cases s <;> simp only [Sign.apply] <;> omega

/-- A fifth of a finite number is finite. -/
theorem div_five_lands (h : Keeps f) :
    Lands (UnpackedFloat.div Format.binary64 f
      (.finite .positive (5 * 2 ^ 50) (-50) (by decide))) := by
  cases f with
  | infinity _ => exact h.elim
  | notANumber => exact h.elim
  | zero _ => trivial
  | finite s m e hpos =>
      rcases h with ⟨hm, hleast, hmost⟩
      have hmost : e ≤ 971 := hmost
      have hlog : m.log2 ≤ 52 := log2_le hm
      have hfive : (5 * 2 ^ 50).log2 = 52 := by
        decide
      unfold UnpackedFloat.div divCore
      dsimp only
      -- The dividend gets `k` more digits, for the quotient to have enough of them.
      obtain ⟨t, ht⟩ : ∃ t, min (e - -50) (Format.binary64.targetExponent
          (totalExponent m e - totalExponent (5 * 2 ^ 50) (-50))) = t := ⟨_, rfl⟩
      have hle : t ≤ e + 50 ∧ t ≤ 970 := by
        rw [← ht, targetExponent_binary64, totalExponent, totalExponent, hfive]
        omega
      obtain ⟨k, hk⟩ : ∃ k : Nat, (e - -50 - t).toNat = k := ⟨_, rfl⟩
      rw [ht, hk]
      refine lands_small hle.2 ?_
      have hquotient : (m <<< k / (5 * 2 ^ 50)).log2 ≤ k := by
        refine log2_le ?_
        rw [Nat.div_lt_iff_lt_mul (by decide), Nat.shiftLeft_eq, Nat.pow_succ]
        have hshifted := Nat.mul_lt_mul_of_pos_right hm (Nat.two_pow_pos k)
        omega
      unfold totalExponent
      omega

theorem unpack_half :
    (0.5 : Float).toModel.unpack = .finite .positive (2 ^ 52) (-53) (by decide) :=
  rfl

theorem unpack_five :
    (5.0 : Float).toModel.unpack = .finite .positive (5 * 2 ^ 50) (-50) (by decide) :=
  rfl

theorem isFinite_add_half {x : Float} (h : IsFinite x) : IsFinite (x + 0.5) := by
  refine isFinite_pack (f := UnpackedFloat.add Format.binary64 x.toModel.unpack
    (0.5 : Float).toModel.unpack) ?_
  rw [unpack_half]
  exact add_half_lands (keeps_unpack h)

/-- Nothing is left of a number that is not finite but its sign, if that. -/
theorem unpack_of_not_isFinite {x : Float} (h : ¬ IsFinite x) :
    x.toModel.unpack = .notANumber ∨ ∃ s, x.toModel.unpack = .infinity s := by
  replace h : @unpackExponent Format.binary64 x.toModel.toBits.toBitVec = -1#11 :=
    Decidable.not_not.mp fun hno => h ((isFinite_iff x).mpr hno)
  unfold Float.Model.unpack UnpackedFloat.unpack
  dsimp only
  rw [if_pos h]
  split
  · exact Or.inr ⟨_, rfl⟩
  · exact Or.inl rfl

/-- Half a pixel does not bring a number back into the range. -/
theorem isFinite_of_add_half {x : Float} (h : IsFinite (x + 0.5)) : IsFinite x := by
  by_contra hno
  have hsum : (x + 0.5 : Float) = Float.ofModel (Float.Model.pack
      (UnpackedFloat.add Format.binary64 x.toModel.unpack (0.5 : Float).toModel.unpack)) := rfl
  rw [hsum, unpack_half, isFinite_iff] at h
  rcases unpack_of_not_isFinite hno with hnan | ⟨s, hinfinite⟩
  · rw [hnan] at h
    exact h (by decide)
  · rw [hinfinite] at h
    cases s <;> exact h (by decide)

theorem isFinite_div_five {x : Float} (h : IsFinite x) : IsFinite (x / 5.0) := by
  refine isFinite_pack (f := UnpackedFloat.div Format.binary64 x.toModel.unpack
    (5.0 : Float).toModel.unpack) ?_
  rw [unpack_five]
  exact div_five_lands (keeps_unpack h)

end Layout

section Order

/-- Where a finite number stands among the others: by its sign, then by its exponent, then
    by its mantissa. -/
def rank : UnpackedFloat → Int ×ₗ Int ×ₗ Int
  | .finite .negative m e _ => toLex (-1, toLex (-e, -m))
  | .finite .positive m e _ => toLex (1, toLex (e, m))
  | .zero _ | .infinity _ | .notANumber => toLex (0, toLex (0, 0))

theorem magnitude_lt {e e' : Int} {m m' : Nat} :
    (compare e e').then (compare m m') = .lt ↔ e < e' ∨ e = e' ∧ m < m' := by
  rw [Ordering.then_eq_lt, compare_lt_iff_lt, compare_eq_iff_eq, compare_lt_iff_lt]

theorem magnitude_gt {e e' : Int} {m m' : Nat} :
    (compare e e').then (compare m m') = .gt ↔ e' < e ∨ e = e' ∧ m' < m := by
  rw [Ordering.then_eq_gt, compare_gt_iff_gt, compare_eq_iff_eq, compare_gt_iff_gt]

/-- Finite numbers are compared by their ranks. -/
theorem lt_iff_rank {f g : UnpackedFloat} (hf : Keeps f) (hg : Keeps g) :
    f.lt g = true ↔ rank f < rank g := by
  rcases f with _ | _ | _ | ⟨_ | _, m, e, _⟩ <;>
    rcases g with _ | _ | _ | ⟨_ | _, m', e', _⟩ <;>
    first
    | exact hf.elim
    | exact hg.elim
    | dsimp only [UnpackedFloat.lt, UnpackedFloat.compare, rank]
      simp [Prod.Lex.toLex_lt_toLex, magnitude_lt, magnitude_gt]

end Order

end Binary64

/-- Floating point numbers have pixels and are in order, as long as they are finite. -/
instance : FiniteArithmetic Float where
  add_half := fun _ h => Binary64.isFinite_add_half h
  before_isStrictWeak := by
    have hrank : (fun x y : {x : Float // IsFinite x} => Layout.before x.val y.val)
        = fun x y => decide (Binary64.rank x.val.toModel.unpack
            < Binary64.rank y.val.toModel.unpack) := by
      funext x y
      rw [Bool.eq_iff_iff, decide_eq_true_iff, ← Binary64.lt_iff_rank
        (Binary64.keeps_unpack x.property) (Binary64.keeps_unpack y.property)]
      exact decide_eq_true_iff.trans decide_eq_true_iff
    rw [hrank]
    exact Layout.isStrictWeak_lt.onKey _

/-- The default settings are steady for floating point numbers. -/
theorem isSteady_default_float : ({} : Config Float).IsSteady where
  step := fun y h => ⟨y / 5.0, if_neg (by decide +kernel), Binary64.isFinite_div_five h⟩
  radius := by
    have hseven : (Scalar.roundInt (K := Float) 7).toOption = some 7 := by
      decide +kernel
    cases hround : Scalar.roundInt (K := Float) 7 with
    | ok n => exact ⟨n, rfl⟩
    | error _ =>
        rw [hround] at hseven
        exact absurd hseven (by simp [Except.toOption])

end Letterpress
