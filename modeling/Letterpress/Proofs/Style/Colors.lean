import Letterpress.Proofs.Number.Finite
import Letterpress.Proofs.Render.Survival

/-!
# Colors Read Back

A color is written as three bytes of two hexadecimal digits each, and whatever was written is
read back as the color that the bytes stand for. It is not the color that was written, since a
channel is rounded to its byte.

White is the brightest color. In floating point its three weighted channels add up to a little
less than the whole, but still to more than 254.

## Main definitions

* `ofBytes`: The color that three bytes stand for.
* `BrightWhite`: A number system in which white is not dark.

## Theorems

* `hex_iff`: Which colors can be written.
* `hex_semicolon`: A written color does not end its declaration.
* `ofHex?_hex`: A written color is read as its bytes.
* `hexBrightness?_hex`: The brightness of a written color.
-/

namespace Letterpress

namespace Style

open Text

section Bytes

variable {K : Type} [Scalar K]

/-- The color that three bytes stand for. -/
def ofBytes (r g b : Nat) : Rgb K :=
  ⟨Scalar.ofNat r / 255.0, Scalar.ofNat g / 255.0, Scalar.ofNat b / 255.0⟩

/-- A channel has a byte if it can be rounded. -/
theorem channelByte_returns {x : K} :
    (∃ n, channelByte x = .ok n) ↔ IsRounded (x * 255.0) := by
  simp only [channelByte, IsRounded, except_bind_ok, except_pure_ok]
  constructor
  · rintro ⟨_, n, hn, -⟩
    exact ⟨n, hn⟩
  · rintro ⟨n, hn⟩
    exact ⟨_, n, hn, rfl⟩

theorem channelByte_lt {x : K} {n : Nat} (h : channelByte x = .ok n) : n < 256 := by
  simp only [channelByte, except_bind_ok, except_pure_ok] at h
  rcases h with ⟨m, -, rfl⟩
  omega

/-- A written color has three bytes. -/
theorem hex_bytes {c : Rgb K} {s : String} (h : hex c = .ok s) :
    ∃ r g b, r < 256 ∧ g < 256 ∧ b < 256 ∧ bytes c = .ok (r, g, b) ∧
      s = "#" ++ hexDigits 2 r ++ hexDigits 2 g ++ hexDigits 2 b := by
  simp only [hex, except_bind_ok, except_pure_ok] at h
  rcases h with ⟨⟨r, g, b⟩, hbytes, rfl⟩
  have hchannels := hbytes
  simp only [bytes, except_bind_ok, except_pure_ok, Prod.mk.injEq] at hchannels
  rcases hchannels with ⟨_, hr, _, hg, _, hb, rfl, rfl, rfl⟩
  exact ⟨_, _, _, channelByte_lt hr, channelByte_lt hg, channelByte_lt hb, hbytes, rfl⟩

/-- A color can be written if its channels can be rounded. -/
theorem hex_iff {c : Rgb K} :
    (∃ s, hex c = .ok s) ↔ ∀ m ∈ c.measures, IsRounded m := by
  refine ⟨?_, hex_returns⟩
  rintro ⟨s, hs⟩
  rcases hex_bytes hs with ⟨r, g, b, -, -, -, hbytes, -⟩
  simp only [bytes, except_bind_ok, except_pure_ok] at hbytes
  rcases hbytes with ⟨_, hr, _, hg, _, hb, -⟩
  simp only [Rgb.measures, List.forall_mem_cons]
  exact ⟨channelByte_returns.mp ⟨_, hr⟩, channelByte_returns.mp ⟨_, hg⟩,
    channelByte_returns.mp ⟨_, hb⟩, by simp⟩

/-- A byte is written in two hexadecimal digits. -/
theorem hexDigits_byte {n : Nat} (h : n < 256) :
    (hexDigits 2 n).toList = [Nat.digitChar (n / 16), Nat.digitChar (n % 16)] := by
  rw [hexDigits, String.toList_ofList, Nat.toDigits_eq_if (by decide)]
  by_cases hshort : n < 16
  · rw [if_pos hshort, Nat.div_eq_of_lt hshort, Nat.mod_eq_of_lt hshort]
    rfl
  · rw [if_neg hshort, Nat.toDigits_eq_if (by decide), if_pos (by omega)]
    rfl

/-- A hexadecimal digit is no mark of a numeral, a color or a style. -/
theorem digitChar_facts : ∀ d < 16, isWhiteSpace (Nat.digitChar d) = false ∧
    Nat.digitChar d ∉ ['#', '-', '+', '_', 'x', 'X', ';'] ∧
    digitIn? 16 (Nat.digitChar d) = some d := by
  decide

/-- A written color does not end its declaration. -/
theorem hex_semicolon {c : Rgb K} {s : String} (h : hex c = .ok s) : ';' ∉ s.toList := by
  have hdigits : ∀ n < 256, ';' ∉ (hexDigits 2 n).toList := by
    intro n hn hmem
    rw [hexDigits_byte hn, List.mem_pair] at hmem
    rcases hmem with hfirst | hsecond
    · exact (digitChar_facts (n / 16) (by omega)).2.1 (by rw [← hfirst]; decide)
    · exact (digitChar_facts (n % 16) (by omega)).2.1 (by rw [← hsecond]; decide)
  rcases hex_bytes h with ⟨r, g, b, hr, hg, hb, -, rfl⟩
  simp only [String.toList_append, List.mem_append, not_or]
  exact ⟨⟨⟨by decide, hdigits r hr⟩, hdigits g hg⟩, hdigits b hb⟩

/-- Two hexadecimal digits are read as a number. -/
theorem readInteger?_pair {m n : Nat} (hm : m < 16) (hn : n < 16) :
    readInteger? 16 [Nat.digitChar m, Nat.digitChar n] = some ((16 * m + n : Nat) : Int) := by
  rcases digitChar_facts m hm with ⟨hmblank, hmmarks, hmvalue⟩
  rcases digitChar_facts n hn with ⟨hnblank, hnmarks, hnvalue⟩
  generalize Nat.digitChar m = c at *
  generalize Nat.digitChar n = d at *
  simp only [List.mem_cons, not_or] at hmmarks hnmarks
  -- Digits are no blanks, no signs, no marks of a base and no groups, so nothing is dropped.
  have htrim : trimWhiteSpace [c, d] = [c, d] :=
    trimWhiteSpace_plain (by simp [hmblank, hnblank])
  have hsign : readSign [c, d] = (false, [c, d]) := by
    unfold readSign
    split
    · rename_i heq
      exact absurd (List.cons.inj heq).1 hmmarks.2.1
    · rename_i heq
      exact absurd (List.cons.inj heq).1 hmmarks.2.2.1
    · rfl
  have hmark : dropBaseMark 16 [c, d] = [c, d] := by
    unfold dropBaseMark
    rw [if_pos rfl]
    split
    · rename_i x rest heq
      obtain rfl : d = x := (List.cons.inj (List.cons.inj heq).2).1
      rw [if_neg (not_or.mpr ⟨hnmarks.2.2.2.2.1, hnmarks.2.2.2.2.2.1⟩)]
    · rfl
  have hdigits : groupedDigits? 16 [c, d] = some [m, n] := by
    rw [groupedDigits?, groupedDigits?, hmvalue, hnvalue]
    · rfl
    · simp
    · intro rest heq
      exact absurd (List.cons.inj heq).1 hnmarks.2.2.2.1
  simp only [readInteger?, htrim, hsign, hmark, hdigits]
  change some ((16 * (16 * 0 + m) + n : Nat) : Int) = _
  rw [Nat.mul_zero, Nat.zero_add]

/-- A written color is read as its bytes. -/
theorem ofHex?_hex {c : Rgb K} {s : String} (h : hex c = .ok s) :
    ∃ r g b, bytes c = .ok (r, g, b) ∧ ofHex? s = some (ofBytes r g b : Rgb K) := by
  rcases hex_bytes h with ⟨r, g, b, hr, hg, hb, hbytes, rfl⟩
  have hchannel : ∀ n < 256, channelOfHex? [Nat.digitChar (n / 16), Nat.digitChar (n % 16)]
      = some (Scalar.ofNat n / 255.0 : K) := by
    intro n hn
    have hparts : 16 * (n / 16) + n % 16 = n := Nat.div_add_mod n 16
    rw [channelOfHex?, readInteger?_pair (by omega) (by omega), hparts, Option.map_some]
    dsimp only
    rw [if_neg (by omega), Int.natAbs_natCast]
  -- The first digit is not taken for another mark in front of the color.
  have hhead : Nat.digitChar (r / 16) ≠ '#' := by
    intro heq
    exact (digitChar_facts (r / 16) (by omega)).2.1 (by rw [heq]; decide)
  have hdigits : ("#" ++ hexDigits 2 r ++ hexDigits 2 g ++ hexDigits 2 b).toList.dropWhile (· = '#')
      = (hexDigits 2 r).toList ++ (hexDigits 2 g).toList ++ (hexDigits 2 b).toList := by
    have hmark : ("#" : String).toList = ['#'] := rfl
    rw [hexDigits_byte hr, String.toList_append, String.toList_append, String.toList_append, hmark,
      hexDigits_byte hr]
    simp [hhead]
  refine ⟨r, g, b, hbytes, ?_⟩
  unfold ofHex?
  rw [hdigits, hexDigits_byte hr, hexDigits_byte hg, hexDigits_byte hb]
  simp [hchannel r hr, hchannel g hg, hchannel b hb, ofBytes]

/-- The brightness of a written color is that of its bytes. -/
theorem hexBrightness?_hex {c : Rgb K} {s : String} (h : hex c = .ok s) :
    ∃ r g b, bytes c = .ok (r, g, b) ∧
      hexBrightness? s = some (brightness (ofBytes r g b : Rgb K)) := by
  rcases ofHex?_hex h with ⟨r, g, b, hbytes, hread⟩
  exact ⟨r, g, b, hbytes, by rw [hexBrightness?, hread, Option.map_some]⟩

end Bytes

section White

/-- A number system in which white is not dark, whatever brightness up to 254 is called dark. -/
class BrightWhite (K : Type) [Scalar K] : Prop where
  not_lt : ∀ {limit b : K}, limit ≤ 254.0 → hexBrightness? "#ffffff" = some b → ¬ b < limit

instance : BrightWhite Rat where
  not_lt := by
    intro limit b hlimit hb hlt
    have hwhite : hexBrightness? "#ffffff" = some (255 : Rat) := by
      decide +kernel
    rw [hwhite] at hb
    rw [← Option.some.inj hb] at hlt
    norm_num at hlimit
    linarith

open Float.Model Binary64

theorem unpack_254 :
    (254.0 : Float).toModel.unpack = .finite .positive (127 * 2 ^ 46) (-45) (by decide) :=
  rfl

/-- The brightness of white is one unit of the last digit below 255. -/
theorem unpack_white :
    (254.99999999999997 : Float).toModel.unpack
      = .finite .positive (255 * 2 ^ 45 - 1) (-45) (by decide) :=
  rfl

/-- What is not above a positive number is not above one of the same exponent with a greater
    mantissa. -/
theorem not_lt_of_le {f : UnpackedFloat} {e : Int} {m n : Nat} {hm : 0 < m} {hn : 0 < n}
    (hmn : m < n) (hle : f.le (.finite .positive m e hm) = true) :
    (UnpackedFloat.finite .positive n e hn).lt f = false := by
  rcases f with s | _ | _ | ⟨s, k, d, hk⟩
  · cases s with
    | negative => rfl
    | positive => exact absurd hle Bool.false_ne_true
  · rfl
  · rfl
  · cases s with
    | negative => rfl
    | positive =>
        -- Between positive numbers, the exponents decide, and then the mantissas.
        have hfirst : ¬ (compare d e).then (compare k m) = .gt := by
          intro hgt
          dsimp only [UnpackedFloat.le, UnpackedFloat.compare] at hle
          rw [hgt] at hle
          exact absurd hle Bool.false_ne_true
        have hsecond : ¬ (compare e d).then (compare n k) = .lt := by
          rw [magnitude_gt] at hfirst
          rw [magnitude_lt]
          omega
        dsimp only [UnpackedFloat.lt, UnpackedFloat.compare]
        simpa using hsecond

instance : BrightWhite Float where
  not_lt := by
    intro limit b hlimit hb hlt
    have hwhite : hexBrightness? "#ffffff" = some (254.99999999999997 : Float) := by
      decide +kernel
    rw [hwhite] at hb
    obtain rfl := Option.some.inj hb
    have hle : limit.toModel.unpack.le (254.0 : Float).toModel.unpack = true :=
      of_decide_eq_true hlimit
    have hmore : (254.99999999999997 : Float).toModel.unpack.lt limit.toModel.unpack = true :=
      of_decide_eq_true hlt
    rw [unpack_254] at hle
    rw [unpack_white, not_lt_of_le (by decide) hle] at hmore
    exact absurd hmore Bool.false_ne_true

end White

end Style

end Letterpress
