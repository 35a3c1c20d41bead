import Letterpress.Number.Binary64
import Letterpress.Number.Exact
import Letterpress.Proofs.Text.Numeral
import Letterpress.Style.Color

/-!
# Inert Texts

Texts that can stand anywhere in markup. Numbers, colors and most settings are written
into attribute values and comments as they are. This is safe as long as they hold no
character that markup takes for its own.

The text of a scalar is up to the number system, so that it is inert is a property of
the number system.

## Main definitions

* `AllChars`: All characters of a text have a property.
* `IsInert`: A text without the characters of markup.
* `InertText`: The scalars of a number system have inert texts.

## Theorems

* `allChars_joinWith`, `allChars_replaceChars`: Texts that are put together.
* `isInert_int`, `isInert_hexDigits`, `isInert_format`: Numbers are inert.
-/

namespace Letterpress

namespace Text

/-- All characters of a text have a property. -/
def AllChars (P : Char → Prop) (s : String) : Prop :=
  ∀ c ∈ s.toList, P c

/-- A character that markup does not take for its own. -/
def isInertChar (c : Char) : Bool :=
  c ≠ '"' && c ≠ '&' && (c ≠ '<' && c ≠ '>')

/-- A text without the characters of markup. -/
abbrev IsInert (s : String) : Prop :=
  AllChars (fun c => isInertChar c = true) s

instance (P : Char → Prop) [DecidablePred P] (s : String) : Decidable (AllChars P s) :=
  List.decidableBAll P s.toList

section AllChars

variable {P Q : Char → Prop}

@[simp]
theorem allChars_append {s t : String} :
    AllChars P (s ++ t) ↔ AllChars P s ∧ AllChars P t := by
  simp only [AllChars, String.toList_append, List.forall_mem_append]

theorem allChars_empty : AllChars P "" := by
  intro c hc
  exact absurd hc (by simp)

@[simp]
theorem allChars_ofList {s : List Char} : AllChars P (String.ofList s) ↔ ∀ c ∈ s, P c := by
  rw [AllChars, String.toList_ofList]

/-- A text that is spelled out is looked through character by character. -/
theorem allChars_of_all [DecidablePred P] {s : List Char}
    (h : (s.all fun c => decide (P c)) = true) : AllChars P (String.ofList s) :=
  allChars_ofList.mpr fun c hc => of_decide_eq_true (List.all_eq_true.mp h c hc)

theorem allChars_joinWith {separator : String} (hseparator : AllChars P separator)
    {pieces : List String} (h : ∀ s ∈ pieces, AllChars P s) :
    AllChars P (joinWith separator pieces) := by
  induction pieces with
  | nil => exact allChars_empty
  | cons s rest ih =>
      have hs := h s List.mem_cons_self
      have hrest := ih fun t ht => h t (List.mem_cons_of_mem s ht)
      cases rest with
      | nil => exact hs
      | cons t more =>
          rw [joinWith, allChars_append, allChars_append]
          exact ⟨⟨hs, hseparator⟩, hrest⟩

theorem allChars_replaceChars {f : Char → String} {s : String} (h : ∀ c, AllChars P (f c)) :
    AllChars P (replaceChars f s) := by
  rw [replaceChars, allChars_ofList]
  intro c hc
  rcases List.mem_flatMap.mp hc with ⟨d, -, hd⟩
  exact h d c hd

/-- An escaped value has the characters of references, and those of the text that need
    none. -/
theorem allChars_escapeQuoted
    (hreferences : ∀ r ∈ ["&quot;", "&#x27;", "&amp;", "&lt;", "&gt;"], AllChars P r)
    (hself : ∀ c, c ∉ ['"', '\'', '&', '<', '>'] → P c) (s : String) :
    AllChars P (escapeQuoted s) := by
  simp only [List.forall_mem_cons] at hreferences
  rcases hreferences with ⟨hdouble, hsingle, hamp, hless, hgreater, -⟩
  refine allChars_replaceChars fun c => ?_
  unfold quotedReference
  split
  · exact hdouble
  · exact hsingle
  · rename_i hnotDouble hnotSingle
    unfold textReference
    split
    · exact hamp
    · exact hless
    · exact hgreater
    · rename_i hnotAmp hnotLess hnotGreater
      intro d hd
      have hplain : c.toString.toList = [c] := String.toList_singleton c
      rw [hplain, List.mem_singleton] at hd
      subst hd
      exact hself d (by
        simp only [List.mem_cons, List.not_mem_nil, or_false, not_or]
        exact ⟨hnotDouble, hnotSingle, hnotAmp, hnotLess, hnotGreater⟩)

end AllChars

@[simp]
theorem isInert_append {s t : String} : IsInert (s ++ t) ↔ IsInert s ∧ IsInert t :=
  allChars_append

@[simp]
theorem isInert_ofList {s : List Char} :
    IsInert (String.ofList s) ↔ ∀ c ∈ s, isInertChar c = true :=
  allChars_ofList

theorem isInertChar_of_isNumeralChar {c : Char} (h : isNumeralChar c = true) :
    isInertChar c = true :=
  Markup.ascii_forall (P := fun c : Char => isNumeralChar c = true → isInertChar c = true)
    (by decide) (isNumeralChar_lt h) h

theorem isInert_int (n : Int) : IsInert (toString n) :=
  fun c hc => isInertChar_of_isNumeralChar (numeral_chars n c hc)

theorem isInert_nat (n : Nat) : IsInert (toString n) :=
  isInert_int n

/-- Digits in bases up to sixteen are inert. -/
theorem isInertChar_digits {base : Nat} (hbase : 1 < base) (hle : base ≤ 16) (n : Nat) :
    ∀ c ∈ Nat.toDigits base n, isInertChar c = true := by
  have hdigit : ∀ d < 16, isInertChar (Nat.digitChar d) = true := by decide
  induction n using Nat.strongRecOn with
  | ind n ih =>
      intro c hc
      rw [Nat.toDigits_eq_if hbase] at hc
      by_cases hn : n < base
      · rw [if_pos hn, List.mem_singleton] at hc
        rw [hc]
        exact hdigit n (by omega)
      · rw [if_neg hn, List.mem_append, List.mem_singleton] at hc
        rcases hc with hmore | hlast
        · exact ih (n / base) (Nat.div_lt_self (by omega) hbase) c hmore
        · rw [hlast]
          exact hdigit (n % base) (Nat.lt_of_lt_of_le (Nat.mod_lt n (by omega)) hle)

theorem isInert_hexDigits (width n : Nat) : IsInert (hexDigits width n) := by
  rw [hexDigits, isInert_ofList]
  intro c hc
  rcases List.mem_append.mp hc with hzero | hdigit
  · rw [List.eq_of_mem_replicate hzero]
    decide
  · exact isInertChar_digits (by decide) (by decide) n c hdigit

end Text

open Text

/-- The scalars of a number system have inert texts. -/
class InertText (K : Type) [Scalar K] : Prop where
  text_inert : ∀ x : K, IsInert (Scalar.text x)

theorem isInert_format {K : Type} [Scalar K] [InertText K] (x : K) :
    IsInert (Scalar.format x) := by
  rw [Scalar.format]
  split
  · split
    · exact isInert_int _
    · exact InertText.text_inert x
  · exact InertText.text_inert x

/-- The numeral of a number of hundredths is inert. -/
theorem isInert_hundredthsNumeral (minus : Bool) (n : Nat) :
    IsInert (Scalar.hundredthsNumeral minus n) := by
  have hsign : IsInert (if minus then "-" else "") := by
    cases minus <;> decide
  simp only [Scalar.hundredthsNumeral, isInert_append]
  exact ⟨⟨⟨⟨hsign, isInert_nat _⟩, by decide⟩, isInert_nat _⟩, isInert_nat _⟩

theorem isInert_fixedHundredths {K : Type} [Scalar K] [InertText K] (x : K) :
    IsInert (Scalar.fixedHundredths x) := by
  rw [Scalar.fixedHundredths]
  split
  · exact isInert_hundredthsNumeral _ _
  · exact InertText.text_inert x

instance : InertText Rat where
  text_inert q := by
    change IsInert (rationalText q)
    rw [rationalText]
    split
    · exact isInert_int q.num
    · rw [isInert_append, isInert_append]
      exact ⟨⟨isInert_int q.num, by decide⟩, isInert_nat q.den⟩

/-- A decimal is written with digits, a point and an exponent. -/
theorem isInert_layout (d : Decimal) : IsInert d.layout := by
  have hdigits := isInertChar_digits (show 1 < 10 by decide) (by decide) d.digits
  have hzeros : ∀ n, ∀ c ∈ List.replicate n '0', isInertChar c = true := by
    intro n c hc
    rw [List.eq_of_mem_replicate hc]
    decide
  have hpoint : isInertChar '.' = true := by decide
  simp only [Decimal.layout]
  split
  · split
    · rw [isInert_append]
      exact ⟨by decide, isInert_ofList.mpr (List.forall_mem_append.mpr ⟨hzeros _, hdigits⟩)⟩
    · split
      · rw [isInert_append, isInert_ofList]
        exact ⟨List.forall_mem_append.mpr ⟨hdigits, hzeros _⟩, by decide⟩
      · rw [isInert_ofList, List.forall_mem_append, List.forall_mem_cons]
        exact ⟨fun c hc => hdigits c (List.mem_of_mem_take hc), hpoint,
          fun c hc => hdigits c (List.mem_of_mem_drop hc)⟩
  -- Great and small numbers are written with an exponent, all others without.
  · have hexponent : ∀ n, IsInert (Decimal.exponentDigits n) := by
      intro n
      rw [Decimal.exponentDigits, isInert_append]
      refine ⟨?_, isInert_nat n⟩
      split <;> decide
    rw [isInert_append, isInert_append, isInert_ofList]
    refine ⟨⟨?_, ?_⟩, hexponent _⟩
    · split
      · simp
      · rename_i c hlist
        simpa [hlist] using hdigits
      · rename_i c rest _ hlist
        rw [hlist, List.forall_mem_cons] at hdigits
        rw [List.forall_mem_cons, List.forall_mem_cons]
        exact ⟨hdigits.1, hpoint, hdigits.2⟩
    · split <;> decide

instance : InertText Float where
  text_inert x := by
    have hsign : IsInert (if floatNegative x then "-" else "") := by
      split <;> decide
    change IsInert (floatText x)
    simp only [floatText]
    split
    · decide
    · exact isInert_append.mpr ⟨hsign, by decide⟩
    · split
      · exact isInert_append.mpr ⟨hsign, by decide⟩
      · exact isInert_append.mpr ⟨hsign, isInert_layout _⟩

end Letterpress
