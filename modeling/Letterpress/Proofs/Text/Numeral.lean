import Letterpress.Number.Decimal
import Letterpress.Proofs.Markup.Tag
import Letterpress.Proofs.Number.Exact
import Letterpress.Style.Declaration
import Letterpress.Text.Numeral

/-!
# Written Numerals

The numeral of a whole number is read back as the number, if it keeps to the limit of
numerals.

A text may start with a numeral: after blanks and a sign come its digits, of any script, and
all that there are. What stands behind them makes no difference.

What a numeral of hundredths denotes is settled by the reader of numerals: the text is
read back as the number, and it begins with a minus sign only if the number is negative.

## Main definitions

* `Text.StartsWithNumeral`: A text starts with a numeral.
* `Text.signedValue`: The number that digits stand for after a sign.
* `Text.Numeral.rational?`: The number that was read, if it is one.
* `denoted?`: The number that a text denotes.
* `IsTwoPlace`: A text is the numeral of a number with two decimal places.

## Theorems

* `numeral_chars`: Numerals are digits after an optional sign.
* `numeralValue_toDigits`: Digits stand for the number that has them.
* `startsWithNumeral_iff`: The numeral that a text starts with is what is read of it.
* `leadingInt?_starts`, `leadingInt?_none`: What the integer at the start of a text is.
* `leadingInt?_numeral`: The numeral at the start of a text is read back.
* `leadingInt?_short`: A short text starts with no great number.
* `readNumeral?_places`: Digits with a point between them are read back.
* `isTwoPlace_hundredthsNumeral`: The numeral of hundredths denotes them.
* `IsTwoPlace.minus_iff`: The sign of the numeral is the sign of the number.
-/

namespace Letterpress

open Text

/-- A character of a numeral. -/
def isNumeralChar (c : Char) : Bool :=
  c.isDigit || c = '-'

theorem isNumeralChar_lt {c : Char} (h : isNumeralChar c = true) : c.toNat < 128 := by
  rw [isNumeralChar, Bool.or_eq_true, decide_eq_true_eq] at h
  rcases h with hdigit | rfl
  · exact Markup.isDigit_lt hdigit
  · decide

/-- The numeral of a whole number: its digits, after a sign if it is negative. -/
theorem toList_toString_int (n : Int) :
    (toString n).toList
      = (if n < 0 then ['-'] else []) ++ Nat.toDigits 10 n.natAbs := by
  rw [Int.toString_eq_repr]
  cases n with
  | ofNat m =>
      have hnonneg : ¬ (Int.ofNat m < 0) := by simp
      rw [if_neg hnonneg, Int.repr]
      simp
  | negSucc m =>
      have hneg : Int.negSucc m < 0 := Int.negSucc_lt_zero m
      rw [if_pos hneg, Int.repr]
      simp [String.toList_append]

theorem numeral_ne_nil (n : Int) : (toString n).toList ≠ [] := by
  rw [toList_toString_int]
  exact List.append_ne_nil_of_right_ne_nil _ Nat.toDigits_ne_nil

theorem isDigit_of_mem_digits {n : Nat} {c : Char} (h : c ∈ Nat.toDigits 10 n) :
    c.isDigit = true :=
  Nat.isDigit_of_mem_toDigits (by decide) (by decide) h

/-- Numerals are digits after an optional sign. -/
theorem numeral_chars (n : Int) : ∀ c ∈ (toString n).toList, isNumeralChar c = true := by
  intro c hc
  rw [toList_toString_int, List.mem_append] at hc
  rw [isNumeralChar, Bool.or_eq_true, decide_eq_true_eq]
  rcases hc with hsign | hdigit
  · by_cases hn : n < 0
    · rw [if_pos hn, List.mem_singleton] at hsign
      exact Or.inr hsign
    · rw [if_neg hn] at hsign
      exact absurd hsign List.not_mem_nil
  · exact Or.inl (isDigit_of_mem_digits hdigit)

theorem decimalDigit?_isDigit {c : Char} (h : c.isDigit = true) :
    decimalDigit? c = some (c.toNat - '0'.toNat) := by
  exact Markup.ascii_forall
    (P := fun c : Char => c.isDigit = true → decimalDigit? c = some (c.toNat - '0'.toNat))
    (by decide) (Markup.isDigit_lt h) h

/-- Digits stand for the number that has them. -/
theorem numeralValue_toDigits (n : Nat) : numeralValue (Nat.toDigits 10 n) = n := by
  -- Characters that are no digits would be skipped, but there are none.
  have hvalues : ∀ s : List Char, (∀ c ∈ s, c.isDigit = true) →
      s.filterMap decimalDigit? = s.map fun c => c.toNat - '0'.toNat := by
    intro s hs
    induction s with
    | nil => rfl
    | cons c s ih =>
        rw [List.filterMap_cons_some (decimalDigit?_isDigit (hs c List.mem_cons_self)),
          ih fun d hd => hs d (List.mem_cons_of_mem c hd), List.map_cons]
  rw [numeralValue, hvalues _ fun c hc => isDigit_of_mem_digits hc, List.foldl_map,
    ← Nat.ofDigitChars_eq_foldl, Nat.ofDigitChars_ten_toDigits]

/-- Each script has ten digits in a row. -/
theorem decimalDigit?_some {c : Char} {d : Nat} (h : decimalDigit? c = some d) :
    ∃ start ∈ digitZeros, c.toNat = start + d ∧ d < 10 := by
  rw [decimalDigit?, Option.map_eq_some_iff] at h
  rcases h with ⟨start, hstart, rfl⟩
  have hrange := List.find?_some hstart
  rw [Bool.and_eq_true, decide_eq_true_eq, decide_eq_true_eq] at hrange
  exact ⟨start, List.mem_of_find?_eq_some hstart, by omega, by omega⟩

/-- Digits are added behind those that were read, and each makes the number at most ten
    times as great. -/
theorem foldl_digits_lt {ds : List Nat} (hds : ∀ d ∈ ds, d < 10) (n : Nat) :
    ds.foldl (fun n d => 10 * n + d) n < (n + 1) * Nat.pow 10 ds.length := by
  induction ds generalizing n with
  | nil => simp
  | cons d ds ih =>
      rw [List.forall_mem_cons] at hds
      have hstep : 10 * n + d + 1 ≤ (n + 1) * 10 := by
        have hd := hds.1
        omega
      calc (d :: ds).foldl (fun n d => 10 * n + d) n
          < (10 * n + d + 1) * Nat.pow 10 ds.length := ih hds.2 (10 * n + d)
        _ ≤ (n + 1) * 10 * Nat.pow 10 ds.length := Nat.mul_le_mul_right _ hstep
        _ = (n + 1) * Nat.pow 10 (d :: ds).length := by
            change _ = (n + 1) * (Nat.pow 10 ds.length * 10)
            rw [Nat.mul_assoc, Nat.mul_comm 10]

/-- A number has no more digits than its numeral. -/
theorem numeralValue_lt (s : List Char) : numeralValue s < Nat.pow 10 s.length := by
  have hdigits : ∀ d ∈ s.filterMap decimalDigit?, d < 10 := by
    intro d hd
    rcases List.mem_filterMap.mp hd with ⟨c, -, hc⟩
    rcases decimalDigit?_some hc with ⟨-, -, -, hlt⟩
    exact hlt
  calc numeralValue s < (0 + 1) * Nat.pow 10 (s.filterMap decimalDigit?).length :=
        foldl_digits_lt hdigits 0
    _ = Nat.pow 10 (s.filterMap decimalDigit?).length := by rw [Nat.zero_add, Nat.one_mul]
    _ ≤ Nat.pow 10 s.length := Nat.pow_le_pow_right (by decide) (List.length_filterMap_le _ s)

theorem isDecimalDigit_isDigit {c : Char} (h : c.isDigit = true) : isDecimalDigit c = true := by
  rw [isDecimalDigit, decimalDigit?_isDigit h, Option.isSome_some]

section Leading

/-- The sign in front of a numeral. -/
inductive Text.IsSign : Bool → List Char → Prop where
  | minus : IsSign true ['-']
  | plus : IsSign false ['+']
  | unsigned : IsSign false []

/-- The text starts with a numeral: there are digits after blanks and an optional sign, and no
    digit comes after them. -/
def Text.StartsWithNumeral (s : List Char) (minus : Bool) (digits : List Char) : Prop :=
  ∃ gap sign rest, s = gap ++ (sign ++ (digits ++ rest)) ∧ (∀ c ∈ gap, isBlank c = true) ∧
    IsSign minus sign ∧ digits ≠ [] ∧ (∀ c ∈ digits, isDecimalDigit c = true) ∧
    ∀ c ∈ rest.head?, isDecimalDigit c = false

/-- The number that digits stand for after a sign. -/
def Text.signedValue (minus : Bool) (digits : List Char) : Int :=
  if minus then -(numeralValue digits : Int) else numeralValue digits

variable {s digits : List Char} {minus : Bool}

/-- No digit of any script is blank. -/
theorem isBlank_digit {c : Char} (h : isDecimalDigit c = true) : isBlank c = false := by
  rcases Option.isSome_iff_exists.mp h with ⟨d, hd⟩
  rcases decimalDigit?_some hd with ⟨start, hstart, hcode, hlt⟩
  rw [isBlank, inRanges, List.any_eq_false]
  intro r hr
  have hapart : start + 9 < r.1 ∨ r.2 < start :=
    (by decide : ∀ start ∈ digitZeros, ∀ r ∈ blankRanges, start + 9 < r.1 ∨ r.2 < start)
      start hstart r hr
  simp only [Bool.and_eq_true, decide_eq_true_eq]
  omega

/-- No digit of any script is a sign. -/
theorem readSign_digit {c : Char} (h : isDecimalDigit c = true) (rest : List Char) :
    readSign (c :: rest) = (false, c :: rest) := by
  have hminus : c ≠ '-' := fun hc => absurd (hc ▸ h) (by decide)
  have hplus : c ≠ '+' := fun hc => absurd (hc ▸ h) (by decide)
  rw [readSign]
  · exact fun t ht => hminus (List.cons.inj ht).1
  · exact fun t ht => hplus (List.cons.inj ht).1

theorem readSign_parts (s : List Char) :
    ∃ sign, IsSign (readSign s).1 sign ∧ s = sign ++ (readSign s).2 := by
  unfold readSign
  split
  · exact ⟨['-'], IsSign.minus, rfl⟩
  · exact ⟨['+'], IsSign.plus, rfl⟩
  · exact ⟨[], IsSign.unsigned, rfl⟩

/-- The numeral that a text starts with is what is read of it. -/
theorem startsWithNumeral_iff : StartsWithNumeral s minus digits ↔
    digits ≠ [] ∧ (readSign (trimStart s)).1 = minus ∧
      (readSign (trimStart s)).2.takeWhile isDecimalDigit = digits := by
  constructor
  · rintro ⟨gap, sign, rest, rfl, hgap, hsign, hne, hdigits, hrest⟩
    -- The first digit is no blank and no sign, so trimming and reading the sign stop before it.
    have hread : readSign (trimStart (gap ++ (sign ++ (digits ++ rest))))
        = (minus, digits ++ rest) := by
      cases digits with
      | nil => exact absurd rfl hne
      | cons d digits =>
          have hd := hdigits d List.mem_cons_self
          have hhead : ∀ c ∈ (sign ++ (d :: digits ++ rest)).head?, isBlank c = false := by
            intro c hc
            cases hsign with
            | minus | plus =>
                rw [← Option.some.inj hc]
                decide
            | unsigned =>
                rw [← Option.some.inj hc]
                exact isBlank_digit hd
          rw [trimStart_append hgap hhead]
          cases hsign with
          | minus | plus => rfl
          | unsigned => exact readSign_digit hd (digits ++ rest)
    have hstop : rest.takeWhile isDecimalDigit = [] := by
      cases rest with
      | nil => rfl
      | cons c rest => rw [List.takeWhile_cons_of_neg (by simp [hrest c rfl])]
    rw [hread, List.takeWhile_append_of_pos hdigits, hstop, List.append_nil]
    exact ⟨hne, rfl, rfl⟩
  · rintro ⟨hne, rfl, rfl⟩
    rcases trimStart_parts s with ⟨gap, hgap, hparts⟩
    rcases readSign_parts (trimStart s) with ⟨sign, hsign, hparts'⟩
    -- What reading passed over is the gap and the sign, and what it left is the rest.
    refine ⟨gap, sign, (readSign (trimStart s)).2.dropWhile isDecimalDigit, ?_, hgap, hsign, hne,
      List.all_eq_true.mp List.all_takeWhile, fun c hc => ?_⟩
    · rw [List.takeWhile_append_dropWhile, ← hparts', ← hparts]
    · have hhead := List.head?_dropWhile_not isDecimalDigit (readSign (trimStart s)).2
      rw [Option.mem_def.mp hc] at hhead
      simpa using hhead

/-- A text starts with one numeral only. -/
theorem Text.StartsWithNumeral.unique {minus' : Bool} {digits' : List Char}
    (h : StartsWithNumeral s minus digits) (h' : StartsWithNumeral s minus' digits') :
    minus' = minus ∧ digits' = digits := by
  rcases startsWithNumeral_iff.mp h with ⟨-, rfl, rfl⟩
  rcases startsWithNumeral_iff.mp h' with ⟨-, rfl, rfl⟩
  exact ⟨rfl, rfl⟩

/-- The numeral at the start of a text is read unless it is too long. -/
theorem leadingInt?_starts (h : StartsWithNumeral s minus digits) :
    Style.leadingInt? s = if numeralLimit < digits.length then .error (.unreadable digits.length)
      else .ok (some (signedValue minus digits)) := by
  rcases startsWithNumeral_iff.mp h with ⟨hne, rfl, rfl⟩
  rw [Style.leadingInt?]
  simp only [hne, if_false, readWhole]
  split <;> rfl

theorem leadingInt?_none (h : ∀ minus digits, ¬ StartsWithNumeral s minus digits) :
    Style.leadingInt? s = .ok none := by
  have hnone : (readSign (trimStart s)).2.takeWhile isDecimalDigit = [] := by
    by_contra hne
    exact h _ _ (startsWithNumeral_iff.mpr ⟨hne, rfl, rfl⟩)
  rw [Style.leadingInt?]
  simp only [hnone, if_true]
  rfl

/-- A text that is not too long starts with a number that is not too great, if it starts with
    one. -/
theorem leadingInt?_short (h : s.length ≤ numeralLimit) :
    ∃ read, Style.leadingInt? s = .ok read ∧ ∀ n ∈ read, n.natAbs < Nat.pow 10 s.length := by
  by_cases hnumeral : ∃ minus digits, StartsWithNumeral s minus digits
  · rcases hnumeral with ⟨minus, digits, hstarts⟩
    have hlength : digits.length ≤ s.length := by
      rcases hstarts with ⟨gap, sign, rest, rfl, -⟩
      simp only [List.length_append]
      omega
    rw [leadingInt?_starts hstarts, if_neg (by omega)]
    refine ⟨_, rfl, fun n hn => ?_⟩
    rw [← Option.some.inj hn, signedValue]
    have hvalue : numeralValue digits < Nat.pow 10 s.length :=
      Nat.lt_of_lt_of_le (numeralValue_lt digits)
        (Nat.pow_le_pow_right (by decide : 0 < 10) hlength)
    generalize Nat.pow 10 s.length = bound at hvalue ⊢
    split <;> omega
  · refine ⟨none, leadingInt?_none fun minus digits hstarts => ?_, by simp⟩
    exact hnumeral ⟨minus, digits, hstarts⟩

end Leading

/-- The numeral of a whole number at the start of a text. -/
theorem startsWithNumeral_toString (n : Int) {c : Char} (hc : isDecimalDigit c = false)
    (rest : List Char) :
    StartsWithNumeral ((toString n).toList ++ c :: rest) (decide (n < 0))
      (Nat.toDigits 10 n.natAbs) := by
  refine ⟨[], if n < 0 then ['-'] else [], c :: rest, ?_, by simp, ?_, Nat.toDigits_ne_nil,
    fun d hd => isDecimalDigit_isDigit (isDigit_of_mem_digits hd), fun d hd => ?_⟩
  · rw [toList_toString_int, List.nil_append, List.append_assoc]
  · by_cases hn : n < 0
    · rw [if_pos hn, decide_eq_true hn]
      exact IsSign.minus
    · rw [if_neg hn, decide_eq_false hn]
      exact IsSign.unsigned
  · rwa [← Option.some.inj hd]

theorem signedValue_digits (n : Int) :
    signedValue (decide (n < 0)) (Nat.toDigits 10 n.natAbs) = n := by
  rw [signedValue, numeralValue_toDigits]
  simp only [decide_eq_true_eq]
  omega

theorem length_digits_iff {n k : Nat} (hk : 0 < k) :
    (Nat.toDigits 10 n).length ≤ k ↔ n < Nat.pow 10 k :=
  Nat.length_toDigits_le_iff (by decide) hk

/-- A number can be written exactly if its digits keep to the limit. -/
theorem isWritable_iff {n : Int} :
    isWritable n = true ↔ (Nat.toDigits 10 n.natAbs).length ≤ numeralLimit := by
  rw [isWritable, decide_eq_true_eq, length_digits_iff (by decide)]

/-- The numeral at the start of a text is read back. -/
theorem leadingInt?_numeral {n : Int} (h : isWritable n = true) {c : Char}
    (hc : isDecimalDigit c = false) (rest : List Char) :
    Style.leadingInt? ((toString n).toList ++ c :: rest) = .ok (some n) := by
  rw [leadingInt?_starts (startsWithNumeral_toString n hc rest),
    if_neg (Nat.not_lt.mpr (isWritable_iff.mp h)), signedValue_digits]

/-- Only a numeral within the limit is read. -/
theorem isWritable_of_leadingInt? {n : Int} {c : Char} (hc : isDecimalDigit c = false)
    {rest : List Char} {read : Option Int}
    (h : Style.leadingInt? ((toString n).toList ++ c :: rest) = .ok read) :
    isWritable n = true := by
  rw [leadingInt?_starts (startsWithNumeral_toString n hc rest)] at h
  refine isWritable_iff.mpr (Nat.not_lt.mp fun hlong => ?_)
  rw [if_pos hlong] at h
  exact absurd h (by simp)


namespace Text

/-- The number that was read, unless it is infinite or none at all. -/
def Numeral.rational? : Numeral → Option Rat
  | .decimal negative digits exponent =>
    let magnitude := Decimal.value ⟨digits, exponent⟩
    some (if negative then -magnitude else magnitude)
  | .infinite _ => none
  | .undefined => none

/-- A text without underscores is left as it is. -/
theorem ungroup?_plain {s : List Char} (h : '_' ∉ s) (afterDigit : Bool) :
    ungroup? afterDigit s = some s := by
  induction s generalizing afterDigit with
  | nil => rfl
  | cons c s ih =>
      rw [List.mem_cons, not_or] at h
      rw [ungroup?, ih h.2, Option.map_some]
      exact fun hc => h.1 hc.symm

theorem trimWhiteSpace_plain {s : List Char} (h : ∀ c ∈ s, isWhiteSpace c = false) :
    trimWhiteSpace s = s := by
  have hdrop : ∀ t : List Char, (∀ c ∈ t, isWhiteSpace c = false) →
      t.dropWhile isWhiteSpace = t := by
    intro t ht
    cases t with
    | nil => rfl
    | cons c t => rw [List.dropWhile_cons_of_neg (by simp [ht c List.mem_cons_self])]
  rw [trimWhiteSpace, hdrop s h, hdrop s.reverse fun c hc => h c (List.mem_reverse.mp hc),
    List.reverse_reverse]

/-- Digits, a point and more digits are read as a decimal. -/
theorem readDecimal?_places {whole places : List Char} (negative : Bool) (hne : whole ≠ [])
    (hwhole : ∀ c ∈ whole, isDecimalDigit c = true)
    (hplaces : ∀ c ∈ places, isDecimalDigit c = true) :
    readDecimal? negative (whole ++ '.' :: places)
      = some (.decimal negative (numeralValue (whole ++ places)) (-places.length)) := by
  have hstop := Markup.takeWhile_stop (t := places) hwhole (by decide : isDecimalDigit '.' = false)
  have hall : places.takeWhile isDecimalDigit = places := List.takeWhile_eq_self_iff.mpr hplaces
  have hnone : places.dropWhile isDecimalDigit = [] := List.dropWhile_eq_nil_iff.mpr hplaces
  simp only [readDecimal?, hstop.1, hstop.2, hall, hnone, hne, false_and, if_false,
    readExponent?, Option.map_some, zero_sub]

/-- The characters of a plain numeral: digits, a point and a minus sign. -/
theorem plain_facts {c : Char} (h : c.isDigit = true ∨ c = '.' ∨ c = '-') :
    isWhiteSpace c = false ∧ c ≠ '_' := by
  rcases h with hdigit | rfl | rfl
  · exact Markup.ascii_forall
      (P := fun c : Char => c.isDigit = true → isWhiteSpace c = false ∧ c ≠ '_')
      (by decide) (Markup.isDigit_lt hdigit) hdigit
  · decide
  · decide

/-- Digits with a point between them are read back, after an optional sign. -/
theorem readNumeral?_places {whole places : List Char} (negative : Bool) (hne : whole ≠ [])
    (hwhole : ∀ c ∈ whole, c.isDigit = true) (hplaces : ∀ c ∈ places, c.isDigit = true) :
    readNumeral? ((if negative then ['-'] else []) ++ (whole ++ '.' :: places))
      = some (.decimal negative (numeralValue (whole ++ places)) (-places.length)) := by
  have hbody : ∀ c ∈ whole ++ '.' :: places, c.isDigit = true ∨ c = '.' ∨ c = '-' := by
    intro c hc
    rw [List.mem_append, List.mem_cons] at hc
    rcases hc with hc | rfl | hc
    · exact Or.inl (hwhole c hc)
    · exact Or.inr (Or.inl rfl)
    · exact Or.inl (hplaces c hc)
  have htrim : trimWhiteSpace ((if negative then ['-'] else []) ++ (whole ++ '.' :: places))
      = (if negative then ['-'] else []) ++ (whole ++ '.' :: places) := by
    refine trimWhiteSpace_plain fun c hc => (plain_facts ?_).1
    rw [List.mem_append] at hc
    rcases hc with hsign | hc
    · cases negative
      · exact absurd hsign List.not_mem_nil
      · exact Or.inr (Or.inr (List.mem_singleton.mp hsign))
    · exact hbody c hc
  have hsign : readSign ((if negative then ['-'] else []) ++ (whole ++ '.' :: places))
      = (negative, whole ++ '.' :: places) := by
    cases negative with
    | true => rfl
    | false =>
        cases whole with
        | nil => exact absurd rfl hne
        | cons c whole =>
            exact readSign_digit (isDecimalDigit_isDigit (hwhole c List.mem_cons_self)) _
  -- No word for an infinity has a point in it.
  have hword : ∀ word : String, '.' ∉ word.toList →
      String.ofList ((whole ++ '.' :: places).map Char.toLower) ≠ word := by
    rintro word hpoint rfl
    refine hpoint ?_
    rw [String.toList_ofList, List.mem_map]
    exact ⟨'.', List.mem_append_right _ List.mem_cons_self, by decide⟩
  rw [readNumeral?, htrim, hsign]
  dsimp only
  rw [if_neg, if_neg (hword "nan" (by decide)),
    ungroup?_plain fun hc => (plain_facts (hbody _ hc)).2 rfl, Option.bind_some]
  · refine readDecimal?_places negative hne (fun c hc => ?_) fun c hc => ?_
    · exact isDecimalDigit_isDigit (hwhole c hc)
    · exact isDecimalDigit_isDigit (hplaces c hc)
  · rintro (h | h)
    · exact hword "inf" (by decide) h
    · exact hword "infinity" (by decide) h

theorem numeralValue_digit (s : List Char) {c : Char} (h : c.isDigit = true) :
    numeralValue (s ++ [c]) = 10 * numeralValue s + (c.toNat - '0'.toNat) := by
  rw [numeralValue, numeralValue, List.filterMap_append, List.foldl_append,
    List.filterMap_cons_some (decimalDigit?_isDigit h)]
  rfl

end Text

open Scalar

/-- The number that a text denotes, if it denotes a finite one. -/
def denoted? (s : String) : Option Rat :=
  (Text.readNumeral? s.toList).bind Text.Numeral.rational?

/-- A text is the numeral of a number with two decimal places. -/
structure IsTwoPlace (s : String) (q : Rat) : Prop where
  /-- A minus sign stands before negative numbers only. Then come digits, a point, and two
      more digits. -/
  form : ∃ (whole : List Char) (tens ones : Char),
    s.toList = (if q < 0 then ['-'] else []) ++ (whole ++ ['.', tens, ones]) ∧ whole ≠ [] ∧
      ∀ c ∈ whole ++ [tens, ones], c.isDigit = true
  /-- The text is read as the number. -/
  value : denoted? s = some q

/-- The sign of the numeral is the sign of the number. -/
theorem IsTwoPlace.minus_iff {s : String} {q : Rat} (h : IsTwoPlace s q) :
    '-' ∈ s.toList ↔ q < 0 := by
  rcases h.form with ⟨whole, tens, ones, htext, -, hdigits⟩
  rw [htext, List.mem_append]
  constructor
  · rintro (hsign | hbody)
    · by_contra hq
      rw [if_neg hq] at hsign
      exact absurd hsign List.not_mem_nil
    · -- No digit and no point is a minus sign.
      have hminus : ¬ '-'.isDigit = true := by decide
      have hmem : '-' ∈ whole ++ [tens, ones] := by
        simpa using hbody
      exact absurd (hdigits _ hmem) hminus
  · intro hq
    rw [if_pos hq]
    exact Or.inl List.mem_cons_self

/-- The numeral of hundredths: all digits but two, a point, and those two. -/
theorem toList_hundredthsNumeral (minus : Bool) (n : Nat) :
    (hundredthsNumeral minus n).toList
      = (if minus then ['-'] else []) ++ (Nat.toDigits 10 (n / 100)
        ++ ['.', Nat.digitChar (n % 100 / 10), Nat.digitChar (n % 100 % 10)]) := by
  have htens : n % 100 / 10 < 10 := by omega
  have hones : n % 100 % 10 < 10 := by omega
  have hsign : (if minus then "-" else "").toList = if minus then ['-'] else [] := by
    cases minus <;> rfl
  have hpoint : (".").toList = ['.'] := rfl
  rw [hundredthsNumeral]
  simp only [String.toList_append, hsign, hpoint, Nat.toString_eq_repr, Nat.toList_repr,
    Nat.toDigits_of_lt_base htens, Nat.toDigits_of_lt_base hones, List.append_assoc,
    List.cons_append, List.nil_append]

/-- The digits of hundredths stand for how many there are. -/
theorem numeralValue_hundredths (n : Nat) :
    Text.numeralValue (Nat.toDigits 10 (n / 100)
      ++ [Nat.digitChar (n % 100 / 10), Nat.digitChar (n % 100 % 10)]) = n := by
  have hdigit : ∀ d < 10, (Nat.digitChar d).isDigit = true
      ∧ (Nat.digitChar d).toNat - '0'.toNat = d := by decide
  have htens := hdigit (n % 100 / 10) (by omega)
  have hones := hdigit (n % 100 % 10) (by omega)
  rw [List.append_cons, Text.numeralValue_digit _ hones.1, Text.numeralValue_digit _ htens.1,
    numeralValue_toDigits, htens.2, hones.2]
  omega

/-- The numeral of hundredths denotes them. -/
theorem isTwoPlace_hundredthsNumeral (n : Int) :
    IsTwoPlace (hundredthsNumeral (n < 0) n.natAbs) ((n : Rat) / 100) := by
  have hdigits : ∀ c ∈ Nat.toDigits 10 (n.natAbs / 100)
      ++ [Nat.digitChar (n.natAbs % 100 / 10), Nat.digitChar (n.natAbs % 100 % 10)],
      c.isDigit = true := by
    have hdigit : ∀ d < 10, (Nat.digitChar d).isDigit = true := by decide
    intro c hc
    rw [List.mem_append, List.mem_pair] at hc
    rcases hc with hc | rfl | rfl
    · exact isDigit_of_mem_digits hc
    · exact hdigit _ (by omega)
    · exact hdigit _ (by omega)
  have hnegative : (n : Rat) / 100 < 0 ↔ n < 0 := by
    rw [div_lt_iff₀ (by norm_num), zero_mul, Int.cast_lt_zero]
  refine ⟨⟨_, _, _, ?_, Nat.toDigits_ne_nil (n := n.natAbs / 100) (b := 10), hdigits⟩, ?_⟩
  · rw [toList_hundredthsNumeral]
    simp only [hnegative, decide_eq_true_eq]
  · rw [denoted?, toList_hundredthsNumeral, Text.readNumeral?_places _ Nat.toDigits_ne_nil
      (fun c hc => hdigits c (List.mem_append_left _ hc))
      fun c hc => hdigits c (List.mem_append_right _ hc), numeralValue_hundredths,
      Option.bind_some]
    -- Two places are two powers of ten.
    have hmagnitude : Decimal.value ⟨n.natAbs, -2⟩ = (|n| : Int) / 100 := by
      have hscale : Decimal.tenTo (-2) = 1 / 100 := by
        norm_num [Decimal.tenTo]
      rw [Decimal.value, hscale, ← Int.natCast_natAbs, Int.cast_natCast]
      ring
    change some (if decide (n < 0) = true then -Decimal.value ⟨n.natAbs, -2⟩
      else Decimal.value ⟨n.natAbs, -2⟩) = _
    rw [hmagnitude]
    by_cases hn : n < 0
    · rw [if_pos (decide_eq_true hn), abs_of_neg hn, Int.cast_neg, neg_div, neg_neg]
    · rw [if_neg (by rwa [decide_eq_true_eq]), abs_of_nonneg (not_lt.mp hn)]

end Letterpress
