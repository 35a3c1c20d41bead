import Letterpress.Json.Writer
import Letterpress.Proofs.Session
import Letterpress.Proofs.Text.Numeral
import Letterpress.Storage.Read

/-!
# Reading Back a File

What is written to a file is read back from it: the bytes of a text are read as this text,
character by character and each by its lead byte, line ends are left alone where there are
none to unify, and an object with a single number is read as such an object.

A number is only read back if its numeral keeps to the limit. No longer one is written
either.

## Main definitions

* `Json.isPlainChar`: A character that stands for itself in a string.

## Theorems

* `decodeUtf8_encodeUtf8`: A text is read back from its bytes.
* `readString_plain`: A string of plain characters is read back.
* `readValue_numeral`: The numeral of a whole number is read back.
* `read_member`: An object with a single number is read back.
* `readJson_file`: A file is read as what its text says.
-/

namespace Letterpress

namespace Text

/-- The bytes of an array from its start on. -/
theorem byteArray_toList (bytes : ByteArray) : bytes.toList = bytes.data.toList := by
  have hloop : ∀ (i : Nat) (done : List UInt8),
      ByteArray.toList.loop bytes i done = done.reverse ++ bytes.data.toList.drop i := by
    intro i done
    fun_induction ByteArray.toList.loop bytes i done with
    | case1 i done hi ih =>
        have hi' : i < bytes.data.toList.length := hi
        have hget : bytes.get! i = bytes.data.toList[i] := by
          change bytes.data[i]! = _
          rw [getElem!_pos bytes.data i hi, Array.getElem_toList]
        rw [ih, List.reverse_cons, List.append_assoc, hget, List.singleton_append,
          List.drop_eq_getElem_cons hi']
    | case2 i done hi =>
        have hi' : bytes.data.toList.length ≤ i := Nat.not_lt.mp hi
        rw [List.drop_eq_nil_of_le hi', List.append_nil]
  exact hloop 0 []

theorem encodeUtf8_eq (s : String) : encodeUtf8 s = s.toList.flatMap String.utf8EncodeChar := by
  rw [encodeUtf8, String.toUTF8, byteArray_toList]
  conv_lhs => rw [← String.ofList_toList (s := s), String.toByteArray_ofList]
  rw [List.utf8Encode, List.toList_data_toByteArray]

/-- Reading one character as the bytes that follow its lead say. -/
theorem decodeFrom_lead {b : UInt8} {l : Lead} (hlead : lead? b.toNat = some l)
    {bytes more : List UInt8} {value : Nat}
    (hread : continuation l.low l.high l.following 0 l.bits bytes = .ok (value, more))
    (fuel position : Nat) :
    decodeFrom (fuel + 1) position (b :: bytes)
      = (Char.ofNat value :: ·) <$> decodeFrom fuel (position + 1 + l.following) more := by
  rw [decodeFrom, hlead]
  simp only [hread]
  rfl

theorem continuation_cons {low high n read value : Nat} {b : UInt8}
    (h : low ≤ b.toNat ∧ b.toNat ≤ high) (rest : List UInt8) :
    continuation low high (n + 1) read value (b :: rest)
      = continuation 0x80 0xBF n (read + 1) (64 * value + (b.toNat - 0x80)) rest := by
  rw [continuation, if_pos h]

theorem toNat_byte {n : Nat} (hn : n < 256) : (UInt8.ofNat n).toNat = n := by
  rw [UInt8.toNat_ofNat']
  exact Nat.mod_eq_of_lt hn

section Characters

variable {v : Nat} (fuel position : Nat) (rest : List UInt8)

/-- A code point of seven bits is a byte of its own. -/
theorem decodeFrom_one (hv : v ≤ 127) :
    decodeFrom (fuel + 1) position (UInt8.ofNat v :: rest)
      = (Char.ofNat v :: ·) <$> decodeFrom fuel (position + 1) rest := by
  have hlead : lead? (UInt8.ofNat v).toNat = some ⟨0, v, 0x80, 0xBF⟩ := by
    rw [toNat_byte (by omega), lead?, if_pos (by omega)]
  exact decodeFrom_lead hlead rfl fuel position

/-- A code point of eleven bits: five bits and six. -/
theorem decodeFrom_two (hlow : 127 < v) (hhigh : v ≤ 2047) :
    decodeFrom (fuel + 1) position
        (UInt8.ofNat (v / 64 % 32 + 192) :: UInt8.ofNat (v % 64 + 128) :: rest)
      = (Char.ofNat v :: ·) <$> decodeFrom fuel (position + 2) rest := by
  have hbits : v / 64 % 32 + 192 - 0xC0 = v / 64 := by omega
  have hlead : lead? (UInt8.ofNat (v / 64 % 32 + 192)).toNat = some ⟨1, v / 64, 0x80, 0xBF⟩ := by
    rw [toNat_byte (by omega), lead?, if_neg (by omega), if_neg (by omega), if_pos (by omega),
      hbits]
  have hsecond := toNat_byte (n := v % 64 + 128) (by omega)
  have hvalue : 64 * (v / 64) + (v % 64 + 128 - 0x80) = v := by omega
  have hread : continuation 0x80 0xBF 1 0 (v / 64) (UInt8.ofNat (v % 64 + 128) :: rest)
      = .ok (v, rest) := by
    rw [continuation_cons (by omega), continuation, hsecond, hvalue]
  exact decodeFrom_lead hlead hread fuel position

/-- A code point of sixteen bits: four bits and twice six. Its second byte is bounded to keep
    shorter forms and surrogates out. -/
theorem decodeFrom_three (hlow : 2047 < v) (hhigh : v ≤ 65535)
    (hvalid : v < 0xD800 ∨ 0xDFFF < v) :
    decodeFrom (fuel + 1) position (UInt8.ofNat (v / 4096 % 16 + 224)
        :: UInt8.ofNat (v / 64 % 64 + 128) :: UInt8.ofNat (v % 64 + 128) :: rest)
      = (Char.ofNat v :: ·) <$> decodeFrom fuel (position + 3) rest := by
  -- The first byte says how many follow, and how the second is bounded.
  have hlead : lead? (UInt8.ofNat (v / 4096 % 16 + 224)).toNat
      = some ⟨2, v / 4096, if v / 4096 = 0 then 0xA0 else 0x80,
          if v / 4096 = 13 then 0x9F else 0xBF⟩ := by
    have hfirst : v / 4096 % 16 + 224 = 0xE0 ↔ v / 4096 = 0 := by omega
    have hlast : v / 4096 % 16 + 224 = 0xED ↔ v / 4096 = 13 := by omega
    have hbits : v / 4096 % 16 + 224 - 0xE0 = v / 4096 := by omega
    rw [toNat_byte (by omega), lead?, if_neg (by omega), if_neg (by omega), if_neg (by omega),
      if_pos (by omega)]
    simp only [hfirst, hlast, hbits]
  have hsecond := toNat_byte (n := v / 64 % 64 + 128) (by omega)
  have hthird := toNat_byte (n := v % 64 + 128) (by omega)
  have hvalue : 64 * (64 * (v / 4096) + (v / 64 % 64 + 128 - 0x80)) + (v % 64 + 128 - 0x80)
      = v := by omega
  have hread : continuation (if v / 4096 = 0 then 0xA0 else 0x80)
      (if v / 4096 = 13 then 0x9F else 0xBF) 2 0 (v / 4096)
      (UInt8.ofNat (v / 64 % 64 + 128) :: UInt8.ofNat (v % 64 + 128) :: rest)
      = .ok (v, rest) := by
    rw [continuation_cons (by split <;> split <;> omega), continuation_cons (by omega),
      continuation, hsecond, hthird, hvalue]
  exact decodeFrom_lead hlead hread fuel position

/-- A code point of twenty-one bits: three bits and three times six. Its second byte is bounded
    to keep shorter forms out, and what is no code point. -/
theorem decodeFrom_four (hlow : 65535 < v) (hhigh : v < 0x110000) :
    decodeFrom (fuel + 1) position (UInt8.ofNat (v / 262144 % 8 + 240)
        :: UInt8.ofNat (v / 4096 % 64 + 128) :: UInt8.ofNat (v / 64 % 64 + 128)
        :: UInt8.ofNat (v % 64 + 128) :: rest)
      = (Char.ofNat v :: ·) <$> decodeFrom fuel (position + 4) rest := by
  -- The first byte says how many follow, and how the second is bounded.
  have hlead : lead? (UInt8.ofNat (v / 262144 % 8 + 240)).toNat
      = some ⟨3, v / 262144, if v / 262144 = 0 then 0x90 else 0x80,
          if v / 262144 = 4 then 0x8F else 0xBF⟩ := by
    have hfirst : v / 262144 % 8 + 240 = 0xF0 ↔ v / 262144 = 0 := by omega
    have hlast : v / 262144 % 8 + 240 = 0xF4 ↔ v / 262144 = 4 := by omega
    have hbits : v / 262144 % 8 + 240 - 0xF0 = v / 262144 := by omega
    rw [toNat_byte (by omega), lead?, if_neg (by omega), if_neg (by omega), if_neg (by omega),
      if_neg (by omega), if_pos (by omega)]
    simp only [hfirst, hlast, hbits]
  have hsecond := toNat_byte (n := v / 4096 % 64 + 128) (by omega)
  have hthird := toNat_byte (n := v / 64 % 64 + 128) (by omega)
  have hfourth := toNat_byte (n := v % 64 + 128) (by omega)
  -- The bits are put together again as they were taken apart.
  have hvalue : 64 * (64 * (64 * (v / 262144) + (v / 4096 % 64 + 128 - 0x80))
      + (v / 64 % 64 + 128 - 0x80)) + (v % 64 + 128 - 0x80) = v := by omega
  have hread : continuation (if v / 262144 = 0 then 0x90 else 0x80)
      (if v / 262144 = 4 then 0x8F else 0xBF) 3 0 (v / 262144)
      (UInt8.ofNat (v / 4096 % 64 + 128) :: UInt8.ofNat (v / 64 % 64 + 128)
        :: UInt8.ofNat (v % 64 + 128) :: rest) = .ok (v, rest) := by
    rw [continuation_cons (by split <;> split <;> omega), continuation_cons (by omega),
      continuation_cons (by omega), continuation, hsecond, hthird, hfourth, hvalue]
  exact decodeFrom_lead hlead hread fuel position

end Characters

/-- A character is read back from its bytes. -/
theorem decodeFrom_char (c : Char) (fuel position : Nat) (rest : List UInt8) :
    decodeFrom (fuel + 1) position (String.utf8EncodeChar c ++ rest)
      = (c :: ·) <$> decodeFrom fuel (position + (String.utf8EncodeChar c).length) rest := by
  have hvalid : c.val.toNat < 0xD800 ∨ 0xDFFF < c.val.toNat ∧ c.val.toNat < 0x110000 := c.valid
  have hchar : Char.ofNat c.val.toNat = c := Char.ofNat_toNat c
  unfold String.utf8EncodeChar
  generalize c.val.toNat = v at hvalid hchar
  rw [← hchar]
  dsimp only
  split
  · exact decodeFrom_one fuel position rest (by omega)
  · split
    · exact decodeFrom_two fuel position rest (by omega) (by omega)
    · split
      · exact decodeFrom_three fuel position rest (by omega) (by omega) (by omega)
      · exact decodeFrom_four fuel position rest (by omega) (by omega)

/-- Characters are read back one by one, and each takes at least one byte, so a step for every
    byte is enough. -/
theorem decodeFrom_chars {cs : List Char} (position : Nat)
    (hfuel : (cs.flatMap String.utf8EncodeChar).length ≤ fuel) :
    decodeFrom fuel position (cs.flatMap String.utf8EncodeChar) = .ok cs := by
  induction cs generalizing fuel position with
  | nil => cases fuel <;> rfl
  | cons c cs ih =>
      have hsome : 0 < (String.utf8EncodeChar c).length := by
        rw [String.length_utf8EncodeChar]
        exact Char.utf8Size_pos c
      rw [List.flatMap_cons, List.length_append] at hfuel
      cases fuel with
      | zero => omega
      | succ fuel =>
          rw [List.flatMap_cons, decodeFrom_char, ih _ (by omega)]
          rfl

/-- A text is read back from its bytes. -/
theorem decodeUtf8_encodeUtf8 (s : String) : decodeUtf8 (encodeUtf8 s) = .ok s := by
  rw [decodeUtf8, encodeUtf8_eq, decodeFrom_chars _ (Nat.le_refl _)]
  exact congrArg Except.ok String.ofList_toList

theorem unifyLineEnds_plain {s : List Char} (h : '\r' ∉ s) : unifyLineEnds s = s := by
  induction s with
  | nil => rfl
  | cons c s ih =>
      rw [List.mem_cons, not_or] at h
      rw [unifyLineEnds, ih h.2]
      · exact fun _ hc _ => h.1 hc.symm
      · exact fun hc => absurd hc.symm h.1

end Text

open Text

namespace Json

/-- The character stands for itself in a string. -/
def isPlainChar (c : Char) : Bool :=
  c ≠ '"' && c ≠ '\\' && 0x20 ≤ c.toNat

/-- Plain characters are read up to the closing quote. -/
theorem readChars_plain (start : List Char) {cs : List Char} (hcs : ∀ c ∈ cs, isPlainChar c = true)
    {fuel : Nat} (hfuel : cs.length < fuel) (done rest : List Char) :
    readChars start fuel done (cs ++ '"' :: rest) = .ok (done.reverse ++ cs, rest) := by
  induction cs generalizing fuel done with
  | nil =>
      cases fuel with
      | zero => exact absurd hfuel (Nat.not_lt_zero _)
      | succ fuel => rw [List.nil_append, readChars, List.append_nil]
  | cons c cs ih =>
      rw [List.forall_mem_cons] at hcs
      cases fuel with
      | zero => exact absurd hfuel (Nat.not_lt_zero _)
      | succ fuel =>
          -- A plain character is none of the three that end or change the reading of a text.
          have hplain := hcs.1
          simp only [isPlainChar, Bool.and_eq_true, decide_eq_true_eq] at hplain
          rcases hplain with ⟨⟨hquote, hescape⟩, hcontrol⟩
          rw [List.cons_append, readChars, if_neg (Nat.not_lt.mpr hcontrol),
            ih hcs.2 (Nat.lt_of_succ_lt_succ hfuel), List.reverse_cons, List.append_assoc]
          · rfl
          · exact hquote
          · exact hescape

theorem readString_plain {cs : List Char} (hcs : ∀ c ∈ cs, isPlainChar c = true)
    (rest : List Char) :
    readString ('"' :: (cs ++ '"' :: rest)) = .ok (String.ofList cs, rest) := by
  have hfuel : cs.length < ('"' :: (cs ++ '"' :: rest)).length + 1 := by
    simp only [List.length_cons, List.length_append]
    omega
  rw [readString, List.drop_one, List.tail_cons, readChars_plain _ hcs hfuel]
  rfl

/-- Only the numeral of zero starts with a zero. -/
theorem digits_zero {n : Nat} {ds : List Char} (h : Nat.toDigits 10 n = '0' :: ds) : ds = [] := by
  induction n using Nat.strongRecOn generalizing ds with
  | ind n ih =>
      by_cases hn : n < 10
      · rw [Nat.toDigits_of_lt_base hn] at h
        exact (List.cons.inj h).2.symm
      · -- All digits but the last are those of a smaller number, which is not zero.
        rw [Nat.toDigits_of_base_le (by decide) (Nat.not_lt.mp hn)] at h
        have hsmaller : n / 10 < n := Nat.div_lt_self (by omega) (by decide)
        cases hdigits : Nat.toDigits 10 (n / 10) with
        | nil => exact absurd hdigits Nat.toDigits_ne_nil
        | cons d front =>
            rw [hdigits, List.cons_append] at h
            obtain rfl : d = '0' := (List.cons.inj h).1
            have hfront := ih _ hsmaller hdigits
            have hzero : n / 10 = 0 := by
              rw [← numeralValue_toDigits (n / 10), hdigits, hfront]
              decide
            omega

/-- Digits are read as the number they are written for, up to what follows them. A zero in
    front of others would end the number, so there must be none. -/
theorem readNumber_digits (minus : Bool) {ds : List Char} (hne : ds ≠ [])
    (hdigits : ∀ c ∈ ds, c.isDigit = true) (hzero : ∀ t, ds = '0' :: t → t = [])
    (hlength : ds.length ≤ numeralLimit) {rest : List Char}
    (hrest : ∀ c ∈ rest.head?, c.isDigit = false ∧ c ≠ '.' ∧ c ≠ 'e' ∧ c ≠ 'E') :
    readNumber ((if minus then ['-'] else []) ++ (ds ++ rest))
      = .ok (.int (if minus then -(numeralValue ds : Int) else numeralValue ds), rest) := by
  cases ds with
  | nil => exact absurd rfl hne
  | cons d t =>
      rw [List.forall_mem_cons] at hdigits
      have hsign : d ≠ '-' := fun hd => absurd (hd ▸ hdigits.1) (by decide)
      -- No digit follows, and no fraction and no exponent either.
      have hstop : rest.takeWhile Char.isDigit = [] := by
        cases rest with
        | nil => rfl
        | cons c rest => rw [List.takeWhile_cons_of_neg (by simp [(hrest c rfl).1])]
      have hmore : (t ++ rest).takeWhile Char.isDigit = t := by
        rw [List.takeWhile_append_of_pos hdigits.2, hstop, List.append_nil]
      have hread : readWhole (d :: t) = .ok (numeralValue (d :: t)) := by
        rw [readWhole, if_neg (Nat.not_lt.mpr hlength)]
      by_cases hd : d = '0'
      · obtain rfl := hzero t (by rw [hd])
        subst hd
        cases rest with
        | nil => cases minus <;> simp [readNumber, hread]
        | cons c rest =>
            rcases hrest c rfl with ⟨-, hpoint, he, hE⟩
            cases minus <;> simp [readNumber, hread, hpoint, he, hE]
      · cases rest with
        | nil =>
            rw [List.append_nil] at hmore
            cases minus <;> simp [readNumber, hread, hd, hsign, hdigits.1, hmore]
        | cons c rest =>
            rcases hrest c rfl with ⟨-, hpoint, he, hE⟩
            cases minus <;> simp [readNumber, hread, hd, hsign, hdigits.1, hmore, hpoint, he, hE]

/-- A numeral is no word. -/
theorem readWord?_numeral (minus : Bool) {d : Char} (hd : d.isDigit = true) (rest : List Char) :
    readWord? ((if minus then ['-'] else []) ++ d :: rest) = none := by
  have hletter : ∀ c : Char, c.isDigit = false → (c == d) = false := by
    intro c hc
    refine beq_eq_false_iff_ne.mpr ?_
    rintro rfl
    rw [hd] at hc
    exact absurd hc (by decide)
  have hn := hletter 'n' (by decide)
  have ht := hletter 't' (by decide)
  have hf := hletter 'f' (by decide)
  have hN := hletter 'N' (by decide)
  have hI := hletter 'I' (by decide)
  have hminus := hletter '-' (by decide)
  cases minus <;> simp [readWord?, words, List.isPrefixOf, hn, ht, hf, hN, hI, hminus]

/-- The numeral of a whole number is read back, if it keeps to the limit. -/
theorem readValue_numeral {n : Int} (h : isWritable n = true) {rest : List Char}
    (hrest : ∀ c ∈ rest.head?, c.isDigit = false ∧ c ≠ '.' ∧ c ≠ 'e' ∧ c ≠ 'E') (fuel : Nat) :
    readValue (fuel + 1) ((toString n).toList ++ rest) = .ok (.int n, rest) := by
  have hdigits : ∀ c ∈ Nat.toDigits 10 n.natAbs, c.isDigit = true :=
    fun c hc => isDigit_of_mem_digits hc
  have hnumber := readNumber_digits (decide (n < 0)) Nat.toDigits_ne_nil hdigits
    (fun t ht => digits_zero ht) (isWritable_iff.mp h) hrest
  have hvalue : (if decide (n < 0) = true then -(numeralValue (Nat.toDigits 10 n.natAbs) : Int)
      else numeralValue (Nat.toDigits 10 n.natAbs)) = n := signedValue_digits n
  have hsign : (if n < 0 then ['-'] else []) = if decide (n < 0) = true then ['-'] else [] := by
    simp only [decide_eq_true_eq]
  rw [hvalue] at hnumber
  rw [toList_toString_int, hsign, List.append_assoc]
  cases hlist : Nat.toDigits 10 n.natAbs with
  | nil => exact absurd hlist Nat.toDigits_ne_nil
  | cons d ds =>
      rw [hlist] at hnumber hdigits
      have hd := hdigits d List.mem_cons_self
      have hword := readWord?_numeral (decide (n < 0)) hd (ds ++ rest)
      -- A numeral starts with a sign or a digit, so it is no text, no object, no list and no
      -- word.
      have hfirst : ∀ c : Char, c.isDigit = false → d ≠ c := by
        rintro c hc rfl
        rw [hd] at hc
        exact absurd hc (by decide)
      cases hneg : decide (n < 0) with
      | true =>
          rw [hneg] at hnumber hword
          simp only [if_true, List.cons_append, List.nil_append] at hnumber hword ⊢
          rw [readValue, hword]
          · exact hnumber
          all_goals simp
      | false =>
          rw [hneg] at hnumber hword
          simp only [Bool.false_eq_true, if_false, List.cons_append, List.nil_append]
            at hnumber hword ⊢
          rw [readValue, hword]
          · exact hnumber
          · exact List.cons_ne_nil d _
          · exact fun _ h => hfirst '"' (by decide) (List.cons.inj h).1
          · exact fun _ h => hfirst '\x7b' (by decide) (List.cons.inj h).1
          · exact fun _ h => hfirst '[' (by decide) (List.cons.inj h).1

/-- A numeral starts with no blank. -/
theorem skip_numeral (n : Int) (rest : List Char) :
    skip ((toString n).toList ++ rest) = (toString n).toList ++ rest := by
  cases hlist : (toString n).toList with
  | nil => exact absurd hlist (numeral_ne_nil n)
  | cons c cs =>
      have hc : isNumeralChar c = true := numeral_chars n c (hlist ▸ List.mem_cons_self)
      have hspace : isSpace c = false := by
        rw [isSpace, Bool.or_eq_false_iff, Bool.or_eq_false_iff, Bool.or_eq_false_iff]
        have hne : ∀ blank : Char, isNumeralChar blank = false → decide (c = blank) = false := by
          rintro blank hblank
          rw [decide_eq_false_iff_not]
          rintro rfl
          rw [hc] at hblank
          exact absurd hblank (by decide)
        exact ⟨⟨⟨hne ' ' (by decide), hne '\t' (by decide)⟩, hne '\n' (by decide)⟩,
          hne '\r' (by decide)⟩
      rw [List.cons_append, skip, List.dropWhile_cons_of_neg (by simp [hspace])]

/-- The text of an object with a single member, whose value has a text. -/
def memberChars (name : String) (value : List Char) : List Char :=
  '\x7b' :: '"' :: (name.toList ++ '"' :: ':' :: ' ' :: (value ++ ['\x7d']))

/-- An object with a single member is read as its value is. -/
theorem readAll_member {name : String} (hname : ∀ c ∈ name.toList, isPlainChar c = true)
    {value : List Char} {j : Json} (hskip : skip (value ++ ['\x7d']) = value ++ ['\x7d'])
    (hvalue : ∀ fuel, readValue (fuel + 1) (value ++ ['\x7d']) = .ok (j, ['\x7d'])) :
    readAll (memberChars name value) = .ok (.obj [(name, j)]) := by
  have hstring := readString_plain hname (':' :: ' ' :: (value ++ ['\x7d']))
  rw [String.ofList_toList] at hstring
  -- There is one blank in the text, behind the colon.
  have hcolon : skip (':' :: ' ' :: (value ++ ['\x7d'])) = ':' :: ' ' :: (value ++ ['\x7d']) := rfl
  have hblank : skip (' ' :: (value ++ ['\x7d'])) = value ++ ['\x7d'] := hskip
  have hmembers : ∀ fuel, readMembers (fuel + 2) []
      ('"' :: (name.toList ++ '"' :: ':' :: ' ' :: (value ++ ['\x7d'])))
        = .ok (.obj [(name, j)], []) := by
    intro fuel
    rw [readMembers, hstring]
    simp only [bind, Except.bind, hcolon, hblank, hvalue fuel]
    rfl
  have hobject : ∀ fuel, readValue (fuel + 3) (memberChars name value)
      = .ok (.obj [(name, j)], []) := by
    intro fuel
    rw [memberChars, readValue]
    exact hmembers fuel
  have hfront : skip (memberChars name value) = memberChars name value := rfl
  have hfuel : 3 ≤ 2 * (memberChars name value).length + 2 := by
    rw [memberChars, List.length_cons]
    omega
  -- Two steps for every character are more than the three that are taken.
  rcases Nat.exists_eq_add_of_le' hfuel with ⟨fuel, hfuel⟩
  rw [readAll, hfront, hfuel, hobject fuel]
  rfl

/-- An object with a single number, as it is written on one line. -/
theorem toList_compact_member {alphabet : Alphabet} {name : String}
    (hname : writtenString alphabet name = "\"" ++ name ++ "\"") (n : Int) :
    (compact alphabet (.obj [(name, .int n)])).toList
      = memberChars name (toString n).toList := by
  simp [compact, compactMembers, hname, Text.joinWith, writtenAtom, memberChars,
    String.toList_append]

/-- An object with a single number is read back, if the numeral keeps to the limit. -/
theorem read_member {alphabet : Alphabet} {name : String}
    (hname : ∀ c ∈ name.toList, isPlainChar c = true)
    (hwritten : writtenString alphabet name = "\"" ++ name ++ "\"") {n : Int}
    (h : isWritable n = true) :
    read (compact alphabet (.obj [(name, .int n)])) = .ok (.obj [(name, .int n)]) := by
  have hend : ∀ c ∈ ['\x7d'].head?, c.isDigit = false ∧ c ≠ '.' ∧ c ≠ 'e' ∧ c ≠ 'E' := by
    rintro c hc
    obtain rfl : '\x7d' = c := Option.some.inj hc
    decide
  have hvalue := readValue_numeral h hend
  rw [read, toList_compact_member hwritten, readAll_member hname (skip_numeral n _) hvalue]
  rfl

end Json

namespace FileTree

/-- A file is read as what its text says, if no line end is to be unified. -/
theorem readJson_file {t : FileTree} {p : Path} {place : Place} {text : String} {j : Json}
    (hlocate : t.locate p = .ok place)
    (hfile : t.find? place = some (.file (.ofText text))) (hline : '\r' ∉ text.toList)
    (hread : Json.read text = .ok j) : t.readJson p = .ok j := by
  have hcontent : t.read p = .ok (.ofText text) := by
    simp only [read, hlocate, bind, Except.bind, hfile]
    rfl
  have htext : t.readText p = .ok text := by
    rw [readText, hcontent]
    simp only [Except.mapError, bind, Except.bind, Content.ofText, Content.text,
      decodeUtf8_encodeUtf8, unifyLineEnds_plain hline, String.ofList_toList]
    rfl
  rw [readJson, htext]
  simp only [bind, Except.bind, hread]
  rfl

end FileTree

end Letterpress
