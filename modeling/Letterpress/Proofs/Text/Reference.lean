import Letterpress.Proofs.Session
import Letterpress.Text.Escape
import Letterpress.Text.Reference
import Mathlib.Data.List.Basic
import Mathlib.Data.List.TakeWhile

/-!
# Decoding References

What decoding makes of a text. It goes from left to right, character by character
or reference by reference (`decodeReferences_cons`, `decodeReferences_ampersand`),
so a text without ampersands stays as it is, and an escaped text decodes to what was
escaped.

Decoding fails in one way only: on a decimal code with more digits than a numeral
may have.

## Main definitions

* `hasLongCode`: Such a code stands somewhere in a text.

## Theorems

* `readReference?_cases`: What reading a reference comes to.
* `decodeReferences_plain`: Without ampersands nothing changes.
* `decodeReferences_escapeAttribute`, `decodeReferences_escapeQuoted`: Escaped texts.
* `decodeReferences_bracket`: A text in brackets is decoded by itself.
* `decodeReferences_ok`: Without long codes decoding returns.
* `decodeReferences_longCode`: A long code stops decoding.
-/

namespace Letterpress.Text

theorem dropSemicolon_cons {c : Char} (hc : c ≠ ';') (s : List Char) :
    dropSemicolon (c :: s) = c :: s := by
  rw [dropSemicolon]
  exact fun _ h => hc (List.cons.inj h).1

theorem dropSemicolon_suffix (s : List Char) : dropSemicolon s <:+ s := by
  cases s with
  | nil => exact List.suffix_refl []
  | cons c rest =>
      by_cases hc : c = ';'
      · subst hc
        exact List.suffix_cons ';' rest
      · simp only [dropSemicolon_cons hc, List.suffix_refl]

theorem readReference?_numeric (rest : List Char) :
    readReference? ('#' :: rest) =
      if rest.takeWhile Char.isDigit ≠ [] then
        some ((readWhole (rest.takeWhile Char.isDigit)).map numericReference,
          dropSemicolon (rest.drop (rest.takeWhile Char.isDigit).length))
      else
        match rest with
        | x :: digits =>
          if (x = 'x' ∨ x = 'X') ∧ digits.takeWhile isHexDigit ≠ [] then
            some (.ok (numericReference (hexValue (digits.takeWhile isHexDigit))),
              dropSemicolon (digits.drop (digits.takeWhile isHexDigit).length))
          else none
        | [] => none :=
  rfl

theorem readReference?_named {s : List Char} (hs : ∀ rest, s ≠ '#' :: rest) :
    readReference? s =
      if (s.takeWhile isNameChar).take 32 = [] then none
      else
        match s.drop ((s.takeWhile isNameChar).take 32).length with
        | ';' :: more => some (.ok (namedReference true ((s.takeWhile isNameChar).take 32)), more)
        | _ =>
          some (.ok (namedReference false ((s.takeWhile isNameChar).take 32)),
            s.drop ((s.takeWhile isNameChar).take 32).length) := by
  unfold readReference?
  split
  · next rest => exact absurd rfl (hs rest)
  · rfl

/-- A reference leaves the end of its text, and it is read unless it is a decimal code
    that cannot be. -/
theorem readReference?_cases {s more : List Char} {decoded : Except NumeralError (List Char)}
    (h : readReference? s = some (decoded, more)) :
    more <:+ s ∧ ((∃ text, decoded = .ok text) ∨
      ∃ rest, s = '#' :: rest ∧
        decoded = (readWhole (rest.takeWhile Char.isDigit)).map numericReference) := by
  by_cases hs : ∃ rest, s = '#' :: rest
  · rcases hs with ⟨rest, rfl⟩
    have hskip := List.suffix_cons '#' rest
    rw [readReference?_numeric] at h
    -- Only decimal codes are read as numbers; the others are never too long.
    by_cases hdigits : rest.takeWhile Char.isDigit = []
    · rw [if_neg (by simpa using hdigits)] at h
      cases rest with
      | nil => exact absurd h (by simp)
      | cons x digits =>
          dsimp only at h
          split at h
          · simp only [Option.some.injEq, Prod.mk.injEq] at h
            rw [← h.2]
            refine ⟨?_, Or.inl ⟨_, h.1.symm⟩⟩
            exact ((dropSemicolon_suffix _).trans (List.drop_suffix _ digits)).trans
              ((List.suffix_cons x digits).trans hskip)
          · exact absurd h (by simp)
    · rw [if_pos hdigits, Option.some.injEq, Prod.mk.injEq] at h
      rw [← h.2]
      refine ⟨?_, Or.inr ⟨rest, rfl, h.1.symm⟩⟩
      exact ((dropSemicolon_suffix _).trans (List.drop_suffix _ rest)).trans hskip
  · rw [readReference?_named (fun rest hrest => hs ⟨rest, hrest⟩)] at h
    by_cases hname : (s.takeWhile isNameChar).take 32 = []
    · rw [if_pos hname] at h
      exact absurd h (by simp)
    · rw [if_neg hname] at h
      have hdrop := List.drop_suffix ((s.takeWhile isNameChar).take 32).length s
      split at h
      · rename_i rest hrest
        rw [hrest] at hdrop
        simp only [Option.some.injEq, Prod.mk.injEq] at h
        rw [← h.2]
        exact ⟨(List.suffix_cons ';' rest).trans hdrop, Or.inl ⟨_, h.1.symm⟩⟩
      · simp only [Option.some.injEq, Prod.mk.injEq] at h
        rw [← h.2]
        exact ⟨hdrop, Or.inl ⟨_, h.1.symm⟩⟩

/-- The steps that are needed are no more than the characters. -/
theorem decodeReferencesFrom_eq (fuel : Nat) (s : List Char) (h : s.length ≤ fuel) :
    decodeReferencesFrom fuel s = decodeReferences s := by
  -- Any two amounts of fuel that suffice are compared through a smaller one.
  induction fuel using Nat.strongRecOn generalizing s with
  | ind fuel ih =>
      rw [decodeReferences]
      cases s with
      | nil => cases fuel <;> rfl
      | cons c rest =>
          rw [List.length_cons] at h ⊢
          cases fuel with
          | zero => omega
          | succ fuel =>
              have hrest : ∀ t : List Char, t.length ≤ rest.length →
                  decodeReferencesFrom fuel t = decodeReferencesFrom rest.length t := by
                intro t ht
                rw [ih fuel (by omega) t (by omega)]
                by_cases hfuel : rest.length = fuel
                · rw [hfuel, ih fuel (by omega) t (by omega)]
                · rw [ih rest.length (by omega) t ht]
              rw [decodeReferencesFrom, decodeReferencesFrom]
              cases hread : readReference? rest with
              | none => simp only [hrest rest (Nat.le_refl _)]
              | some result =>
                  have hmore := (@readReference?_cases _ result.2 _ hread).1.length_le
                  simp only [hrest rest (Nat.le_refl _), hrest result.2 hmore]

theorem decodeReferences_nil : decodeReferences [] = .ok [] :=
  rfl

/-- A character that starts no reference stays. -/
theorem decodeReferences_cons {c : Char} (hc : c ≠ '&') (s : List Char) :
    decodeReferences (c :: s) = (c :: ·) <$> decodeReferences s := by
  rw [decodeReferences, List.length_cons, decodeReferencesFrom, if_neg hc, decodeReferences]
  rfl

/-- A reference becomes what it stands for; an ampersand that starts none stays. -/
theorem decodeReferences_ampersand (s : List Char) :
    decodeReferences ('&' :: s) =
      match readReference? s with
      | some (decoded, more) => do return (← decoded) ++ (← decodeReferences more)
      | none => ('&' :: ·) <$> decodeReferences s := by
  rw [decodeReferences, List.length_cons, decodeReferencesFrom, if_pos rfl]
  cases hread : readReference? s with
  | none =>
      simp only []
      rw [decodeReferences]
      rfl
  | some result =>
      have hmore := (@readReference?_cases _ result.2 _ hread).1.length_le
      simp only [decodeReferencesFrom_eq s.length result.2 hmore]

/-- Without ampersands nothing changes. -/
theorem decodeReferences_plain {s : List Char} (h : '&' ∉ s) : decodeReferences s = .ok s := by
  induction s with
  | nil => exact decodeReferences_nil
  | cons c s ih =>
      rw [List.mem_cons, not_or] at h
      rw [decodeReferences_cons (Ne.symm h.1), ih h.2]
      rfl

/-- A reference that is read whatever follows it becomes what it stands for. -/
theorem decodeReferences_reference {name text : List Char}
    (hread : ∀ s, readReference? (name ++ s) = some (.ok text, s)) (s : List Char) :
    decodeReferences ('&' :: (name ++ s)) = (text ++ ·) <$> decodeReferences s := by
  rw [decodeReferences_ampersand, hread s]
  dsimp only
  cases decodeReferences s <;> rfl

/-- How a text writes its characters is undone by decoding if every character is written
    as itself or as a reference to itself. -/
theorem decodeReferences_replaceChars {f : Char → String}
    (hf : ∀ c, (f c = c.toString ∧ c ≠ '&') ∨
      ∃ name, (f c).toList = '&' :: name ∧
        ∀ s, readReference? (name ++ s) = some (.ok [c], s)) (s : String) :
    decodeReferences (replaceChars f s).toList = .ok s.toList := by
  rw [replaceChars, String.toList_ofList]
  induction s.toList with
  | nil => exact decodeReferences_nil
  | cons c rest ih =>
      rw [List.flatMap_cons]
      rcases hf c with ⟨hself, hc⟩ | ⟨name, hname, hread⟩
      · have hlist : (f c).toList = [c] := by
          rw [hself]
          exact String.toList_singleton c
        rw [hlist, List.singleton_append, decodeReferences_cons hc, ih]
        rfl
      · rw [hname, List.cons_append, decodeReferences_reference hread, ih]
        rfl

/-- An escaped value decodes to what was escaped. -/
theorem decodeReferences_escapeAttribute (s : String) :
    decodeReferences (escapeAttribute s).toList = .ok s.toList := by
  refine decodeReferences_replaceChars (fun c => ?_) s
  by_cases hamp : c = '&'
  · subst hamp
    exact Or.inr ⟨"amp;".toList, rfl, fun s => rfl⟩
  · by_cases hquote : c = '"'
    · subst hquote
      exact Or.inr ⟨"quot;".toList, rfl, fun s => rfl⟩
    · exact Or.inl ⟨by simp [attributeReference], hamp⟩

/-- So does a value that is escaped for either kind of quotes. -/
theorem decodeReferences_escapeQuoted (s : String) :
    decodeReferences (escapeQuoted s).toList = .ok s.toList := by
  refine decodeReferences_replaceChars (fun c => ?_) s
  by_cases hamp : c = '&'
  · subst hamp
    exact Or.inr ⟨"amp;".toList, rfl, fun s => rfl⟩
  · by_cases hquote : c = '"'
    · subst hquote
      exact Or.inr ⟨"quot;".toList, rfl, fun s => rfl⟩
    · by_cases hsingle : c = '\''
      · subst hsingle
        exact Or.inr ⟨"#x27;".toList, rfl, fun s => rfl⟩
      · by_cases hless : c = '<'
        · subst hless
          exact Or.inr ⟨"lt;".toList, rfl, fun s => rfl⟩
        · by_cases hgreater : c = '>'
          · subst hgreater
            exact Or.inr ⟨"gt;".toList, rfl, fun s => rfl⟩
          · exact Or.inl ⟨by simp [quotedReference, textReference], hamp⟩

/-- What comes before the first ampersand stays as it is. -/
theorem decodeReferences_after {before : List Char} (h : '&' ∉ before) (s : List Char) :
    decodeReferences (before ++ s) = (before ++ ·) <$> decodeReferences s := by
  induction before with
  | nil => cases hs : decodeReferences s <;> simp [hs]
  | cons c before ih =>
      rw [List.mem_cons, not_or] at h
      rw [List.cons_append, decodeReferences_cons (Ne.symm h.1), ih h.2]
      cases decodeReferences s <;> rfl

section Brackets

/-- A closing bracket is one byte of a text. -/
theorem bracket_byte {s : List Char} (h : ')' ∈ s) :
    (String.ofList s).toByteArray.data.toList.contains 41 = true := by
  rw [String.toByteArray_ofList, List.utf8Encode, List.toList_data_toByteArray,
    List.contains_iff_mem, List.mem_flatMap]
  exact ⟨')', h, by decide⟩

/-- No name has a bracket in it. -/
theorem namedText?_bracket {name : List Char} (h : ')' ∈ name) (isClosed : Bool) :
    namedText? isClosed name = none := by
  -- There are thousands of names, and their bytes are the fastest to go through.
  have hopen : ∀ p ∈ openNames, (!p.1.toByteArray.data.toList.contains 41) = true :=
    List.all_eq_true.mp (by decide +kernel)
  have hclosed : ∀ names ∈ closedNames,
      (names.all fun p => !p.1.toByteArray.data.toList.contains 41) = true :=
    List.all_eq_true.mp (by decide +kernel)
  have hnone : ∀ {β : Type} (names : List (String × β)),
      (∀ p ∈ names, (!p.1.toByteArray.data.toList.contains 41) = true) →
      names.lookup (String.ofList name) = none := by
    intro β names hnames
    rw [List.lookup_eq_none_iff]
    intro p hp
    rw [bne_iff_ne]
    intro hsame
    have hp := hnames p hp
    rw [← hsame, bracket_byte h] at hp
    exact absurd hp (by decide)
  rw [namedText?, hnone openNames hopen]
  cases isClosed with
  | false => rfl
  | true =>
      have hall : (closedNames.findSome? fun names => names.lookup (String.ofList name)) = none :=
        List.findSome?_eq_none_iff.mpr fun names hnames =>
          hnone names (List.all_eq_true.mp (hclosed names hnames))
      dsimp only
      rw [if_pos rfl, hall]
      rfl

/-- Every name has two letters or more. -/
theorem namedText?_short {name : List Char} (h : name.length < 2) :
    namedText? false name = none := by
  have hopen : ∀ p ∈ openNames, decide (2 ≤ p.1.toList.length) = true :=
    List.all_eq_true.mp (by decide +kernel)
  have hnone : openNames.lookup (String.ofList name) = none := by
    rw [List.lookup_eq_none_iff]
    intro p hp
    rw [bne_iff_ne]
    intro hsame
    have hp := hopen p hp
    rw [← hsame, String.toList_ofList, decide_eq_true_eq] at hp
    omega
  rw [namedText?, hnone]
  rfl

/-- What follows a name takes no part in finding it. -/
theorem longestName?_append (name after : List Char) {n : Nat} (hn : n ≤ name.length) :
    longestName? (name ++ after) n = (longestName? name n).map (· ++ after) := by
  induction n with
  | zero => rfl
  | succ n ih =>
      cases n with
      | zero => rfl
      | succ n =>
          rw [longestName?, longestName?, List.take_append_of_le_length hn,
            List.drop_append_of_le_length hn]
          cases namedText? false (name.take (n + 2)) with
          | some text => simp
          | none => exact ih (by omega)

/-- An open name is the longest known front of itself, if it is known. -/
theorem namedReference_longest (name : List Char) :
    namedReference false name = (longestName? name name.length).getD ('&' :: name) := by
  rw [namedReference, if_neg Bool.false_ne_true]
  -- Names have at least two characters, and so shorter fronts need no look.
  cases hlength : name.length with
  | zero =>
      rw [namedText?_short (by omega)]
      dsimp only
      rw [hlength]
  | succ n =>
      cases n with
      | zero =>
          rw [namedText?_short (by omega)]
          dsimp only
          rw [hlength]
          rfl
      | succ n =>
          have hall : name.take (n + 2) = name := List.take_of_length_le (by omega)
          have hnone : name.drop (n + 2) = [] := List.drop_eq_nil_of_le (by omega)
          rw [longestName?, hall, hnone]
          cases namedText? false name with
          | some text => simp
          | none =>
              dsimp only
              rw [hlength]
              rfl

/-- A bracket and a semicolon after a name take no part in it. -/
theorem namedReference_bracket (name : List Char) :
    namedReference true (name ++ [')'])
      = (if name = [] then ['&'] else namedReference false name) ++ [')', ';'] := by
  have hbracket : ∀ isClosed, namedText? isClosed (name ++ [')']) = none :=
    namedText?_bracket (List.mem_append_right name List.mem_cons_self)
  have hwritten : name ++ [')'] ++ [';'] = name ++ [')', ';'] := by simp
  rw [namedReference, hbracket, if_pos rfl, hwritten]
  cases hlength : name.length with
  | zero =>
      obtain rfl := List.length_eq_zero_iff.mp hlength
      rfl
  | succ n =>
      have hne : name ≠ [] := fun hnil => by simp [hnil] at hlength
      have hlast : (name ++ [')', ';']).length - 1 = n + 2 := by simp [hlength]
      have hfront : (name ++ [')', ';']).take (n + 2) = name ++ [')'] := by
        rw [← hwritten, List.take_left' (by simp [hlength])]
      have hname := longestName?_append name [')', ';'] (Nat.le_refl _)
      rw [hlength] at hname
      dsimp only
      rw [hlast, longestName?, hfront, hbracket, if_neg hne, namedReference_longest, hlength]
      dsimp only
      rw [hname]
      cases longestName? name (n + 1) with
      | some text => rfl
      | none => rfl

/-- What is taken from a text that goes on ends where it ended, or goes on too. -/
theorem takeWhile_append_stop {p : Char → Bool} {c : Char} (hc : p c = false) (s rest : List Char) :
    (s ++ c :: rest).takeWhile p = s.takeWhile p := by
  rw [List.takeWhile_append]
  split
  · rename_i hall
    rw [List.takeWhile_cons_of_neg (by simp [hc]), List.append_nil,
      (List.takeWhile_prefix p).eq_of_length hall]
  · rfl

theorem drop_takeWhile_append (p : Char → Bool) (s rest : List Char) :
    (s ++ rest).drop (s.takeWhile p).length = s.drop (s.takeWhile p).length ++ rest :=
  List.drop_append_of_le_length (List.takeWhile_prefix p).length_le

theorem dropSemicolon_append {c : Char} (hc : c ≠ ';') (s rest : List Char) :
    dropSemicolon (s ++ c :: rest) = dropSemicolon s ++ c :: rest := by
  cases s with
  | nil => exact dropSemicolon_cons hc rest
  | cons d s =>
      by_cases hd : d = ';'
      · subst hd
        rfl
      · rw [List.cons_append, dropSemicolon_cons hd, dropSemicolon_cons hd, List.cons_append]

section Names

variable {s name more : List Char} (hs : ∀ rest, s ≠ '#' :: rest)
  (hname : (s.takeWhile isNameChar).take 32 = name) (hne : name ≠ [])
include hs hname hne

/-- A semicolon after a name closes it. -/
theorem readReference?_closed (hafter : s.drop name.length = ';' :: more) :
    readReference? s = some (.ok (namedReference true name), more) := by
  rw [readReference?_named hs, hname, if_neg hne, hafter]
  rfl

/-- Anything else stays. -/
theorem readReference?_open {c : Char} (hc : c ≠ ';') (hafter : s.drop name.length = c :: more) :
    readReference? s = some (.ok (namedReference false name), c :: more) := by
  rw [readReference?_named hs, hname, if_neg hne, hafter]
  split
  · rename_i heq
    exact absurd (List.cons.inj heq).1 hc
  · rfl

theorem readReference?_end (hafter : s.drop name.length = []) :
    readReference? s = some (.ok (namedReference false name), []) := by
  rw [readReference?_named hs, hname, if_neg hne, hafter]

end Names

/-- A code that a bracket follows is read as if nothing followed. -/
theorem readReference?_code_bracket (code rest : List Char) :
    (∃ text more, readReference? ('#' :: code) = some (text, more) ∧
        readReference? ('#' :: (code ++ ')' :: rest)) = some (text, more ++ ')' :: rest)) ∨
      (readReference? ('#' :: code) = none ∧
        readReference? ('#' :: (code ++ ')' :: rest)) = none) := by
  -- A bracket is no digit of either kind, so it stops the code where it stopped before.
  rw [readReference?_numeric, readReference?_numeric, takeWhile_append_stop (by decide),
    drop_takeWhile_append]
  by_cases hdigits : code.takeWhile Char.isDigit = []
  · rw [if_neg (by simpa using hdigits), if_neg (by simpa using hdigits)]
    cases code with
    | nil => exact .inr ⟨rfl, rfl⟩
    | cons x digits =>
        rw [List.cons_append]
        dsimp only
        rw [takeWhile_append_stop (by decide), drop_takeWhile_append]
        split
        · exact .inl ⟨_, _, rfl, by rw [dropSemicolon_append (by decide)]⟩
        · exact .inr ⟨rfl, rfl⟩
  · rw [if_pos hdigits, if_pos hdigits]
    exact .inl ⟨_, _, rfl, by rw [dropSemicolon_append (by decide)]⟩

/-- A name that goes on to the end of its text, and is not too long, takes a bracket into
    itself. The semicolon then closes it. -/
theorem readReference?_name_bracket {s : List Char} (hs : ∀ code, s ≠ '#' :: code)
    (hname : s.takeWhile isNameChar = s) (hlength : s.length < 32) (rest : List Char) :
    readReference? s = (if s = [] then none else some (.ok (namedReference false s), [])) ∧
      readReference? (s ++ ')' :: ';' :: rest)
        = some (.ok (namedReference true (s ++ [')'])), rest) := by
  have hself : (s.takeWhile isNameChar).take 32 = s := by
    rw [hname, List.take_of_length_le (by omega)]
  have hlonger : ((s ++ ')' :: ';' :: rest).takeWhile isNameChar).take 32 = s ++ [')'] := by
    rw [List.takeWhile_append_of_pos (List.takeWhile_eq_self_iff.mp hname)]
    change (s ++ [')']).take 32 = _
    exact List.take_of_length_le (by simp; omega)
  constructor
  · by_cases hnil : s = []
    · rw [hnil]
      rfl
    · rw [if_neg hnil, readReference?_end hs hself hnil List.drop_length]
  · refine readReference?_closed (fun code hcode => ?_) hlonger (by simp) ?_
    · cases s with
      | nil => exact absurd (List.cons.inj hcode).1 (by decide)
      | cons c s => exact hs s (by rw [(List.cons.inj hcode).1])
    · have hsplit : s ++ ')' :: ';' :: rest = (s ++ [')']) ++ ';' :: rest := by simp
      rw [hsplit, List.drop_left]

/-- Any other name that a bracket follows is read as if nothing followed. -/
theorem readReference?_named_bracket {s : List Char} (hs : ∀ code, s ≠ '#' :: code)
    (hstops : ¬ (s.takeWhile isNameChar = s ∧ s.length < 32)) (rest : List Char) :
    (∃ text more, readReference? s = some (text, more) ∧
        readReference? (s ++ ')' :: rest) = some (text, more ++ ')' :: rest)) ∨
      (readReference? s = none ∧ readReference? (s ++ ')' :: rest) = none) := by
  have hs' : ∀ code, s ++ ')' :: rest ≠ '#' :: code := by
    intro code hcode
    cases s with
    | nil => exact absurd (List.cons.inj hcode).1 (by decide)
    | cons c s => exact hs s (by rw [(List.cons.inj hcode).1])
  -- Either the name stopped before the end, or only its first characters count.
  have hname : ((s ++ ')' :: rest).takeWhile isNameChar).take 32
      = (s.takeWhile isNameChar).take 32 := by
    rw [List.takeWhile_append]
    split
    · rename_i hlength
      have hall := (List.takeWhile_prefix isNameChar).eq_of_length hlength
      have hlong : 32 ≤ s.length := Nat.not_lt.mp fun hless => hstops ⟨hall, hless⟩
      rw [hall, List.take_append_of_le_length hlong]
    · rfl
  generalize hself : (s.takeWhile isNameChar).take 32 = name at hname
  have hlength : name.length ≤ s.length :=
    hself ▸ ((List.take_prefix 32 _).trans (List.takeWhile_prefix isNameChar)).length_le
  by_cases hnil : name = []
  · rw [readReference?_named hs, readReference?_named hs', hself, hname, if_pos hnil,
      if_pos hnil]
    exact .inr ⟨rfl, rfl⟩
  · have hdrop : (s ++ ')' :: rest).drop name.length = s.drop name.length ++ ')' :: rest :=
      List.drop_append_of_le_length hlength
    left
    cases hafter : s.drop name.length with
    | nil =>
        rw [hafter] at hdrop
        exact ⟨_, _, readReference?_end hs hself hnil hafter,
          readReference?_open hs' hname hnil (by decide) hdrop⟩
    | cons c more =>
        rw [hafter] at hdrop
        by_cases hc : c = ';'
        · subst hc
          exact ⟨_, _, readReference?_closed hs hself hnil hafter,
            readReference?_closed hs' hname hnil hdrop⟩
        · exact ⟨_, _, readReference?_open hs hself hnil hc hafter,
            readReference?_open hs' hname hnil hc hdrop⟩

/-- A reference that a bracket follows is read as if nothing followed, unless it is a name
    that goes on to the end of its text. -/
theorem readReference?_bracket (s rest : List Char) :
    (∃ text more, readReference? s = some (text, more) ∧
        readReference? (s ++ ')' :: ';' :: rest) = some (text, more ++ ')' :: ';' :: rest)) ∨
      (readReference? s = none ∧ readReference? (s ++ ')' :: ';' :: rest) = none) ∨
      (readReference? s = (if s = [] then none else some (.ok (namedReference false s), [])) ∧
        readReference? (s ++ ')' :: ';' :: rest)
          = some (.ok (namedReference true (s ++ [')'])), rest)) := by
  by_cases hcode : ∃ code, s = '#' :: code
  · rcases hcode with ⟨code, rfl⟩
    exact (readReference?_code_bracket code (';' :: rest)).imp_right .inl
  · have hs : ∀ code, s ≠ '#' :: code := fun code h => hcode ⟨code, h⟩
    by_cases hname : s.takeWhile isNameChar = s ∧ s.length < 32
    · exact .inr (.inr (readReference?_name_bracket hs hname.1 hname.2 rest))
    · exact (readReference?_named_bracket hs hname (';' :: rest)).imp_right .inl

/-- A bracket and a semicolon after a text take no part in decoding it. -/
theorem decodeReferences_bracket (s : List Char) {rest : List Char} (hrest : '&' ∉ rest) :
    decodeReferences (s ++ ')' :: ';' :: rest)
      = (· ++ ')' :: ';' :: rest) <$> decodeReferences s := by
  have hplain : decodeReferences (')' :: ';' :: rest) = .ok (')' :: ';' :: rest) :=
    decodeReferences_plain (by simp [hrest])
  induction hlength : s.length using Nat.strongRecOn generalizing s with
  | ind n ih =>
      cases s with
      | nil => rw [List.nil_append, hplain]; rfl
      | cons c s =>
          rw [List.length_cons] at hlength
          have hself := ih s.length (by omega) s rfl
          rw [List.cons_append]
          by_cases hc : c = '&'
          · subst hc
            rw [decodeReferences_ampersand, decodeReferences_ampersand]
            rcases readReference?_bracket s rest with ⟨text, more, hread, hlonger⟩ |
              ⟨hread, hlonger⟩ | ⟨hread, hlonger⟩
            · -- The reference ends before the bracket, so it goes on with what is left of `s`.
              have hless := (readReference?_cases hread).1.length_le
              have hmore := ih more.length (by omega) more rfl
              rw [hread, hlonger]
              dsimp only
              rw [hmore]
              cases text with
              | error e => rfl
              | ok text =>
                  cases decodeReferences more with
                  | error e => rfl
                  | ok others => exact congrArg Except.ok (List.append_assoc text others _).symm
            · rw [hread, hlonger]
              dsimp only
              rw [hself]
              cases decodeReferences s <;> rfl
            · -- The bracket was taken into the name, and what the name stands for gives it back.
              rw [hread, hlonger]
              dsimp only
              rw [namedReference_bracket, decodeReferences_plain hrest]
              by_cases hnil : s = []
              · subst hnil
                rfl
              · rw [if_neg hnil, if_neg hnil]
                dsimp only
                rw [decodeReferences_nil]
                exact congrArg Except.ok (by simp)
          · rw [decodeReferences_cons hc, decodeReferences_cons hc, hself]
            cases decodeReferences s <;> rfl

end Brackets

/-- A decimal code with too many digits starts the text. -/
def startsLongCode : List Char → Bool
  | '&' :: '#' :: s => numeralLimit < (s.takeWhile Char.isDigit).length
  | _ => false

/-- A decimal code with too many digits stands somewhere in the text. -/
def hasLongCode : List Char → Bool
  | [] => false
  | c :: s => startsLongCode (c :: s) || hasLongCode s

theorem hasLongCode_suffix {s t : List Char} (h : t <:+ s) (hs : hasLongCode s = false) :
    hasLongCode t = false := by
  rcases h with ⟨front, rfl⟩
  induction front with
  | nil => exact hs
  | cons c front ih =>
      rw [List.cons_append, hasLongCode, Bool.or_eq_false_iff] at hs
      exact ih hs.2

/-- Without long codes decoding returns. -/
theorem decodeReferences_ok {s : List Char} (h : hasLongCode s = false) :
    ∃ t, decodeReferences s = .ok t := by
  -- A reference takes more than its ampersand, so this is by the length.
  induction hlength : s.length using Nat.strongRecOn generalizing s with
  | ind n ih =>
      cases s with
      | nil => exact ⟨[], rfl⟩
      | cons c rest =>
          rw [List.length_cons] at hlength
          have hrest := hasLongCode_suffix (List.suffix_cons c rest) h
          rcases ih rest.length (by omega) hrest rfl with ⟨t, ht⟩
          by_cases hc : c = '&'
          · subst hc
            rw [decodeReferences_ampersand]
            cases hread : readReference? rest with
            | none => exact ⟨'&' :: t, by dsimp only; rw [ht]; rfl⟩
            | some result =>
                rcases result with ⟨decoded, more⟩
                rcases readReference?_cases hread with ⟨hsuffix, hdecoded⟩
                have hshorter := hsuffix.length_le
                rcases ih more.length (by omega) (hasLongCode_suffix hsuffix hrest) rfl with
                  ⟨u, hu⟩
                -- A decimal code within the limit is read.
                have htext : ∃ text, decoded = .ok text := by
                  rcases hdecoded with hok | ⟨digits, rfl, hwhole⟩
                  · exact hok
                  · rw [hasLongCode, Bool.or_eq_false_iff, startsLongCode,
                      decide_eq_false_iff_not] at h
                    exact ⟨_, by rw [hwhole, readWhole, if_neg h.1]; rfl⟩
                rcases htext with ⟨text, rfl⟩
                exact ⟨text ++ u, by dsimp only; rw [hu]; rfl⟩
          · rw [decodeReferences_cons hc, ht]
            exact ⟨c :: t, rfl⟩

/-- A long code stops decoding. -/
theorem decodeReferences_longCode {before digits after : List Char} (hbefore : '&' ∉ before)
    (hdigits : ∀ c ∈ digits, c.isDigit = true) (hlong : numeralLimit < digits.length)
    (hafter : ∀ c ∈ after.head?, c.isDigit = false) :
    decodeReferences (before ++ '&' :: '#' :: (digits ++ after))
      = .error (.unreadable digits.length) := by
  induction before with
  | nil =>
      have htake : (digits ++ after).takeWhile Char.isDigit = digits := by
        rw [List.takeWhile_append_of_pos hdigits]
        cases after with
        | nil => simp
        | cons c after =>
            rw [List.takeWhile_cons_of_neg (by simp [hafter c rfl]), List.append_nil]
      have hne : digits ≠ [] := by
        rintro rfl
        exact absurd hlong (by simp)
      rw [List.nil_append, decodeReferences_ampersand, readReference?_numeric, htake,
        if_pos hne, readWhole, if_pos hlong]
      rfl
  -- What stands before the code is decoded first, but its result is lost.
  | cons c before ih =>
      rw [List.mem_cons, not_or] at hbefore
      rw [List.cons_append, decodeReferences_cons (Ne.symm hbefore.1), ih hbefore.2]
      rfl

theorem hasLongCode_plain {s : List Char} (h : '&' ∉ s) : hasLongCode s = false := by
  induction s with
  | nil => rfl
  | cons c s ih =>
      rw [List.mem_cons, not_or] at h
      rw [hasLongCode, ih h.2, Bool.or_false, startsLongCode]
      intro more hmore
      exact h.1 (List.cons.inj hmore).1.symm

/-- A text without ampersands in front adds no long code. -/
theorem hasLongCode_append_left {before s : List Char} (h : '&' ∉ before) :
    hasLongCode (before ++ s) = hasLongCode s := by
  induction before with
  | nil => rfl
  | cons c before ih =>
      rw [List.mem_cons, not_or] at h
      rw [List.cons_append, hasLongCode, ih h.2, startsLongCode, Bool.false_or]
      intro more hmore
      exact h.1 (List.cons.inj hmore).1.symm

/-- A text that goes on no code has its own long codes. -/
theorem hasLongCode_append (s after : List Char) {c : Char} (hc : c ≠ '#')
    (hdigit : c.isDigit = false) :
    hasLongCode (s ++ c :: after) = (hasLongCode s || hasLongCode (c :: after)) := by
  induction s with
  | nil => rfl
  | cons d s ih =>
      have hself : hasLongCode (d :: (s ++ c :: after))
          = (startsLongCode (d :: (s ++ c :: after)) || hasLongCode (s ++ c :: after)) := rfl
      rw [List.cons_append, hself, ih, ← Bool.or_assoc, hasLongCode]
      congr 2
      -- A code of the text needs an ampersand and a sharp, and these may not be cut.
      match s with
      | [] =>
          by_cases hd : d = '&'
          · subst hd
            simp [startsLongCode, hc]
          · simp [startsLongCode, hd]
      | e :: s =>
          by_cases hd : d = '&' ∧ e = '#'
          · rcases hd with ⟨rfl, rfl⟩
            -- The digits end where they ended, or before what follows.
            have hcut : (s ++ c :: after).takeWhile Char.isDigit = s.takeWhile Char.isDigit := by
              rw [List.takeWhile_append]
              split
              · rename_i hall
                rw [List.takeWhile_cons_of_neg (by simp [hdigit]), List.append_nil]
                exact ((List.takeWhile_prefix _).eq_of_length hall).symm
              · rfl
            simp only [List.cons_append, startsLongCode, hcut]
          · have hnot : ∀ more, startsLongCode (d :: e :: more) = false := by
              intro more
              rw [startsLongCode]
              intro rest hrest
              exact hd ⟨(List.cons.inj hrest).1, (List.cons.inj (List.cons.inj hrest).2).1⟩
            rw [List.cons_append, hnot, hnot]

/-- A text without ampersands behind adds no long code either, if it goes on no code. -/
theorem hasLongCode_append_right {s after : List Char} {c : Char} (hc : c ≠ '#')
    (hdigit : c.isDigit = false) (h : '&' ∉ c :: after) :
    hasLongCode (s ++ c :: after) = hasLongCode s := by
  rw [hasLongCode_append s after hc hdigit, hasLongCode_plain h, Bool.or_false]

end Letterpress.Text
