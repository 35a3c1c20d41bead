import Letterpress.Proofs.Markup.Reading

/-!
# Character Data

A text without `<` has no markup but references, and is read as pieces of character data.
Almost all of it is written back as it was. References are kept as they are spelled, and
ampersands that start none are kept as well. But a reference is always written with a
semicolon, and may have been read without one; and of an ampersand before a single letter
that ends the text only the letter is left.

Which ampersands are looked at depends on where reading stops. It stops at an ampersand
with a sharp that starts no reference. If a semicolon comes later, then reading is resumed
behind it, but only once: the second pass is the last one. What is not looked at is kept.

No reference has an ampersand in it. So whether a text is kept can be decided one
character at a time: what follows an ampersand is judged in the same way whether or not
the reader has skipped it as a part of a reference.

## Main definitions

* `reference?`: The reference that an ampersand starts.
* `isKept`: The text is written back as it was.
* `Mended`: What else may be written.
* `rewritten`: What is written.

## Theorems

* `readCode?_parts`, `readEntity?_parts`, `reference?_parts`: What a reference is.
* `mended_rewritten`: What is written is the text, mended.
* `rewritten_eq_iff`: Which texts are written back as they were.
* `passes_ampersand`, `passes_data`: What one step of a pass reads.
* `pass_rewritten`: What a pass reads.
* `parse_characterData`: Reading a text without markup, and writing it back.
-/

namespace Letterpress.Markup

/-- The reference at the start of a text that follows an ampersand, without its semicolon,
    and what follows it. -/
def reference? : List Char → Option (List Char × List Char)
  | '#' :: t => (readCode? t).map fun r => ('#' :: r.1, r.2)
  | t => readEntity? t

/-- The text after an ampersand starts with a sharp, but with no reference. -/
def isBrokenCode (t : List Char) : Bool :=
  t.head? = some '#' && (reference? t).isNone

/-- The text after an ampersand starts with a reference that has no semicolon. -/
def isOpen (t : List Char) : Bool :=
  match reference? t with
  | some (body, rest) => t ≠ body ++ ';' :: rest
  | none => false

/-- The text after an ampersand is a single letter. -/
def isLoneLetter : List Char → Bool
  | [c] => c.isAlpha
  | _ => false

/-- The text is written back as it was, if it is read in one pass and, where that stops, in
    `n` more: every reference that is read has its semicolon, and none of the ampersands
    that are read stands before a single last letter. -/
def isKept : Nat → List Char → Bool
  | _, [] => true
  | n, c :: t =>
    if c = '&' then
      -- A pass stops here. Nothing else is read if no semicolon follows or no pass is left.
      if isBrokenCode t then n = 0 || !t.contains ';' || isKept (n - 1) t
      else !isOpen t && !isLoneLetter t && isKept n t
    else isKept n t

/-- The second text is the first one, but for semicolons behind references and an ampersand
    before the last letter. -/
inductive Mended : List Char → List Char → Prop
  | nil : Mended [] []
  | keep (c : Char) {s t : List Char} (h : Mended s t) : Mended (c :: s) (c :: t)
  | semicolon {body s t : List Char} (hbody : IsReference ('&' :: (body ++ [';'])))
      (hopen : s.head? ≠ some ';') (h : Mended s t) :
      Mended ('&' :: (body ++ s)) ('&' :: (body ++ ';' :: t))
  | letter {c : Char} (hc : c.isAlpha = true) : Mended ['&', c] [c]

section Parts

variable {s t body rest : List Char}

theorem drop_length_takeWhile (p : Char → Bool) (s : List Char) :
    s.drop (s.takeWhile p).length = s.dropWhile p := by
  have h : (s.takeWhile p ++ s.dropWhile p).drop (s.takeWhile p).length = s.dropWhile p :=
    List.drop_left
  rwa [List.takeWhile_append_dropWhile] at h

theorem dropSemicolon_cases (s : List Char) :
    s = ';' :: Text.dropSemicolon s ∨ (Text.dropSemicolon s = s ∧ s.head? ≠ some ';') := by
  cases s with
  | nil => exact Or.inr ⟨rfl, by simp⟩
  | cons c s =>
      by_cases hc : c = ';'
      · exact Or.inl (by rw [hc]; rfl)
      · refine Or.inr ⟨?_, by simpa using hc⟩
        rw [Text.dropSemicolon]
        exact fun _ h => hc (List.cons.inj h).1

/-- Digits that are followed by no other digit, even if it were one of another base. -/
def readDigits? (digits after : List Char) : Option (List Char × List Char) :=
  match digits, after with
  | [], _ => none
  | _, [] => none
  | _, c :: _ => if Text.isHexDigit c then none else some (digits, Text.dropSemicolon after)

theorem readDigits?_eq_some {digits after : List Char}
    (h : readDigits? digits after = some (body, rest)) :
    digits ≠ [] ∧ body = digits ∧ rest = Text.dropSemicolon after := by
  unfold readDigits? at h
  split at h
  · exact absurd h (by simp)
  · exact absurd h (by simp)
  · rename_i hdigits
    split at h
    · exact absurd h (by simp)
    · simp only [Option.some.injEq, Prod.mk.injEq] at h
      exact ⟨fun hnil => hdigits hnil, h.1.symm, h.2.symm⟩

theorem readCode?_eq (x : Char) (more : List Char) :
    readCode? (x :: more) =
      if (x :: more).takeWhile Char.isDigit ≠ [] then
        readDigits? ((x :: more).takeWhile Char.isDigit) ((x :: more).dropWhile Char.isDigit)
      else if (x = 'x' ∨ x = 'X') ∧ more.takeWhile Text.isHexDigit ≠ [] then
        readDigits? (x :: more.takeWhile Text.isHexDigit) (more.dropWhile Text.isHexDigit)
      else none := by
  unfold readCode?
  simp only [drop_length_takeWhile]
  by_cases hdecimal : (x :: more).takeWhile Char.isDigit ≠ []
  · simp only [if_pos hdecimal]
    rfl
  · simp only [if_neg hdecimal]
    by_cases hx : x = 'x' ∨ x = 'X'
    · by_cases hhex : more.takeWhile Text.isHexDigit = []
      · simp only [hx, hhex, if_true, ne_eq, not_true_eq_false, and_false, if_false]
      · simp only [hx, hhex, if_true, if_false, ne_eq, not_false_eq_true, and_true]
        rfl
    · simp only [hx, if_false, false_and]

/-- A numeric reference: its digits, and behind them perhaps a semicolon. -/
theorem readCode?_parts (h : readCode? t = some (body, rest)) :
    isCode body = true ∧ ∃ after, t = body ++ after ∧ rest = Text.dropSemicolon after := by
  cases t with
  | nil => exact absurd h (by simp [readCode?])
  | cons x more =>
      rw [readCode?_eq] at h
      -- Decimal digits are tried first, and a mark for other digits is only looked for without
      -- them.
      by_cases hdecimal : (x :: more).takeWhile Char.isDigit ≠ []
      · rw [if_pos hdecimal] at h
        rcases readDigits?_eq_some h with ⟨hne, rfl, rfl⟩
        refine ⟨?_, _, List.takeWhile_append_dropWhile.symm, rfl⟩
        have hdigits : ((x :: more).takeWhile Char.isDigit).all Char.isDigit = true :=
          List.all_takeWhile
        cases hbody : (x :: more).takeWhile Char.isDigit with
        | nil => exact absurd hbody hne
        | cons d ds =>
            rw [hbody] at hdigits
            rw [isCode, hdigits, Bool.true_or]
      · rw [if_neg hdecimal] at h
        by_cases hhex : (x = 'x' ∨ x = 'X') ∧ more.takeWhile Text.isHexDigit ≠ []
        · rw [if_pos hhex] at h
          rcases readDigits?_eq_some h with ⟨-, rfl, rfl⟩
          refine ⟨?_, _, ?_, rfl⟩
          · have hdigits : (more.takeWhile Text.isHexDigit).all Text.isHexDigit = true :=
              List.all_takeWhile
            simp only [isCode, Bool.or_eq_true, Bool.and_eq_true, decide_eq_true_eq,
              Bool.not_eq_true', List.isEmpty_eq_false_iff]
            exact Or.inr ⟨hhex, hdigits⟩
          · rw [List.cons_append, List.takeWhile_append_dropWhile]
        · rw [if_neg hhex] at h
          exact absurd h (by simp)

theorem amp_notMem_code (h : isCode body = true) : '&' ∉ body := by
  cases body with
  | nil => exact List.not_mem_nil
  | cons x digits =>
      simp only [isCode, Bool.or_eq_true, Bool.and_eq_true, decide_eq_true_eq] at h
      intro hmem
      rcases h with hdecimal | ⟨⟨hx, -⟩, hhex⟩
      · exact absurd (List.all_eq_true.mp hdecimal '&' hmem) (by decide)
      · rcases List.mem_cons.mp hmem with rfl | hmem
        · exact absurd hx (by decide)
        · exact absurd (List.all_eq_true.mp hhex '&' hmem) (by decide)

/-- A named reference: its letters, and behind them perhaps a semicolon. -/
theorem readEntity?_parts (h : readEntity? t = some (body, rest)) :
    (∃ c name, body = c :: name ∧ c.isAlpha = true ∧ name.all isEntityChar = true) ∧
      ∃ after, t = body ++ after ∧ rest = Text.dropSemicolon after := by
  cases t with
  | nil => exact absurd h (by simp [readEntity?])
  | cons c more =>
      have hname : (more.takeWhile isEntityChar).all isEntityChar = true := List.all_takeWhile
      have hmore : more.takeWhile isEntityChar ++ more.dropWhile isEntityChar = more :=
        List.takeWhile_append_dropWhile
      simp only [readEntity?, drop_length_takeWhile] at h
      by_cases hc : c.isAlpha = true
      · rw [if_pos hc] at h
        generalize more.takeWhile isEntityChar = tail at h hname hmore
        generalize more.dropWhile isEntityChar = after at h hmore
        cases after with
        | cons d after =>
            simp only [Option.some.injEq, Prod.mk.injEq] at h
            rcases h with ⟨rfl, rfl⟩
            exact ⟨⟨c, tail, rfl, hc, hname⟩, d :: after, by rw [List.cons_append, hmore], rfl⟩
        | nil =>
            dsimp only at h
            split at h
            · exact absurd h (by simp)
            · -- The name ends before its last dash or point.
              rw [List.append_nil] at hmore
              simp only [Option.some.injEq, Prod.mk.injEq] at h
              rcases h with ⟨rfl, rfl⟩
              have hkept : ((tail.reverse.dropWhile Char.isAlphanum).drop 1).reverse <+: tail := by
                rw [← List.reverse_reverse tail, List.reverse_prefix, List.reverse_reverse]
                exact (List.drop_suffix 1 _).trans (List.dropWhile_suffix _)
              generalize (tail.reverse.dropWhile Char.isAlphanum).drop 1 = kept at hkept ⊢
              rcases hkept with ⟨after, rfl⟩
              rw [List.all_append, Bool.and_eq_true] at hname
              refine ⟨⟨c, kept.reverse, rfl, hc, hname.1⟩, after, by rw [← hmore]; rfl, ?_⟩
              rw [← List.length_reverse, List.drop_left]
              rcases dropSemicolon_cases after with hsemicolon | ⟨hopen, -⟩
              · rw [hsemicolon] at hname
                exact absurd hname.2 (by simp [isEntityChar])
              · exact hopen.symm
      · rw [if_neg hc] at h
        exact absurd h (by simp)

/-- A reference: its body, which has no ampersand in it, and behind that perhaps a
    semicolon. -/
theorem reference?_parts (h : reference? t = some (body, rest)) :
    IsReference ('&' :: (body ++ [';'])) ∧ '&' ∉ body ∧
      ∃ after, t = body ++ after ∧ rest = Text.dropSemicolon after := by
  unfold reference? at h
  split at h
  -- The first case is a character by its number, the second one by its name.
  · rename_i code
    rcases Option.map_eq_some_iff.mp h with ⟨⟨digits, more⟩, hcode, hparts⟩
    simp only [Prod.mk.injEq] at hparts
    rcases hparts with ⟨rfl, rfl⟩
    rcases readCode?_parts hcode with ⟨hdigits, after, rfl, hrest⟩
    refine ⟨.numeric digits hdigits, ?_, after, rfl, hrest⟩
    intro hmem
    rcases List.mem_cons.mp hmem with hsharp | hmem
    · exact absurd hsharp (by decide)
    · exact amp_notMem_code hdigits hmem
  · rcases readEntity?_parts h with ⟨⟨c, name, rfl, hc, hname⟩, hafter⟩
    refine ⟨.named c name hc hname, ?_, hafter⟩
    intro hmem
    rcases List.mem_cons.mp hmem with rfl | hmem
    · exact absurd hc (by decide)
    · exact absurd (List.all_eq_true.mp hname '&' hmem) (by decide)

/-- A reference has a semicolon, which is read with it, or it is open. -/
theorem reference?_cases (h : reference? t = some (body, rest)) :
    (t = body ++ ';' :: rest ∧ isOpen t = false) ∨
      (t = body ++ rest ∧ rest.head? ≠ some ';' ∧ isOpen t = true) := by
  rcases reference?_parts h with ⟨-, -, after, hafter, rfl⟩
  have hopen : isOpen t = decide (t ≠ body ++ ';' :: Text.dropSemicolon after) := by
    rw [isOpen, h]
  rcases dropSemicolon_cases after with hsemicolon | ⟨hnone, hhead⟩
  · rw [← hsemicolon] at hopen ⊢
    exact Or.inl ⟨hafter, by simpa [hafter] using hopen⟩
  · rw [hnone] at hopen ⊢
    refine Or.inr ⟨hafter, hhead, ?_⟩
    rw [hopen, hafter, decide_eq_true_eq, ne_eq, List.append_cancel_left_eq]
    exact fun hsame => absurd (congrArg List.length hsame) (by simp)

theorem reference?_length (h : reference? t = some (body, rest)) : rest.length ≤ t.length := by
  rcases reference?_cases h with ⟨rfl, -⟩ | ⟨rfl, -, -⟩
  · rw [List.length_append, List.length_cons]
    omega
  · rw [List.length_append]
    omega

end Parts

/-- What is written for a text that is read in one pass and, where that stops, in `n`
    more. -/
def rewritten : Nat → List Char → List Char
  | _, [] => []
  | n, c :: t =>
    if c = '&' then
      -- The semicolon is written, whether or not one was read.
      match h : reference? t with
      | some (body, rest) => '&' :: (body ++ ';' :: rewritten n rest)
      | none =>
        if isBrokenCode t then
          if n = 0 ∨ ';' ∉ t then '&' :: t else '&' :: rewritten (n - 1) t
        else if isLoneLetter t then t
        else '&' :: rewritten n t
    else c :: rewritten n t
termination_by _ s => s.length
decreasing_by
  all_goals simp only [List.length_cons]
  · exact Nat.lt_succ_of_le (reference?_length h)
  all_goals omega

section Writing

variable {n : Nat} {s t body rest : List Char}

theorem rewritten_data {c : Char} (hc : c ≠ '&') (t : List Char) :
    rewritten n (c :: t) = c :: rewritten n t := by
  rw [rewritten, if_neg hc]

/-- A text without ampersands is written as it is, and so is what stands before the first
    one. -/
theorem rewritten_append (hs : '&' ∉ s) (t : List Char) :
    rewritten n (s ++ t) = s ++ rewritten n t := by
  induction s with
  | nil => rfl
  | cons c s ih =>
      rw [List.mem_cons, not_or] at hs
      rw [List.cons_append, rewritten_data (Ne.symm hs.1), ih hs.2, List.cons_append]

theorem rewritten_reference (h : reference? t = some (body, rest)) :
    rewritten n ('&' :: t) = '&' :: (body ++ ';' :: rewritten n rest) := by
  rw [rewritten, if_pos rfl]
  split
  · rename_i body' rest' h'
    rw [h] at h'
    simp only [Option.some.injEq, Prod.mk.injEq] at h'
    rw [h'.1, h'.2]
  · rename_i h'
    rw [h] at h'
    exact absurd h' (by simp)

theorem rewritten_none (h : reference? t = none) :
    rewritten n ('&' :: t) =
      if isBrokenCode t then
        if n = 0 ∨ ';' ∉ t then '&' :: t else '&' :: rewritten (n - 1) t
      else if isLoneLetter t then t
      else '&' :: rewritten n t := by
  rw [rewritten, if_pos rfl]
  split
  · rename_i body' rest' h'
    rw [h] at h'
    exact absurd h' (by simp)
  · rfl

theorem Mended.append_left (s : List Char) {t u : List Char} (h : Mended t u) :
    Mended (s ++ t) (s ++ u) := by
  induction s with
  | nil => exact h
  | cons c s ih => exact .keep c ih

theorem Mended.refl (s : List Char) : Mended s s := by
  simpa using Mended.append_left s .nil

theorem isLoneLetter_eq_true : isLoneLetter t = true ↔ ∃ c, t = [c] ∧ c.isAlpha = true := by
  unfold isLoneLetter
  split
  · simp
  · rename_i hlong
    simpa using fun c hc => absurd hc (hlong c)

theorem reference?_letter (h : isLoneLetter t = true) : reference? t = none := by
  rcases isLoneLetter_eq_true.mp h with ⟨c, rfl, hc⟩
  unfold reference?
  split
  · rename_i hsharp
    rw [(List.cons.inj hsharp).1] at hc
    exact absurd hc (by decide)
  · simp [readEntity?]

/-- What is written is the text, mended. -/
theorem mended_rewritten (n : Nat) (s : List Char) : Mended s (rewritten n s) := by
  fun_induction rewritten n s with
  | case1 => exact .nil
  | case2 n t body rest href ih =>
      have hbody := (reference?_parts href).1
      rcases reference?_cases href with ⟨rfl, -⟩ | ⟨rfl, hopen, -⟩
      · exact .keep '&' (.append_left body (.keep ';' ih))
      · exact .semicolon hbody hopen ih
  | case3 n t => exact .refl _
  | case4 n t hnone hbroken hgo ih => exact .keep '&' ih
  | case5 n t hnone hbroken hletter =>
      rcases isLoneLetter_eq_true.mp hletter with ⟨c, rfl, hc⟩
      exact .letter hc
  | case6 n t hnone hbroken hletter ih => exact .keep '&' ih
  | case7 n c t hc ih => exact .keep c ih

/-- What has no ampersand in it is kept. -/
theorem isKept_append (hs : '&' ∉ s) (t : List Char) : isKept n (s ++ t) = isKept n t := by
  induction s with
  | nil => rfl
  | cons c s ih =>
      rw [List.mem_cons, not_or] at hs
      rw [List.cons_append, isKept, if_neg (Ne.symm hs.1), ih hs.2]

/-- A text is written back as it was if and only if it is kept. -/
theorem rewritten_eq_iff (n : Nat) (s : List Char) : rewritten n s = s ↔ isKept n s = true := by
  fun_induction rewritten n s with
  | case1 => simp [isKept]
  | case2 n t body rest href ih =>
      have hamp := (reference?_parts href).2.1
      have hbroken : isBrokenCode t = false := by simp [isBrokenCode, href]
      have hletter : isLoneLetter t = false := by
        rw [Bool.eq_false_iff]
        intro hletter
        rw [reference?_letter hletter] at href
        exact absurd href (by simp)
      rw [isKept, if_pos rfl, hbroken, hletter]
      rcases reference?_cases href with ⟨rfl, hopen⟩ | ⟨rfl, hhead, hopen⟩
      · have hskip : isKept n (body ++ ';' :: rest) = isKept n rest := by
          rw [isKept_append hamp, isKept, if_neg (by decide)]
        simp [hopen, hskip, ih]
      -- The semicolon would have to come from the text.
      · have hmore : ';' :: rewritten n rest ≠ rest := by
          intro hsame
          rw [← hsame] at hhead
          exact hhead rfl
        simp [hopen, hmore]
  | case3 n t hnone hbroken hstop =>
      rw [isKept, if_pos rfl, if_pos hbroken]
      simpa using Or.inl hstop
  | case4 n t hnone hbroken hgo ih =>
      rw [isKept, if_pos rfl, if_pos hbroken, List.cons_inj_right, ih]
      rw [not_or, not_not] at hgo
      simp [hgo]
  | case5 n t hnone hbroken hletter =>
      rw [isKept, if_pos rfl, if_neg hbroken, hletter]
      simp
  | case6 n t hnone hbroken hletter ih =>
      have hopen : isOpen t = false := by simp [isOpen, hnone]
      rw [isKept, if_pos rfl, if_neg hbroken, List.cons_inj_right, ih]
      simp [hopen, hletter]
  | case7 n c t hc ih => rw [isKept, if_neg hc, List.cons_inj_right, ih]

end Writing

/-- The events put texts into the tree that is built. -/
def AddsTexts (es : List Event) (texts : List String) : Prop :=
  ∀ b, es.foldl Builder.step b = b.addAll (texts.map .text)

/-- What is written for the text where a pass stops that `n` more follow. -/
def afterwards (n : Nat) (rest : List Char) : List Char :=
  if n = 0 then rest else rewritten (n - 1) rest

/-- A pass that `n` more follow reads texts, and leaves the rest to the others. -/
def Passes (n fuel : Nat) (s : List Char) : Prop :=
  ∃ es rest texts, pass (n = 0) fuel ⟨none, s⟩ = .ok (es, ⟨none, rest⟩) ∧ '<' ∉ rest ∧
    AddsTexts es texts ∧ rewritten n s = texts.flatMap String.toList ++ afterwards n rest

section Passing

variable {n fuel : Nat} {s t body rest : List Char} {es : List Event} {e : Event}
  {texts : List String} {text : String} {closing : Bool}

theorem AddsTexts.append {es' : List Event} {texts' : List String} (h : AddsTexts es texts)
    (h' : AddsTexts es' texts') : AddsTexts (es ++ es') (texts ++ texts') := by
  intro b
  rw [List.foldl_append, h, h', Builder.addAll, Builder.addAll, Builder.addAll, List.map_append,
    List.foldl_append]

theorem addsTexts_nil : AddsTexts [] [] :=
  fun _ => rfl

theorem addsTexts_data (text : String) : AddsTexts [.data text] [text] :=
  fun _ => rfl

/-- A construct is read, and then the rest. -/
theorem Passes.go (hstep : step (n = 0) ⟨none, s⟩ = .ok (.go [e] ⟨none, t⟩))
    (he : AddsTexts [e] [text]) (hs : rewritten n s = text.toList ++ rewritten n t)
    (h : Passes n fuel t) : Passes n (fuel + 1) s := by
  rcases h with ⟨es, rest, texts, hpass, hrest, htexts, ht⟩
  refine ⟨[e] ++ es, rest, [text] ++ texts, ?_, hrest, he.append htexts, ?_⟩
  · rw [pass, hstep]
    change (pass _ fuel ⟨none, t⟩ >>= _) = _
    rw [hpass]
    rfl
  · rw [hs, ht, List.flatMap_append, List.append_assoc, List.flatMap_singleton]

/-- Reading stops. -/
theorem Passes.stop (hstep : step (n = 0) ⟨none, s⟩ = .ok (.stop es rest)) (hrest : '<' ∉ rest)
    (htexts : AddsTexts es texts)
    (hs : rewritten n s = texts.flatMap String.toList ++ afterwards n rest) :
    Passes n (fuel + 1) s := by
  refine ⟨es, rest, texts, ?_, hrest, htexts, hs⟩
  rw [pass, hstep]
  rfl

/-- Without a sharp and without a reference, a letter may start one that does not end. -/
theorem readAmpersand_unread (closing : Bool) {c : Char} {more : List Char} (hc : c ≠ '#')
    (h : readEntity? (c :: more) = none) :
    readAmpersand closing (c :: more) =
      if c.isAlpha then .stop [] (if closing && more = [] then c :: more else '&' :: c :: more)
      else .go [.data "&"] ⟨none, c :: more⟩ := by
  unfold readAmpersand
  split
  · rename_i hsharp
    exact absurd (List.cons.inj hsharp).1 hc
  · simp only [h]

/-- With a sharp and without a reference, reading stops. It stops behind the sharp if a
    semicolon comes later. -/
theorem readAmpersand_broken (closing : Bool) (h : isBrokenCode t = true) :
    ∃ more, t = '#' :: more ∧ readAmpersand closing t =
      if ';' ∈ more then .stop [.data "&#"] more else .stop [] ('&' :: t) := by
  cases t with
  | nil => exact absurd h (by decide)
  | cons c more =>
      simp only [isBrokenCode, List.head?_cons, Bool.and_eq_true, decide_eq_true_eq,
        Option.some.injEq] at h
      rcases h with ⟨rfl, hnone⟩
      have hcode : readCode? more = none := by simpa [reference?] using hnone
      exact ⟨more, rfl, by simp only [readAmpersand, hcode]⟩

/-- A reference is read as such. -/
theorem readAmpersand_reference (h : reference? t = some (body, rest)) :
    ∃ e, readAmpersand closing t = .go [e] ⟨none, rest⟩ ∧
      AddsTexts [e] [String.ofList ('&' :: (body ++ [';']))] := by
  unfold reference? at h
  split at h
  · rename_i code
    rcases Option.map_eq_some_iff.mp h with ⟨⟨digits, more⟩, hcode, hparts⟩
    simp only [Prod.mk.injEq] at hparts
    rcases hparts with ⟨rfl, rfl⟩
    refine ⟨.code (String.ofList digits), by simp only [readAmpersand, hcode], fun b => ?_⟩
    rw [List.foldl_cons, Builder.step, code_text]
    rfl
  · rename_i hsharp
    refine ⟨.entity (String.ofList body), ?_, fun b => ?_⟩
    · unfold readAmpersand
      split
      · exact absurd rfl (hsharp _)
      · simp only [h]
    · rw [List.foldl_cons, Builder.step, reference_text]
      rfl

/-- Without a name that ends, the whole of a text is the beginning of one. -/
theorem entityChars_of_none {c : Char} {more : List Char} (hc : c.isAlpha = true)
    (h : readEntity? (c :: more) = none) : more.all isEntityChar = true := by
  have hmore : more.takeWhile isEntityChar ++ more.dropWhile isEntityChar = more :=
    List.takeWhile_append_dropWhile
  simp only [readEntity?, drop_length_takeWhile, hc, if_true] at h
  cases hafter : more.dropWhile isEntityChar with
  | nil =>
      rw [← hmore, hafter, List.append_nil]
      exact List.all_takeWhile
  | cons d after =>
      rw [hafter] at h
      exact absurd h (by simp)

/-- The rest of a text that every pass keeps. -/
theorem afterwards_of_kept (h : ∀ m, rewritten m s = s) : afterwards n s = s := by
  rw [afterwards]
  split
  · rfl
  · exact h (n - 1)

/-- Reading goes on behind a reference. -/
theorem passes_reference (hs : '<' ∉ t) (href : reference? t = some (body, rest))
    (ih : ∀ rest : List Char, '<' ∉ rest → rest.length ≤ t.length → Passes n fuel rest) :
    Passes n (fuel + 1) ('&' :: t) := by
  rcases readAmpersand_reference href with ⟨e, hread, he⟩
  refine .go (congrArg Except.ok hread) he ?_ (ih rest ?_ (reference?_length href))
  · rw [rewritten_reference href, String.toList_ofList]
    simp
  · rcases reference?_cases href with ⟨rfl, -⟩ | ⟨rfl, -, -⟩
    all_goals
      intro hmem
      exact hs (by simp [hmem])

/-- Reading stops at a sharp without a reference. -/
theorem passes_broken (hs : '<' ∉ t) (hbroken : isBrokenCode t = true) :
    Passes n (fuel + 1) ('&' :: t) := by
  have hnone : reference? t = none := by
    rw [isBrokenCode, Bool.and_eq_true, Option.isNone_iff_eq_none] at hbroken
    exact hbroken.2
  rcases readAmpersand_broken (n = 0) hbroken with ⟨more, rfl, hread⟩
  have hmore : '<' ∉ more := fun hmem => hs (List.mem_cons_of_mem _ hmem)
  -- A later semicolon lets the reader take the sharp as text. Without one it waits for more, and
  -- the rest is kept as it is.
  by_cases hlater : ';' ∈ more
  · rw [if_pos hlater] at hread
    refine .stop (congrArg Except.ok hread) hmore (addsTexts_data _) ?_
    rw [rewritten_none hnone, if_pos hbroken, afterwards]
    by_cases hlast : n = 0
    · simp [hlast]
    · simp [hlast, hlater, rewritten_data]
  · rw [if_neg hlater] at hread
    refine .stop (congrArg Except.ok hread) (by simpa using hmore) addsTexts_nil ?_
    have hkept : ∀ m, rewritten m ('&' :: '#' :: more) = '&' :: '#' :: more := by
      intro m
      rw [rewritten_none hnone, if_pos hbroken, if_pos (Or.inr (by simpa using hlater))]
    rw [hkept, afterwards_of_kept hkept]
    rfl

/-- Reading stops at a name that does not end. Of a single letter, the last pass leaves
    nothing but the letter. -/
theorem passes_name {c : Char} {more : List Char} (hs : '<' ∉ c :: more) (hc : c.isAlpha = true)
    (hnone : reference? (c :: more) = none) : Passes n (fuel + 1) ('&' :: c :: more) := by
  have hsharp : c ≠ '#' := by
    rintro rfl
    exact absurd hc (by decide)
  have hbroken : isBrokenCode (c :: more) = false := by simp [isBrokenCode, hsharp]
  have hentity : readEntity? (c :: more) = none := by
    rwa [reference?] at hnone
    exact fun _ h => hsharp (List.cons.inj h).1
  have hread := readAmpersand_unread (n = 0) hsharp hentity
  rw [if_pos hc] at hread
  -- A letter alone is the one name that is not kept whole: what the last pass leaves of it
  -- depends on whether there is another pass.
  by_cases hmore : more = []
  · subst hmore
    have hletter : ∀ m, rewritten m ['&', c] = [c] := by
      intro m
      rw [rewritten_none hnone, if_neg (by simp [hbroken]),
        if_pos (show isLoneLetter [c] = true from hc)]
    by_cases hlast : n = 0
    · rw [if_pos (by simp [hlast])] at hread
      refine .stop (congrArg Except.ok hread) hs addsTexts_nil ?_
      rw [hletter, afterwards, if_pos hlast]
      rfl
    · rw [if_neg (by simp [hlast])] at hread
      refine .stop (congrArg Except.ok hread) (by simpa using hs) addsTexts_nil ?_
      rw [hletter, afterwards, if_neg hlast, hletter]
      rfl
  · rw [if_neg (by simp [hmore])] at hread
    refine .stop (congrArg Except.ok hread) (by simpa using hs) addsTexts_nil ?_
    -- Nothing in a name that does not end is special, so the text is kept as it is.
    have hamp : '&' ∉ c :: more := by
      intro hmem
      rcases List.mem_cons.mp hmem with rfl | hmem
      · exact absurd hc (by decide)
      · have hmem' := List.all_eq_true.mp (entityChars_of_none hc hentity) '&' hmem
        exact absurd hmem' (by decide)
    have hkept : ∀ m, rewritten m ('&' :: c :: more) = '&' :: c :: more := by
      intro m
      have hself : rewritten m (c :: more) = c :: more := by
        simpa [rewritten] using rewritten_append hamp []
      have hlong : isLoneLetter (c :: more) = false := by
        cases more with
        | nil => exact absurd rfl hmore
        | cons d more => rfl
      rw [rewritten_none hnone, if_neg (by simp [hbroken]), if_neg (by simp [hlong]), hself]
    rw [hkept, afterwards_of_kept hkept]
    rfl

/-- What is written for an ampersand, and for what follows it, is what is read there. -/
theorem passes_ampersand (hs : '<' ∉ t)
    (ih : ∀ rest : List Char, '<' ∉ rest → rest.length ≤ t.length → Passes n fuel rest) :
    Passes n (fuel + 1) ('&' :: t) := by
  cases href : reference? t with
  | some parts => exact passes_reference hs href ih
  | none =>
      by_cases hbroken : isBrokenCode t = true
      · exact passes_broken hs hbroken
      · cases t with
        | nil =>
            have hkept : ∀ m, rewritten m ['&'] = ['&'] := by
              intro m
              rw [rewritten_none href, if_neg hbroken]
              simp [isLoneLetter, rewritten]
            refine .stop rfl (by simp) addsTexts_nil ?_
            rw [hkept, afterwards_of_kept hkept]
            rfl
        | cons c more =>
            by_cases hc : c.isAlpha = true
            · exact passes_name hs hc href
            -- The ampersand starts nothing.
            · have hsharp : c ≠ '#' := by
                rintro rfl
                exact hbroken (by simp [isBrokenCode, href])
              have hentity : readEntity? (c :: more) = none := by
                rwa [reference?] at href
                exact fun _ h => hsharp (List.cons.inj h).1
              have hread := readAmpersand_unread (n = 0) hsharp hentity
              rw [if_neg hc] at hread
              refine .go (congrArg Except.ok hread) (addsTexts_data _) ?_ (ih _ hs le_rfl)
              have hletter : isLoneLetter (c :: more) = false := by
                rw [Bool.eq_false_iff]
                intro hletter
                rcases isLoneLetter_eq_true.mp hletter with ⟨d, hd, halpha⟩
                exact hc ((List.cons.inj hd).1 ▸ halpha)
              rw [rewritten_none href, if_neg hbroken, if_neg (by simp [hletter])]
              rfl

/-- Character data without an ampersand is read up to the next one. -/
theorem passes_data {c : Char} (hs : '<' ∉ c :: t) (hc : c ≠ '&')
    (ih : ∀ rest : List Char, '<' ∉ rest → rest.length ≤ t.length → Passes n fuel rest) :
    Passes n (fuel + 1) (c :: t) := by
  have hdata : isDataChar c = true := by
    simp only [isDataChar, Bool.and_eq_true, decide_eq_true_eq]
    exact ⟨fun h => hs (h ▸ List.mem_cons_self), hc⟩
  have hparts : t.takeWhile isDataChar ++ t.dropWhile isDataChar = t :=
    List.takeWhile_append_dropWhile
  have hall : ∀ d ∈ c :: t.takeWhile isDataChar, isDataChar d = true := by
    intro d hd
    rcases List.mem_cons.mp hd with rfl | hd
    · exact hdata
    · exact List.mem_takeWhile_imp hd
  -- What stops the data is an ampersand or the end, since there are no brackets.
  have hstop : StopsData (t.dropWhile isDataChar) := by
    intro d hd
    have hhead := List.head?_dropWhile_not isDataChar t
    rw [Option.mem_def] at hd
    rwa [hd] at hhead
  have hstep := step_data (n = 0) (List.cons_ne_nil c _) hall hstop
  rw [List.cons_append, hparts] at hstep
  refine .go hstep (addsTexts_data _) ?_ (ih _ ?_ (List.dropWhile_suffix _).length_le)
  · have hamp : '&' ∉ c :: t.takeWhile isDataChar := by
      intro hmem
      exact absurd (hall '&' hmem) (by decide)
    rw [String.toList_ofList, ← rewritten_append hamp, List.cons_append, hparts]
  · intro hmem
    exact hs (List.mem_cons_of_mem c ((List.dropWhile_suffix _).subset hmem))

/-- What a pass reads, and what it leaves to the others, is what is written. -/
theorem pass_rewritten (n : Nat) {fuel : Nat} {s : List Char} (hs : '<' ∉ s)
    (hfuel : s.length ≤ fuel) : Passes n fuel s := by
  -- Each step shortens the text, so that fuel for all of it never runs out.
  induction fuel generalizing s with
  | zero =>
      obtain rfl : s = [] := List.length_eq_zero_iff.mp (by omega)
      exact ⟨[], [], [], rfl, hs, addsTexts_nil, by simp [afterwards, rewritten]⟩
  | succ fuel ih =>
      cases s with
      | nil => exact .stop rfl hs addsTexts_nil (by simp [afterwards, rewritten])
      | cons c t =>
          rw [List.length_cons] at hfuel
          have hrest : ∀ rest : List Char, '<' ∉ rest → rest.length ≤ t.length →
              Passes n fuel rest := fun rest hno hlength => ih hno (by omega)
          by_cases hc : c = '&'
          · subst hc
            exact passes_ampersand (fun hmem => hs (List.mem_cons_of_mem _ hmem)) hrest
          · exact passes_data hs hc hrest

/-- The events of a text without markup put texts into the tree. -/
theorem events_characterData (hs : '<' ∉ s) :
    ∃ es texts, events s = .ok es ∧ AddsTexts es texts ∧
      texts.flatMap String.toList = rewritten 1 s := by
  rcases pass_rewritten 1 hs le_rfl with ⟨first, middle, texts, hfirst, hmiddle, htexts, hs⟩
  rcases pass_rewritten 0 hmiddle le_rfl with ⟨second, rest, more, hsecond, -, hmore, hrest⟩
  have hparts : events s
      = .ok (first ++ second ++ if rest ≠ [] then [dataEvent rest] else []) := by
    have hpass₁ : pass false s.length ⟨none, s⟩ = .ok (first, ⟨none, middle⟩) := hfirst
    have hpass₂ : pass true middle.length ⟨none, middle⟩ = .ok (second, ⟨none, rest⟩) := hsecond
    rw [events, hpass₁]
    simp only [bind, Except.bind, hpass₂]
    simp [pure, Except.pure]
  -- What the second pass leaves is one more piece of data.
  have hall : rewritten 1 s
      = texts.flatMap String.toList ++ (more.flatMap String.toList ++ rest) := by
    rw [hs, afterwards, if_neg (by decide), hrest, afterwards, if_pos rfl]
  by_cases hleft : rest = []
  · rw [if_neg (by simp [hleft]), List.append_nil] at hparts
    refine ⟨_, _, hparts, htexts.append hmore, ?_⟩
    rw [hall, hleft, List.append_nil, List.flatMap_append]
  · rw [if_pos hleft] at hparts
    refine ⟨_, _, hparts, (htexts.append hmore).append (addsTexts_data (String.ofList rest)), ?_⟩
    rw [hall, List.flatMap_append, List.flatMap_append, List.flatMap_singleton,
      String.toList_ofList, List.append_assoc]

end Passing

theorem serializeAll_texts (texts : List String) :
    (Node.serializeAll (texts.map .text)).toList = texts.flatMap String.toList := by
  induction texts with
  | nil => rfl
  | cons text texts ih =>
      rw [List.map_cons, Node.serializeAll, Node.serialize, String.toList_append, ih,
        List.flatMap_cons]

/-- A text without markup is read as a list of texts. What is written for them is the text,
    but for semicolons behind references and an ampersand before a last letter. So the text
    is written back as it was if and only if all references that are read in it have their
    semicolons, and no ampersand before a single last letter is read. -/
theorem parse_characterData (markup : String) (h : '<' ∉ markup.toList) :
    ∃ texts : List String,
      parse markup = .ok (.root (texts.map .text)) ∧
      (Node.root (texts.map .text)).serialize.toList = rewritten 1 markup.toList ∧
      Mended markup.toList (Node.root (texts.map .text)).serialize.toList ∧
      ((Node.root (texts.map .text)).serialize = markup ↔ isKept 1 markup.toList = true) := by
  rcases events_characterData h with ⟨es, texts, hevents, hadds, htexts⟩
  have hserialize : (Node.root (texts.map .text)).serialize.toList
      = rewritten 1 markup.toList := by
    rw [Node.root, Node.serialize, if_pos rfl, serializeAll_texts, htexts]
  refine ⟨texts, ?_, hserialize, ?_, ?_⟩
  · have hbuilt : ofEvents es = .root (texts.map .text) := by
      rw [ofEvents, hadds, finish_addAll]
    rw [parse, hevents, ← hbuilt]
    rfl
  · rw [hserialize]
    exact mended_rewritten 1 markup.toList
  · rw [← rewritten_eq_iff, ← hserialize, String.toList_inj]

/-- An ampersand that starts nothing is kept, and so is a reference with its semicolon. One
    without it gets one, and the last ampersand is lost. -/
theorem parse_characterData_seasoning :
    ∃ texts : List String, '<' ∉ "Salt & pepper &amp chili &lt; &b".toList ∧
      parse "Salt & pepper &amp chili &lt; &b" = .ok (.root (texts.map .text)) ∧
      (Node.root (texts.map .text)).serialize = "Salt & pepper &amp; chili &lt; b" ∧
      (Node.root (texts.map .text)).serialize ≠ "Salt & pepper &amp chili &lt; &b" := by
  have hplain : '<' ∉ "Salt & pepper &amp chili &lt; &b".toList := by decide
  rcases parse_characterData "Salt & pepper &amp chili &lt; &b" hplain with
    ⟨texts, hparse, -, -, hkept⟩
  refine ⟨texts, hplain, hparse, ?_, ?_⟩
  · have hserialized : (parse "Salt & pepper &amp chili &lt; &b").toOption.map Node.serialize
        = some "Salt & pepper &amp; chili &lt; b" := by decide +kernel
    rw [hparse] at hserialized
    exact Option.some.inj hserialized
  · rw [ne_eq, hkept]
    decide

end Letterpress.Markup
