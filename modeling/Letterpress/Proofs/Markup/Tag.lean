import Letterpress.Proofs.Markup.Writing
import Mathlib.Data.List.TakeWhile

/-!
# Reading Written Tags

A start tag with plain names and closed quotes is read as what it was written from.

Reading goes attribute by attribute. Between two attributes there is one blank, which is
what lets the second one begin; after the last one the tag ends at once.

## Theorems

* `ascii_forall`: What is computed for all ASCII characters.
* `lower_ordinary`: Lower-case names are their own lower case.
* `readAttributes_written`: Written attributes are read back.
* `readStartTag_written`: A written start tag is read back, with its values decoded.
-/

namespace Letterpress.Markup

/-- What is computed for all ASCII characters holds of each. -/
theorem ascii_forall {P : Char → Prop} (h : ∀ n < 128, P (Char.ofNat n)) {c : Char}
    (hc : c.toNat < 128) : P c := by
  have hchar := h c.toNat hc
  rwa [Char.ofNat_toNat] at hchar

theorem isLower_lt {c : Char} (h : c.isLower = true) : c.toNat < 128 := by
  change (decide (c.val ≥ 'a'.val) && decide (c.val ≤ 'z'.val)) = true at h
  simp only [Bool.and_eq_true, decide_eq_true_eq, UInt32.le_iff_toNat_le, ge_iff_le] at h
  have hz : 'z'.val.toNat = 122 := rfl
  have hval : c.toNat = c.val.toNat := rfl
  omega

theorem isAlpha_of_isLower {c : Char} (h : c.isLower = true) : c.isAlpha = true := by
  change (c.isUpper || c.isLower) = true
  rw [h, Bool.or_true]

theorem isDigit_lt {c : Char} (h : c.isDigit = true) : c.toNat < 128 := by
  simp only [Char.isDigit, Bool.and_eq_true, decide_eq_true_eq, UInt32.le_iff_toNat_le,
    ge_iff_le] at h
  have hnine : '9'.val.toNat = 57 := rfl
  have hval : c.toNat = c.val.toNat := rfl
  omega

theorem isNameLetter_lt {c : Char} (h : isNameLetter c = true) : c.toNat < 128 := by
  simp only [isNameLetter, isTagLetter, Bool.or_eq_true, decide_eq_true_eq] at h
  rcases h with (((hlower | hdigit) | rfl) | rfl) | rfl
  · exact isLower_lt hlower
  · exact isDigit_lt hdigit
  all_goals decide

/-- How the reader takes a letter of a name: it belongs to tags and attributes, ends
    nothing, and is its own lower case. -/
structure IsOrdinary (c : Char) : Prop where
  tagChar : isTagChar c = true
  endTagChar : isEndTagChar c = true
  attributeStart : isAttributeStart c = true
  attributeChar : isAttributeChar c = true
  notBlank : Text.isBlank c = false
  notSlash : c ≠ '/'
  notEquals : c ≠ '='
  notBracket : c ≠ '>'
  notSigma : c ≠ 'Σ'
  lowerChar : Text.lowerChar c = [c]
  matchesItself : Text.matchesLetter c c = true

instance (c : Char) : Decidable (IsOrdinary c) :=
  decidable_of_iff
    (isTagChar c = true ∧ isEndTagChar c = true ∧ isAttributeStart c = true ∧
      isAttributeChar c = true ∧ Text.isBlank c = false ∧ c ≠ '/' ∧ c ≠ '=' ∧ c ≠ '>' ∧
      c ≠ 'Σ' ∧ Text.lowerChar c = [c] ∧ Text.matchesLetter c c = true)
    ⟨fun ⟨h₁, h₂, h₃, h₄, h₅, h₆, h₇, h₈, h₉, h₁₀, h₁₁⟩ =>
        ⟨h₁, h₂, h₃, h₄, h₅, h₆, h₇, h₈, h₉, h₁₀, h₁₁⟩,
      fun h => ⟨h.tagChar, h.endTagChar, h.attributeStart, h.attributeChar, h.notBlank,
        h.notSlash, h.notEquals, h.notBracket, h.notSigma, h.lowerChar, h.matchesItself⟩⟩

theorem isOrdinary_of_isNameLetter {c : Char} (h : isNameLetter c = true) : IsOrdinary c :=
  ascii_forall (P := fun c => isNameLetter c = true → IsOrdinary c) (by decide)
    (isNameLetter_lt h) h

/-- A text of ordinary characters is its own lower case. -/
theorem lower_ordinary {s : List Char} (h : ∀ c ∈ s, IsOrdinary c) :
    Text.lower s = s := by
  have hafter : ∀ (s before : List Char), (∀ c ∈ s, IsOrdinary c) →
      Text.lowerAfter before s = s := by
    intro s
    induction s with
    | nil => intro _ _; rfl
    | cons c s ih =>
        intro before h
        have hc := h c List.mem_cons_self
        rw [Text.lowerAfter, if_neg hc.notSigma, hc.lowerChar,
          ih (c :: before) fun d hd => h d (List.mem_cons_of_mem c hd)]
        rfl
  exact hafter s [] h

/-- A lower-case name as a list of ordinary characters. -/
theorem isName_parts {name : String} (h : isName name = true) :
    ∃ c rest, name.toList = c :: rest ∧ ∀ d ∈ c :: rest, IsOrdinary d := by
  rw [isName] at h
  cases hname : name.toList with
  | nil => simp [hname] at h
  | cons c rest =>
      simp only [hname, Bool.and_eq_true, List.all_eq_true] at h
      refine ⟨c, rest, rfl, fun d hd => isOrdinary_of_isNameLetter ?_⟩
      rcases List.mem_cons.mp hd with heq | hmem
      · rw [heq, isNameLetter, isTagLetter, h.1]
        rfl
      · exact h.2 d hmem

/-- A tag is a lower-case name. -/
theorem isName_of_isTag {tag : String} (h : isTag tag = true) : isName tag = true := by
  rw [isTag] at h
  rw [isName]
  cases htag : tag.toList with
  | nil => simp [htag] at h
  | cons c rest =>
      simp only [htag, Bool.and_eq_true, List.all_eq_true] at h ⊢
      refine ⟨h.1, fun d hd => ?_⟩
      rw [isNameLetter, h.2 d hd]
      rfl

/-- The text from the attributes of a tag on. -/
def fromAttributes (attributes : List Attribute) (rest : List Char) : List Char :=
  attributes.flatMap writtenAttribute ++ '>' :: rest

theorem fromAttributes_cons (a : Attribute) (as : List Attribute) (rest : List Char) :
    fromAttributes (a :: as) rest = writtenAttribute a ++ fromAttributes as rest := by
  simp [fromAttributes]

/-- What follows a name in a tag goes on no name and gives no value. -/
theorem fromAttributes_start {as : List Attribute} (hnames : ∀ a ∈ as, isName a.1 = true)
    (rest : List Char) :
    (∃ t, fromAttributes as rest = '>' :: t) ∨
      ∃ c t, fromAttributes as rest = ' ' :: c :: t ∧ IsOrdinary c := by
  cases as with
  | nil => exact Or.inl ⟨rest, rfl⟩
  | cons a as =>
      rcases isName_parts (hnames a List.mem_cons_self) with ⟨c, more, hname, hordinary⟩
      have hc := hordinary c List.mem_cons_self
      refine Or.inr ?_
      rw [fromAttributes_cons]
      rcases a with ⟨name, value⟩
      cases value with
      | none => exact ⟨c, more ++ fromAttributes as rest, by rw [writtenAttribute, hname]; rfl, hc⟩
      | some value =>
          refine ⟨c, more ++ '=' :: '"' :: (value.toList ++ '"' :: fromAttributes as rest), ?_, hc⟩
          rw [writtenAttribute, hname]
          simp

theorem skipSeparators_end (before : Char) (rest : List Char) :
    skipSeparators before ('>' :: rest) = (before, '>' :: rest) := by
  rfl

/-- One blank is skipped before a name. -/
theorem skipSeparators_blank {c : Char} (hc : IsOrdinary c) (before : Char)
    (rest : List Char) : skipSeparators before (' ' :: c :: rest) = (' ', c :: rest) := by
  have hblank : Text.isBlank ' ' = true := rfl
  rw [skipSeparators, if_pos hblank, skipSeparators, if_neg (by simp [hc.notBlank]),
    if_neg (by simp [hc.notSlash])]

/-- The characters of a text up to the first that fails a test. -/
theorem takeWhile_stop {p : Char → Bool} {s t : List Char} {c : Char} (hs : ∀ d ∈ s, p d = true)
    (hc : p c = false) : (s ++ c :: t).takeWhile p = s ∧ (s ++ c :: t).dropWhile p = c :: t := by
  rw [List.takeWhile_append_of_pos hs, List.dropWhile_append_of_pos hs,
    List.takeWhile_cons_of_neg (by simp [hc]), List.dropWhile_cons_of_neg (by simp [hc]),
    List.append_nil]
  exact ⟨rfl, rfl⟩

/-- A word is found at the start of a text that begins with it. -/
theorem afterWord?_append {word : List Char}
    (h : (word.all fun c => Text.matchesLetter c c) = true) (rest : List Char) :
    Text.afterWord? word (word ++ rest) = some rest := by
  induction word with
  | nil => rfl
  | cons w word ih =>
      rw [List.all_cons, Bool.and_eq_true] at h
      rw [List.cons_append, Text.afterWord?, if_pos h.1]
      exact ih h.2

/-- A value in double quotes is read as it is. -/
theorem readValue?_quoted {value : List Char} (hvalue : '"' ∉ value) (t : List Char) :
    readValue? ('=' :: '"' :: (value ++ '"' :: t)) = some ⟨value, '"', t⟩ := by
  have hstop := takeWhile_stop (p := fun c => decide (c ≠ '"')) (s := value) (c := '"') (t := t)
    (fun d hd => decide_eq_true fun hq => hvalue (hq ▸ hd)) (by decide)
  -- The value is not trimmed: a blank may only be around the equals sign.
  have hsigns : Text.trimStart ('=' :: '"' :: (value ++ '"' :: t))
      = '=' :: '"' :: (value ++ '"' :: t) := rfl
  have hafter : ('=' :: '"' :: (value ++ '"' :: t)).dropWhile (fun c => decide (c = '='))
      = '"' :: (value ++ '"' :: t) := rfl
  have htrim : Text.trimStart ('"' :: (value ++ '"' :: t)) = '"' :: (value ++ '"' :: t) := rfl
  simp only [readValue?, hsigns, hafter, htrim, List.head?_cons, ne_eq, not_true_eq_false,
    if_false, decide_true, Bool.or_true, if_true, hstop.1, hstop.2]

theorem readAttribute?_valued {name value : String} (hname : isName name = true)
    (hvalue : '"' ∉ value.toList) (t : List Char) :
    readAttribute? ' ' (name.toList ++ '=' :: '"' :: (value.toList ++ '"' :: t))
      = some ((name, some value), skipSeparators '"' t) := by
  rcases isName_parts hname with ⟨c, more, hlist, hordinary⟩
  have hlower : Text.lower (c :: more) = c :: more := lower_ordinary hordinary
  have hkey : String.ofList (c :: more) = name := by rw [← hlist, String.ofList_toList]
  have hopens : opensAttribute ' ' = true := rfl
  have hstop := takeWhile_stop (p := isAttributeChar) (s := more) (c := '=')
    (t := '"' :: (value.toList ++ '"' :: t))
    (fun d hd => (hordinary d (List.mem_cons_of_mem c hd)).attributeChar) (by decide)
  have hstart : isAttributeStart c = true := (hordinary c List.mem_cons_self).attributeStart
  rw [hlist, List.cons_append, readAttribute?]
  simp only [hopens, hstart, Bool.and_self, if_true, hstop.1, hstop.2,
    readValue?_quoted hvalue, hlower, hkey, String.ofList_toList]

theorem readAttribute?_bare {name : String} (hname : isName name = true) {as : List Attribute}
    (hnames : ∀ a ∈ as, isName a.1 = true) (rest : List Char) :
    ∃ last, readAttribute? ' ' (name.toList ++ fromAttributes as rest)
      = some ((name, none), skipSeparators last (fromAttributes as rest)) := by
  rcases isName_parts hname with ⟨c, more, hlist, hordinary⟩
  have hlower : Text.lower (c :: more) = c :: more := lower_ordinary hordinary
  have hkey : String.ofList (c :: more) = name := by rw [← hlist, String.ofList_toList]
  have hopens : opensAttribute ' ' = true := rfl
  have hmore : ∀ d ∈ more, isAttributeChar d = true :=
    fun d hd => (hordinary d (List.mem_cons_of_mem c hd)).attributeChar
  have hstart : isAttributeStart c = true := (hordinary c List.mem_cons_self).attributeStart
  -- Neither the end of the tag nor the blank before the next name is part of the name.
  have hcut : (more ++ fromAttributes as rest).takeWhile isAttributeChar = more ∧
      (more ++ fromAttributes as rest).dropWhile isAttributeChar = fromAttributes as rest ∧
      readValue? (fromAttributes as rest) = none := by
    rcases fromAttributes_start hnames rest with ⟨t, ht⟩ | ⟨d, t, ht, hd⟩
    · rw [ht]
      have hstop := takeWhile_stop (t := t) (c := '>') hmore (by decide)
      exact ⟨hstop.1, hstop.2, rfl⟩
    · rw [ht]
      have hstop := takeWhile_stop (t := d :: t) (c := ' ') hmore (by decide)
      have htrim : Text.trimStart (' ' :: d :: t) = d :: t := by
        rw [Text.trimStart, List.dropWhile_cons_of_pos (by decide),
          List.dropWhile_cons_of_neg (by simp [hd.notBlank])]
      refine ⟨hstop.1, hstop.2, ?_⟩
      simp [readValue?, htrim, hd.notEquals]
  refine ⟨(c :: more).getLast?.getD c, ?_⟩
  rw [hlist, List.cons_append, readAttribute?]
  simp only [hopens, hstart, Bool.and_self, if_true, hcut.1, hcut.2.1, hcut.2.2, hlower, hkey]

/-- Written attributes are read back, from wherever the separators before them end. -/
theorem readAttributes_written {as : List Attribute} (hnames : ∀ a ∈ as, isName a.1 = true)
    (hquotes : AttributesInQuotes as) (rest : List Char) (fuel : Nat) (hfuel : as.length ≤ fuel)
    (before : Char) :
    readAttributes fuel (skipSeparators before (fromAttributes as rest)).1
      (skipSeparators before (fromAttributes as rest)).2 = (as, '>' :: rest) := by
  -- The character before the separators goes on changing, so the claim is for any.
  induction as generalizing fuel before with
  | nil =>
      have hend : isAttributeStart '>' = false := rfl
      rw [fromAttributes, List.flatMap_nil, List.nil_append, skipSeparators_end]
      cases fuel with
      | zero => rfl
      | succ fuel => simp [readAttributes, readAttribute?, hend]
  | cons a as ih =>
      have hname := hnames a List.mem_cons_self
      have hothers : ∀ b ∈ as, isName b.1 = true :=
        fun b hb => hnames b (List.mem_cons_of_mem a hb)
      have hinside : AttributesInQuotes as := fun b hb => hquotes b (List.mem_cons_of_mem a hb)
      -- A blank, the first attribute, and the separators after it.
      have hskip : ∃ t, fromAttributes (a :: as) rest = ' ' :: t ∧
          skipSeparators before (' ' :: t) = (' ', t) ∧
          ∃ last, readAttribute? ' ' t
            = some (a, skipSeparators last (fromAttributes as rest)) := by
        rcases isName_parts hname with ⟨c, more, hlist, hordinary⟩
        have hc := hordinary c List.mem_cons_self
        rcases a with ⟨name, value⟩
        cases value with
        | none =>
            refine ⟨name.toList ++ fromAttributes as rest, by
              rw [fromAttributes_cons, writtenAttribute]; rfl, ?_, ?_⟩
            · rw [hlist, List.cons_append]
              exact skipSeparators_blank hc before _
            · exact readAttribute?_bare hname hothers rest
        | some value =>
            have hvalue : '"' ∉ value.toList := hquotes _ List.mem_cons_self value rfl
            refine ⟨name.toList ++ '=' :: '"' :: (value.toList ++ '"' :: fromAttributes as rest),
              by rw [fromAttributes_cons, writtenAttribute]; simp, ?_, ?_⟩
            · rw [hlist, List.cons_append]
              exact skipSeparators_blank hc before _
            · exact ⟨'"', readAttribute?_valued hname hvalue _⟩
      rcases hskip with ⟨t, htext, hblank, last, hread⟩
      rw [htext, hblank]
      cases fuel with
      | zero => exact absurd hfuel (by simp)
      | succ fuel =>
          rw [List.length_cons] at hfuel
          simp only [readAttributes, hread,
            ih hothers hinside fuel (by omega) last]

/-- A written start tag is read back, with its values decoded. -/
theorem readStartTag_written {tag : String} (htag : isTag tag = true) {as : List Attribute}
    (hnames : ∀ a ∈ as, isName a.1 = true) (hquotes : AttributesInQuotes as)
    (rest : List Char) :
    readStartTag (tag.toList ++ fromAttributes as rest)
      = (fun decodedAttributes => StartTag.tag tag decodedAttributes false rest)
          <$> as.mapM decoded := by
  rcases isName_parts (isName_of_isTag htag) with ⟨c, more, hlist, hordinary⟩
  have hlower : Text.lower tag.toList = tag.toList := by
    rw [hlist]
    exact lower_ordinary hordinary
  have hchars : ∀ d ∈ tag.toList, isTagChar d = true := by
    intro d hd
    rw [hlist] at hd
    exact (hordinary d hd).tagChar
  have hname : (tag.toList ++ fromAttributes as rest).takeWhile isTagChar = tag.toList := by
    rcases fromAttributes_start hnames rest with ⟨t, ht⟩ | ⟨d, t, ht, -⟩
    · rw [ht]
      exact (takeWhile_stop hchars (by decide)).1
    · rw [ht]
      exact (takeWhile_stop hchars (by decide)).1
  -- There is fuel for all attributes, as none of them is empty.
  have hfuel : as.length ≤ (tag.toList ++ fromAttributes as rest).length := by
    have hmany : as.length ≤ (as.flatMap writtenAttribute).length := by
      clear hnames hquotes hname
      induction as with
      | nil => simp
      | cons a as ih =>
          have hpositive : 0 < (writtenAttribute a).length := by
            rcases a with ⟨name, value⟩
            cases value <;> simp [writtenAttribute]
          rw [List.flatMap_cons, List.length_append, List.length_cons]
          omega
    rw [List.length_append, fromAttributes, List.length_append]
    omega
  have hread := readAttributes_written hnames hquotes rest _ hfuel (tag.toList.getLast?.getD '<')
  simp only [readStartTag, hname, List.drop_left, hread, hlower, String.ofList_toList]
  cases as.mapM decoded <;> rfl

/-- An end tag in plain letters is read as the end of its element. -/
theorem readEndTag_written {tag : String} (htag : isTag tag = true) (raw : Option String)
    (hraw : raw = none ∨ raw = some tag) (rest : List Char) :
    readEndTag raw (tag.toList ++ '>' :: rest) = .found [.finish tag] ⟨none, rest⟩ := by
  rcases isName_parts (isName_of_isTag htag) with ⟨c, more, hlist, hordinary⟩
  have hkey : String.ofList (Text.lower tag.toList) = tag := by
    rw [hlist, lower_ordinary hordinary, ← hlist, String.ofList_toList]
  have hbracket : breakAtBracket? (tag.toList ++ '>' :: rest) = some (tag.toList, rest) := by
    have hnone : ∀ d ∈ tag.toList, decide (d ≠ '>') = true := by
      intro d hd
      rw [hlist] at hd
      exact decide_eq_true (hordinary d hd).notBracket
    have hstop := takeWhile_stop (p := fun d => decide (d ≠ '>')) (t := rest) (c := '>') hnone
      (by decide)
    rw [breakAtBracket?, hstop.2]
    simp only [hstop.1]
  -- Nothing but the name is between the slash and the bracket.
  have hplain : plainName? tag.toList = some tag.toList := by
    have hc := hordinary c List.mem_cons_self
    have hblank : Text.trimStart tag.toList = tag.toList := by
      rw [hlist, Text.trimStart, List.dropWhile_cons_of_neg (by simp [hc.notBlank])]
    have hmore : ∀ d ∈ more, isEndTagChar d = true :=
      fun d hd => (hordinary d (List.mem_cons_of_mem c hd)).endTagChar
    have halpha : c.isAlpha = true := by
      rw [isTag, hlist, Bool.and_eq_true] at htag
      exact isAlpha_of_isLower htag.1
    have htake : more.takeWhile isEndTagChar = more := List.takeWhile_eq_self_iff.mpr hmore
    have hdrop : more.dropWhile isEndTagChar = [] := List.dropWhile_eq_nil_iff.mpr hmore
    rw [plainName?, hblank, hlist]
    simp [halpha, htake, hdrop, Text.trimStart]
  rw [readEndTag, hbracket]
  rcases hraw with rfl | rfl
  · simp only [hplain, hkey]
  · simp only [hplain, hkey, if_true]

end Letterpress.Markup
