import Letterpress.Proofs.Style.Writing
import Letterpress.Style.Declaration
import Mathlib.Data.List.Chain

/-!
# Styles Read Back

A style that is written from declarations is read back as these declarations, as long
as they are clean; blank margins of values are lost. Reading makes nothing but clean
declarations, so taking properties out of a style leaves all the others as they were.

Whether a style places its element is not read off its declarations but searched for in
its text, where `position` could stand anywhere, in any letter case. A place does not go
beyond a semicolon, so declarations can be searched one by one. A text in which no `p` is
followed by an `o` places nothing.

## Main definitions

* `writeDeclarations`: Declarations as a style.
* `Declaration.IsReadable`, `Declaration.IsClean`: Declarations that are read back.
* `Text.Spells`: A text is a word in any letter case.
* `IsPosition`: A text is what the search looks for.
* `NoPo`: No `p` is followed by an `o`.

## Theorems

* `readStyle_trimmed`, `readStyle_written`: Declarations are read back.
* `readStyle_clean`: Whatever is read is clean.
* `readStyle_without`: A style loses the given properties and nothing else.
* `isAbsolute_iff`: The search finds positions anywhere in a style.
* `isAbsolute_written`, `isAbsolute_without`: Whether declarations place an element.
* `isAbsolute_of_noPo`: Such a text places nothing.
-/

namespace Letterpress

namespace Text

/-- The first part of a text ends where the first separator stands. -/
theorem splitOn_stop {p : Char → Bool} {s : List Char} (hs : ∀ d ∈ s, p d = false) {c : Char}
    (hc : p c = true) (t : List Char) : splitOn p (s ++ c :: t) = s :: splitOn p t := by
  induction s with
  | nil => rw [List.nil_append, splitOn, if_pos hc]
  | cons d s ih =>
      rw [List.cons_append, splitOn, if_neg (by simp [hs d List.mem_cons_self]),
        ih fun e he => hs e (List.mem_cons_of_mem d he)]

theorem mem_splitOn {p : Char → Bool} {s part : List Char} (h : part ∈ splitOn p s) :
    ∀ c ∈ part, p c = false := by
  induction s generalizing part with
  | nil =>
      rw [splitOn, List.mem_singleton] at h
      simp [h]
  | cons d s ih =>
      rw [splitOn] at h
      -- A separator ends a part, and any other character joins the first part of the rest.
      by_cases hd : p d = true
      · rw [if_pos hd, List.mem_cons] at h
        rcases h with rfl | h
        · simp
        · exact ih h
      · rw [if_neg hd] at h
        cases hrest : splitOn p s with
        | nil =>
            rw [hrest, List.mem_singleton] at h
            simpa [h] using hd
        | cons first parts =>
            rw [hrest] at h
            rcases List.mem_cons.mp h with rfl | hmem
            · intro c hc
              rcases List.mem_cons.mp hc with rfl | hc
              · simpa using hd
              · exact ih (hrest ▸ List.mem_cons_self) c hc
            · exact ih (hrest ▸ List.mem_cons_of_mem first hmem)

theorem trimEnd_of_last {s : List Char} (h : ∀ c ∈ s.getLast?, isBlank c = false) :
    trimEnd s = s := by
  have hreverse : trimStart s.reverse = s.reverse :=
    trimStart_of_head fun c hc => h c (by rwa [List.head?_reverse] at hc)
  rw [trimEnd]
  change (trimStart s.reverse).reverse = s
  rw [hreverse, List.reverse_reverse]

/-- A text without blank margins is not trimmed. -/
theorem trim_of_ends {s : List Char} (hhead : ∀ c ∈ s.head?, isBlank c = false)
    (hlast : ∀ c ∈ s.getLast?, isBlank c = false) : trim s = s := by
  rw [trim, trimStart_of_head hhead, trimEnd_of_last hlast]

theorem head?_trimStart (s : List Char) : ∀ c ∈ (trimStart s).head?, isBlank c = false := by
  intro c hc
  rw [trimStart] at hc
  have hne : s.dropWhile isBlank ≠ [] := by
    intro hnil
    simp [hnil] at hc
  have hhead := List.head_dropWhile_not isBlank hne
  rw [List.head?_eq_some_head hne, Option.mem_some] at hc
  rwa [hc] at hhead

theorem getLast?_trimEnd (s : List Char) : ∀ c ∈ (trimEnd s).getLast?, isBlank c = false := by
  intro c hc
  rw [trimEnd, List.getLast?_reverse] at hc
  exact head?_trimStart s.reverse c hc

theorem trimEnd_start (s : List Char) : trimEnd s <+: s := by
  have h := List.reverse_prefix.mpr (List.dropWhile_suffix isBlank (l := s.reverse))
  rwa [List.reverse_reverse] at h

theorem head?_trim (s : List Char) : ∀ c ∈ (trim s).head?, isBlank c = false := by
  intro c hc
  rcases trimEnd_start (trimStart s) with ⟨after, hafter⟩
  refine head?_trimStart s c ?_
  rw [← hafter, List.head?_append]
  rw [trim] at hc
  rw [Option.mem_def] at hc ⊢
  rw [hc]
  rfl

/-- What was trimmed is not trimmed again. -/
theorem trim_trim (s : List Char) : trim (trim s) = trim s :=
  trim_of_ends (head?_trim s) (getLast?_trimEnd (trimStart s))

theorem mem_of_mem_trim {s : List Char} {c : Char} (h : c ∈ trim s) : c ∈ s :=
  List.dropWhile_subset isBlank ((trimEnd_start (trimStart s)).subset h)

/-- What stands in a text on one side of a separator or the other, if there is none in it. -/
theorem infix_separator {place s t : List Char} {c : Char} (h : c ∉ place) :
    place <:+: s ++ c :: t ↔ place <:+: s ∨ place <:+: t := by
  constructor
  · rintro ⟨front, back, hparts⟩
    rcases List.append_eq_append_iff.mp hparts with ⟨more, hs, -⟩ | ⟨more, hfront, hrest⟩
    · exact Or.inl ⟨front, more, hs.symm⟩
    · cases more with
      | nil => exact Or.inl ⟨front, [], by simpa using hfront⟩
      | cons d more =>
          rcases List.cons.inj hrest with ⟨rfl, rfl⟩
          -- The separator is behind the place or in front of it.
          rcases List.append_eq_append_iff.mp hfront with ⟨more', -, hplace⟩ | ⟨more', -, hplace⟩
          · exact absurd (hplace ▸ by simp) h
          · cases more' with
            | nil =>
                rw [List.nil_append] at hplace
                exact absurd (hplace ▸ List.mem_cons_self) h
            | cons e more' =>
                rw [(List.cons.inj hplace).2]
                exact Or.inr ⟨more', back, rfl⟩
  · rintro (hs | ht)
    · exact hs.trans (List.prefix_append s (c :: t)).isInfix
    · exact ht.trans ⟨s ++ [c], [], by simp⟩

section Words

/-- The text is the word, whatever the case of its letters. -/
def Spells (word s : List Char) : Prop :=
  List.Forall₂ (fun w c => matchesLetter w c = true) word s

/-- A word is found at the start of a text if the text starts with a spelling of it. -/
theorem afterWord?_eq_some {word s rest : List Char} :
    afterWord? word s = some rest ↔ ∃ letters, s = letters ++ rest ∧ Spells word letters := by
  induction word generalizing s with
  | nil =>
      constructor
      · intro h
        exact ⟨[], Option.some.inj h, List.Forall₂.nil⟩
      · rintro ⟨letters, rfl, hletters⟩
        rw [List.forall₂_nil_left_iff.mp hletters]
        rfl
  | cons w word ih =>
      cases s with
      | nil =>
          refine iff_of_false (by simp [afterWord?]) ?_
          rintro ⟨letters, hparts, hletters⟩
          rw [(List.append_eq_nil_iff.mp hparts.symm).1] at hletters
          cases hletters
      | cons c s =>
          rw [afterWord?]
          -- The letters of a spelling are compared one by one with those of the word.
          by_cases hc : matchesLetter w c = true
          · rw [if_pos hc, ih]
            constructor
            · rintro ⟨letters, rfl, hletters⟩
              exact ⟨c :: letters, rfl, List.Forall₂.cons hc hletters⟩
            · rintro ⟨letters, hparts, hletters⟩
              cases hletters with
              | cons _ hrest => exact ⟨_, (List.cons.inj hparts).2, hrest⟩
          · rw [if_neg hc]
            refine iff_of_false (by simp) ?_
            rintro ⟨letters, hparts, hletters⟩
            cases hletters with
            | cons hhead _ => exact hc ((List.cons.inj hparts).1 ▸ hhead)

/-- No form of a letter is blank. -/
theorem isBlank_of_matches {w c : Char} (h : matchesLetter w c = true) (hw : isBlank w = false) :
    isBlank c = false := by
  simp only [matchesLetter, Bool.or_eq_true, Bool.and_eq_true, decide_eq_true_eq] at h
  rcases h with (hlower | ⟨-, rfl⟩) | ⟨-, rfl | rfl⟩
  · by_cases hupper : c.val ≥ 'A'.val ∧ c.val ≤ 'Z'.val
    · have hcode : 65 ≤ c.toNat ∧ c.toNat ≤ 90 := hupper
      rw [isBlank, inRanges, List.any_eq_false]
      intro r hr
      have hrange : r.2 < 65 ∨ 90 < r.1 :=
        (by decide : ∀ r ∈ blankRanges, r.2 < 65 ∨ 90 < r.1) r hr
      simp only [Bool.and_eq_true, decide_eq_true_eq]
      omega
    · -- Only capitals have another form in lower case.
      have hsame : c.toLower = c := dif_neg hupper
      rw [← hsame, hlower, hw]
  · decide
  · decide
  · decide

theorem Spells.notMem {word s : List Char} {c : Char} (h : Spells word s)
    (hword : (word.any fun w => matchesLetter w c) = false) : c ∉ s := by
  induction h with
  | nil => exact List.not_mem_nil
  | cons hhead _ ih =>
      rw [List.any_cons, Bool.or_eq_false_iff] at hword
      rw [List.mem_cons]
      rintro (rfl | hmem)
      · rw [hword.1] at hhead
        exact Bool.false_ne_true hhead
      · exact ih hword.2 hmem

end Words

end Text

namespace Style

open Text

/-- A declaration that is read back but for the blank margins of its value. -/
structure Declaration.IsReadable (d : Declaration) : Prop where
  property_ne : d.property.toList ≠ []
  property_colon : ':' ∉ d.property.toList
  property_semicolon : ';' ∉ d.property.toList
  property_trim : trim d.property.toList = d.property.toList
  value_semicolon : ';' ∉ d.value.toList

/-- The declaration without the blank margins of its value. -/
def Declaration.trimmed (d : Declaration) : Declaration :=
  ⟨d.property, String.ofList (trim d.value.toList)⟩

/-- A declaration that is read back as it was written. -/
structure Declaration.IsClean (d : Declaration) : Prop where
  property_ne : d.property.toList ≠ []
  property_colon : ':' ∉ d.property.toList
  property_semicolon : ';' ∉ d.property.toList
  property_trim : trim d.property.toList = d.property.toList
  value_semicolon : ';' ∉ d.value.toList
  value_trim : trim d.value.toList = d.value.toList

theorem Declaration.IsClean.readable {d : Declaration} (h : d.IsClean) : d.IsReadable :=
  ⟨h.property_ne, h.property_colon, h.property_semicolon, h.property_trim, h.value_semicolon⟩

theorem Declaration.IsClean.trimmed_eq {d : Declaration} (h : d.IsClean) : d.trimmed = d := by
  rw [Declaration.trimmed, h.value_trim, String.ofList_toList]

theorem toList_css (d : Declaration) :
    d.css.toList = d.property.toList ++ ':' :: d.value.toList := by
  simp [Declaration.css, String.toList_append]

/-- A declaration is read back, with or without a blank before it. -/
theorem readDeclaration?_trimmed {d : Declaration} (hd : d.IsReadable) {lead : List Char}
    (hlead : ∀ c ∈ lead, c = ' ') : readDeclaration? (lead ++ d.css.toList) = some d.trimmed := by
  have hcolon : ∀ c ∈ lead ++ d.property.toList, decide (c ≠ ':') = true := by
    intro c hc
    rw [decide_eq_true_eq]
    rintro rfl
    rcases List.mem_append.mp hc with hmem | hmem
    · exact absurd (hlead _ hmem) (by decide)
    · exact hd.property_colon hmem
  -- Blanks in front are trimmed with the property.
  have hblank : trim (lead ++ d.property.toList) = d.property.toList := by
    have hstart : trimStart (lead ++ d.property.toList) = trimStart d.property.toList := by
      rw [trimStart, List.dropWhile_append_of_pos]
      · rfl
      · intro c hc
        rw [hlead c hc]
        decide
    rw [trim, hstart]
    exact hd.property_trim
  have hparts : lead ++ d.css.toList = (lead ++ d.property.toList) ++ ':' :: d.value.toList := by
    rw [toList_css, List.append_assoc]
  have hstop := Markup.takeWhile_stop (p := fun c => decide (c ≠ ':')) (c := ':')
    (t := d.value.toList) hcolon (by decide)
  rw [readDeclaration?, hparts, hstop.2]
  simp only [hstop.1, hblank, hd.property_ne, if_false, String.ofList_toList]
  rfl

/-- Declarations as a style. -/
def writeDeclarations (ds : List Declaration) : String :=
  joinWith " " (ds.map fun d => d.css ++ ";")

/-- Declarations are read back but for the blank margins of their values. -/
theorem readStyle_trimmed {ds : List Declaration} (h : ∀ d ∈ ds, d.IsReadable) :
    readStyle (writeDeclarations ds) = ds.map Declaration.trimmed := by
  -- Every declaration but the first has a blank before it.
  have hread : ∀ lead : List Char, (∀ c ∈ lead, c = ' ') → ds ≠ [] →
      (splitOn (· = ';') (lead ++ (writeDeclarations ds).toList)).filterMap readDeclaration?
        = ds.map Declaration.trimmed := by
    induction ds with
    | nil => exact fun _ _ hne => absurd rfl hne
    | cons d ds ih =>
        intro lead hlead _
        have hd := h d List.mem_cons_self
        have htext : lead ++ (writeDeclarations (d :: ds)).toList = (lead ++ d.css.toList)
            ++ ';' :: (if ds = [] then [] else ' ' :: (writeDeclarations ds).toList) := by
          rw [writeDeclarations, List.map_cons]
          cases ds with
          | nil => simp [joinWith, String.toList_append]
          | cons e es => simp [joinWith, writeDeclarations, String.toList_append]
        have hparts : ∀ c ∈ lead ++ d.css.toList, decide (c = ';') = false := by
          intro c hc
          rw [decide_eq_false_iff_not]
          rintro rfl
          rw [toList_css, List.mem_append, List.mem_append, List.mem_cons] at hc
          rcases hc with hmem | hmem | heq | hmem
          · exact absurd (hlead _ hmem) (by decide)
          · exact hd.property_semicolon hmem
          · exact absurd heq (by decide)
          · exact hd.value_semicolon hmem
        rw [htext, splitOn_stop hparts (by decide),
          List.filterMap_cons_some (readDeclaration?_trimmed hd hlead), List.map_cons]
        congr 1
        cases ds with
        | nil => decide
        | cons e es =>
            rw [if_neg (List.cons_ne_nil e es)]
            exact ih (fun x hx => h x (List.mem_cons_of_mem d hx)) [' ']
              (fun c hc => List.mem_singleton.mp hc) (List.cons_ne_nil e es)
  cases ds with
  | nil => decide
  | cons d ds => exact hread [] (by simp) (List.cons_ne_nil d ds)

/-- Clean declarations are read back. -/
theorem readStyle_written {ds : List Declaration} (h : ∀ d ∈ ds, d.IsClean) :
    readStyle (writeDeclarations ds) = ds := by
  rw [readStyle_trimmed fun d hd => (h d hd).readable]
  exact (List.map_congr_left fun d hd => (h d hd).trimmed_eq).trans (List.map_id ds)

/-- Whatever is read is clean. -/
theorem readStyle_clean {style : String} {d : Declaration} (h : d ∈ readStyle style) :
    d.IsClean := by
  rcases List.mem_filterMap.mp h with ⟨rule, hrule, hread⟩
  -- A rule is what is between two semicolons.
  have hsemicolon : ';' ∉ rule := fun hmem => by
    have hsplit := mem_splitOn hrule ';' hmem
    simp at hsplit
  rw [readDeclaration?] at hread
  split at hread
  · exact absurd hread (by simp)
  · rename_i value hvalue
    simp only at hread
    split at hread
    · exact absurd hread (by simp)
    · rename_i hne
      rw [← Option.some.inj hread]
      refine ⟨by simpa using hne, ?_, ?_, by simp [trim_trim], ?_, by simp [trim_trim]⟩
      · intro hmem
        rw [String.toList_ofList] at hmem
        have hcolon := List.mem_takeWhile_imp (mem_of_mem_trim hmem)
        simp at hcolon
      · intro hmem
        rw [String.toList_ofList] at hmem
        exact hsemicolon (List.takeWhile_subset _ (mem_of_mem_trim hmem))
      · intro hmem
        rw [String.toList_ofList] at hmem
        refine hsemicolon (List.dropWhile_subset (fun c => decide (c ≠ ':')) ?_)
        rw [hvalue]
        exact List.mem_cons_of_mem _ (mem_of_mem_trim hmem)

/-- Taking properties out of a style writes the declarations that stay. -/
theorem without_eq (removed : List String) (style : String) :
    without removed style = writeDeclarations
      ((readStyle style).filter fun d => !removed.contains (lowerString d.property)) := by
  -- A semicolon stands between two declarations or behind the last.
  have hwrite : ∀ ds : List Declaration,
      joinWith "; " (ds.map Declaration.css) ++ (if ds.isEmpty then "" else ";")
        = writeDeclarations ds := by
    intro ds
    induction ds with
    | nil => rfl
    | cons d ds ih =>
        cases ds with
        | nil => rfl
        | cons e es =>
            have hrest := ih
            simp only [List.map_cons, List.isEmpty_cons, Bool.false_eq_true, if_false,
              writeDeclarations, joinWith] at hrest ⊢
            rw [← hrest]
            simp only [String.append_assoc]
            rfl
  exact hwrite _

/-- A style loses the given properties and nothing else. -/
theorem readStyle_without (removed : List String) (style : String) :
    readStyle (without removed style)
      = (readStyle style).filter fun d => !removed.contains (lowerString d.property) := by
  rw [without_eq]
  exact readStyle_written fun d hd => readStyle_clean (List.mem_of_mem_filter hd)

section Search

/-- The text is a position: the name of the property, a colon and the keyword, with nothing but
    blanks around the colon. -/
def IsPosition (s : List Char) : Prop :=
  ∃ name gap gap' keyword, s = name ++ (gap ++ ':' :: (gap' ++ keyword)) ∧
    Spells "position".toList name ∧ (∀ c ∈ gap, isBlank c = true) ∧
    (∀ c ∈ gap', isBlank c = true) ∧ Spells "absolute".toList keyword

/-- A keyword is not blank where it starts. -/
theorem keyword_head {keyword : List Char} (h : Spells "absolute".toList keyword)
    (rest : List Char) : ∀ c ∈ (keyword ++ rest).head?, isBlank c = false := by
  cases h with
  | cons hfirst _ =>
      intro c hc
      rw [← Option.some.inj hc]
      exact isBlank_of_matches hfirst (by decide)

/-- A text starts with a position if the two words are found, with a colon between them. -/
theorem startsAbsolute_iff {s : List Char} :
    startsAbsolute s = true ↔ ∃ place, place <+: s ∧ IsPosition place := by
  constructor
  · intro h
    rw [startsAbsolute] at h
    split at h
    · rename_i rest hrest
      rcases Option.map_eq_some_iff.mp hrest with ⟨after, hafter, htrim⟩
      rcases afterWord?_eq_some.mp hafter with ⟨name, rfl, hname⟩
      rcases Option.isSome_iff_exists.mp h with ⟨back, hback⟩
      rcases afterWord?_eq_some.mp hback with ⟨keyword, hkeyword, hspells⟩
      rcases trimStart_parts after with ⟨gap, hgap, hparts⟩
      rcases trimStart_parts rest with ⟨gap', hgap', hparts'⟩
      refine ⟨_, ⟨back, ?_⟩, name, gap, gap', keyword, rfl, hname, hgap, hgap', hspells⟩
      rw [hparts, htrim, hparts', hkeyword]
      simp
    · exact absurd h Bool.false_ne_true
  · rintro ⟨place, ⟨back, rfl⟩, name, gap, gap', keyword, rfl, hname, hgap, hgap', hkeyword⟩
    have hword : afterWord? "position".toList
        ((name ++ (gap ++ ':' :: (gap' ++ keyword))) ++ back)
          = some (gap ++ ':' :: (gap' ++ (keyword ++ back))) :=
      afterWord?_eq_some.mpr ⟨name, by simp, hname⟩
    -- Neither the colon nor the keyword starts with a blank, so trimming stops there.
    have hcolon : ∀ c ∈ (':' :: (gap' ++ (keyword ++ back))).head?, isBlank c = false :=
      fun c hc => by rw [← Option.some.inj hc]; decide
    have hafter : afterWord? "absolute".toList (keyword ++ back) = some back :=
      afterWord?_eq_some.mpr ⟨keyword, rfl, hkeyword⟩
    rw [startsAbsolute, hword, Option.map_some, trimStart_append hgap hcolon]
    simp only [trimStart_append hgap' (keyword_head hkeyword back), hafter, Option.isSome_some]

theorem IsPosition.ne_nil {place : List Char} (h : IsPosition place) : place ≠ [] := by
  rcases h with ⟨name, gap, gap', keyword, rfl, -⟩
  simp

/-- The search finds a position wherever there is one. -/
theorem mentionsAbsolute_iff {s : List Char} :
    mentionsAbsolute s = true ↔ ∃ place, place <:+: s ∧ IsPosition place := by
  induction s with
  | nil =>
      refine iff_of_false Bool.false_ne_true ?_
      rintro ⟨place, hplace, hposition⟩
      exact hposition.ne_nil (List.infix_nil.mp hplace)
  | cons c s ih =>
      rw [mentionsAbsolute, Bool.or_eq_true, startsAbsolute_iff, ih, ← exists_or]
      refine exists_congr fun place => ?_
      rw [List.infix_cons_iff, or_and_right]

theorem isAbsolute_iff {style : String} :
    isAbsolute style = true ↔ ∃ place, place <:+: style.toList ∧ IsPosition place :=
  mentionsAbsolute_iff

/-- A style that starts by placing its element is absolute. -/
theorem isAbsolute_start {style : String} (rest : List Char)
    (h : style.toList = "position".toList ++ ':' :: ("absolute".toList ++ rest)) :
    isAbsolute style = true := by
  have hspells : ∀ word : String, (word.toList.all fun w => matchesLetter w w) = true →
      Spells word.toList word.toList := fun word hword =>
    List.forall₂_same.mpr (List.all_eq_true.mp hword)
  rw [isAbsolute_iff, h]
  exact ⟨"position".toList ++ ':' :: "absolute".toList, ⟨[], rest, by simp⟩, "position".toList, [],
    [], "absolute".toList, rfl, hspells _ (by decide), by simp, by simp, hspells _ (by decide)⟩

theorem IsPosition.noSemicolon {place : List Char} (h : IsPosition place) : ';' ∉ place := by
  rcases h with ⟨name, gap, gap', keyword, rfl, hname, hgap, hgap', hkeyword⟩
  have hblank : ∀ s : List Char, (∀ c ∈ s, isBlank c = true) → ';' ∉ s := fun s hs hmem =>
    absurd (hs ';' hmem) (by decide)
  simp only [List.mem_append, List.mem_cons, not_or]
  exact ⟨hname.notMem (by decide), hblank gap hgap, by decide, hblank gap' hgap',
    hkeyword.notMem (by decide)⟩

/-- A position does not go beyond a semicolon. -/
theorem mentionsAbsolute_semicolon (s t : List Char) :
    mentionsAbsolute (s ++ ';' :: t) = (mentionsAbsolute s || mentionsAbsolute t) := by
  rw [Bool.eq_iff_iff, Bool.or_eq_true]
  simp only [mentionsAbsolute_iff, ← exists_or]
  refine exists_congr fun place => ?_
  rw [← or_and_right]
  exact and_congr_left fun h => infix_separator h.noSemicolon

/-- Declarations place an element if one of them does. -/
theorem isAbsolute_written (ds : List Declaration) :
    isAbsolute (writeDeclarations ds) = ds.any fun d => isAbsolute d.css := by
  induction ds with
  | nil => decide
  | cons d ds ih =>
      have htext : (writeDeclarations (d :: ds)).toList = d.css.toList
          ++ ';' :: (if ds = [] then [] else ' ' :: (writeDeclarations ds).toList) := by
        rw [writeDeclarations, List.map_cons]
        cases ds with
        | nil => simp [joinWith, String.toList_append]
        | cons e es => simp [joinWith, writeDeclarations, String.toList_append]
      -- No position goes across a semicolon, so each declaration is searched alone.
      rw [List.any_cons, ← ih, isAbsolute, htext, mentionsAbsolute_semicolon, isAbsolute]
      congr 1
      cases ds with
      | nil => decide
      | cons e es =>
          rw [if_neg (List.cons_ne_nil e es), mentionsAbsolute]
          -- The blank between two declarations starts no position.
          have hblank : startsAbsolute (' ' :: (writeDeclarations (e :: es)).toList) = false := by
            have hword : afterWord? "position".toList (' ' :: (writeDeclarations (e :: es)).toList)
                = none := rfl
            rw [startsAbsolute, hword]
            rfl
          rw [hblank]
          rfl

/-- A style places nothing if no declaration that stays in it does. -/
theorem isAbsolute_without {removed : List String} {style : String}
    (h : ∀ d ∈ readStyle style, removed.contains (lowerString d.property) = false →
      isAbsolute d.css = false) : isAbsolute (without removed style) = false := by
  rw [without_eq, isAbsolute_written, List.any_eq_false]
  intro d hd
  rw [List.mem_filter, Bool.not_eq_true'] at hd
  simpa using h d hd.1 hd.2

end Search

/-- No `p` is followed by an `o`, in whatever case. -/
abbrev NoPo (s : List Char) : Prop :=
  s.IsChain fun c d => ¬(matchesLetter 'p' c = true ∧ matchesLetter 'o' d = true)

/-- A text in which no `p` is followed by an `o` places nothing. -/
theorem isAbsolute_of_noPo {style : String} (h : NoPo style.toList) :
    isAbsolute style = false := by
  rw [Bool.eq_false_iff, ne_eq, isAbsolute_iff]
  rintro ⟨place, hplace, name, gap, gap', keyword, rfl, hname, -⟩
  have hchain := List.IsChain.infix h hplace
  cases hname with
  | cons hp hrest =>
      cases hrest with
      | cons ho _ => exact (List.isChain_cons_cons.mp hchain).1 ⟨hp, ho⟩

/-- A text with a numeral in it. -/
theorem noPo_numeral {before after : List Char} (n : Int) (hbefore : NoPo before)
    (hafter : NoPo after) : NoPo (before ++ ((toString n).toList ++ after)) := by
  -- A numeral has neither of the two letters, so it keeps what is around it apart.
  have hquiet : ∀ c ∈ (toString n).toList,
      matchesLetter 'p' c = false ∧ matchesLetter 'o' c = false := fun c hc =>
    Markup.ascii_forall (P := fun c : Char => isNumeralChar c = true →
        matchesLetter 'p' c = false ∧ matchesLetter 'o' c = false)
      (by decide) (isNumeralChar_lt (numeral_chars n c hc)) (numeral_chars n c hc)
  have hnumeral : NoPo (toString n).toList := by
    generalize (toString n).toList = s at hquiet
    induction s with
    | nil => exact List.isChain_nil
    | cons c s ih =>
        exact List.isChain_cons.mpr ⟨fun d _ => by simp [(hquiet c List.mem_cons_self).1],
          ih fun d hd => hquiet d (List.mem_cons_of_mem c hd)⟩
  refine hbefore.append (hnumeral.append hafter fun c hc d _ => ?_) fun c _ d hd => ?_
  · simp [(hquiet c (List.mem_of_getLast? hc)).1]
  · rw [List.head?_append_of_ne_nil _ (numeral_ne_nil n)] at hd
    simp [(hquiet d (List.mem_of_head? hd)).2]

end Style

end Letterpress
