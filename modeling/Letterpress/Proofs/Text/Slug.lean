import Letterpress.Proofs.Markup.Tag
import Letterpress.Proofs.Style.Reading
import Letterpress.Text.Slug
import Mathlib.Data.List.Chain

/-!
# Laws of Slugs

A slug is a name in a normal form, which is what makes it fit for a file name. It is in
lower case, although more than the capital letters of ASCII are brought to lower case on the
way; it has no two dashes in a row, although characters are dropped between dashes. A slug is
its own slug, and names that differ in the blanks around them, or in the case of ASCII
letters, have the same slug.

Lower-casing looks around a capital sigma, so it does not go character by character. What it
looks for are letters, and the blanks around a name are none: to them it makes no difference
where the name stands.

## Main definitions

* `isSlugLetter`: A character that is found in slugs.
* `AllBlank`: A text of blanks.
* `Respells`: Two texts differ in the case of letters only.

## Theorems

* `isUpper_of_mem_lower`: No capital letter of ASCII is left in lower case.
* `lower_surrounded`: Blanks around a text.
* `squeezeDashes_chain`: No two dashes stand in a row.
* `slug_normal`: The laws of slugs.
-/

namespace Letterpress.Text

section LowerCase

/-- The images of a run of code points are characters, and lie behind the capital letters of
    ASCII. -/
def CaseRun.isBehindCapitals (r : CaseRun) : Bool :=
  0x5A < r.first + r.shift &&
    (r.last + r.shift < 0xD800 || (0xDFFF < r.first + r.shift && r.last + r.shift < 0x110000))

theorem isUpper_of_lt {c : Char} (h : 0x5A < c.toNat) : c.isUpper = false := by
  have hval : c.toNat = c.val.toNat := rfl
  have hz : 'Z'.val.toNat = 90 := rfl
  have hupper : c.isUpper = decide (c.val ≥ 'A'.val ∧ c.val ≤ 'Z'.val) := rfl
  simp only [hupper, decide_eq_false_iff_not, UInt32.le_iff_toNat_le]
  omega

theorem CaseRun.isUpper_apply {r : CaseRun} (hr : r.isBehindCapitals = true) {n : Nat} {d : Char}
    (h : r.apply? n = some d) : d.isUpper = false := by
  simp only [CaseRun.isBehindCapitals, Bool.and_eq_true, Bool.or_eq_true,
    decide_eq_true_eq] at hr
  unfold CaseRun.apply? at h
  split at h
  · rename_i hcovered
    rcases hcovered with ⟨hfirst, hlast, -⟩
    have hvalid : ((n + r.shift).toNat).isValidChar := by
      unfold Nat.isValidChar
      omega
    have hcode : (Char.ofNat (n + r.shift).toNat).toNat = (n + r.shift).toNat := by
      rw [Char.ofNat, dif_pos hvalid]
      rfl
    rw [← Option.some.inj h]
    refine isUpper_of_lt ?_
    omega
  · exact absurd h (by simp)

theorem lowerRuns_behindCapitals : ∀ r ∈ lowerRuns, r.isBehindCapitals = true :=
  List.all_eq_true.mp (by decide)

/-- No character has a capital letter of ASCII in its lower case. -/
theorem isUpper_of_mem_lowerChar {c d : Char} (h : d ∈ lowerChar c) : d.isUpper = false := by
  unfold lowerChar at h
  split at h
  · rename_i hascii
    rw [List.mem_singleton.mp h]
    exact Markup.ascii_forall (P := fun c : Char => c.toLower.isUpper = false) (by decide) hascii
  · rename_i hascii
    unfold mapCase at h
    split at h
    · -- The only sequence is that of a single character.
      rename_i codes hcodes
      have hseq : codes = [0x69, 0x307] := by
        simp only [lowerSequences, List.lookup_cons, List.lookup_nil] at hcodes
        split at hcodes
        · exact (Option.some.inj hcodes).symm
        · exact absurd hcodes (by simp)
      subst hseq
      rcases List.mem_pair.mp h with rfl | rfl <;> decide
    · rw [List.mem_singleton.mp h]
      cases hrun : lowerRuns.findSome? fun r => r.apply? c.toNat with
      | none => exact isUpper_of_lt (by rw [Option.getD_none]; omega)
      | some d =>
          rcases List.exists_of_findSome?_eq_some hrun with ⟨r, hr, happly⟩
          exact CaseRun.isUpper_apply (lowerRuns_behindCapitals r hr) happly

/-- No capital letter of ASCII is left in lower case. -/
theorem isUpper_of_mem_lower {s : List Char} {d : Char} (h : d ∈ lower s) :
    d.isUpper = false := by
  rw [lower] at h
  generalize [] = before at h
  induction s generalizing before with
  | nil => exact absurd h List.not_mem_nil
  | cons c rest ih =>
      rw [lowerAfter] at h
      rcases List.mem_append.mp h with hhere | hlater
      · split at hhere
        · -- Neither form of a sigma is in ASCII.
          rw [List.mem_singleton.mp hhere]
          split <;> decide
        · exact isUpper_of_mem_lowerChar hhere
      · exact ih (c :: before) hlater

end LowerCase

section Blanks

/-- All characters of the text are blank. -/
def AllBlank (s : List Char) : Prop :=
  ∀ c ∈ s, isBlank c = true

/-- How lower-casing takes a blank: it is no letter and not passed over, and stays as it is. -/
structure IsCaseless (c : Char) : Prop where
  notIgnored : inRanges caseIgnorableRanges c.toNat = false
  notCased : inRanges casedRanges c.toNat = false
  notSigma : c ≠ 'Σ'
  lowerChar : lowerChar c = [c]

instance (c : Char) : Decidable (IsCaseless c) :=
  decidable_of_iff
    (inRanges caseIgnorableRanges c.toNat = false ∧ inRanges casedRanges c.toNat = false ∧
      c ≠ 'Σ' ∧ Text.lowerChar c = [c])
    ⟨fun ⟨h₁, h₂, h₃, h₄⟩ => ⟨h₁, h₂, h₃, h₄⟩,
      fun h => ⟨h.notIgnored, h.notCased, h.notSigma, h.lowerChar⟩⟩

theorem blankRanges_caseless : ∀ r ∈ blankRanges, ∀ n ∈ List.range' r.1 (r.2 + 1 - r.1),
    IsCaseless (Char.ofNat n) := by
  decide +kernel

theorem isCaseless_of_isBlank {c : Char} (h : isBlank c = true) : IsCaseless c := by
  rw [isBlank, inRanges, List.any_eq_true] at h
  rcases h with ⟨r, hr, hin⟩
  simp only [Bool.and_eq_true, decide_eq_true_eq] at hin
  have hcaseless := blankRanges_caseless r hr c.toNat (List.mem_range'_1.mpr (by omega))
  rwa [Char.ofNat_toNat] at hcaseless

/-- Blanks at the end of a text do not change whether it starts with a letter. -/
theorem startsCased_append (s : List Char) {gap : List Char} (hgap : AllBlank gap) :
    startsCased (s ++ gap) = startsCased s := by
  rw [startsCased, startsCased, List.dropWhile_append]
  cases hrest : s.dropWhile fun c => inRanges caseIgnorableRanges c.toNat with
  | cons c rest => rfl
  | nil =>
      cases gap with
      | nil => rfl
      | cons c gap =>
          have hc := isCaseless_of_isBlank (hgap c List.mem_cons_self)
          rw [List.isEmpty_nil, if_pos rfl,
            List.dropWhile_cons_of_neg (by rw [hc.notIgnored]; exact Bool.false_ne_true)]
          exact hc.notCased

/-- Blanks that were there before a text begins make no difference to it. -/
theorem lowerAfter_blank_before (before s : List Char) {gap : List Char} (hgap : AllBlank gap) :
    lowerAfter (before ++ gap) s = lowerAfter before s := by
  induction s generalizing before with
  | nil => rfl
  | cons c rest ih =>
      rw [lowerAfter, lowerAfter, ← List.cons_append, ih, sigmaIsFinal, sigmaIsFinal,
        startsCased_append before hgap]

theorem lowerAfter_blank (before : List Char) {gap : List Char} (hgap : AllBlank gap) :
    lowerAfter before gap = gap := by
  induction gap generalizing before with
  | nil => rfl
  | cons c rest ih =>
      have hc := isCaseless_of_isBlank (hgap c List.mem_cons_self)
      rw [lowerAfter, if_neg hc.notSigma, hc.lowerChar,
        ih _ fun d hd => hgap d (List.mem_cons_of_mem c hd)]
      rfl

/-- Blanks behind a text make no difference to it either. -/
theorem lowerAfter_append_blank (before s : List Char) {gap : List Char} (hgap : AllBlank gap) :
    lowerAfter before (s ++ gap) = lowerAfter before s ++ gap := by
  induction s generalizing before with
  | nil => exact lowerAfter_blank before hgap
  | cons c rest ih =>
      rw [List.cons_append, lowerAfter, lowerAfter, ih, sigmaIsFinal, sigmaIsFinal,
        startsCased_append rest hgap, List.append_assoc]

theorem lowerAfter_blank_append (before s : List Char) {gap : List Char} (hgap : AllBlank gap) :
    lowerAfter before (gap ++ s) = gap ++ lowerAfter (gap.reverse ++ before) s := by
  induction gap generalizing before with
  | nil => rfl
  | cons c rest ih =>
      have hc := isCaseless_of_isBlank (hgap c List.mem_cons_self)
      rw [List.cons_append, lowerAfter, if_neg hc.notSigma, hc.lowerChar,
        ih _ fun d hd => hgap d (List.mem_cons_of_mem c hd), List.reverse_cons, List.append_assoc]
      rfl

/-- The lower case of a text with blanks around it. -/
theorem lower_surrounded (s : List Char) {before after : List Char} (hbefore : AllBlank before)
    (hafter : AllBlank after) : lower (before ++ s ++ after) = before ++ lower s ++ after := by
  have hreverse : AllBlank before.reverse := fun c hc => hbefore c (List.mem_reverse.mp hc)
  have hstart := lowerAfter_blank_before [] s hreverse
  rw [List.nil_append] at hstart
  rw [lower, lowerAfter_append_blank [] (before ++ s) hafter,
    lowerAfter_blank_append [] s hbefore, List.append_nil, hstart]
  rfl

/-- Trimming takes away blanks around a text. -/
theorem trim_surrounded (s : List Char) {before after : List Char} (hbefore : AllBlank before)
    (hafter : AllBlank after) : trim (before ++ s ++ after) = trim s := by
  have hreverse : ∀ c ∈ after.reverse, isBlank c = true := fun c hc =>
    hafter c (List.mem_reverse.mp hc)
  rw [trim, trim, trimStart, trimStart, List.append_assoc,
    List.dropWhile_append_of_pos hbefore, List.dropWhile_append]
  split
  · -- A text of blanks is trimmed to nothing.
    rename_i hblank
    rw [List.isEmpty_iff.mp hblank, List.dropWhile_eq_nil_iff.mpr hafter]
  · rw [trimEnd, trimEnd, List.reverse_append, List.dropWhile_append_of_pos hreverse]

end Blanks

section Dashes

/-- The characters do not form a pair of dashes. -/
def NoDashPair (a b : Char) : Prop :=
  ¬ (a = '-' ∧ b = '-')

/-- No two dashes stand in a row, and none at the start of what continues a run. -/
theorem squeezeDashes_chain (inside : Bool) (s : List Char) :
    (squeezeDashes inside s).IsChain NoDashPair ∧
      (inside = true → ∀ c ∈ (squeezeDashes inside s).head?, c ≠ '-') := by
  induction s generalizing inside with
  | nil => exact ⟨List.IsChain.nil, fun _ c hc => absurd hc (by simp [squeezeDashes])⟩
  | cons c rest ih =>
      rw [squeezeDashes]
      by_cases hc : c = '-'
      · rw [if_pos hc]
        rcases ih true with ⟨hchain, hhead⟩
        cases inside with
        | true => exact ⟨hchain, hhead⟩
        | false =>
            refine ⟨List.IsChain.cons hchain fun d hd hpair => hhead rfl d hd hpair.2, ?_⟩
            intro h
            exact absurd h Bool.false_ne_true
      · rw [if_neg hc]
        refine ⟨List.IsChain.cons (ih false).1 fun d _ hpair => hc hpair.1, fun _ d hd => ?_⟩
        rw [← Option.some.inj hd]
        exact hc

theorem not_infix_of_chain {s : List Char} (h : s.IsChain NoDashPair) : ¬ ['-', '-'] <:+: s :=
  fun hpair => (List.isChain_cons_cons.mp <| List.IsChain.infix h hpair).1 ⟨rfl, rfl⟩

/-- Where no two dashes stand in a row there is nothing to squeeze. -/
theorem squeezeDashes_of_chain {s : List Char} (h : s.IsChain NoDashPair) (inside : Bool)
    (hhead : inside = true → ∀ c ∈ s.head?, c ≠ '-') : squeezeDashes inside s = s := by
  induction s generalizing inside with
  | nil => rfl
  | cons c rest ih =>
      rw [squeezeDashes]
      by_cases hc : c = '-'
      · have hlater := ih h.tail true fun _ d hd hdash =>
          (List.isChain_cons.mp h).1 d hd ⟨hc, hdash⟩
        cases inside with
        | true => exact absurd hc (hhead rfl c rfl)
        | false => rw [if_pos hc, if_neg Bool.false_ne_true, hlater, hc]
      · rw [if_neg hc, ih h.tail false fun hinside => absurd hinside Bool.false_ne_true]

/-- Where there are no blanks there is nothing to dash. -/
theorem dashBlanks_of_words {s : List Char} (h : ∀ c ∈ s, isBlank c = false) (inside : Bool) :
    dashBlanks inside s = s := by
  induction s generalizing inside with
  | nil => rfl
  | cons c rest ih =>
      rw [List.forall_mem_cons] at h
      rw [dashBlanks, h.1, if_neg Bool.false_ne_true, ih h.2]

end Dashes

section Slugs

/-- The characters that are found in slugs: lower-case letters and digits of ASCII, the
    underscore and the dash. -/
def isSlugLetter (c : Char) : Bool :=
  c.isLower || c.isDigit || c = '_' || c = '-'

theorem isNameLetter_of_isSlugLetter {c : Char} (h : isSlugLetter c = true) :
    Markup.isNameLetter c = true := by
  simp only [isSlugLetter, Bool.or_eq_true, decide_eq_true_eq] at h
  simp only [Markup.isNameLetter, Markup.isTagLetter, Bool.or_eq_true, decide_eq_true_eq]
  tauto

/-- A slug keeps letters and digits of ASCII and the two signs. -/
theorem isSlugChar_eq (c : Char) :
    isSlugChar c = ((c.isUpper || c.isLower) || c.isDigit || c = '_' || c = '-') :=
  rfl

theorem isSlugChar_of_isSlugLetter {c : Char} (h : isSlugLetter c = true) :
    isSlugChar c = true := by
  simp only [isSlugLetter, Bool.or_eq_true, decide_eq_true_eq] at h
  simp only [isSlugChar_eq, Bool.or_eq_true, decide_eq_true_eq]
  tauto

theorem mem_dashBlanks {inside : Bool} {s : List Char} {c : Char}
    (h : c ∈ dashBlanks inside s) : c ∈ s ∨ c = '-' := by
  induction s generalizing inside with
  | nil => exact Or.inl h
  | cons first rest ih =>
      have hrest : ∀ {inside}, c ∈ dashBlanks inside rest → c ∈ first :: rest ∨ c = '-' :=
        fun h => (ih h).imp_left (List.mem_cons_of_mem first)
      rw [dashBlanks] at h
      split at h
      · split at h
        · exact hrest h
        · exact (List.mem_cons.mp h).elim Or.inr hrest
      · exact (List.mem_cons.mp h).elim (fun heq => Or.inl (heq ▸ List.mem_cons_self)) hrest

/-- There are no other characters in a slug. -/
theorem isSlugLetter_of_mem {name : String} {c : Char} (h : c ∈ (slug name).toList) :
    isSlugLetter c = true := by
  have hkept := isSlugChar_of_mem h
  rw [slug, String.toList_ofList] at h
  -- What is kept of a lower-case text is no capital letter.
  have hupper : c.isUpper = false := by
    rcases mem_dashBlanks (List.mem_filter.mp (mem_squeezeDashes h)).1 with hword | rfl
    · exact isUpper_of_mem_lower (mem_of_mem_trim hword)
    · decide
  simpa [isSlugChar_eq, isSlugLetter, hupper] using hkept

theorem slug_chain (name : String) : (slug name).toList.IsChain NoDashPair := by
  rw [slug, String.toList_ofList]
  exact (squeezeDashes_chain false _).1

/-- A text that already looks like a slug is its own slug. -/
theorem slug_of_chain {s : String} (hletters : ∀ c ∈ s.toList, isSlugLetter c = true)
    (hchain : s.toList.IsChain NoDashPair) : slug s = s := by
  have hordinary : ∀ c ∈ s.toList, Markup.IsOrdinary c := fun c hc =>
    Markup.isOrdinary_of_isNameLetter (isNameLetter_of_isSlugLetter (hletters c hc))
  have hblank : ∀ c ∈ s.toList, isBlank c = false := fun c hc => (hordinary c hc).notBlank
  have htrim : trim s.toList = s.toList := by
    have hlast : ∀ c ∈ s.toList.reverse.head?, isBlank c = false := fun c hc =>
      hblank c (List.mem_reverse.mp (List.mem_of_mem_head? hc))
    have hend : s.toList.reverse.dropWhile isBlank = s.toList.reverse := trimStart_of_head hlast
    rw [trim, trimStart_of_head fun c hc => hblank c (List.mem_of_mem_head? hc), trimEnd, hend,
      List.reverse_reverse]
  rw [slug, Markup.lower_ordinary hordinary, htrim, dashBlanks_of_words hblank,
    List.filter_eq_self.mpr fun c hc => isSlugChar_of_isSlugLetter (hletters c hc),
    squeezeDashes_of_chain hchain false fun h => absurd h Bool.false_ne_true, String.ofList_toList]

/-- All characters of the text are in ASCII. -/
def IsAscii (s : List Char) : Prop :=
  ∀ c ∈ s, c.toNat < 128

/-- The second text is the first one with some letters in another case. -/
def Respells (s t : List Char) : Prop :=
  List.Forall₂ (fun c d => d = c ∨ d = c.toLower ∨ d = c.toUpper) s t

/-- The other case of a letter in ASCII has the same lower case. -/
theorem lowerChar_respelled {c d : Char} (hc : c.toNat < 128)
    (h : d = c ∨ d = c.toLower ∨ d = c.toUpper) :
    d ≠ 'Σ' ∧ c ≠ 'Σ' ∧ lowerChar d = lowerChar c := by
  have hlower : ∀ d : Char, d.toNat < 128 → d ≠ 'Σ' ∧ lowerChar d = [d.toLower] := by
    intro d hd
    refine ⟨fun hsigma => absurd (hsigma ▸ hd) (by decide), ?_⟩
    rw [lowerChar, if_pos hd]
  rcases Markup.ascii_forall
    (P := fun c : Char => (c.toLower.toNat < 128 ∧ c.toUpper.toNat < 128) ∧
      c.toLower.toLower = c.toLower ∧ c.toUpper.toLower = c.toLower) (by decide) hc with
    ⟨⟨hdown, hup⟩, hdownAgain, hupDown⟩
  rcases h with rfl | rfl | rfl
  · exact ⟨(hlower d hc).1, (hlower d hc).1, rfl⟩
  · refine ⟨(hlower _ hdown).1, (hlower c hc).1, ?_⟩
    rw [(hlower _ hdown).2, (hlower c hc).2, hdownAgain]
  · refine ⟨(hlower _ hup).1, (hlower c hc).1, ?_⟩
    rw [(hlower _ hup).2, (hlower c hc).2, hupDown]

/-- Texts of ASCII that differ in the case of letters have the same lower case. -/
theorem lower_respelled {s t : List Char} (hascii : IsAscii s) (h : Respells s t) :
    lower t = lower s := by
  -- Without a sigma it does not matter what stands before.
  suffices hall : ∀ before before', lowerAfter before' t = lowerAfter before s from hall [] []
  unfold Respells at h
  induction h with
  | nil => exact fun _ _ => rfl
  | @cons c d s t hcd hrest ih =>
      intro before before'
      rw [IsAscii, List.forall_mem_cons] at hascii
      rcases lowerChar_respelled hascii.1 hcd with ⟨hd, hc, hsame⟩
      rw [lowerAfter, lowerAfter, if_neg hd, if_neg hc, hsame, ih hascii.2]

end Slugs

/-- The laws of slugs. A slug holds nothing but lower-case letters and digits of ASCII,
    underscores and dashes, has no two dashes in a row, and is its own slug. Names have the same
    slug if they differ in blanks around them, or are in ASCII and differ in the case of
    letters. -/
theorem slug_normal (s : String) :
    (∀ c ∈ (slug s).toList, isSlugLetter c = true) ∧
      ¬ ['-', '-'] <:+: (slug s).toList ∧
      slug (slug s) = slug s ∧
      (∀ before after : String, AllBlank before.toList → AllBlank after.toList →
        slug (before ++ s ++ after) = slug s) ∧
      (IsAscii s.toList → ∀ t : String, Respells s.toList t.toList → slug t = slug s) := by
  refine ⟨fun c hc => isSlugLetter_of_mem hc, not_infix_of_chain (slug_chain s),
    slug_of_chain (fun c hc => isSlugLetter_of_mem hc) (slug_chain s),
    fun before after hbefore hafter => ?_, fun hascii t ht => ?_⟩
  · rw [slug, slug, String.toList_append, String.toList_append,
      lower_surrounded s.toList hbefore hafter, trim_surrounded (lower s.toList) hbefore hafter]
  · rw [slug, slug, lower_respelled hascii ht]

/-- A name that is written in another case, with wide blanks around it. -/
theorem slug_normal_export :
    slug ("\u3000 " ++ "My - Export!!" ++ "\n") = slug "My - Export!!" ∧
      slug "mY - eXPORT!!" = slug "My - Export!!" ∧ slug "My - Export!!" = "my-export" := by
  rcases slug_normal "My - Export!!" with ⟨-, -, -, hblank, hcase⟩
  have hall : ("My - Export!!".toList.all fun c => decide (c.toNat < 128)) = true := by decide
  have hascii : IsAscii "My - Export!!".toList := fun c hc =>
    of_decide_eq_true (List.all_eq_true.mp hall c hc)
  refine ⟨hblank "\u3000 " "\n" (List.all_eq_true.mp (by decide)) (List.all_eq_true.mp (by decide)),
    hcase hascii "mY - eXPORT!!" (by unfold Respells; decide), ?_⟩
  decide +kernel

end Letterpress.Text
