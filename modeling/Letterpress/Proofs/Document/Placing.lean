import Letterpress.Proofs.Document.Detaching

/-!
# Tables That Stay Where They Are

A table is found to be positioned by a search through the text of its style, and it loses its
place by losing the declarations of three properties. The search does not know where a property
starts. So it also finds a declaration whose property only ends in `position`, such as a custom
property, and a value that mentions a position itself, and it accepts characters that are no
letters of the two words, such as a long s. None of these is taken out of the style.

## Main definitions

* `Declaration.LooksPlacing`: A declaration that the search takes for a position.

## Theorems

* `isAbsolute_css`: What the search finds in a declaration.
* `isAbsolute_without_iff`: When a style still places its element.
* `isPositionedTable_unplaced`: When a table that has lost its place is positioned.
-/

namespace Letterpress

namespace Style

open Text

/-- The search for a position finds one in the declaration: the property ends in `position` and
    the value starts with `absolute`, or there is a position in the value. -/
def Declaration.LooksPlacing (d : Declaration) : Prop :=
  (∃ name keyword, name <:+ d.property.toList ∧ Spells "position".toList name ∧
    keyword <+: d.value.toList ∧ Spells "absolute".toList keyword) ∨
  ∃ place, place <:+: d.value.toList ∧ IsPosition place

section Search

/-- A colon after a part without colons is the first one of the text, or it stands behind the
first one. -/
theorem colon_parts {front before back property value : List Char} (hproperty : ':' ∉ property)
    (hbefore : ':' ∉ before)
    (h : front ++ (before ++ ':' :: back) = property ++ ':' :: value) :
    (property = front ++ before ∧ value = back) ∨
      ∃ more, value = more ++ (before ++ ':' :: back) := by
  induction front generalizing property with
  | nil =>
      have hpass : ∀ s : List Char, ':' ∉ s → ∀ c ∈ s, decide (c ≠ ':') = true :=
        fun s hs c hc => decide_eq_true fun heq => hs (heq ▸ hc)
      -- Both sides are cut at their first colon, and the cuts agree.
      have hstop := Markup.takeWhile_stop (c := ':') (t := back) (hpass before hbefore) (by decide)
      have hstop' := Markup.takeWhile_stop (c := ':') (t := value) (hpass property hproperty)
        (by decide)
      rw [List.nil_append] at h ⊢
      rw [h] at hstop
      exact Or.inl ⟨hstop'.1.symm.trans hstop.1, (List.cons.inj (hstop'.2.symm.trans hstop.2)).2⟩
  | cons c front ih =>
      cases property with
      | nil => exact Or.inr ⟨front, (List.cons.inj h).2.symm⟩
      | cons d property =>
          rcases List.cons.inj h with ⟨rfl, hrest⟩
          rw [List.mem_cons, not_or] at hproperty
          rcases ih hproperty.2 hrest with ⟨rfl, hvalue⟩ | hmore
          · exact Or.inl ⟨rfl, hvalue⟩
          · exact Or.inr hmore

/-- A text without blank margins does not end with blanks. -/
theorem gap_nil_of_last {s front gap : List Char} (htrim : trim s = s) (hparts : s = front ++ gap)
    (hgap : ∀ c ∈ gap, isBlank c = true) : gap = [] := by
  rcases List.eq_nil_or_concat gap with rfl | ⟨before, c, rfl⟩
  · rfl
  · have hlast := getLast?_trimEnd (trimStart s) c
    rw [← trim, htrim, hparts] at hlast
    exact absurd (hgap c (by simp)) (by simp [hlast (by simp)])

theorem gap_nil_of_head {s gap back : List Char} (htrim : trim s = s) (hparts : s = gap ++ back)
    (hgap : ∀ c ∈ gap, isBlank c = true) : gap = [] := by
  cases gap with
  | nil => rfl
  | cons c after =>
      have hhead := head?_trim s c
      rw [htrim, hparts] at hhead
      exact absurd (hgap c List.mem_cons_self) (by simp [hhead rfl])

/-- What the search finds in a declaration whose margins are trimmed. -/
theorem isAbsolute_css {d : Declaration} (h : d.IsClean) :
    isAbsolute d.css = true ↔ d.LooksPlacing := by
  rw [isAbsolute_iff, toList_css]
  constructor
  · rintro ⟨place, ⟨front, back, hparts⟩, name, gap, gap', keyword, rfl, hname, hgap, hgap',
      hkeyword⟩
    have hcolon : ':' ∉ name ++ gap := fun hmem => by
      rcases List.mem_append.mp hmem with hmem | hmem
      · exact hname.notMem (by decide) hmem
      · exact absurd (hgap ':' hmem) (by decide)
    have hsplit : front ++ ((name ++ gap) ++ ':' :: (gap' ++ keyword ++ back))
        = d.property.toList ++ ':' :: d.value.toList := by simpa using hparts
    rcases colon_parts h.property_colon hcolon hsplit with ⟨hproperty, hvalue⟩ | ⟨more, hvalue⟩
    · -- The blanks around the colon would be margins of the property and of the value.
      rw [← List.append_assoc] at hproperty
      rw [List.append_assoc] at hvalue
      obtain rfl := gap_nil_of_last h.property_trim hproperty hgap
      obtain rfl := gap_nil_of_head h.value_trim hvalue hgap'
      rw [List.append_nil] at hproperty
      rw [List.nil_append] at hvalue
      exact Or.inl ⟨name, keyword, ⟨front, hproperty.symm⟩, hname, ⟨back, hvalue.symm⟩, hkeyword⟩
    · right
      refine ⟨_, ⟨more, back, ?_⟩, name, gap, gap', keyword, rfl, hname, hgap, hgap', hkeyword⟩
      rw [hvalue]
      simp
  · rintro (⟨name, keyword, ⟨front, hfront⟩, hname, ⟨back, hback⟩, hkeyword⟩ |
      ⟨place, hplace, hposition⟩)
    · refine ⟨name ++ ':' :: keyword, ⟨front, back, ?_⟩, name, [], [], keyword, rfl, hname, by simp,
        by simp, hkeyword⟩
      rw [← hfront, ← hback]
      simp
    · refine ⟨place, hplace.trans ?_, hposition⟩
      exact ⟨d.property.toList ++ [':'], [], by simp⟩

/-- A style still places its element if a declaration that stays in it looks like a position. -/
theorem isAbsolute_without_iff {removed : List String} {style : String} :
    isAbsolute (without removed style) = true ↔
      ∃ d ∈ readStyle style, lowerString d.property ∉ removed ∧ d.LooksPlacing := by
  have hclean : ∀ d ∈ readStyle style, (isAbsolute d.css = true ↔ d.LooksPlacing) :=
    fun d hd => isAbsolute_css (readStyle_clean hd)
  rw [without_eq, isAbsolute_written, List.any_eq_true]
  simp only [List.mem_filter, Bool.not_eq_true', List.contains_eq_mem, decide_eq_false_iff_not]
  constructor
  · rintro ⟨d, ⟨hd, hkept⟩, habsolute⟩
    exact ⟨d, hd, hkept, (hclean d hd).mp habsolute⟩
  · rintro ⟨d, hd, hkept, hlooks⟩
    exact ⟨d, ⟨hd, hkept⟩, (hclean d hd).mpr hlooks⟩

end Search

end Style

namespace Document

/-- A table that has lost its place is still positioned exactly if one of the declarations that
    it keeps looks like a position. -/
theorem isPositionedTable_unplaced (n : Markup.Node) :
    isPositionedTable (unplaced n) = true ↔ n.tag? = some "table" ∧
      ∃ d ∈ Style.readStyle (styleOf n),
        Text.lowerString d.property ∉ placingProperties ∧ d.LooksPlacing := by
  cases n with
  | element tag as children =>
      rw [isPositionedTable, styleOf_unplaced, Bool.and_eq_true, Style.isAbsolute_without_iff,
        decide_eq_true_iff]
      rfl
  | text data | comment data | declaration data =>
      exact iff_of_false Bool.false_ne_true fun h => absurd h.1 (by simp [Markup.Node.tag?])

/-- A custom property is kept, and keeps its table in place. -/
example : isPositionedTable (unplaced
    (.element "table" [("style", some "--position:absolute; width:10px;")] [])) = true := by
  decide +kernel

end Document

end Letterpress
