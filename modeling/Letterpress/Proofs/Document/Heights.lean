import Letterpress.Document.Extraction
import Letterpress.Proofs.Session
import Letterpress.Proofs.Text.Numeral

/-!
# Heights That Elements Declare

A table without a height of its own would take up no room in the layout, so there is always a
height to go on: what the style declares, or else what the attribute says, or else a setting.
Zero is no height in this sense. It counts as little as a text without a number, and the next
source is asked. The padding comes on top.

Whatever a text says after its first integer is left aside, and so is a text that starts with
none. Only an integer with too many digits is an obstacle, if it is looked at: the attribute is
not looked at when the style declares a height.

## Main definitions

* `Denotes`: A declared value starts with an integer.
* `HasLength`: The integer of a value, or a default.
* `HasHeight`: The height that an element asks for.
* `HasReadableLengths`: The numerals that are looked at are not too long.

## Theorems

* `readPixels_ok`: When a length is read, and which one it is.
* `declaredHeight_sources`: The height of an element is what the first source declares.
-/

namespace Letterpress

namespace Style

open Text

variable {minus : Bool} {digits : List Char}

/-- The value starts with the integer. -/
def Denotes (value : Option String) (n : Int) : Prop :=
  ∃ text ∈ value, ∃ minus digits, StartsWithNumeral text.toList minus digits ∧
    signedValue minus digits = n

/-- The value does not start with too long a numeral. -/
def IsReadableLength (value : Option String) : Prop :=
  ∀ text ∈ value, ∀ minus digits, StartsWithNumeral text.toList minus digits →
    digits.length ≤ numeralLimit

/-- The integer that a value starts with, or the default if it starts with none. -/
def HasLength (value : Option String) (default n : Int) : Prop :=
  Denotes value n ∨ (∀ m, ¬ Denotes value m) ∧ n = default

theorem exists_hasLength (value : Option String) (default : Int) :
    ∃ n, HasLength value default n := by
  by_cases h : ∃ n, Denotes value n
  · rcases h with ⟨n, hn⟩
    exact ⟨n, Or.inl hn⟩
  · exact ⟨default, Or.inr ⟨not_exists.mp h, rfl⟩⟩

section Some

variable {text : String}

/-- The value denotes what its numeral says. -/
theorem denotes_some (h : StartsWithNumeral text.toList minus digits) {n : Int} :
    Denotes (some text) n ↔ signedValue minus digits = n := by
  constructor
  · rintro ⟨_, htext, minus', digits', h', hn⟩
    rw [← Option.some.inj htext] at h'
    rcases h.unique h' with ⟨rfl, rfl⟩
    exact hn
  · exact fun hn => ⟨text, rfl, minus, digits, h, hn⟩

theorem isReadableLength_some (h : StartsWithNumeral text.toList minus digits) :
    IsReadableLength (some text) ↔ digits.length ≤ numeralLimit := by
  constructor
  · exact fun hread => hread text rfl minus digits h
  · intro hlength _ htext minus' digits' h'
    rw [← Option.some.inj htext] at h'
    rw [(h.unique h').2]
    exact hlength

end Some

/-- A length is read if its numeral is not too long. -/
theorem readPixels_ok {value : Option String} {default n : Int} :
    readPixels value default = .ok n ↔ IsReadableLength value ∧ HasLength value default n := by
  -- Without a numeral there is nothing to be read, and the default stands.
  have hdefault : (∀ m, ¬ Denotes value m) → IsReadableLength value →
      ((.ok default : Except NumeralError Int) = .ok n ↔
        IsReadableLength value ∧ HasLength value default n) := by
    intro hnone hread
    constructor
    · intro hn
      exact ⟨hread, Or.inr ⟨hnone, (Except.ok.inj hn).symm⟩⟩
    · rintro ⟨-, hn | ⟨-, rfl⟩⟩
      · exact absurd hn (hnone n)
      · rfl
  cases value with
  | none =>
      refine hdefault ?_ fun _ htext => absurd htext (by simp)
      rintro m ⟨_, htext, _⟩
      exact absurd htext (by simp)
  | some text =>
      by_cases hnumeral : ∃ minus digits, StartsWithNumeral text.toList minus digits
      · rcases hnumeral with ⟨minus, digits, h⟩
        have hlength : HasLength (some text) default n ↔ signedValue minus digits = n := by
          rw [HasLength, denotes_some h]
          refine or_iff_left fun hnone => hnone.1 _ ((denotes_some h).mpr rfl)
        rw [readPixels, leadingInt?_starts h, isReadableLength_some h, hlength]
        by_cases hlong : numeralLimit < digits.length
        · rw [if_pos hlong]
          exact iff_of_false (by simp [bind, Except.bind]) fun hn => absurd hn.1 (by omega)
        · rw [if_neg hlong]
          change Except.ok (signedValue minus digits) = _ ↔ _
          rw [Except.ok.injEq]
          exact (and_iff_right (Nat.not_lt.mp hlong)).symm
      · push Not at hnumeral
        rw [readPixels, leadingInt?_none hnumeral]
        refine hdefault ?_ ?_
        · rintro m ⟨_, htext, minus, digits, h, -⟩
          exact hnumeral minus digits (Option.some.inj htext ▸ h)
        · intro _ htext minus digits h
          exact absurd (Option.some.inj htext ▸ h) (hnumeral minus digits)

/-- A value starts with one integer only. -/
theorem Denotes.unique {value : Option String} {n m : Int} (hn : Denotes value n)
    (hm : Denotes value m) : n = m := by
  rcases hn with ⟨text, htext, minus, digits, h, hn⟩
  obtain rfl : value = some text := htext
  exact hn.symm.trans ((denotes_some h).mp hm)

/-- The value says nothing about a length: it starts with no integer, or with zero. -/
def SaysNothing (value : Option String) : Prop :=
  ∀ m, Denotes value m → m = 0

theorem readPixels_zero {value : Option String} :
    readPixels value 0 = .ok 0 ↔ IsReadableLength value ∧ SaysNothing value := by
  rw [readPixels_ok]
  refine and_congr_right fun _ => ⟨?_, fun hnothing => ?_⟩
  · rintro (hzero | ⟨hnone, -⟩) m hm
    · exact hm.unique hzero
    · exact absurd hm (hnone m)
  · rcases exists_hasLength value 0 with ⟨m, hm | hnone⟩
    · exact Or.inl (hnothing m hm ▸ hm)
    · exact Or.inr ⟨hnone.1, rfl⟩

theorem readPixels_nonzero {value : Option String} {m : Int} (hm : m ≠ 0) :
    readPixels value 0 = .ok m ↔ IsReadableLength value ∧ Denotes value m := by
  rw [readPixels_ok]
  exact and_congr_right fun _ => or_iff_left fun hnone => hm hnone.2

end Style

namespace Document

open Style

variable {K : Type} [Scalar K] {n : Markup.Node}

/-- The height that an element asks for: the one that its style declares, or else the one in its
    attribute, or else a setting. -/
inductive HasHeight (config : Config K) (n : Markup.Node) : Int → Prop where
  | ofStyle {m : Int} (h : Denotes (valueOf? (styleOf n) "height") m) (hm : m ≠ 0) :
      HasHeight config n m
  | ofAttribute {m : Int} (hstyle : SaysNothing (valueOf? (styleOf n) "height"))
      (h : Denotes (n.get? "height") m) (hm : m ≠ 0) : HasHeight config n m
  | ofFallback (hstyle : SaysNothing (valueOf? (styleOf n) "height"))
      (hattribute : SaysNothing (n.get? "height")) :
      HasHeight config n config.fallbackFragmentHeight

/-- The numerals that are looked at are not too long. -/
structure HasReadableLengths (n : Markup.Node) : Prop where
  ofStyle : IsReadableLength (valueOf? (styleOf n) "height")
  ofAttribute : SaysNothing (valueOf? (styleOf n) "height") → IsReadableLength (n.get? "height")
  above : IsReadableLength (valueOf? (styleOf n) "padding-top")
  below : IsReadableLength (valueOf? (styleOf n) "padding-bottom")

/-- The attribute is read if the style says nothing. -/
theorem ownHeight_ok {own : Int} : ownHeight n = .ok own ↔
    IsReadableLength (valueOf? (styleOf n) "height") ∧
    ((Denotes (valueOf? (styleOf n) "height") own ∧ own ≠ 0) ∨
      (SaysNothing (valueOf? (styleOf n) "height") ∧
        readPixels (n.get? "height") 0 = .ok own)) := by
  rw [ownHeight, except_bind_ok]
  constructor
  · rintro ⟨height, hheight, hown⟩
    by_cases hzero : height = 0
    · subst hzero
      rcases readPixels_zero.mp hheight with ⟨hread, hnothing⟩
      exact ⟨hread, Or.inr ⟨hnothing, hown⟩⟩
    · rcases (readPixels_nonzero hzero).mp hheight with ⟨hread, hdenotes⟩
      rw [if_pos hzero, except_pure_ok] at hown
      subst hown
      exact ⟨hread, Or.inl ⟨hdenotes, hzero⟩⟩
  · rintro ⟨hread, ⟨hdenotes, hzero⟩ | ⟨hnothing, hown⟩⟩
    · exact ⟨own, (readPixels_nonzero hzero).mpr ⟨hread, hdenotes⟩, by rw [if_pos hzero]; rfl⟩
    · exact ⟨0, readPixels_zero.mpr ⟨hread, hnothing⟩, hown⟩

/-- A nonzero height of its own is the height of an element, or else the setting. -/
theorem ownHeight_source (config : Config K) {m : Int} :
    (∃ own, ownHeight n = .ok own ∧
        (if own ≠ 0 then own else config.fallbackFragmentHeight) = m) ↔
      IsReadableLength (valueOf? (styleOf n) "height") ∧
      (SaysNothing (valueOf? (styleOf n) "height") → IsReadableLength (n.get? "height")) ∧
      HasHeight config n m := by
  constructor
  · rintro ⟨own, hown, rfl⟩
    -- The style is asked first. What it says counts unless it is nothing or zero.
    rcases ownHeight_ok.mp hown with ⟨hread, ⟨hdenotes, hzero⟩ | ⟨hnothing, hattribute⟩⟩
    · rw [if_pos hzero]
      exact ⟨hread, fun hnothing => absurd (hnothing own hdenotes) hzero,
        HasHeight.ofStyle hdenotes hzero⟩
    · by_cases hzero : own = 0
      · subst hzero
        rcases readPixels_zero.mp hattribute with ⟨hread', hnothing'⟩
        exact ⟨hread, fun _ => hread', HasHeight.ofFallback hnothing hnothing'⟩
      · rcases (readPixels_nonzero hzero).mp hattribute with ⟨hread', hdenotes⟩
        rw [if_pos hzero]
        exact ⟨hread, fun _ => hread', HasHeight.ofAttribute hnothing hdenotes hzero⟩
  · rintro ⟨hread, hread', hheight⟩
    cases hheight with
    | ofStyle h hm => exact ⟨m, ownHeight_ok.mpr ⟨hread, Or.inl ⟨h, hm⟩⟩, if_pos hm⟩
    | ofAttribute hstyle h hm =>
        exact ⟨m, ownHeight_ok.mpr ⟨hread, Or.inr ⟨hstyle,
          (readPixels_nonzero hm).mpr ⟨hread' hstyle, h⟩⟩⟩, if_pos hm⟩
    | ofFallback hstyle hattribute =>
        exact ⟨0, ownHeight_ok.mpr ⟨hread, Or.inr ⟨hstyle,
          readPixels_zero.mpr ⟨hread' hstyle, hattribute⟩⟩⟩, rfl⟩

theorem exists_hasHeight (config : Config K) (n : Markup.Node) : ∃ m, HasHeight config n m := by
  by_cases hstyle : SaysNothing (valueOf? (styleOf n) "height")
  · by_cases hattribute : SaysNothing (n.get? "height")
    · exact ⟨_, HasHeight.ofFallback hstyle hattribute⟩
    · unfold SaysNothing at hattribute
      push Not at hattribute
      rcases hattribute with ⟨m, h, hm⟩
      exact ⟨m, HasHeight.ofAttribute hstyle h hm⟩
  · unfold SaysNothing at hstyle
    push Not at hstyle
    rcases hstyle with ⟨m, h, hm⟩
    exact ⟨m, HasHeight.ofStyle h hm⟩

/-- An element has a height unless a numeral that is looked at is too long. It is what the first
    source declares that says something, and the padding. -/
theorem declaredHeight_sources (config : Config K) (n : Markup.Node) :
    ((∃ height, declaredHeight config n = .ok height) ↔ HasReadableLengths n) ∧
    ∀ height, declaredHeight config n = .ok height ↔ HasReadableLengths n ∧
      ∃ own above below, HasHeight config n own ∧
        HasLength (valueOf? (styleOf n) "padding-top") 0 above ∧
        HasLength (valueOf? (styleOf n) "padding-bottom") 0 below ∧
        height = own + (above + below) := by
  -- Each of the three lengths is readable, and it is what its own source says.
  have hsources : ∀ height, declaredHeight config n = .ok height ↔ HasReadableLengths n ∧
      ∃ own above below, HasHeight config n own ∧
        HasLength (valueOf? (styleOf n) "padding-top") 0 above ∧
        HasLength (valueOf? (styleOf n) "padding-bottom") 0 below ∧
        height = own + (above + below) := by
    intro height
    simp only [declaredHeight, except_bind_ok, except_pure_ok, declared, readPixels_ok]
    constructor
    · rintro ⟨own, hown, above, ⟨hreadAbove, habove⟩, below, ⟨hreadBelow, hbelow⟩, rfl⟩
      rcases (ownHeight_source config).mp ⟨own, hown, rfl⟩ with ⟨hread, hread', hheight⟩
      exact ⟨⟨hread, hread', hreadAbove, hreadBelow⟩, _, above, below, hheight, habove, hbelow, rfl⟩
    · rintro ⟨hread, own, above, below, hheight, habove, hbelow, rfl⟩
      rcases (ownHeight_source config).mpr ⟨hread.ofStyle, hread.ofAttribute, hheight⟩
        with ⟨own', hown, rfl⟩
      exact ⟨own', hown, above, ⟨hread.above, habove⟩, below, ⟨hread.below, hbelow⟩, rfl⟩
  refine ⟨⟨fun ⟨height, h⟩ => ((hsources height).mp h).1, fun hread => ?_⟩, hsources⟩
  rcases exists_hasHeight config n with ⟨own, hown⟩
  rcases exists_hasLength (valueOf? (styleOf n) "padding-top") 0 with ⟨above, habove⟩
  rcases exists_hasLength (valueOf? (styleOf n) "padding-bottom") 0 with ⟨below, hbelow⟩
  exact ⟨_, (hsources _).mpr ⟨hread, own, above, below, hown, habove, hbelow, rfl⟩⟩

/-- A height of zero makes room for the attribute, and then for the setting. -/
example : declaredHeight ({} : Config Rat)
      (.element "table" [("style", some "height:0px;"), ("height", some "33")] []) = .ok 33 ∧
    declaredHeight ({} : Config Rat)
      (.element "table" [("style", some "height:0px;")] []) = .ok 100 := by
  constructor <;> rfl

end Document

end Letterpress
