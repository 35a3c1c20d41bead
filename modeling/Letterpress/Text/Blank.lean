/-!
# Blank Characters

Sets of characters are given as closed ranges of code points. The first of them are the
characters that separate words: every character with the Unicode property white space
(version 14), and the four separators from U+001C to U+001F.

## Main definitions

* `inRanges`: A code point lies in one of the ranges.
* `blankRanges`: The blank characters as ranges of code points.
* `isBlank`: Membership.
* `trimStart`, `trimEnd`, `trim`: A text without its blank margins.

## Theorems

* `isBlank_of_isWhitespace`: Every ASCII white space character is blank.
* `trimStart_parts`, `trimStart_append`: Trimming takes the blanks at the start.
-/

namespace Letterpress.Text

/-- The code point lies in one of the closed ranges. -/
def inRanges (ranges : List (Nat × Nat)) (n : Nat) : Bool :=
  ranges.any fun r => r.1 ≤ n && n ≤ r.2

/-- The blank characters as ranges of code points. -/
def blankRanges : List (Nat × Nat) :=
  [(0x9, 0xD), (0x1C, 0x20), (0x85, 0x85), (0xA0, 0xA0), (0x1680, 0x1680), (0x2000, 0x200A),
    (0x2028, 0x2029), (0x202F, 0x202F), (0x205F, 0x205F), (0x3000, 0x3000)]

/-- The character is blank. -/
def isBlank (c : Char) : Bool :=
  inRanges blankRanges c.toNat

theorem isBlank_of_isWhitespace (c : Char) (h : c.isWhitespace = true) : isBlank c = true := by
  simp only [Char.isWhitespace, Bool.or_eq_true, decide_eq_true_eq] at h
  rcases h with ((h | h) | h) | h <;> subst h <;> decide

/-- The text without leading blanks. -/
def trimStart (s : List Char) : List Char :=
  s.dropWhile isBlank

/-- A text with no blank at its start is not trimmed there. -/
theorem trimStart_of_head {s : List Char} (h : ∀ c ∈ s.head?, isBlank c = false) :
    trimStart s = s := by
  cases s with
  | nil => rfl
  | cons c s => rw [trimStart, List.dropWhile_cons_of_neg (by simp [h c rfl])]

/-- The blanks that are trimmed at the start of a text. -/
theorem trimStart_parts (s : List Char) :
    ∃ gap, (∀ c ∈ gap, isBlank c = true) ∧ s = gap ++ trimStart s :=
  ⟨s.takeWhile isBlank, List.all_eq_true.mp List.all_takeWhile,
    List.takeWhile_append_dropWhile.symm⟩

theorem trimStart_append {gap t : List Char} (hgap : ∀ c ∈ gap, isBlank c = true)
    (ht : ∀ c ∈ t.head?, isBlank c = false) : trimStart (gap ++ t) = t := by
  rw [trimStart, List.dropWhile_append_of_pos hgap]
  exact trimStart_of_head ht

/-- The text without trailing blanks. -/
def trimEnd (s : List Char) : List Char :=
  (s.reverse.dropWhile isBlank).reverse

/-- The text without leading and trailing blanks. -/
def trim (s : List Char) : List Char :=
  trimEnd (trimStart s)

end Letterpress.Text
