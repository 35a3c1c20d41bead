import Letterpress.Text.Blank
import Letterpress.Text.Casing

/-!
# Slugs

The form of a name that is safe as a file name: lower case, words joined by
single dashes, and no character but ASCII letters, digits, dashes and
underscores.

## Main definitions

* `isSlugChar`: The characters of a slug.
* `dashBlanks`: Every run of blanks becomes one dash.
* `squeezeDashes`: Every run of dashes becomes one dash.
* `slug`: The slug of a name.

## Theorems

* `isSlugChar_of_mem`: There are no other characters in a slug.
-/

namespace Letterpress.Text

/-- The characters that a slug keeps: ASCII letters and digits, the underscore
    and the dash. -/
def isSlugChar (c : Char) : Bool :=
  c.isAlphanum || c = '_' || c = '-'

/-- Every run of blanks becomes one dash; `inside` tells that the text continues
    a run. -/
def dashBlanks (inside : Bool) : List Char → List Char
  | [] => []
  | c :: rest =>
    if isBlank c then
      if inside then dashBlanks true rest else '-' :: dashBlanks true rest
    else c :: dashBlanks false rest

/-- Every run of dashes becomes one dash; `inside` tells that the text continues
    a run. -/
def squeezeDashes (inside : Bool) : List Char → List Char
  | [] => []
  | c :: rest =>
    if c = '-' then
      if inside then squeezeDashes true rest else '-' :: squeezeDashes true rest
    else c :: squeezeDashes false rest

/-- The slug of a name. -/
def slug (name : String) : String :=
  let words := dashBlanks false (trim (lower name.toList))
  String.ofList (squeezeDashes false (words.filter isSlugChar))

theorem mem_squeezeDashes {inside : Bool} {s : List Char} {c : Char}
    (h : c ∈ squeezeDashes inside s) : c ∈ s := by
  induction s generalizing inside with
  | nil => exact h
  | cons first rest ih =>
      rw [squeezeDashes] at h
      split at h
      · split at h
        · exact List.mem_cons_of_mem first (ih h)
        · rename_i hdash _
          rcases List.mem_cons.mp h with rfl | h
          · rw [hdash]
            exact List.mem_cons_self
          · exact List.mem_cons_of_mem first (ih h)
      · rcases List.mem_cons.mp h with rfl | h
        · exact List.mem_cons_self
        · exact List.mem_cons_of_mem first (ih h)

/-- There are no other characters in a slug. -/
theorem isSlugChar_of_mem {name : String} {c : Char} (h : c ∈ (slug name).toList) :
    isSlugChar c = true := by
  rw [slug, String.toList_ofList] at h
  exact (List.mem_filter.mp (mem_squeezeDashes h)).2

end Letterpress.Text
