import Letterpress.Text.Blank
import Letterpress.Text.Cells
import Letterpress.Text.Join

/-!
# Wrapping Lines

Text is broken into lines of a terminal between words. A word that is longer than a
line is *folded*, that is broken wherever the line is full, or it is *shortened*, that is
cut with an ellipsis at its end.

## Main definitions

* `words`: A text cut before each word.
* `LongWords`: What becomes of words that are longer than a line.
* `expandTabs`: Blanks for tabs.
* `wrapLine`, `wrap`: A text in lines.
-/

namespace Letterpress.CommandLine

/-- What becomes of words that are longer than a line. -/
inductive LongWords where
  | fold
  | shorten
  deriving DecidableEq, Repr

/-- A word with the blanks around it at the start of a text, and the rest. -/
def cutWord (s : List Char) : List Char × List Char :=
  let blanks := s.takeWhile Text.isBlank
  let word := (s.drop blanks.length).takeWhile fun c => !Text.isBlank c
  let after := (s.drop (blanks.length + word.length)).takeWhile Text.isBlank
  let length := blanks.length + word.length + after.length
  (s.take length, s.drop length)

/-- The words of a text of at most `fuel` characters, each with its blanks. -/
def words : Nat → List Char → List (List Char)
  | 0, _ => []
  | _, [] => []
  | fuel + 1, s =>
    let (word, rest) := cutWord s
    word :: words fuel rest

/-- The line that is being filled, and how much of its width is used. -/
structure OpenLine where
  text : List Char := []
  used : Nat := 0

/-- The lines of words, the first of which is being filled. -/
def fillLines (long : LongWords) (width : Nat) (line : OpenLine) :
    List (List Char) → List (List Char)
  | [] => [line.text]
  | word :: rest =>
    let bare := Text.cellWidth (Text.trimEnd word)
    let before := if line.text = [] then [] else [line.text]
    if line.used + bare ≤ width then
      fillLines long width ⟨line.text ++ word, line.used + Text.cellWidth word⟩ rest
    else if width < bare && long = .fold then
      let pieces := Text.chop width word
      let last := pieces.getLast?.getD []
      before ++ pieces.dropLast ++ fillLines long width ⟨last, Text.cellWidth last⟩ rest
    else before ++ fillLines long width ⟨word, Text.cellWidth word⟩ rest

/-- The parts of a text between its tabs, with a blank for each tab and as many more as
    it takes to the next multiple of eight cells; `used` cells stand before them. -/
def joinAtTabs (used : Nat) : List (List Char) → List Char
  | [] => []
  | [last] => last
  | part :: rest =>
    let start := part ++ [' ']
    let width := used + Text.cellWidth start
    let blanks := (8 - width % 8) % 8
    start ++ List.replicate blanks ' ' ++ joinAtTabs (width + blanks) rest

/-- The text with blanks for tabs. -/
def expandTabs (s : List Char) : List Char :=
  joinAtTabs 0 (Text.splitOn (· = '\t') s)

/-- A line without the blanks at its end that are beyond so many characters. -/
def trimExcess (width : Nat) (line : List Char) : List Char :=
  let blanks := line.length - (Text.trimEnd line).length
  line.take (line.length - min blanks (line.length - width))

/-- A line that is too long cut to a width. -/
def LongWords.shortened (long : LongWords) (width : Nat) (line : List Char) : List Char :=
  if Text.cellWidth line ≤ width then line
  else match long with
    | .fold => Text.resized width line
    | .shorten => Text.resized (width - 1) line ++ ['…']

/-- A line of text as lines of the given width. -/
def wrapLine (long : LongWords) (width : Nat) (s : List Char) : List (List Char) :=
  let line := expandTabs s
  (fillLines long width {} (words line.length line)).map (trimExcess width)

/-- A text as lines of the given width, which may still be too long. -/
def wrap (long : LongWords) (width : Nat) (s : String) : List (List Char) :=
  (Text.splitOn (· = '\n') s.toList).flatMap (wrapLine long width)

end Letterpress.CommandLine
