import Letterpress.Text.CaseTable
import Letterpress.Text.Blank

/-!
# Letter Case

Full case conversion of a text. A character may become a sequence, and a
capital sigma takes its final form when a letter stands before it and none
after it. Words of ASCII letters are found in a text whatever their letter case.

## Main definitions

* `lowerChar`, `upperChar`: The case mapping of one character.
* `sigmaIsFinal`: A sigma between two texts ends a word.
* `lower`, `upper`: The case mapping of a text.
* `matchesLetter`: A character is a form of a letter.
* `afterWord?`: What follows a word at the start of a text.
-/

namespace Letterpress.Text

/-- The character a run sends the code point to, if it covers it. -/
def CaseRun.apply? (r : CaseRun) (n : Nat) : Option Char :=
  if r.first ≤ n ∧ n ≤ r.last ∧ (n - r.first) % r.step = 0 then
    some (Char.ofNat (n + r.shift).toNat)
  else none

/-- The case mapping that tables of sequences and runs describe; a character
    that neither covers stays. -/
def mapCase (sequences : List (Nat × List Nat)) (runs : List CaseRun) (c : Char) : List Char :=
  match sequences.lookup c.toNat with
  | some codes => codes.map Char.ofNat
  | none => [(runs.findSome? fun r => r.apply? c.toNat).getD c]

/-- The lower case of a character on its own. -/
def lowerChar (c : Char) : List Char :=
  if c.toNat < 0x80 then [c.toLower] else mapCase lowerSequences lowerRuns c

/-- The upper case of a character. -/
def upperChar (c : Char) : List Char :=
  if c.toNat < 0x80 then [c.toUpper] else mapCase upperSequences upperRuns c

/-- The first character that a text does not pass over has case. -/
def startsCased (s : List Char) : Bool :=
  match s.dropWhile fun c => inRanges caseIgnorableRanges c.toNat with
  | [] => false
  | c :: _ => inRanges casedRanges c.toNat

/-- A sigma ends a word: a letter stands before it (`before` is read backwards)
    and none after it. -/
def sigmaIsFinal (before after : List Char) : Bool :=
  startsCased before && !startsCased after

/-- The lower case of a text that follows `before`, which is read backwards. -/
def lowerAfter (before : List Char) : List Char → List Char
  | [] => []
  | c :: rest =>
    (if c = 'Σ' then [if sigmaIsFinal before rest then 'ς' else 'σ'] else lowerChar c)
      ++ lowerAfter (c :: before) rest

/-- The lower case of a text. -/
def lower (s : List Char) : List Char :=
  lowerAfter [] s

/-- The upper case of a text. -/
def upper (s : List Char) : List Char :=
  s.flatMap upperChar

/-- The lower case of a string. -/
def lowerString (s : String) : String :=
  String.ofList (lower s.toList)

/-- The upper case of a string. -/
def upperString (s : String) : String :=
  String.ofList (upper s.toList)

/-- The characters that match a lower-case ASCII letter when case is ignored: its
    two forms, the long s, and the i's with and without a dot. Characters other
    than letters match only themselves. -/
def matchesLetter (letter c : Char) : Bool :=
  c.toLower = letter || (letter = 's' && c = 'ſ') || (letter = 'i' && (c = 'ı' || c = 'İ'))

/-- What follows a word at the start of a text, case ignored. -/
def afterWord? : List Char → List Char → Option (List Char)
  | [], s => some s
  | _ :: _, [] => none
  | w :: word, c :: s => if matchesLetter w c then afterWord? word s else none

end Letterpress.Text
