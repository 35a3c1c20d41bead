import Letterpress.Text.Blank
import Letterpress.Text.Casing
import Letterpress.Text.Emoji.People
import Letterpress.Text.Emoji.Sequence
import Letterpress.Text.Emoji.Symbol
import Letterpress.Text.Emoji.Thing
import Letterpress.Text.Emoji.World
import Letterpress.Text.Join

/-!
# Codes of Pictographs

A pictograph can be written as its name between colons, in any letter case: `:smile:`.
After the name, `-text` or `-emoji` asks for its plain or its colored form.

## Main definitions

* `Emoji.named?`: The pictograph with a name.
* `Emoji.coded?`: What stands for a code.
* `replaceCodes`: A text with pictographs for their codes.
-/

namespace Letterpress.Text

namespace Emoji

/-- The pictographs of one character, block by block. -/
def blocks : List (List (String × Char)) :=
  [enclosedLetters, symbols, scenery, livingThings, things, faces, travel, additions]

/-- The pictograph with a name of its own. -/
def plain? (name : String) : Option (List Char) :=
  match blocks.findSome? fun block => block.lookup name with
  | some c => some [c]
  | none => (sequences.lookup name).map fun codes => codes.map Char.ofNat

/-- A text without an ending, if it has it. -/
def without? (ending s : String) : Option String :=
  if ending.toList.isSuffixOf s.toList then
    some (String.ofList (s.toList.take (s.length - ending.length)))
  else none

/-- The pictograph in a tone of skin that a name asks for. -/
def toned? (name : String) : Option (List Char) :=
  tones.findSome? fun (ending, tone) =>
    match without? ending name with
    | some base => if tonedNames.contains base then (plain? base).map (toned tone) else none
    | none => none

/-- The pictograph with a name. -/
def named? (name : String) : Option (List Char) :=
  plain? name <|> flag? name <|> toned? name

/-- The characters that select a form of a pictograph, by what a code ends in. -/
def forms : List (String × Char) :=
  [("-text", '\uFE0E'), ("-emoji", '\uFE0F')]

/-- The name in a code, and the character for the form that the code asks for. -/
def readForm (code : String) : String × List Char :=
  let found := forms.findSome? fun (ending, form) =>
    (without? ending code).map fun name => (name, [form])
  found.getD (code, [])

/-- What stands for the code between two colons. -/
def coded? (code : List Char) : Option (List Char) :=
  let (name, form) := readForm (String.ofList code)
  (named? (lowerString name)).map fun pictograph => pictograph ++ form

end Emoji

/-- The parts of a text that follow its colons, with pictographs for the codes among
    them. A code has no blank in it, and two colons belong to one code only. -/
def replaceParts : List (List Char) → List Char
  | [] => []
  | [last] => ':' :: last
  | code :: next :: rest =>
    if code.any isBlank then ':' :: code ++ replaceParts (next :: rest)
    else (Emoji.coded? code).getD (':' :: code ++ [':']) ++ next ++ replaceParts rest

/-- The text with pictographs for their codes. -/
def replaceCodes (s : List Char) : List Char :=
  match splitOn (· = ':') s with
  | [] => []
  | start :: parts => start ++ replaceParts parts

end Letterpress.Text
