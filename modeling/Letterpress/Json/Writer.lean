import Letterpress.Json.Value

/-!
# Writing Structured Data

## Main definitions

* `Json.Alphabet`: Which characters of a string are written as they are.
* `Json.compact`: A value on one line.
* `Json.pretty`: A value with one member or item a line, indented by two.
-/

namespace Letterpress

namespace Json

/-- Which characters a writer may use. -/
inductive Alphabet where
  /-- Printable ASCII only; all else is escaped. -/
  | ascii
  /-- Everything but controls. -/
  | unicode
  deriving DecidableEq, Repr

/-- The escape of a 16-bit unit. -/
def unitEscape (n : Nat) : String :=
  "\\u" ++ Text.hexDigits 4 n

/-- The escape of a character by its code point, beyond 16 bits as a pair. -/
def codeEscape (n : Nat) : String :=
  if n < 0x10000 then unitEscape n
  else unitEscape (0xD800 + (n - 0x10000) / 0x400) ++ unitEscape (0xDC00 + (n - 0x10000) % 0x400)

/-- How a string writes one character. -/
def writtenChar (alphabet : Alphabet) (c : Char) : String :=
  let n := c.toNat
  if c = '"' then "\\\""
  else if c = '\\' then "\\\\"
  else if c = '\n' then "\\n"
  else if c = '\r' then "\\r"
  else if c = '\t' then "\\t"
  else if n = 8 then "\\b"
  else if n = 12 then "\\f"
  else if n < 0x20 then unitEscape n
  else if alphabet = .ascii ∧ 0x7F ≤ n then codeEscape n
  else c.toString

/-- A string in quotes. -/
def writtenString (alphabet : Alphabet) (s : String) : String :=
  "\"" ++ Text.replaceChars (writtenChar alphabet) s ++ "\""

/-- A number with a fraction; the values that are no numbers have words. -/
def writtenReal (x : Float) : String :=
  match floatReading x with
  | .undefined => "NaN"
  | .infinite true => "-Infinity"
  | .infinite false => "Infinity"
  | .exact _ => floatText x

/-- A value that holds no others. -/
def writtenAtom (alphabet : Alphabet) : Json → String
  | null => "null"
  | bool b => if b then "true" else "false"
  | int n => toString n
  | real x => writtenReal x
  | str s => writtenString alphabet s
  | arr _ => "[]"
  | obj _ => "\x7b\x7d"

mutual

/-- The value on one line. -/
def compact (alphabet : Alphabet) : Json → String
  | arr items => "[" ++ Text.joinWith ", " (compactItems alphabet items) ++ "]"
  | obj members => "\x7b" ++ Text.joinWith ", " (compactMembers alphabet members) ++ "\x7d"
  | j => writtenAtom alphabet j

/-- The items of a list, each on one line. -/
def compactItems (alphabet : Alphabet) : List Json → List String
  | [] => []
  | j :: rest => compact alphabet j :: compactItems alphabet rest

/-- The members of an object, each on one line. -/
def compactMembers (alphabet : Alphabet) : List (String × Json) → List String
  | [] => []
  | (name, j) :: rest =>
    (writtenString alphabet name ++ ": " ++ compact alphabet j) :: compactMembers alphabet rest

end

/-- The start of a line at a depth of nesting. -/
def lineStart (depth : Nat) : String :=
  "\n" ++ String.ofList (List.replicate (2 * depth) ' ')

mutual

/-- The value with one item or member a line; its first line is at the given
    depth. -/
def prettyAt (alphabet : Alphabet) (depth : Nat) : Json → String
  | arr (j :: rest) =>
    "[" ++ lineStart (depth + 1)
      ++ Text.joinWith ("," ++ lineStart (depth + 1)) (prettyItems alphabet (depth + 1) (j :: rest))
      ++ lineStart depth ++ "]"
  | obj (m :: rest) =>
    let start := lineStart (depth + 1)
    "\x7b" ++ start
      ++ Text.joinWith ("," ++ start) (prettyMembers alphabet (depth + 1) (m :: rest))
      ++ lineStart depth ++ "\x7d"
  | j => writtenAtom alphabet j

/-- The items of a list at a depth. -/
def prettyItems (alphabet : Alphabet) (depth : Nat) : List Json → List String
  | [] => []
  | j :: rest => prettyAt alphabet depth j :: prettyItems alphabet depth rest

/-- The members of an object at a depth. -/
def prettyMembers (alphabet : Alphabet) (depth : Nat) : List (String × Json) → List String
  | [] => []
  | (name, j) :: rest =>
    (writtenString alphabet name ++ ": " ++ prettyAt alphabet depth j)
      :: prettyMembers alphabet depth rest

end

/-- The value with one item or member a line. -/
def pretty (alphabet : Alphabet) (j : Json) : String :=
  prettyAt alphabet 0 j

end Json

end Letterpress
