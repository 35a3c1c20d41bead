import Letterpress.Text.Digit
import Letterpress.Text.Join
import Letterpress.Text.Reference.Capital
import Letterpress.Text.Reference.Small

/-!
# Character References

Decoding of references such as `&amp;` and `&#38;` in attribute values.

A named reference is the longest known name at its place. Most names have to end
in a semicolon; the oldest need not. A numeric reference stands for its code point,
except that codes of the old 8-bit controls mean the characters they were used for,
and codes that can be no text are dropped or replaced.

## Main definitions

* `openNames`: The names that may be written without a semicolon.
* `closedNames`: The other names.
* `numericReference`: The text for a code.
* `decodeReferences`: A text with its references decoded.
-/

namespace Letterpress.Text

/-- The names that may be written without a semicolon, and their characters. -/
def openNames : List (String × Char) :=
  [("AElig", '\u00C6'), ("AMP", '\u0026'), ("Aacute", '\u00C1'), ("Acirc", '\u00C2'),
    ("Agrave", '\u00C0'), ("Aring", '\u00C5'), ("Atilde", '\u00C3'), ("Auml", '\u00C4'),
    ("COPY", '\u00A9'), ("Ccedil", '\u00C7'), ("ETH", '\u00D0'), ("Eacute", '\u00C9'),
    ("Ecirc", '\u00CA'), ("Egrave", '\u00C8'), ("Euml", '\u00CB'), ("GT", '\u003E'),
    ("Iacute", '\u00CD'), ("Icirc", '\u00CE'), ("Igrave", '\u00CC'), ("Iuml", '\u00CF'),
    ("LT", '\u003C'), ("Ntilde", '\u00D1'), ("Oacute", '\u00D3'), ("Ocirc", '\u00D4'),
    ("Ograve", '\u00D2'), ("Oslash", '\u00D8'), ("Otilde", '\u00D5'), ("Ouml", '\u00D6'),
    ("QUOT", '\u0022'), ("REG", '\u00AE'), ("THORN", '\u00DE'), ("Uacute", '\u00DA'),
    ("Ucirc", '\u00DB'), ("Ugrave", '\u00D9'), ("Uuml", '\u00DC'), ("Yacute", '\u00DD'),
    ("aacute", '\u00E1'), ("acirc", '\u00E2'), ("acute", '\u00B4'), ("aelig", '\u00E6'),
    ("agrave", '\u00E0'), ("amp", '\u0026'), ("aring", '\u00E5'), ("atilde", '\u00E3'),
    ("auml", '\u00E4'), ("brvbar", '\u00A6'), ("ccedil", '\u00E7'), ("cedil", '\u00B8'),
    ("cent", '\u00A2'), ("copy", '\u00A9'), ("curren", '\u00A4'), ("deg", '\u00B0'),
    ("divide", '\u00F7'), ("eacute", '\u00E9'), ("ecirc", '\u00EA'), ("egrave", '\u00E8'),
    ("eth", '\u00F0'), ("euml", '\u00EB'), ("frac12", '\u00BD'), ("frac14", '\u00BC'),
    ("frac34", '\u00BE'), ("gt", '\u003E'), ("iacute", '\u00ED'), ("icirc", '\u00EE'),
    ("iexcl", '\u00A1'), ("igrave", '\u00EC'), ("iquest", '\u00BF'), ("iuml", '\u00EF'),
    ("laquo", '\u00AB'), ("lt", '\u003C'), ("macr", '\u00AF'), ("micro", '\u00B5'),
    ("middot", '\u00B7'), ("nbsp", '\u00A0'), ("not", '\u00AC'), ("ntilde", '\u00F1'),
    ("oacute", '\u00F3'), ("ocirc", '\u00F4'), ("ograve", '\u00F2'), ("ordf", '\u00AA'),
    ("ordm", '\u00BA'), ("oslash", '\u00F8'), ("otilde", '\u00F5'), ("ouml", '\u00F6'),
    ("para", '\u00B6'), ("plusmn", '\u00B1'), ("pound", '\u00A3'), ("quot", '\u0022'),
    ("raquo", '\u00BB'), ("reg", '\u00AE'), ("sect", '\u00A7'), ("shy", '\u00AD'),
    ("sup1", '\u00B9'), ("sup2", '\u00B2'), ("sup3", '\u00B3'), ("szlig", '\u00DF'),
    ("thorn", '\u00FE'), ("times", '\u00D7'), ("uacute", '\u00FA'), ("ucirc", '\u00FB'),
    ("ugrave", '\u00F9'), ("uml", '\u00A8'), ("uuml", '\u00FC'), ("yacute", '\u00FD'),
    ("yen", '\u00A5'), ("yuml", '\u00FF')]

/-- The names that have to be written with a semicolon, letter by letter. -/
def closedNames : List (List (String × List Nat)) :=
  [capitalNamesAToL, capitalNamesMToZ, smallNamesAToD, smallNamesEToL, smallNamesMToR,
    smallNamesSToZ]

/-- The characters that the codes from 0x80 to 0x9F were used for. -/
def controlCharacters : List Nat :=
  [0x20AC, 0x81, 0x201A, 0x192, 0x201E, 0x2026, 0x2020, 0x2021, 0x2C6, 0x2030, 0x160, 0x2039,
    0x152, 0x8D, 0x17D, 0x8F, 0x90, 0x2018, 0x2019, 0x201C, 0x201D, 0x2022, 0x2013, 0x2014,
    0x2DC, 0x2122, 0x161, 0x203A, 0x153, 0x9D, 0x17E, 0x178]

/-- The code stands for no text: a control, or a code point set aside for no
    character. -/
def isEmptyCode (n : Nat) : Bool :=
  (1 ≤ n && n ≤ 8) || n = 0xB || (0xE ≤ n && n ≤ 0x1F) || n = 0x7F
    || (0xFDD0 ≤ n && n ≤ 0xFDEF) || n % 0x10000 = 0xFFFE || n % 0x10000 = 0xFFFF

/-- The text for a code. -/
def numericReference (n : Nat) : List Char :=
  if 0x80 ≤ n ∧ n ≤ 0x9F then
    [Char.ofNat (controlCharacters[n - 0x80]?.getD n)]
  else if n = 0 ∨ (0xD800 ≤ n ∧ n ≤ 0xDFFF) ∨ 0x10FFFF < n then ['\uFFFD']
  else if isEmptyCode n then []
  else [Char.ofNat n]

/-- The value of hexadecimal digits. -/
def hexValue (ds : List Char) : Nat :=
  ds.foldl (fun n c =>
    16 * n + (if c.isDigit then c.toNat - 48 else c.toLower.toNat - 87)) 0

/-- A hexadecimal digit. -/
def isHexDigit (c : Char) : Bool :=
  c.isDigit || ('a' ≤ c && c ≤ 'f') || ('A' ≤ c && c ≤ 'F')

/-- The text without a semicolon at its start. -/
def dropSemicolon : List Char → List Char
  | ';' :: rest => rest
  | s => s

/-- The characters that can be part of a named reference. -/
def isNameChar (c : Char) : Bool :=
  !(c = '\t' || c = '\n' || c = '\x0c' || c = ' ' || c = '<' || c = '&' || c = '#' || c = ';')

/-- The text that a name stands for, which has a semicolon after it or not. -/
def namedText? (isClosed : Bool) (name : List Char) : Option (List Char) :=
  match openNames.lookup (String.ofList name) with
  | some c => some [c]
  | none =>
    if isClosed then
      (closedNames.findSome? fun names => names.lookup (String.ofList name)).map fun codes =>
        codes.map Char.ofNat
    else none

/-- The longest front of a name, of at most the given length, that is a known name
    of two characters or more, decoded; the rest of the name follows. -/
def longestName? (name : List Char) : Nat → Option (List Char)
  | 0 => none
  | 1 => none
  | n + 2 =>
    match namedText? false (name.take (n + 2)) with
    | some text => some (text ++ name.drop (n + 2))
    | none => longestName? name (n + 1)

/-- The text that stands for a named reference, which has a semicolon after it or not. -/
def namedReference (isClosed : Bool) (name : List Char) : List Char :=
  match namedText? isClosed name with
  | some text => text
  | none =>
    let written := if isClosed then name ++ [';'] else name
    (longestName? written (written.length - 1)).getD ('&' :: written)

/-- The reference at the start of a text, which follows an ampersand: what it
    stands for, and the rest. -/
def readReference? (s : List Char) : Option (Except NumeralError (List Char) × List Char) :=
  match s with
  | '#' :: rest =>
    let ds := rest.takeWhile Char.isDigit
    if ds ≠ [] then
      some ((readWhole ds).map numericReference, dropSemicolon (rest.drop ds.length))
    else
      match rest with
      | x :: digits =>
        let ds := digits.takeWhile isHexDigit
        if (x = 'x' ∨ x = 'X') ∧ ds ≠ [] then
          some (.ok (numericReference (hexValue ds)), dropSemicolon (digits.drop ds.length))
        else none
      | [] => none
  | _ =>
    let name := (s.takeWhile isNameChar).take 32
    if name = [] then none
    else
      let rest := s.drop name.length
      match rest with
      | ';' :: more => some (.ok (namedReference true name), more)
      | _ => some (.ok (namedReference false name), rest)

/-- The text with its references decoded; `fuel` bounds the number of steps. -/
def decodeReferencesFrom (fuel : Nat) (s : List Char) : Except NumeralError (List Char) :=
  match fuel, s with
  | 0, s => return s
  | _, [] => return []
  | fuel + 1, c :: rest =>
    if c = '&' then
      match readReference? rest with
      | some (decoded, more) => return (← decoded) ++ (← decodeReferencesFrom fuel more)
      | none => return c :: (← decodeReferencesFrom fuel rest)
    else return c :: (← decodeReferencesFrom fuel rest)

/-- The text with its references decoded. A decimal code may be too long to be read. -/
def decodeReferences (s : List Char) : Except NumeralError (List Char) :=
  decodeReferencesFrom s.length s

end Letterpress.Text
