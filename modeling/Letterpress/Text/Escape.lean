import Letterpress.Text.Join
import Letterpress.Text.Printable

/-!
# Text in Quotes

Characters that markup would read as its own are written as references.

Messages show a text so that its ends and its odd characters can be seen. Single quotes
surround the text unless it holds single quotes and no double ones. The quote, the
backslash and the three common controls are written with a backslash; any other character
that is not printable is written as its code point in two, four or eight hexadecimal
digits.

## Main definitions

* `escapeQuoted`: For attribute values in either kind of quotes.
* `escapeAttribute`: For attribute values in double quotes, and nothing more.
* `hexDigits`: A number in hexadecimal, padded to a width.
* `quoted`: The text in quotes, as messages show it.
-/

namespace Letterpress.Text

/-- How character data writes one character. -/
def textReference : Char → String
  | '&' => "&amp;"
  | '<' => "&lt;"
  | '>' => "&gt;"
  | c => c.toString

/-- How a value in either kind of quotes writes one character. -/
def quotedReference : Char → String
  | '"' => "&quot;"
  | '\'' => "&#x27;"
  | c => textReference c

/-- How a value in double quotes writes one character. -/
def attributeReference : Char → String
  | '&' => "&amp;"
  | '"' => "&quot;"
  | c => c.toString

/-- An attribute value that reads back as the text in either kind of quotes. -/
def escapeQuoted (s : String) : String :=
  replaceChars quotedReference s

/-- An attribute value that reads back as the text in double quotes. -/
def escapeAttribute (s : String) : String :=
  replaceChars attributeReference s

/-- The number in lower-case hexadecimal digits, at least `width` of them. -/
def hexDigits (width n : Nat) : String :=
  let ds := Nat.toDigits 16 n
  String.ofList (List.replicate (width - ds.length) '0' ++ ds)

/-- The code point of a character that is not printable. -/
def codePointEscape (n : Nat) : String :=
  if n < 0x100 then "\\x" ++ hexDigits 2 n
  else if n < 0x10000 then "\\u" ++ hexDigits 4 n
  else "\\U" ++ hexDigits 8 n

/-- How a character is written between the given quotes. -/
def quotedChar (quote c : Char) : String :=
  if c = quote ∨ c = '\\' then "\\" ++ c.toString
  else if c = '\n' then "\\n"
  else if c = '\r' then "\\r"
  else if c = '\t' then "\\t"
  else if isPrintable c then c.toString
  else codePointEscape c.toNat

/-- The quote that surrounds a text. -/
def quoteFor (s : List Char) : Char :=
  if '\'' ∈ s ∧ '"' ∉ s then '"' else '\''

/-- The text in quotes. -/
def quoted (s : String) : String :=
  let q := quoteFor s.toList
  q.toString ++ replaceChars (quotedChar q) s ++ q.toString

end Letterpress.Text
