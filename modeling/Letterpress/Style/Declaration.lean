import Letterpress.Number.Scalar
import Letterpress.Text.Blank
import Letterpress.Text.Casing
import Letterpress.Text.Digit
import Letterpress.Text.Join
import Letterpress.Text.Numeral

/-!
# Style Declarations

An inline style is a list of declarations, each a property and its value. This
module reads styles, and takes properties out of them. The values that are read and
written most are lengths.

## Main definitions

* `pixels`: A whole number of pixels.
* `points`: A length in points.
* `leadingInt?`: The integer that a text starts with.
* `readPixels`: The integer part of a declared length.
* `Declaration`: A property and its value.
* `readStyle`: The declarations of a style.
* `valueOf?`: The value of a property.
* `without`: The style with some properties removed.
* `isAbsolute`: The style positions its element absolutely.
-/

namespace Letterpress.Style

/-- A length in whole pixels, halves rounded up. -/
def pixels {K : Type} [Scalar K] (x : K) : Except NumberError String := do
  return toString (← Scalar.roundHalfUp x) ++ "px"

/-- A length in points, for a value in units of `factor` points. -/
def points {K : Type} [Scalar K] (x factor : K) : String :=
  Scalar.format (x * factor) ++ "pt"

/-- The integer that a text starts with, after blanks and an optional sign. -/
def leadingInt? (s : List Char) : Except NumeralError (Option Int) := do
  let (minus, rest) := Text.readSign (Text.trimStart s)
  let digits := rest.takeWhile Text.isDecimalDigit
  if digits = [] then return none
  else
    let n : Int := (← Text.readWhole digits)
    return some (if minus then -n else n)

/-- The integer part of a declared length; `fallback` if the declaration is
    missing or starts with no integer. -/
def readPixels (value : Option String) (fallback : Int) : Except NumeralError Int :=
  match value with
  | none => return fallback
  | some s => return (← leadingInt? s.toList).getD fallback

/-- A property and its value. -/
structure Declaration where
  property : String
  value : String
  deriving DecidableEq, Repr

/-- The declaration as it stands in a style. -/
def Declaration.css (d : Declaration) : String :=
  d.property ++ ":" ++ d.value

/-- The declaration in one rule of a style: what stands before the first colon
    and after it, without blank margins. A rule without a colon or without a
    property declares nothing. -/
def readDeclaration? (rule : List Char) : Option Declaration :=
  match rule.dropWhile (· ≠ ':') with
  | [] => none
  | _ :: value =>
    let property := Text.trim (rule.takeWhile (· ≠ ':'))
    if property = [] then none
    else some ⟨String.ofList property, String.ofList (Text.trim value)⟩

/-- The declarations of a style, in order. -/
def readStyle (style : String) : List Declaration :=
  (Text.splitOn (· = ';') style.toList).filterMap readDeclaration?

/-- The declaration is about the property, which is given in lower case. -/
def Declaration.isFor (d : Declaration) (property : String) : Bool :=
  Text.lowerString d.property = property

/-- The value of the first declaration of a property. -/
def valueOf? (style property : String) : Option String :=
  ((readStyle style).find? fun d => d.isFor property).map Declaration.value

/-- The style without the declarations of the given properties. -/
def without (removed : List String) (style : String) : String :=
  let kept := (readStyle style).filter fun d => !removed.contains (Text.lowerString d.property)
  Text.joinWith "; " (kept.map Declaration.css) ++ (if kept.isEmpty then "" else ";")

/-- The text starts with `position`, a colon and `absolute`, with blanks allowed
    around the colon. -/
def startsAbsolute (s : List Char) : Bool :=
  match (Text.afterWord? "position".toList s).map Text.trimStart with
  | some (':' :: rest) => (Text.afterWord? "absolute".toList (Text.trimStart rest)).isSome
  | _ => false

/-- Somewhere in the text stands `position: absolute`. -/
def mentionsAbsolute : List Char → Bool
  | [] => false
  | c :: rest => startsAbsolute (c :: rest) || mentionsAbsolute rest

/-- The style positions its element absolutely. -/
def isAbsolute (style : String) : Bool :=
  mentionsAbsolute style.toList

end Letterpress.Style
