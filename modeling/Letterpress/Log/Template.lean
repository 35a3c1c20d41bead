import Letterpress.Log.Conversion
import Letterpress.Text.Casing
import Letterpress.Text.Digit
import Letterpress.Text.Join
import Letterpress.Text.WordChar

/-!
# Log Templates

How a record becomes a line. A template is text with fields in it, each a percent
sign, a name in parentheses, and a conversion: `%(levelname)-8s`. Two percent signs
stand for one. A field without a name is the record itself, and can only be the first.

A record that lacks a field of the template, or has one that the conversion does not
fit, is not written at all.

## Main definitions

* `Field`, `Piece`: What a template consists of.
* `readField?`, `readPieces?`: Reading templates.
* `hasField`: A text is a template at all.
* `fill?`: The line that a template makes of a record.
-/

namespace Letterpress

namespace Template

/-- A field: its name, and how the value is to be written. -/
structure Field where
  name : Option String
  conversion : Conversion
  deriving DecidableEq, Repr

/-- A part of a template. -/
inductive Piece where
  | literal (c : Char)
  | field (field : Field)
  deriving DecidableEq, Repr

/-! ### Reading -/

/-- The name that a field starts with, up to the parenthesis that closes the one before
    it, with so many others open. -/
def readName? : Nat → List Char → Option (List Char × List Char)
  | _, [] => none
  | 0, ')' :: rest => some ([], rest)
  | depth + 1, ')' :: rest => (readName? depth rest).map fun (name, rest) => (')' :: name, rest)
  | depth, '(' :: rest => (readName? (depth + 1) rest).map fun (name, rest) => ('(' :: name, rest)
  | depth, c :: rest => (readName? depth rest).map fun (name, rest) => (c :: name, rest)

/-- The number at the start of a text, if there is one, and the rest. -/
def readCount (s : List Char) : Option Nat × List Char :=
  let digits := s.takeWhile Char.isDigit
  (if digits.isEmpty then none else some (Text.numeralValue digits), s.drop digits.length)

/-- The precision that a point starts, zero if no number follows, and the rest. -/
def readPrecision : List Char → Option Nat × List Char
  | '.' :: rest =>
    let (count, rest) := readCount rest
    (some (count.getD 0), rest)
  | rest => (none, rest)

/-- The letter at the start of a text and the rest. A letter for the size of numbers may
    stand before it and says nothing. -/
def readLetter? : List Char → Option (Char × List Char)
  | [] => none
  | c :: rest =>
    if "hlL".toList.contains c then
      match rest with
      | [] => none
      | c :: rest => some (c, rest)
    else some (c, rest)

/-- The greatest width, and the greatest precision. -/
def lengthLimit : Nat := 0x7FFFFFFF

/-- The conversion at the start of a text, and the rest. -/
def readConversion? (s : List Char) : Option (Conversion × List Char) := do
  let (flags, rest) := Flags.read {} s
  let (width, rest) := readCount rest
  let (precision, rest) := readPrecision rest
  let (letter, rest) ← readLetter? rest
  if lengthLimit < width.getD 0 ∨ lengthLimit < precision.getD 0 then none
  else return (⟨flags, width.getD 0, precision, letter⟩, rest)

/-- The field that a percent sign starts, and the rest. -/
def readField? (s : List Char) : Option (Field × List Char) := do
  match s with
  | '(' :: rest =>
    let (name, rest) ← readName? 0 rest
    let (conversion, rest) ← readConversion? rest
    return (⟨some (String.ofList name), conversion⟩, rest)
  | _ =>
    let (conversion, rest) ← readConversion? s
    return (⟨none, conversion⟩, rest)

/-- The pieces of a template of at most `fuel` characters. -/
def readPieces? : Nat → List Char → Option (List Piece)
  | _, [] => some []
  | 0, _ => none
  | fuel + 1, '%' :: '%' :: rest => (readPieces? fuel rest).map (.literal '%' :: ·)
  | fuel + 1, '%' :: rest =>
    match readField? rest with
    | some (field, rest) => (readPieces? fuel rest).map (.field field :: ·)
    | none => none
  | fuel + 1, c :: rest => (readPieces? fuel rest).map (.literal c :: ·)

/-! ### Texts that are templates -/

/-- What follows a width or precision, or nothing if there is none. -/
def afterCount? (s : List Char) : Option (List Char) :=
  match s with
  | '*' :: rest => some rest
  | c :: _ => if Text.isDecimalDigit c then some (s.dropWhile Text.isDecimalDigit) else none
  | [] => none

/-- A conversion with a letter for some notation, in either case. -/
def startsConversion (s : List Char) : Bool :=
  let rest := s.dropWhile "#0+ -".toList.contains
  let rest := (afterCount? rest).getD rest
  let rest := match rest with
    | '.' :: places => (afterCount? places).getD rest
    | _ => rest
  match rest with
  | c :: _ => "diouxefgcrsa%".toList.any fun letter => Text.matchesLetter letter c
  | [] => false

/-- A field with a word for its name. -/
def startsField (s : List Char) : Bool :=
  match s with
  | '(' :: more =>
    match more.takeWhile Text.isWordChar, more.dropWhile Text.isWordChar with
    | _ :: _, ')' :: rest => startsConversion rest
    | _, _ => false
  | _ => false

/-- A field with a word for its name starts somewhere in a text. -/
def hasField : List Char → Bool
  | [] => false
  | c :: rest => (c = '%' && startsField rest) || hasField rest

/-! ### Filling in -/

/-- The value of a field. -/
def Field.value? (f : Field) (isFirst : Bool) (r : LogRecord) : Option LogRecord.Value :=
  match f.name with
  | some name => r.value? name
  | none => if isFirst then some r.whole else none

/-- What pieces of a template make of a record; `isFirst` tells that no field came
    before. -/
def fillPieces? (r : LogRecord) (isFirst : Bool) : List Piece → Option (List String)
  | [] => some []
  | .literal c :: rest => (fillPieces? r isFirst rest).map (c.toString :: ·)
  | .field f :: rest => do
    let value ← f.value? isFirst r
    let part ← f.conversion.written? value
    let parts ← fillPieces? r false rest
    return part :: parts

/-- The line that a template makes of a record. -/
def fill? (template : String) (r : LogRecord) : Option String := do
  let pieces ← readPieces? template.length template.toList
  return Text.concat (← fillPieces? r true pieces)

end Template

end Letterpress
