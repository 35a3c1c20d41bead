import Letterpress.Log.Record
import Letterpress.Number.Notation

/-!
# Conversions

How a template wants a value written: a letter for the notation, and before it flags, a
width to fill, and a precision. The precision is the most characters of a text, the
least digits of a whole number, or the places of a decimal.

## Main definitions

* `Flags`, `Conversion`: A conversion and its flags.
* `Flags.read`: The flags at the start of a text.
* `Conversion.written?`: The text that a conversion makes of a value.
-/

namespace Letterpress

/-- The flags of a conversion. -/
structure Flags where
  /-- Fill up on the right instead of the left. -/
  left : Bool := false
  /-- Write the sign of numbers that are not negative. -/
  plus : Bool := false
  /-- Write a blank for the sign of numbers that are not negative. -/
  blank : Bool := false
  /-- Write the full form of a notation. -/
  full : Bool := false
  /-- Fill numbers up with zeros. -/
  zeros : Bool := false
  deriving DecidableEq, Repr

/-- How a value is to be written. -/
structure Conversion where
  flags : Flags
  width : Nat
  precision : Option Nat
  letter : Char
  deriving DecidableEq, Repr

namespace Flags

/-- The flags at the start of a text added to those before, and the rest. -/
def read (flags : Flags) : List Char → Flags × List Char
  | '-' :: rest => read { flags with left := true } rest
  | '+' :: rest => read { flags with plus := true } rest
  | ' ' :: rest => read { flags with blank := true } rest
  | '#' :: rest => read { flags with full := true } rest
  | '0' :: rest => read { flags with zeros := true } rest
  | rest => (flags, rest)

/-- The sign that a number is written with. -/
def sign (flags : Flags) (n : Int) : List Char :=
  if n < 0 then ['-']
  else if flags.plus then ['+']
  else if flags.blank then [' ']
  else []

end Flags

namespace Conversion

/-- A character with the code point, if there is one. -/
def character? (n : Int) : Option Char :=
  if 0 ≤ n ∧ n.toNat.isValidChar then some (Char.ofNat n.toNat) else none

/-- The text with every character beyond ASCII written as its code point. -/
def asciiText (s : String) : String :=
  Text.replaceChars
    (fun c => if c.toNat < 0x80 then c.toString else Text.codePointEscape c.toNat) s

/-- A text up to the precision. -/
def cut (c : Conversion) (s : String) : String :=
  match c.precision with
  | some n => String.ofList (s.toList.take n)
  | none => s

/-- The start of a text up to the precision, unless it takes more than the start. -/
def cutStart? (c : Conversion) (start : String) : Option String :=
  match c.precision with
  | some n => if n ≤ start.length then some (c.cut start) else none
  | none => none

/-- The text filled up to the width with blanks. -/
def padded (c : Conversion) (s : String) : String :=
  let blanks := String.ofList (List.replicate (c.width - s.length) ' ')
  if c.flags.left then s ++ blanks else blanks ++ s

/-- A number filled up to the width. Zeros go between what is in front of the digits
    and the digits themselves. -/
def paddedNumber (c : Conversion) (front digits : List Char) : String :=
  if c.flags.zeros && !c.flags.left then
    String.ofList (front ++ Notation.zeros (c.width - front.length - digits.length) ++ digits)
  else c.padded (String.ofList (front ++ digits))

/-- The base of a notation for whole numbers, and what marks it in the full form. -/
def base? : Char → Option (Nat × List Char)
  | 'd' | 'i' | 'u' => some (10, [])
  | 'o' => some (8, ['0', 'o'])
  | 'x' => some (16, ['0', 'x'])
  | 'X' => some (16, ['0', 'X'])
  | _ => none

/-- A whole number in a base. -/
def inBase (c : Conversion) (base : Nat) (mark : List Char) (n : Int) : String :=
  let digits := Notation.inBase base n.natAbs
  let digits := if c.letter = 'X' then digits.map Char.toUpper else digits
  let zeros := Notation.zeros (c.precision.getD 0 - digits.length)
  c.paddedNumber (c.flags.sign n ++ if c.flags.full then mark else []) (zeros ++ digits)

/-- The digits of a natural number as a decimal. The precision is six if none is given,
    and capital letters stand for capital exponent marks. -/
def decimalDigits? (c : Conversion) (n : Nat) : Option (List Char) :=
  let places := c.precision.getD 6
  match c.letter with
  | 'f' | 'F' => some (Notation.positional c.flags.full places n)
  | 'e' => some (Notation.scientific c.flags.full places n)
  | 'E' => some ((Notation.scientific c.flags.full places n).map Char.toUpper)
  | 'g' => some (Notation.general c.flags.full places n)
  | 'G' => some ((Notation.general c.flags.full places n).map Char.toUpper)
  | _ => none

/-- A whole number as a decimal, if it is not too large for one. -/
def decimal? (c : Conversion) (n : Int) : Option String := do
  let nearest ← nearestBinary? n.natAbs
  let digits ← c.decimalDigits? nearest
  return c.paddedNumber (c.flags.sign n) digits

/-- The text that a conversion makes of a number. -/
def ofNumber? (c : Conversion) (n : Int) : Option String :=
  match c.letter with
  | 's' | 'r' | 'a' => some (c.padded (c.cut (toString n)))
  | 'c' => (character? n).map fun char => c.padded char.toString
  | letter =>
    match base? letter with
    | some (base, mark) => some (c.inBase base mark n)
    | none => c.decimal? n

/-- The text that a conversion makes of a text. -/
def ofText? (c : Conversion) (s : String) : Option String :=
  match c.letter with
  | 's' => some (c.padded (c.cut s))
  | 'r' => some (c.padded (c.cut (Text.quoted s)))
  | 'a' => some (c.padded (c.cut (asciiText (Text.quoted s))))
  | 'c' => if s.length = 1 then some (c.padded s) else none
  | _ => none

/-- The text that a conversion makes of another value, if enough of it is known. -/
def ofOther? (c : Conversion) (start : String) (hasMore : Bool) : Option String :=
  let start := if c.letter = 'a' then asciiText start else start
  if "sra".toList.contains c.letter then
    if hasMore then (c.cutStart? start).map c.padded else some (c.padded (c.cut start))
  else none

/-- The text that a conversion makes of a value, if it fits the value. -/
def written? (c : Conversion) : LogRecord.Value → Option String
  | .text s => c.ofText? s
  | .number n => c.ofNumber? n
  | .other start hasMore => c.ofOther? start hasMore

end Conversion

end Letterpress
