

/-!
# Decimal Digits and Numerals

The decimal digits of every script (Unicode version 14). Each script keeps its
ten digits next to one another, so a list of the zeros is the whole table.

Whole numbers may have any size, but a decimal numeral has a limit: longer ones are
neither read nor written. What counts is the number of digits, zeros in front included
and the sign apart.

## Main definitions

* `digitZeros`: The zero of every script.
* `decimalDigit?`: The value of a digit.
* `numeralValue`: The number that a list of digits stands for.
* `NumeralError`: A numeral is too long.
* `readWhole`: The number that digits stand for, within the limit.
* `isWritable`: The numeral of a number keeps to the limit.
-/

namespace Letterpress.Text

/-- The code points of the digit zero in every script. -/
def digitZeros : List Nat :=
  [0x30, 0x660, 0x6F0, 0x7C0, 0x966, 0x9E6, 0xA66, 0xAE6, 0xB66, 0xBE6, 0xC66, 0xCE6, 0xD66,
    0xDE6, 0xE50, 0xED0, 0xF20, 0x1040, 0x1090, 0x17E0, 0x1810, 0x1946, 0x19D0, 0x1A80, 0x1A90,
    0x1B50, 0x1BB0, 0x1C40, 0x1C50, 0xA620, 0xA8D0, 0xA900, 0xA9D0, 0xA9F0, 0xAA50, 0xABF0,
    0xFF10, 0x104A0, 0x10D30, 0x11066, 0x110F0, 0x11136, 0x111D0, 0x112F0, 0x11450, 0x114D0,
    0x11650, 0x116C0, 0x11730, 0x118E0, 0x11950, 0x11C50, 0x11D50, 0x11DA0, 0x16A60, 0x16AC0,
    0x16B50, 0x1D7CE, 0x1D7D8, 0x1D7E2, 0x1D7EC, 0x1D7F6, 0x1E140, 0x1E2F0, 0x1E950, 0x1FBF0]

/-- The value of a decimal digit of any script. -/
def decimalDigit? (c : Char) : Option Nat :=
  let n := c.toNat
  (digitZeros.find? fun start => start ≤ n && n < start + 10).map fun start => n - start

/-- The character is a decimal digit. -/
def isDecimalDigit (c : Char) : Bool :=
  (decimalDigit? c).isSome

/-- The number that a text of decimal digits stands for; characters that are no
    digits are passed over. -/
def numeralValue (s : List Char) : Nat :=
  (s.filterMap decimalDigit?).foldl (fun n d => 10 * n + d) 0

end Letterpress.Text

namespace Letterpress

/-- A numeral is too long. -/
inductive NumeralError where
  /-- A numeral with so many digits cannot be read. -/
  | unreadable (digits : Nat)
  /-- A number has too long a numeral to be written. -/
  | unwritable
  deriving DecidableEq, Repr

namespace Text

/-- The most digits that a decimal numeral may have. -/
def numeralLimit : Nat := 4300

/-- The number that decimal digits stand for, unless they are too many. -/
def readWhole (digits : List Char) : Except NumeralError Nat :=
  if numeralLimit < digits.length then .error (.unreadable digits.length)
  else .ok (numeralValue digits)

/-- The numeral of a number keeps to the limit. -/
def isWritable (n : Int) : Bool :=
  n.natAbs < Nat.pow 10 numeralLimit

end Text

/-- The error in words. -/
def NumeralError.message : NumeralError → String
  | unreadable digits =>
    exceeded ++ ": value has " ++ toString digits
      ++ " digits; use sys.set_int_max_str_digits() to increase the limit"
  | unwritable => exceeded
where
  /-- The words for both directions. -/
  exceeded : String :=
    "Exceeds the limit (" ++ toString Text.numeralLimit
      ++ " digits) for integer string conversion"

end Letterpress
