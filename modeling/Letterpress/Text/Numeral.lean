import Letterpress.Text.Blank
import Letterpress.Text.Digit

/-!
# Numerals

Reading numbers that people wrote. White space around a numeral is ignored,
digits may come from any script, and a single underscore may stand between two
digits.

## Main definitions

* `isWhiteSpace`, `trimWhiteSpace`: What is ignored around a numeral.
* `digitIn?`: The value of a digit in a base.
* `readSign`: The sign in front of a numeral.
* `readInteger?`: An integer in a given base.
* `Numeral`: A decimal, an infinity or no number.
* `readNumeral?`: A numeral with an optional fraction and exponent.
-/

namespace Letterpress.Text

/-- White space in the narrow sense: the blanks without the separators from U+001C
    to U+001F. -/
def isWhiteSpace (c : Char) : Bool :=
  isBlank c && !(0x1C ≤ c.toNat && c.toNat ≤ 0x1F)

/-- The text without white space on either side. -/
def trimWhiteSpace (s : List Char) : List Char :=
  ((s.dropWhile isWhiteSpace).reverse.dropWhile isWhiteSpace).reverse

/-- The value of a character as a digit in the given base: the digits of every
    script, then the ASCII letters. -/
def digitIn? (base : Nat) (c : Char) : Option Nat :=
  let value? :=
    match decimalDigit? c with
    | some d => some d
    | none =>
      if c.isLower then some (c.toNat - 'a'.toNat + 10)
      else if c.isUpper then some (c.toNat - 'A'.toNat + 10)
      else none
  value?.filter (· < base)

/-- The sign in front of a numeral (`true` for minus) and what follows it. -/
def readSign : List Char → Bool × List Char
  | '-' :: rest => (true, rest)
  | '+' :: rest => (false, rest)
  | s => (false, s)

/-- The digits of a numeral in which single underscores may stand between two
    digits; nothing else is allowed. -/
def groupedDigits? (base : Nat) : List Char → Option (List Nat)
  | [] => none
  | [c] => (digitIn? base c).map fun d => [d]
  | c :: '_' :: rest => do
    let d ← digitIn? base c
    let ds ← groupedDigits? base rest
    return d :: ds
  | c :: rest => do
    let d ← digitIn? base c
    let ds ← groupedDigits? base rest
    return d :: ds

/-- The number that digits stand for in a base. -/
def ofDigits (base : Nat) (ds : List Nat) : Nat :=
  ds.foldl (fun n d => base * n + d) 0

/-- The digits after an optional base mark such as `0x`; one underscore may
    follow the mark. -/
def dropBaseMark (base : Nat) (s : List Char) : List Char :=
  if base = 16 then
    match s with
    | '0' :: x :: rest =>
      if x = 'x' ∨ x = 'X' then
        match rest with
        | '_' :: digits => digits
        | digits => digits
      else s
    | _ => s
  else s

/-- So many digits can be read in the given base. -/
def isReadable (base count : Nat) : Bool :=
  base ≠ 10 || count ≤ numeralLimit

/-- The integer that a text denotes in the given base. -/
def readInteger? (base : Nat) (s : List Char) : Option Int := do
  let (minus, digits) := readSign (trimWhiteSpace s)
  let ds ← (groupedDigits? base (dropBaseMark base digits)).filter fun ds =>
    isReadable base ds.length
  let n : Int := ofDigits base ds
  return if minus then -n else n

/-- What a numeral denotes. -/
inductive Numeral where
  /-- The decimal `digits * 10 ^ exponent`, negated if `negative`. -/
  | decimal (negative : Bool) (digits : Nat) (exponent : Int)
  /-- An infinity. -/
  | infinite (negative : Bool)
  /-- Not a number. -/
  | undefined
  deriving DecidableEq, Repr

/-- A text without the underscores that stand between two digits, or nothing if
    an underscore stands elsewhere; `afterDigit` tells that a digit precedes. -/
def ungroup? (afterDigit : Bool) : List Char → Option (List Char)
  | [] => some []
  | '_' :: rest =>
    match rest with
    | [] => none
    | c :: _ => if afterDigit && isDecimalDigit c then ungroup? false rest else none
  | c :: rest => (ungroup? (isDecimalDigit c) rest).map (c :: ·)

/-- The exponent at the end of a numeral, zero if there is none. -/
def readExponent? : List Char → Option Int
  | [] => some 0
  | c :: rest =>
    if c = 'e' ∨ c = 'E' then
      let (minus, ds) := readSign rest
      if ds = [] ∨ !ds.all isDecimalDigit then none
      else
        let n : Int := numeralValue ds
        some (if minus then -n else n)
    else none

/-- A number of the form `12`, `12.`, `.5` or `12.5`, with an optional exponent. -/
def readDecimal? (negative : Bool) (s : List Char) : Option Numeral :=
  let whole := s.takeWhile isDecimalDigit
  let rest := s.dropWhile isDecimalDigit
  let (places, rest) : List Char × List Char :=
    match rest with
    | '.' :: more => (more.takeWhile isDecimalDigit, more.dropWhile isDecimalDigit)
    | _ => ([], rest)
  if whole = [] ∧ places = [] then none
  else
    (readExponent? rest).map fun e =>
      .decimal negative (numeralValue (whole ++ places)) (e - places.length)

/-- The number that a text denotes. The words for infinity and for no number are
    read in any letter case. -/
def readNumeral? (s : List Char) : Option Numeral :=
  let (negative, body) := readSign (trimWhiteSpace s)
  let word := String.ofList (body.map Char.toLower)
  if word = "inf" ∨ word = "infinity" then some (.infinite negative)
  else if word = "nan" then some .undefined
  else (ungroup? false body).bind (readDecimal? negative)

end Letterpress.Text
