/-!
# Notations of Natural Numbers

A natural number can be written in a base, with decimal places, or with an exponent.
Places are as many as asked for, and the last one is rounded, a half to the even digit.

The *full* form of a notation keeps what says nothing: the mark of the base, the point
that no place follows, the zeros that end a general notation.

## Main definitions

* `roundQuotient`: The quotient of two natural numbers as a natural number.
* `nearestBinary?`: The number of 53 binary digits that is nearest to a natural number.
* `inBase`: Digits in a base.
* `positional`: Decimal places after a point.
* `scientific`: One digit, places after a point, and an exponent.
* `general`: The positional notation for numbers of moderate size, the scientific one
  for others.
-/

namespace Letterpress

/-- The natural number nearest to a quotient. A half goes to the even neighbour. -/
def roundQuotient (n d : Nat) : Nat :=
  let below := n / d
  let twice := 2 * (n % d)
  if twice < d then below
  else if d < twice then below + 1
  else if below % 2 = 0 then below else below + 1

/-- The number nearest to a natural number among those of 53 binary digits and zeros
    after them. Beyond 1024 binary digits there is none. -/
def nearestBinary? (n : Nat) : Option Nat :=
  let step := Nat.pow 2 (n.log2 - 52)
  let nearest := roundQuotient n step * step
  if nearest < Nat.pow 2 1024 then some nearest else none

end Letterpress

namespace Letterpress.Notation

/-- So many zeros. -/
def zeros (n : Nat) : List Char :=
  List.replicate n '0'

/-- The digits of a number, small letters after nine. -/
def inBase (base n : Nat) : List Char :=
  Nat.toDigits base n

/-- Places with a point before them, which a short form has only if a place follows. -/
def afterPoint (isFull : Bool) (places : List Char) : List Char :=
  if places.isEmpty && !isFull then [] else '.' :: places

/-- A number with places, all of them zero. -/
def positional (isFull : Bool) (places n : Nat) : List Char :=
  inBase 10 n ++ afterPoint isFull (zeros places)

/-- The digits of an exponent, at least two of them. -/
def exponentDigits (n : Nat) : List Char :=
  let digits := inBase 10 n
  zeros (2 - digits.length) ++ digits

/-- The first digits of a number, rounded to so many, and the exponent of the first one.
    Numbers with fewer digits have zeros after them. Rounding nines up adds a digit in
    front, and the last one is dropped for it. -/
def significand (count n : Nat) : List Char × Nat :=
  let digits := inBase 10 n
  if digits.length ≤ count then (digits ++ zeros (count - digits.length), digits.length - 1)
  else
    let rounded := inBase 10 (roundQuotient n (Nat.pow 10 (digits.length - count)))
    (rounded.take count, digits.length - 1 + (rounded.length - count))

/-- Digits with a point after the first one, and an exponent. -/
def withExponent (isFull : Bool) (digits : List Char) (exponent : Nat) : List Char :=
  digits.take 1 ++ afterPoint isFull (digits.drop 1) ++ 'e' :: '+' :: exponentDigits exponent

/-- A number with one digit before the point and so many places. -/
def scientific (isFull : Bool) (places n : Nat) : List Char :=
  let (digits, exponent) := significand (places + 1) n
  withExponent isFull digits exponent

/-- Digits without the zeros at their end. -/
def dropZeros (digits : List Char) : List Char :=
  (digits.reverse.dropWhile fun c => c = '0').reverse

/-- A number with so many significant digits. It has an exponent if not all digits
    before the point are significant. -/
def general (isFull : Bool) (count n : Nat) : List Char :=
  let (digits, exponent) := significand (max count 1) n
  let places (start : Nat) : List Char :=
    if isFull then digits.drop start else dropZeros (digits.drop start)
  if exponent < max count 1 then
    digits.take (exponent + 1) ++ afterPoint isFull (places (exponent + 1))
  else withExponent isFull (digits.take 1 ++ places 1) exponent

end Letterpress.Notation
