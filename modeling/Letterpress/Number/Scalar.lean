/-!
# Scalars

The number system a design is measured in.

Coordinates, channels and scales are *scalars*. Nothing in the layout code
depends on which number system they come from, so it is written once for
every `Scalar`: the program runs on binary floating point
(`Letterpress.Number.Binary64`), and statements about ideal geometry are made
about the rationals (`Letterpress.Number.Exact`).

What makes a type of scalars usable for layout is that each of its values can
be *read*: as an exact rational, as an infinity, or as not a number at all.
Rounding to whole pixels is a function of that reading, which is why it fails
on the values that are no rational.

## Main definitions

* `Reading`: The exact meaning of a scalar.
* `NumberError`: The ways in which arithmetic on scalars can fail.
* `Scalar`: A number system for layout.
* `Scalar.floor`, `Scalar.ceil`: The neighbouring whole numbers.
* `Scalar.roundHalfUp`: The nearest whole number, halves upwards.
* `Scalar.ofInt?`: A whole number as a scalar, if it is in range.
* `Scalar.divide?`: The quotient, unless the divisor is zero.
* `Scalar.format`: A scalar's text without a trailing `.0`.
* `Scalar.toHundredths`, `Scalar.fixedHundredths`: Two decimal places.
-/

namespace Letterpress

/-- The exact meaning of a scalar. -/
inductive Reading where
  /-- A finite value. -/
  | exact (value : Rat)
  /-- Not a number. -/
  | undefined
  /-- An infinity, negative or positive. -/
  | infinite (negative : Bool)
  deriving DecidableEq

/-- The ways in which arithmetic on scalars can fail. -/
inductive NumberError where
  /-- A whole number was asked of something that is not a number. -/
  | undefined
  /-- A whole number was asked of an infinity. -/
  | infinite
  /-- A whole number lies beyond the scalars. -/
  | outOfRange
  /-- A divisor was zero. -/
  | zeroDivisor
  deriving DecidableEq, Repr

/-- The message shown for a failed computation. -/
def NumberError.message : NumberError → String
  | .undefined => "cannot convert float NaN to integer"
  | .infinite => "cannot convert float infinity to integer"
  | .outOfRange => "int too large to convert to float"
  | .zeroDivisor => "float division by zero"

/-- A number system for layout: arithmetic, a decidable order, decimal
    literals, the exact reading of each value and its shortest text. -/
class Scalar (K : Type) extends Add K, Sub K, Mul K, Div K, Neg K, LT K, LE K, OfScientific K where
  /-- The order is decidable. -/
  decLt : DecidableRel (α := K) (· < ·)
  /-- The weak order is decidable. -/
  decLe : DecidableRel (α := K) (· ≤ ·)
  /-- The exact meaning of a value. -/
  reading : K → Reading
  /-- The value is written with a minus sign. -/
  negative : K → Bool
  /-- The shortest text that identifies the value. -/
  text : K → String

attribute [reducible, instance] Scalar.decLt Scalar.decLe

namespace Scalar

/-- The whole number that a rational rounds to, halves going to the even
    neighbour. -/
def nearestEven (q : Rat) : Int :=
  let below := q.floor
  let rest := q - below
  if rest < 1 / 2 then below
  else if 1 / 2 < rest then below + 1
  else if below % 2 = 0 then below else below + 1

variable {K : Type} [Scalar K]

/-- The exact value of a finite scalar. -/
def rational (x : K) : Except NumberError Rat :=
  match reading x with
  | .exact q => .ok q
  | .undefined => .error .undefined
  | .infinite _ => .error .infinite

/-- The greatest whole number that is not above the scalar. -/
def floor (x : K) : Except NumberError Int :=
  Rat.floor <$> rational x

/-- The least whole number that is not below the scalar. -/
def ceil (x : K) : Except NumberError Int :=
  Rat.ceil <$> rational x

/-- The nearest whole number; a half goes up. Layout tools place pixels this
    way, so that neighbouring boxes never both take the half. -/
def roundHalfUp (x : K) : Except NumberError Int :=
  floor (x + 0.5)

/-- A natural number as a scalar, rounded if it does not fit exactly. -/
def ofNat (n : Nat) : K :=
  OfScientific.ofScientific n false 0

/-- The integer as a scalar, or an error if it lies beyond the finite ones. -/
def ofInt? (n : Int) : Except NumberError K :=
  let magnitude : K := ofNat n.natAbs
  match reading magnitude with
  | .exact _ => .ok (if n < 0 then -magnitude else magnitude)
  | _ => .error .outOfRange

/-- Rounding to pixels of a length that already is a whole number. -/
def roundInt (n : Int) : Except NumberError Int := do
  roundHalfUp (← ofInt? n : K)

/-- The scalar is zero. -/
def isZero (x : K) : Bool :=
  reading x = .exact 0

/-- The quotient of two scalars; a zero divisor is an error. -/
def divide? (x y : K) : Except NumberError K :=
  if isZero y then .error .zeroDivisor else .ok (x / y)

/-- The first value, unless the second is greater. -/
def larger (x y : K) : K :=
  if x < y then y else x

/-- A scalar as text, with no fraction shown for whole numbers. -/
def format (x : K) : String :=
  match reading x with
  | .exact q => if q.den = 1 then toString q.num else text x
  | _ => text x

/-- The decimal with the given digits and two places, with a sign if asked. -/
def ofHundredths (minus : Bool) (hundredths : Nat) : K :=
  let magnitude : K := OfScientific.ofScientific hundredths true 2
  if minus then -magnitude else magnitude

/-- The magnitude of a rational in hundredths, halves to even. -/
def hundredths (q : Rat) : Nat :=
  (nearestEven (q.abs * 100)).toNat

/-- The scalar rounded to two decimal places, halves to even. -/
def toHundredths (x : K) : K :=
  match reading x with
  | .exact q => ofHundredths (negative x) (hundredths q)
  | _ => x

/-- A count of hundredths as a numeral with two decimal places. -/
def hundredthsNumeral (minus : Bool) (n : Nat) : String :=
  let places := n % 100
  (if minus then "-" else "") ++ toString (n / 100) ++ "."
    ++ toString (places / 10) ++ toString (places % 10)

/-- The scalar with exactly two decimal places, halves to even. -/
def fixedHundredths (x : K) : String :=
  match reading x with
  | .exact q => hundredthsNumeral (negative x) (hundredths q)
  | _ => text x

end Scalar

end Letterpress
