import Letterpress.Number.Decimal
import Letterpress.Number.Scalar

/-!
# Binary Floating Point as Scalars

The scalars the program runs on: 64-bit binary floating point.

A finite number is read off its bits as a mantissa times a power of two. The
interval of reals that round to it reaches halfway to its two neighbours, and
the ends belong to it exactly when the mantissa is even; below a power of two
the neighbour is only half as far away.

## Main definitions

* `Binary64`: A finite non-negative number, mantissa times a power of two.
* `Binary64.basin`: The reals that round to it.
* `floatReading`: The exact meaning of a floating point number.
* `floatText`: Its shortest text.
* `floatOfDecimal`: The floating point number nearest to a decimal.
-/

namespace Letterpress

/-- A finite non-negative number, `mantissa * 2 ^ exponent`. -/
structure Binary64 where
  mantissa : Nat
  exponent : Int
  /-- The gap to the number below is half the gap to the number above. -/
  narrowBelow : Bool

namespace Binary64

/-- A power of two. -/
def twoTo (e : Int) : Rat :=
  if e < 0 then 1 / Nat.pow 2 e.natAbs else Nat.pow 2 e.natAbs

/-- The number whose sign is dropped from the given bits. -/
def ofBits (bits : UInt64) : Binary64 :=
  let field := ((bits >>> 52) &&& 0x7FF).toNat
  let fraction := (bits &&& 0xFFFFFFFFFFFFF).toNat
  if field = 0 then ⟨fraction, -1074, false⟩
  else ⟨Nat.pow 2 52 + fraction, field - 1075, fraction = 0 && 1 < field⟩

/-- The exact value. -/
def value (x : Binary64) : Rat :=
  x.mantissa * twoTo x.exponent

/-- The reals that round to the number, to nearest and ties to even. -/
def basin (x : Binary64) : Basin :=
  let quarter := twoTo (x.exponent - 2)
  let m := 4 * x.mantissa
  { value := x.value
    lower := (if x.narrowBelow then m - 1 else m - 2 : Nat) * quarter
    upper := (m + 2 : Nat) * quarter
    closed := x.mantissa % 2 = 0 }

end Binary64

/-- The sign bit of a floating point number. -/
def floatNegative (x : Float) : Bool :=
  x.toBits >>> 63 = 1

/-- The exact meaning of a floating point number. -/
def floatReading (x : Float) : Reading :=
  let bits := x.toBits
  let fraction := bits &&& 0xFFFFFFFFFFFFF
  if (bits >>> 52) &&& 0x7FF = 0x7FF then
    if fraction = 0 then .infinite (floatNegative x) else .undefined
  else
    let q := (Binary64.ofBits bits).value
    .exact (if floatNegative x then -q else q)

/-- The shortest text that reads back as the number. -/
def floatText (x : Float) : String :=
  let sign := if floatNegative x then "-" else ""
  match floatReading x with
  | .undefined => "nan"
  | .infinite _ => sign ++ "inf"
  | .exact q =>
    if q = 0 then sign ++ "0.0" else sign ++ (Binary64.ofBits x.toBits).basin.shortest.layout

/-- The floating point number nearest to `digits * 10 ^ exponent`. Decimals beyond
    any number become infinite or zero without being computed. -/
def floatOfDecimal (negative : Bool) (digits : Nat) (exponent : Int) : Float :=
  let leading := Decimal.width digits + exponent
  let magnitude : Float :=
    if digits = 0 ∨ leading < -400 then 0.0
    else if 400 < leading then 1.0 / 0.0
    else Float.ofScientific digits (exponent < 0) exponent.natAbs
  if negative then -magnitude else magnitude

instance : Scalar Float where
  decLt := fun x y => Float.decLt x y
  decLe := fun x y => Float.decLe x y
  reading := floatReading
  negative := floatNegative
  text := floatText

end Letterpress
