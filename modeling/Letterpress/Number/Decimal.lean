/-!
# Shortest Decimals

The fewest decimal digits that single out one value among its neighbours.

A stored number stands for every real that rounds to it, an interval around
its exact value. Any decimal inside the interval reads back as the number, so
the text of a number is the decimal of the interval with the fewest digits,
and among those the one closest to the exact value. On each decimal grid only
the two neighbours of the value need to be tried.

## Main definitions

* `Decimal`: A natural number of digits times a power of ten.
* `Basin`: The reals that a stored number stands for.
* `Basin.shortest`: The shortest decimal in a basin.
* `Decimal.layout`: How the digits are laid out as text.
-/

namespace Letterpress

/-- A decimal, `digits * 10 ^ exponent`. -/
structure Decimal where
  digits : Nat
  exponent : Int
  deriving DecidableEq, Repr

namespace Decimal

/-- A power of ten. -/
def tenTo (e : Int) : Rat :=
  if e < 0 then 1 / Nat.pow 10 e.natAbs else Nat.pow 10 e.natAbs

/-- The exact value of a decimal. -/
def value (d : Decimal) : Rat :=
  d.digits * tenTo d.exponent

/-- How many digits a natural number is written with. -/
def width (n : Nat) : Nat :=
  (Nat.toDigits 10 n).length

/-- The least exponent `k` with `q < 10 ^ k`, for a positive rational. -/
def magnitude (q : Rat) : Int :=
  if 1 ≤ q then width q.floor.toNat
  else
    let k : Int := 1 - width (1 / q).floor.toNat
    if q < tenTo k then k else k + 1

/-- Trailing zeros moved from the digits into the exponent; `fuel` bounds how
    many. -/
def strip (fuel : Nat) (d : Decimal) : Decimal :=
  match fuel with
  | 0 => d
  | fuel + 1 =>
    if d.digits ≠ 0 ∧ d.digits % 10 = 0 then strip fuel ⟨d.digits / 10, d.exponent + 1⟩ else d

/-- The digits of an exponent, at least two of them. -/
def exponentDigits (n : Nat) : String :=
  (if n < 10 then "0" else "") ++ toString n

/-- A decimal as text. Leading exponents from -4 up to 15 are written
    positionally, with at least one place after the point; all others with one
    digit before the point and a signed exponent of two digits or more. -/
def layout (d : Decimal) : String :=
  let ds := Nat.toDigits 10 d.digits
  let point : Int := ds.length + d.exponent
  if -4 < point ∧ point ≤ 16 then
    if point ≤ 0 then
      "0." ++ String.ofList (List.replicate point.natAbs '0' ++ ds)
    else if ds.length ≤ point.toNat then
      String.ofList (ds ++ List.replicate (point.toNat - ds.length) '0') ++ ".0"
    else
      String.ofList (ds.take point.toNat ++ '.' :: ds.drop point.toNat)
  else
    let e := point - 1
    let mantissa := match ds with
      | [] => []
      | [c] => [c]
      | c :: rest => c :: '.' :: rest
    String.ofList mantissa ++ (if e < 0 then "e-" else "e+") ++ exponentDigits e.natAbs

end Decimal

/-- The reals that a positive stored number stands for: those between two
    ends, which count themselves when `closed` holds. -/
structure Basin where
  value : Rat
  lower : Rat
  upper : Rat
  closed : Bool

namespace Basin

/-- The basin holds a real. -/
def holds (b : Basin) (q : Rat) : Bool :=
  if b.closed then b.lower ≤ q && q ≤ b.upper else b.lower < q && q < b.upper

/-- The decimal with `n` digits that the basin holds, the closer one if both
    neighbours qualify, and of two equally close ones the even one. -/
def decimal? (b : Basin) (scale : Int) (n : Nat) : Option Decimal :=
  let e := scale - n
  let below : Decimal := ⟨(b.value / Decimal.tenTo e).floor.toNat, e⟩
  let above : Decimal := ⟨below.digits + 1, e⟩
  match b.holds below.value, b.holds above.value with
  | false, false => none
  | true, false => some below
  | false, true => some above
  | true, true =>
    let twice := 2 * b.value
    let middle := below.value + above.value
    if twice < middle then some below
    else if middle < twice then some above
    else if below.digits % 2 = 0 then some below else some above

/-- The shortest decimal that the basin holds. Seventeen digits suffice for
    every basin of a binary number with 53 significant bits; the bound on the
    search is generous. -/
def shortest (b : Basin) : Decimal :=
  let scale := Decimal.magnitude b.value
  let found := (List.range 40).findSome? fun n => b.decimal? scale (n + 1)
  match found with
  | some d => d.strip 40
  | none => ⟨b.value.floor.toNat, 0⟩

end Basin

end Letterpress
