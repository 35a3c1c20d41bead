import Letterpress.Number.Scalar

/-!
# Shares of a Width

Dividing a full width among columns in proportion to their widths. Shares are
percentages with two decimal places; the last column takes what the rounding of
the others leaves.

## Main definitions

* `shares`: The exact shares.
* `roundedShares`: The shares in hundredths, adding up to the whole.
* `percentages`: Their numerals.
-/

namespace Letterpress.Layout

variable {K : Type} [Scalar K]

/-- The width, where negative widths count as nothing. -/
def usableWidth (w : K) : K :=
  Scalar.larger w 0.0

/-- The sum of scalars, from left to right. -/
def total (xs : List K) : K :=
  xs.foldl (· + ·) 0.0

/-- The shares of a hundred in proportion to the widths; equal shares if there is
    no width at all. -/
def shares (widths : List K) : List K :=
  let sum := total (widths.map usableWidth)
  if sum ≤ 0.0 then
    widths.map fun _ => (100.0 : K) / Scalar.ofNat widths.length
  else widths.map fun w => usableWidth w / sum * 100.0

/-- The shares rounded to two decimal places, the last one making up for the
    others. -/
def roundedShares (widths : List K) : List K :=
  match widths with
  | [] => []
  | _ =>
    let rounded := (shares widths).dropLast.map Scalar.toHundredths
    rounded ++ [Scalar.toHundredths (100.0 - total rounded)]

/-- The percentages that the widths take of a row. -/
def percentages (widths : List K) : List String :=
  (roundedShares widths).map Scalar.fixedHundredths

end Letterpress.Layout
