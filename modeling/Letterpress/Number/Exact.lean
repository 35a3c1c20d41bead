import Letterpress.Number.Scalar

/-!
# Rationals as Scalars

Ideal geometry: the rationals, in which nothing is rounded that was not asked
to be.

## Main definitions

* `rationalText`: A rational as a whole number or a fraction.
-/

namespace Letterpress

/-- A rational as a whole number or a fraction in lowest terms. -/
def rationalText (q : Rat) : String :=
  if q.den = 1 then toString q.num else toString q.num ++ "/" ++ toString q.den

instance : Scalar Rat where
  decLt := fun x y => inferInstanceAs (Decidable (x < y))
  decLe := fun x y => inferInstanceAs (Decidable (x ≤ y))
  reading := .exact
  negative := fun q => q < 0
  text := rationalText

end Letterpress
