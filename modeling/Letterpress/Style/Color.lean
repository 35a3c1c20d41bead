import Letterpress.Number.Scalar
import Letterpress.Text.Escape
import Letterpress.Text.Numeral

/-!
# Colors

Colors have three channels between 0 and 1. In style sheets a channel is a byte.

## Main definitions

* `Rgb`: A color.
* `channelByte`: A channel as a byte.
* `Rgb.hex`, `Rgb.translucent`: The two ways of writing a color.
* `Rgb.brightness`: Perceived brightness on the scale of a byte.
* `ofHex?`: Reading a hexadecimal color.
* `hexBrightness?`: The brightness of a hexadecimal color.
-/

namespace Letterpress

/-- A color with channels between 0 and 1. -/
structure Rgb (K : Type) where
  red : K
  green : K
  blue : K

namespace Style

variable {K : Type} [Scalar K]

/-- A channel as a byte; values outside of 0 to 1 go to the nearer end. -/
def channelByte (x : K) : Except NumberError Nat := do
  return (min 255 (← Scalar.roundHalfUp (x * 255.0))).toNat

/-- The three bytes of a color. -/
def bytes (c : Rgb K) : Except NumberError (Nat × Nat × Nat) := do
  let r ← channelByte c.red
  let g ← channelByte c.green
  let b ← channelByte c.blue
  return (r, g, b)

/-- The color as `#rrggbb`. -/
def hex (c : Rgb K) : Except NumberError String := do
  let (r, g, b) ← bytes c
  return "#" ++ Text.hexDigits 2 r ++ Text.hexDigits 2 g ++ Text.hexDigits 2 b

/-- The color with an opacity, as `rgba(…)`. -/
def translucent (c : Rgb K) (opacity : K) : Except NumberError String := do
  let (r, g, b) ← bytes c
  return "rgba(" ++ toString r ++ ", " ++ toString g ++ ", " ++ toString b ++ ", "
    ++ Scalar.format opacity ++ ")"

/-- The perceived brightness of a color, from 0 to 255. -/
def brightness (c : Rgb K) : K :=
  (c.red * 0.299 + c.green * 0.587 + c.blue * 0.114) * 255.0

/-- A byte in two hexadecimal digits as a channel. A sign or a blank may take
    the place of the first digit. -/
def channelOfHex? (s : List Char) : Option K :=
  (Text.readInteger? 16 s).map fun n =>
    let magnitude : K := Scalar.ofNat n.natAbs
    (if n < 0 then -magnitude else magnitude) / 255.0

/-- The color that `#rrggbb` or `#rgb` denotes. Any number of leading `#` is
    accepted. -/
def ofHex? (s : String) : Option (Rgb K) :=
  let digits := s.toList.dropWhile (· = '#')
  let digits := if digits.length = 3 then digits.flatMap fun c => [c, c] else digits
  match digits with
  | [r₁, r₂, g₁, g₂, b₁, b₂] => do
    let r ← channelOfHex? [r₁, r₂]
    let g ← channelOfHex? [g₁, g₂]
    let b ← channelOfHex? [b₁, b₂]
    return ⟨r, g, b⟩
  | _ => none

/-- The brightness of the color that a hexadecimal text denotes. -/
def hexBrightness? (s : String) : Option K :=
  (ofHex? s).map brightness

end Style

end Letterpress
