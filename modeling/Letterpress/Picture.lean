/-!
# Pictures

A picture is a size and a pixel for every place. Drawing paints over places: what is
drawn replaces what was there, also where it is translucent.

Letters are not drawn. A preview of a text shows what lies under it.

## Main definitions

* `Pixel`, `Area`, `Picture`: A pixel, a box of pixels, a picture.
* `Drawing`: A step of drawing.
* `Picture.draw`: A picture with something drawn on it.
-/

namespace Letterpress

/-- The channels of a pixel, from 0 to 255. -/
structure Pixel where
  red : Nat
  green : Nat
  blue : Nat
  alpha : Nat
  deriving DecidableEq, Repr

/-- The pixel of an empty picture. -/
def Pixel.clear : Pixel :=
  ⟨0, 0, 0, 0⟩

/-- A box of pixels, given by its first and last columns and rows. -/
structure Area where
  left : Int
  top : Int
  right : Int
  bottom : Int
  deriving DecidableEq, Repr

namespace Area

/-- The number of columns. -/
def width (a : Area) : Int :=
  a.right - a.left + 1

/-- The number of rows. -/
def height (a : Area) : Int :=
  a.bottom - a.top + 1

/-- The box has no pixel. -/
def isEmpty (a : Area) : Bool :=
  a.right < a.left || a.bottom < a.top

/-- The pixel at a place belongs to the box. -/
def covers (a : Area) (x y : Int) : Bool :=
  a.left ≤ x && x ≤ a.right && (a.top ≤ y && y ≤ a.bottom)

/-- The center of a pixel lies in the ellipse that touches the sides of the box. -/
def ellipseCovers (a : Area) (x y : Int) : Bool :=
  let dx := 2 * (x - a.left) + 1 - a.width
  let dy := 2 * (y - a.top) + 1 - a.height
  let square (n : Int) : Int := n * n
  a.covers x y && square (dx * a.height) + square (dy * a.width) ≤ square (a.width * a.height)

end Area

/-- A picture: its size and the pixel at every place. -/
structure Picture where
  width : Nat
  height : Nat
  pixel : Int → Int → Pixel

/-- A step of drawing. -/
inductive Drawing where
  /-- A filled box. -/
  | rectangle (area : Area) (color : Pixel)
  /-- A filled ellipse. -/
  | ellipse (area : Area) (color : Pixel)
  /-- A picture, resized to a box. -/
  | picture (area : Area) (source : Picture)
  /-- A text with its top left corner at a place. -/
  | text (left top : Int) (characters : String) (color : Pixel)

namespace Picture

/-- An empty picture. -/
def blank (width height : Nat) : Picture :=
  ⟨width, height, fun _ _ => .clear⟩

/-- A picture of one color. -/
def solid (width height : Nat) (color : Pixel) : Picture :=
  ⟨width, height, fun _ _ => color⟩

/-- The picture's pixel at a place when it is resized to a box. -/
def resized (p : Picture) (a : Area) (x y : Int) : Pixel :=
  p.pixel ((x - a.left) * p.width / a.width) ((y - a.top) * p.height / a.height)

/-- The pixel that a step of drawing leaves at a place where another one was. -/
def redrawn (was : Pixel) (x y : Int) : Drawing → Pixel
  | .rectangle a color => if a.covers x y then color else was
  | .ellipse a color => if a.ellipseCovers x y then color else was
  | .picture a source =>
    let drawn := source.resized a x y
    if a.covers x y && drawn.alpha ≠ 0 then drawn else was
  | .text _ _ _ _ => was

/-- The picture after a step of drawing. -/
def draw (p : Picture) (d : Drawing) : Picture :=
  { p with pixel := fun x y => redrawn (p.pixel x y) x y d }

/-- The pixels of a row. -/
def row (p : Picture) (y : Nat) : List Pixel :=
  (List.range p.width).map fun (x : Nat) => p.pixel x y

/-- The pixels row by row. -/
def rows (p : Picture) : List (List Pixel) :=
  (List.range p.height).map p.row

end Picture

end Letterpress
