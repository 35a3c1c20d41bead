import Letterpress.Number.Scalar

/-!
# Geometry

Points and rectangles in design coordinates, with `y` growing downwards.

## Main definitions

* `Point`, `Rect`: A point and a rectangle given by its top left corner.
* `Rect.expanded`: The rectangle with a margin around it.
* `Rect.holds`: A point lies in the rectangle or on its edge.
* `Rect.relativeTo`: The corner as seen from another rectangle's corner.
-/

namespace Letterpress

/-- A point. -/
structure Point (K : Type) where
  x : K
  y : K

/-- A rectangle, given by its top left corner and its extent. -/
structure Rect (K : Type) where
  x : K
  y : K
  width : K
  height : K

namespace Rect

variable {K : Type} [Scalar K]

/-- The right edge. -/
def right (r : Rect K) : K :=
  r.x + r.width

/-- The bottom edge. -/
def bottom (r : Rect K) : K :=
  r.y + r.height

/-- The center. -/
def center (r : Rect K) : Point K :=
  ⟨r.x + r.width / 2.0, r.y + r.height / 2.0⟩

/-- The rectangle grown by a margin on every side. -/
def expanded (r : Rect K) (margin : K) : Rect K :=
  ⟨r.x - margin, r.y - margin, r.width + 2.0 * margin, r.height + 2.0 * margin⟩

/-- The point lies in the rectangle or on its edge. -/
def holds (r : Rect K) (p : Point K) : Bool :=
  r.x ≤ p.x && p.x ≤ r.right && (r.y ≤ p.y && p.y ≤ r.bottom)

/-- The top left corner as seen from the top left corner of `origin`. -/
def relativeTo (r origin : Rect K) : Point K :=
  ⟨r.x - origin.x, r.y - origin.y⟩

/-- The rectangle moved by the given distances. -/
def moved (r : Rect K) (dx dy : K) : Rect K :=
  { r with x := r.x + dx, y := r.y + dy }

end Rect

end Letterpress
