import Letterpress.Config
import Letterpress.Design.Node
import Letterpress.Layout.Row

/-!
# Places of Children

A frame is exported child by child, from top to bottom. Coordinates count from the
frame's own corner, wherever it lies on the canvas.

## Main definitions

* `Placed`: A child and its place in the frame.
* `placedChildren`: The children of a frame that are exported.
* `Placed.isPaper`: A child is a blank sheet behind the whole frame.
-/

namespace Letterpress

variable {K : Type} [Scalar K]

/-- A child with its bounds and its place in the frame. -/
structure Placed (K : Type) where
  node : Node K
  box : Rect K
  x : K
  y : K

/-- A child with its place in the frame; none if it is invisible or has no bounds. -/
def placed? (frame : Rect K) (child : Node K) : Option (Placed K) :=
  match child.visible, child.bounds with
  | true, some box =>
    let corner := box.relativeTo frame
    some ⟨child, box, corner.x, corner.y⟩
  | _, _ => none

/-- The visible children with bounds from top to bottom. -/
def placedChildren (frame : Rect K) (children : List (Node K)) : List (Placed K) :=
  Layout.sortOn Layout.before Placed.y (children.filterMap (placed? frame))

/-- A color whose channels all lie above a threshold. -/
def isNearWhite (threshold : K) (color : Rgb K) : Bool :=
  threshold < color.red && threshold < color.green && threshold < color.blue

/-- Two lengths are the same in whole pixels. -/
def samePixels (a b : K) : Except NumberError Bool := do
  return (← Scalar.roundHalfUp a) = (← Scalar.roundHalfUp b)

/-- A length is nothing in whole pixels. -/
def noPixels (a : K) : Except NumberError Bool := do
  return (← Scalar.roundHalfUp a) = 0

namespace Placed

/-- The child covers the frame in whole pixels, and nothing else. -/
def fillsFrame (p : Placed K) (frame : Rect K) : Except NumberError Bool := do
  if !(← samePixels p.box.width frame.width) then return false
  if !(← samePixels p.box.height frame.height) then return false
  if !(← noPixels p.x) then return false
  noPixels p.y

/-- The child is a blank sheet behind the whole frame: a nearly white rectangle that
    covers it. It is left out, since documents are white anyway. -/
def isPaper (config : Config K) (p : Placed K) (frame : Rect K) : Except NumberError Bool :=
  match p.node with
  | .shape _ ⟨.rectangle, _, _⟩ => do
    if !(← p.fillsFrame frame) then return false
    return p.node.fillColor?.any (isNearWhite config.nearWhiteChannel)
  | _ => return false

end Placed

end Letterpress
