import Letterpress.Design.Part
import Letterpress.Picture

/-!
# Painting Nodes

A node is painted by drawing its fills into its box, and then its children over them.
Invisible nodes, nodes without bounds and nodes whose box has no pixel are left out
together with everything below them.

## Main definitions

* `pixelBox`: The pixels that a node takes.
* `paint`: The steps of drawing a node.
-/

namespace Letterpress.Preview

variable {K : Type} [Scalar K]

/-- The pixels that a box takes in a picture of another box at a scale. -/
def pixelBox (origin box : Rect K) (scale : K) : Except NumberError Area := do
  let x := (box.x - origin.x) * scale
  let y := (box.y - origin.y) * scale
  let left ← Scalar.roundHalfUp x
  let top ← Scalar.roundHalfUp y
  let right ← Scalar.roundHalfUp (x + box.width * scale)
  let bottom ← Scalar.roundHalfUp (y + box.height * scale)
  return ⟨left, top, right - 1, bottom - 1⟩

/-- A color as a pixel. -/
def colorPixel (color : Rgb K) (opacity : K) : Except NumberError Pixel := do
  let (r, g, b) ← Style.bytes color
  return ⟨r, g, b, ← Style.channelByte opacity⟩

/-- The color in which a text is drawn. -/
def textPixel (fills : List (Paint K)) : Except NumberError Pixel := do
  match fills.head?.bind Paint.color? with
  | some color =>
    let (r, g, b) ← Style.bytes color
    return ⟨r, g, b, 255⟩
  | none => return ⟨0, 0, 0, 255⟩

/-- The pictures that references mean. A reference that means none is passed over. -/
abbrev Gallery := String → Except Fault (Option Picture)

/-- The steps of filling a box with a paint. -/
def paintFill (gallery : Gallery) (round : Bool) (area : Area) :
    Paint K → Except Fault (List Drawing)
  | .solid color opacity => do
    let pixel ← colorPixel color opacity
    return [if round then .ellipse area pixel else .rectangle area pixel]
  | .image ref _ => do
    return (← gallery ref).toList.map (.picture area)

/-- The steps of filling a box with paints, one over the other. -/
def paintFills (gallery : Gallery) (round : Bool) (area : Area) :
    List (Paint K) → Except Fault (List Drawing)
  | [] => return []
  | paint :: rest => do
    return (← paintFill gallery round area paint) ++ (← paintFills gallery round area rest)

/-- The node is painted as an ellipse. -/
def isRound : Node K → Bool
  | .shape _ b => b.kind = .ellipse
  | _ => false

/-- The pixels that a node takes; none if it is not painted. -/
def paintedArea (origin : Rect K) (scale : K) (node : Node K) : Except Fault (Option Area) :=
  match node.visible, node.bounds with
  | true, some box => do
    let area ← pixelBox origin box scale
    return if area.isEmpty then none else some area
  | _, _ => return none

/-- The steps of drawing a node itself. -/
def paintSelf (gallery : Gallery) (area : Area) (node : Node K) : Except Fault (List Drawing) :=
  match node with
  | .text c b => do
    return [.text area.left area.top b.characters (← textPixel c.fills)]
  | node => paintFills gallery (isRound node) area node.fills

/-- The steps of drawing a node without what is below it. -/
def paintLeaf (gallery : Gallery) (origin : Rect K) (scale : K) (node : Node K) :
    Except Fault (List Drawing) := do
  match ← paintedArea origin scale node with
  | none => return []
  | some area => paintSelf gallery area node

mutual

/-- The steps of drawing a node, seen from the corner of another one, at a scale. -/
def paint (gallery : Gallery) (origin : Rect K) (scale : K) :
    Node K → Except Fault (List Drawing)
  | .container c k cs => do
    match ← paintedArea origin scale (.container c k cs) with
    | none => return []
    | some area =>
      let own ← paintSelf gallery area (.container c k cs)
      return own ++ (← paintAll gallery origin scale cs)
  | .text c b => paintLeaf gallery origin scale (.text c b)
  | .shape c b => paintLeaf gallery origin scale (.shape c b)
  | .image c k => paintLeaf gallery origin scale (.image c k)

/-- The steps of drawing several nodes, one over the other. -/
def paintAll (gallery : Gallery) (origin : Rect K) (scale : K) :
    List (Node K) → Except Fault (List Drawing)
  | [] => return []
  | n :: ns => do
    return (← paint gallery origin scale n) ++ (← paintAll gallery origin scale ns)

end

end Letterpress.Preview
