import Letterpress.Design.Node

/-!
# What a Table Is Made Of

A region to be rebuilt as a table holds loosely placed texts on top of colored
shapes. The texts become cells; the shapes lend them their color.

Whatever lies in an invisible container is left out, and so is everything without
bounds.

## Main definitions

* `TextLeaf`, `textLeaves`: The texts of a region.
* `Donor`, `donors`: The shapes and containers that lend color.
-/

namespace Letterpress.Table

variable {K : Type}

/-- A text with its bounds. -/
structure TextLeaf (K : Type) where
  common : Common K
  body : TextBody K
  box : Rect K

/-- A painted shape or container with its bounds. -/
structure Donor (K : Type) where
  node : Node K
  box : Rect K

/-- The leaf that a text is, if it is visible and has bounds. -/
def leafOf (common : Common K) (body : TextBody K) : List (TextLeaf K) :=
  match common.bounds with
  | some box => if common.visible then [⟨common, body, box⟩] else []
  | none => []

mutual

/-- The visible texts of a tree. -/
def textLeaves : Node K → List (TextLeaf K)
  | .text c b => leafOf c b
  | .container c _ cs => if c.visible then textLeavesOf cs else []
  | .shape _ _ => []
  | .image _ _ => []

/-- The visible texts of several trees, in order. -/
def textLeavesOf : List (Node K) → List (TextLeaf K)
  | [] => []
  | n :: ns => textLeaves n ++ textLeavesOf ns

end

/-- The donor that a node is, if it is painted and has bounds. -/
def donorOf (n : Node K) : List (Donor K) :=
  match n.bounds with
  | some box => if n.fills.isEmpty then [] else [⟨n, box⟩]
  | none => []

mutual

/-- The donors of a tree, parents before their children. -/
def donorsFrom : Node K → List (Donor K)
  | .container c k cs =>
    if c.visible then donorOf (.container c k cs) ++ donors cs else []
  | .shape c b => if c.visible then donorOf (.shape c b) else []
  | .text _ _ => []
  | .image _ _ => []

/-- The donors among the children of a container and below them. -/
def donors : List (Node K) → List (Donor K)
  | [] => []
  | n :: ns => donorsFrom n ++ donors ns

end

end Letterpress.Table
