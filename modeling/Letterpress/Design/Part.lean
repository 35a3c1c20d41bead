import Letterpress.Design.Node
import Letterpress.Fault

/-!
# Parts of Nodes

Some parts belong to one variety of nodes only: children to containers, runs to
texts, a stroke to shapes. Asking another variety for them is a fault.

## Main definitions

* `Node.childList`, `Node.textBody`, `Node.shapeBody`: The parts.
-/

namespace Letterpress.Node

variable {K : Type}

/-- The children of a container. -/
def childList (n : Node K) : Except Fault (List (Node K)) :=
  match n with
  | .container _ _ cs => .ok cs
  | _ => .error (.missingPart n.variety "children")

/-- A node that has a list of children has no others. -/
theorem childList_ok {n : Node K} {ns : List (Node K)} (h : n.childList = .ok ns) :
    n.children = ns := by
  cases n with
  | container _ _ _ => exact Except.ok.inj h
  | text _ _ | shape _ _ | image _ _ => exact absurd h (by simp [childList])

/-- What a text says. -/
def textBody (n : Node K) : Except Fault (TextBody K) :=
  match n with
  | .text _ b => .ok b
  | _ => .error (.missingPart n.variety "runs")

/-- The outline of a shape. -/
def shapeBody (n : Node K) : Except Fault (ShapeBody K) :=
  match n with
  | .shape _ b => .ok b
  | _ => .error (.missingPart n.variety "stroke")

end Letterpress.Node
