import Letterpress.Geometry
import Letterpress.Style.Color

/-!
# Design Trees

What a design tool knows about a frame: a tree of containers, texts, shapes
and images, each with a name, bounds and fills.

Only containers have children. Everything that is neither a container nor a
text nor a shape can only be had as a picture, and is an image here.

## Main definitions

* `Paint`, `Stroke`, `CornerRadius`: How shapes are painted.
* `FontName`, `LineHeight`, `TextRun`: How text is set.
* `Node`: A node of the tree.
* `Node.preorder`: A node and all nodes below it, parents first.
* `Node.withoutFills`: The node with nothing painted on it.
-/

namespace Letterpress

/-- What fills an area or a line: a color or a picture. -/
inductive Paint (K : Type) where
  | solid (color : Rgb K) (opacity : K)
  | image (ref : String) (opacity : K)

/-- The color of a solid paint. -/
def Paint.color? {K : Type} : Paint K → Option (Rgb K)
  | .solid color _ => some color
  | .image _ _ => none

/-- The paint is a picture. -/
def Paint.isImage {K : Type} : Paint K → Bool
  | .solid _ _ => false
  | .image _ _ => true

/-- A painted outline. -/
structure Stroke (K : Type) where
  paint : Paint K
  weight : K

/-- The radii of a shape's corners; `mixed` tells that they were set one by one. -/
structure CornerRadius (K : Type) where
  topLeft : K
  topRight : K
  bottomRight : K
  bottomLeft : K
  mixed : Bool

/-- One radius for all corners. -/
def CornerRadius.uniform {K : Type} (r : K) : CornerRadius K :=
  ⟨r, r, r, r, false⟩

/-- A font: its family and its style within the family. -/
structure FontName where
  family : String
  style : String
  deriving DecidableEq, Repr

/-- The unit of a line height. -/
inductive LineHeightUnit where
  | auto
  | pixels
  | percent
  deriving DecidableEq, Repr

/-- A line height. -/
structure LineHeight (K : Type) where
  unit : LineHeightUnit
  value : K

/-- A line drawn under or through a text. -/
inductive TextDecoration where
  | none
  | underline
  | strikethrough
  deriving DecidableEq, Repr

/-- The style of the characters from `first` up to `last`. Either bound may be
    negative, and then counts from the end. -/
structure TextRun (K : Type) where
  first : Int
  last : Int
  font : FontName
  fontWeight : Int
  fontSize : K
  fills : List (Paint K)
  lineHeight : LineHeight K
  decoration : TextDecoration

/-- The kinds of containers. -/
inductive ContainerKind where
  | frame
  | group
  | component
  | instanced
  deriving DecidableEq, Repr

/-- The kinds of shapes. -/
inductive ShapeKind where
  | rectangle
  | ellipse
  | line
  | polygon
  | star
  | vector
  deriving DecidableEq, Repr

/-- What every node has. -/
structure Common (K : Type) where
  id : String
  name : String
  visible : Bool
  bounds : Option (Rect K)
  fills : List (Paint K)

/-- A text and its style. -/
structure TextBody (K : Type) where
  characters : String
  runs : List (TextRun K)
  align : String
  lineHeight : Option (LineHeight K)

/-- The outline of a shape. -/
structure ShapeBody (K : Type) where
  kind : ShapeKind
  stroke : Option (Stroke K)
  cornerRadius : Option (CornerRadius K)

/-- A node of a design tree. -/
inductive Node (K : Type) where
  | container (common : Common K) (kind : ContainerKind) (children : List (Node K))
  | text (common : Common K) (body : TextBody K)
  | shape (common : Common K) (body : ShapeBody K)
  | image (common : Common K) (kind : String)

/-- The name of a container kind. -/
def ContainerKind.name : ContainerKind → String
  | .frame => "FRAME"
  | .group => "GROUP"
  | .component => "COMPONENT"
  | .instanced => "INSTANCE"

/-- The container kind with a name. -/
def ContainerKind.ofName? (name : String) : Option ContainerKind :=
  [ContainerKind.frame, .group, .component, .instanced].find? fun k => k.name = name

/-- The name of a shape kind. -/
def ShapeKind.name : ShapeKind → String
  | .rectangle => "RECTANGLE"
  | .ellipse => "ELLIPSE"
  | .line => "LINE"
  | .polygon => "POLYGON"
  | .star => "STAR"
  | .vector => "VECTOR"

/-- The shape kind with a name. -/
def ShapeKind.ofName? (name : String) : Option ShapeKind :=
  [ShapeKind.rectangle, .ellipse, .line, .polygon, .star, .vector].find? fun k => k.name = name

/-- The name of a line height unit. -/
def LineHeightUnit.name : LineHeightUnit → String
  | .auto => "AUTO"
  | .pixels => "PIXELS"
  | .percent => "PERCENT"

/-- The line height unit with a name. -/
def LineHeightUnit.ofName? (name : String) : Option LineHeightUnit :=
  [LineHeightUnit.auto, .pixels, .percent].find? fun u => u.name = name

/-- The name of a text decoration. -/
def TextDecoration.name : TextDecoration → String
  | .none => "NONE"
  | .underline => "UNDERLINE"
  | .strikethrough => "STRIKETHROUGH"

/-- The text decoration with a name. -/
def TextDecoration.ofName? (name : String) : Option TextDecoration :=
  [TextDecoration.none, .underline, .strikethrough].find? fun d => d.name = name

namespace Node

variable {K : Type}

/-- What the node has in common with all others. -/
def common : Node K → Common K
  | container c _ _ => c
  | text c _ => c
  | shape c _ => c
  | image c _ => c

/-- The node's identifier. -/
def id (n : Node K) : String :=
  n.common.id

/-- The node's name. -/
def name (n : Node K) : String :=
  n.common.name

/-- The node is shown. -/
def visible (n : Node K) : Bool :=
  n.common.visible

/-- The node's bounds, if they are known. -/
def bounds (n : Node K) : Option (Rect K) :=
  n.common.bounds

/-- The node's fills, the lowest first. -/
def fills (n : Node K) : List (Paint K) :=
  n.common.fills

/-- The lowest fill. -/
def firstFill (n : Node K) : Option (Paint K) :=
  n.fills.head?

/-- The color of the lowest fill, if that is solid. -/
def fillColor? (n : Node K) : Option (Rgb K) :=
  n.firstFill.bind Paint.color?

/-- Some fill is a picture. -/
def hasImageFill (n : Node K) : Bool :=
  n.fills.any Paint.isImage

/-- The children of a container; no other node has any. -/
def children : Node K → List (Node K)
  | container _ _ cs => cs
  | _ => []

/-- The name of the node's kind. -/
def kind : Node K → String
  | container _ k _ => k.name
  | text _ _ => "TEXT"
  | shape _ b => b.kind.name
  | image _ k => k

/-- The name of the node's variety, of which there are four. -/
def variety : Node K → String
  | container _ _ _ => "ContainerNode"
  | text _ _ => "TextNode"
  | shape _ _ => "ShapeNode"
  | image _ _ => "ImageNode"

/-- The node with nothing painted on it; what is below it keeps its fills. -/
def withoutFills : Node K → Node K
  | container c k cs => container { c with fills := [] } k cs
  | text c b => text { c with fills := [] } b
  | shape c b => shape { c with fills := [] } b
  | image c k => image { c with fills := [] } k

mutual

/-- The node and all nodes below it, parents before their children. -/
def preorder : Node K → List (Node K)
  | container c k cs => container c k cs :: preorderList cs
  | text c b => [text c b]
  | shape c b => [shape c b]
  | image c k => [image c k]

/-- The nodes and all nodes below them, in order. -/
def preorderList : List (Node K) → List (Node K)
  | [] => []
  | n :: ns => preorder n ++ preorderList ns

end

/-- A node comes before all that is below it. -/
theorem preorder_eq (n : Node K) : n.preorder = n :: preorderList n.children := by
  cases n <;> rfl

end Node

end Letterpress
