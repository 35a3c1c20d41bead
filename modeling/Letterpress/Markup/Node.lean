import Letterpress.Markup.Event
import Letterpress.Text.Escape
import Letterpress.Text.Join

/-!
# Markup Trees

Markup as a tree of elements with text, comments and declarations between them.
Everything but attribute values is kept as it was written, so that a tree can be
written back without changing what it does not touch.

A place in a tree is a path: the positions of the children that lead to it. The
empty path is the node itself.

## Main definitions

* `Node`: A node of the tree.
* `Node.serialize`: The node as markup.
* `Node.get?`, `Node.set`: The attributes of an element.
* `Node.at?`, `Node.modifyAt`: The node at a path, and a change there.
* `Node.elementPaths`: The places of all elements below a node.
* `Node.outermost`: The places of the outermost elements with a property.
-/

namespace Letterpress.Markup

/-- A node of a markup tree. -/
inductive Node where
  | element (tag : String) (attributes : List Attribute) (children : List Node)
  | text (data : String)
  | comment (data : String)
  | declaration (data : String)

/-- The elements that have no content and no end tag. -/
def voidTags : List String :=
  ["area", "base", "br", "col", "embed", "hr", "img", "input", "link", "meta", "param",
    "source", "track", "wbr"]

/-- The tag of the node that holds a whole text; no element of a text has it. -/
def rootTag : String := "#root"

/-- A place below a node. -/
abbrev Path := List Nat

/-- An attribute as it stands in a tag. -/
def attributeText : Attribute → String
  | (name, none) => " " ++ name
  | (name, some value) => " " ++ name ++ "=\"" ++ Text.escapeAttribute value ++ "\""

/-- The start tag of an element. -/
def startTag (tag : String) (attributes : List Attribute) : String :=
  "<" ++ tag ++ Text.concat (attributes.map attributeText) ++ ">"

/-- The end tag of an element. -/
def endTag (tag : String) : String :=
  "</" ++ tag ++ ">"

/-- The list with the value of a name replaced, or added at the end. -/
def setAttribute (name value : String) : List Attribute → List Attribute
  | [] => [(name, some value)]
  | (n, v) :: rest =>
    if n = name then (name, some value) :: rest else (n, v) :: setAttribute name value rest

namespace Node

mutual

/-- The node as markup. -/
def serialize : Node → String
  | element tag attributes children =>
    if tag = rootTag then serializeAll children
    else if voidTags.contains tag then startTag tag attributes
    else startTag tag attributes ++ serializeAll children ++ endTag tag
  | text data => data
  | comment data => "<!--" ++ data ++ "-->"
  | declaration data => "<!" ++ data ++ ">"

/-- The nodes as markup, one after another. -/
def serializeAll : List Node → String
  | [] => ""
  | n :: ns => serialize n ++ serializeAll ns

end

/-- The node that holds a whole text. -/
def root (children : List Node) : Node :=
  element rootTag [] children

/-- The tag of an element, nothing for other nodes. -/
def tag? : Node → Option String
  | element tag _ _ => some tag
  | _ => none

/-- The node is an element. -/
def isElement : Node → Bool
  | element _ _ _ => true
  | _ => false

/-- The attributes of an element. -/
def attributes : Node → List Attribute
  | element _ attributes _ => attributes
  | _ => []

/-- The children of an element. -/
def children : Node → List Node
  | element _ _ children => children
  | _ => []

/-- The content of an element as markup. -/
def inner (n : Node) : String :=
  serializeAll n.children

/-- The value of an attribute; an attribute without a value has an empty one. -/
def get? (n : Node) (name : String) : Option String :=
  (n.attributes.lookup name).map fun value => value.getD ""

/-- The element has an attribute. -/
def has (n : Node) (name : String) : Bool :=
  (n.attributes.lookup name).isSome

/-- The element with an attribute set. -/
def set (n : Node) (name value : String) : Node :=
  match n with
  | element tag attributes children => element tag (setAttribute name value attributes) children
  | other => other

/-- The element with one more child at the end. -/
def append (n child : Node) : Node :=
  match n with
  | element tag attributes children => element tag attributes (children ++ [child])
  | other => other

/-- The node at a path. -/
def at? (n : Node) : Path → Option Node
  | [] => some n
  | i :: path =>
    match n.children[i]? with
    | some child => child.at? path
    | none => none

/-- The node with the one at a path changed. -/
def modifyAt (f : Node → Node) : Path → Node → Node
  | [], n => f n
  | i :: path, element tag attributes children =>
    element tag attributes (children.modify i (modifyAt f path))
  | _ :: _, n => n

mutual

/-- The paths of all elements below a node, parents before their children. -/
def elementPaths : Node → List Path
  | element _ _ children => elementPathsAll 0 children
  | _ => []

/-- The paths of all elements in a list of siblings, of which the first has the
    given position. -/
def elementPathsAll (i : Nat) : List Node → List Path
  | [] => []
  | n :: ns =>
    (if n.isElement then [] :: elementPaths n else []).map (i :: ·) ++ elementPathsAll (i + 1) ns

end

mutual

/-- The paths of the elements below a node that have a property and lie in no
    other such element below it. -/
def outermost (p : Node → Bool) : Node → List Path
  | element _ _ children => outermostAll p 0 children
  | _ => []

/-- The paths of the outermost elements with a property in a list of siblings, of
    which the first has the given position. -/
def outermostAll (p : Node → Bool) (i : Nat) : List Node → List Path
  | [] => []
  | n :: ns =>
    (if n.isElement && p n then [[]] else outermost p n).map (i :: ·) ++ outermostAll p (i + 1) ns

end

end Node

end Letterpress.Markup
