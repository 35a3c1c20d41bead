import Letterpress.Config
import Letterpress.Fault
import Letterpress.Fragment
import Letterpress.Markup.Builder
import Letterpress.Style.Declaration

/-!
# Extracting Fragments

Finding the absolutely positioned tables of a text and taking each out as a
fragment. The place of a fragment is read from the declarations of its table,
which loses them; a link that stands directly around a table goes with it.

Nested positioned tables belong to the outermost one.

## Main definitions

* `isPositionedTable`: A node is a table that is positioned absolutely.
* `isLinkWrapper`: A node makes a link of what it holds.
* `wrapperPath?`: The place of the link around an element.
* `declaredHeight`: The height that an element asks for.
* `extract`: The fragments of a text.
-/

namespace Letterpress.Document

variable {K : Type} [Scalar K]

/-- The style of an element, empty if it has none. -/
def styleOf (n : Markup.Node) : String :=
  (n.get? "style").getD ""

/-- The node is a table that is positioned absolutely. -/
def isPositionedTable (n : Markup.Node) : Bool :=
  n.tag? = some "table" && Style.isAbsolute (styleOf n)

/-- The text of an attribute or a declaration, unless it is missing or empty. -/
def nonempty? (s : Option String) : Option String :=
  s.filter fun s => !s.isEmpty

/-- The node makes a link of what it holds: an anchor with an address, or the
    placeholder of a link. -/
def isLinkWrapper (n : Markup.Node) : Bool :=
  match n.tag? with
  | some "a" => (nonempty? (n.get? "href")).isSome
  | some "div" => n.has "data-link-placeholder-id"
  | _ => false

/-- The place of the link directly around the element at a place. -/
def wrapperPath? (tree : Markup.Node) (path : Markup.Path) : Option Markup.Path :=
  if path = [] then none
  else
    let parent := path.dropLast
    if (tree.at? parent).any isLinkWrapper then some parent else none

/-- A length that the style of an element declares; `fallback` if there is none. -/
def declared (n : Markup.Node) (property : String) (fallback : Int) : Except NumeralError Int :=
  Style.readPixels (Style.valueOf? (styleOf n) property) fallback

/-- The height that an element asks for without its padding, zero if it asks for none.
    The attribute counts if the style says nothing. -/
def ownHeight (n : Markup.Node) : Except NumeralError Int := do
  let height ← declared n "height" 0
  if height ≠ 0 then return height else Style.readPixels (n.get? "height") 0

/-- The height that an element asks for, in its style or in its attribute, or else
    the fallback; its vertical padding is added. -/
def declaredHeight (config : Config K) (n : Markup.Node) : Except NumeralError Int := do
  let height ← ownHeight n
  let above ← declared n "padding-top" 0
  let below ← declared n "padding-bottom" 0
  return (if height ≠ 0 then height else config.fallbackFragmentHeight) + (above + below)

/-- The declarations that place an element. -/
def placingProperties : List String :=
  ["position", "top", "left"]

/-- The element without the declarations that place it. -/
def unplaced (n : Markup.Node) : Markup.Node :=
  n.set "style" (Style.without placingProperties (styleOf n))

/-- The alignment that a table declares, in its style or in its attribute. -/
def alignment (n : Markup.Node) (property name fallback : String) : String :=
  match nonempty? (Style.valueOf? (styleOf n) property), nonempty? (n.get? name) with
  | some value, _ => value
  | none, some value => value
  | none, none => fallback

/-- The fragment that a positioned table becomes on a canvas of the given width,
    where `markup` is the unit that is taken out. -/
def fragmentOf (config : Config K) (canvas : Int) (table : Markup.Node) (markup : String)
    (linked : Bool) : Except NumeralError Fragment := do
  let top ← declared table "top" 0
  let left ← declared table "left" 0
  let width ← declared table "width" canvas
  let height ← declaredHeight config table
  return {
    markup, left, top, height
    width := min width canvas
    linkWrapped := linked
    textAlign := alignment table "text-align" "align" "left"
    verticalAlign := alignment table "vertical-align" "valign" "top" }

/-- The fragments of the tables at the given places of a tree. Each table loses its
    placing declarations before it is written. -/
def extractAt (config : Config K) (canvas : Int) :
    Markup.Node → List Markup.Path → Except NumeralError (List Fragment)
  | _, [] => return []
  | tree, path :: paths =>
    match tree.at? path with
    | none => extractAt config canvas tree paths
    | some table => do
      let tree := tree.modifyAt unplaced path
      let wrapper? := wrapperPath? tree path
      let unit := tree.at? (wrapper?.getD path)
      let markup := (unit.map Markup.Node.serialize).getD ""
      let first ← fragmentOf config canvas table markup wrapper?.isSome
      return first :: (← extractAt config canvas tree paths)

/-- The fragments of a text on a canvas whose width is a whole number. -/
def extractOn (config : Config K) (markup : String) (canvas : Except NumberError Int) :
    Except Fault (List Fragment) := do
  let tree ← Markup.parse markup
  extractAt config (← canvas) tree (tree.outermost isPositionedTable)

/-- The fragments of a text, in the order in which they stand there. -/
def extract (config : Config K) (markup : String) (canvasWidth : K) :
    Except Fault (List Fragment) :=
  extractOn config markup (Scalar.roundHalfUp canvasWidth)

end Letterpress.Document
