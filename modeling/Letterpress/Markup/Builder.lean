import Letterpress.Markup.Lexer
import Letterpress.Markup.Node

/-!
# Building Markup Trees

From events to a tree. The elements that are open form a stack; whatever is read
goes into the innermost one. An end tag closes the nearest open element with its
tag and everything inside of it; an end tag that closes nothing is dropped. What
is open at the end of the text is closed there.

## Main definitions

* `Open`: An element that is open.
* `Builder`: The open elements and what lies outside of them.
* `Builder.step`: The effect of one event.
* `Builder.finish`: The tree when no more events come.
* `parse`: The tree of a text.
-/

namespace Letterpress.Markup

/-- An element that is open; its children so far are listed backwards. -/
structure Open where
  tag : String
  attributes : List Attribute
  children : List Node

/-- The element that an open one becomes. -/
def Open.close (o : Open) : Node :=
  .element o.tag o.attributes o.children.reverse

/-- The open elements, the innermost first, and the nodes outside of them, listed
    backwards. -/
structure Builder where
  opened : List Open
  outside : List Node

namespace Builder

/-- Nothing read yet. -/
def empty : Builder :=
  ⟨[], []⟩

/-- A node goes into the innermost open element. -/
def add (b : Builder) (n : Node) : Builder :=
  match b.opened with
  | [] => { b with outside := n :: b.outside }
  | o :: os => { b with opened := { o with children := n :: o.children } :: os }

/-- The innermost open element is closed. -/
def closeInnermost (b : Builder) : Builder :=
  match b.opened with
  | [] => b
  | o :: os => add { b with opened := os } o.close

/-- The innermost open elements are closed, as many as `n`. -/
def closeMany : Nat → Builder → Builder
  | 0, b => b
  | n + 1, b => closeMany n b.closeInnermost

/-- The effect of an end tag: it closes open elements up to the nearest one with
    its tag, or does nothing if there is none. -/
def close (b : Builder) (tag : String) : Builder :=
  match b.opened.findIdx? fun o => o.tag = tag with
  | some i => closeMany (i + 1) b
  | none => b

/-- The effect of one event. -/
def step (b : Builder) : Event → Builder
  | .start tag attributes =>
    if voidTags.contains tag then b.add (.element tag attributes [])
    else { b with opened := ⟨tag, attributes, []⟩ :: b.opened }
  | .selfClosed tag attributes => b.add (.element tag attributes [])
  | .finish tag => b.close tag
  | .data s => b.add (.text s)
  | .entity name => b.add (.text ("&" ++ name ++ ";"))
  | .code digits => b.add (.text ("&#" ++ digits ++ ";"))
  | .comment s => b.add (.comment s)
  | .declaration s => b.add (.declaration s)

/-- The tree when no more events come. -/
def finish (b : Builder) : Node :=
  Node.root (closeMany b.opened.length b).outside.reverse

end Builder

/-- The tree of a sequence of events. -/
def ofEvents (events : List Event) : Node :=
  (events.foldl Builder.step Builder.empty).finish

/-- The tree of a text. -/
def parse (markup : String) : Except MarkupError Node :=
  ofEvents <$> events markup.toList

end Letterpress.Markup
