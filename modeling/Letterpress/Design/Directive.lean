import Letterpress.Design.Node
import Letterpress.Text.Blank
import Letterpress.Text.Join

/-!
# Directives

A node's name may start with a directive that says how the node is exported.
Directives are case-sensitive, and a name carries at most one.

* `[table]` rebuilds a container's text as a data table.
* `[link]` wraps the node in a link to the address that follows.
* `[gif]` refers to an animation that is hosted elsewhere.
* `[transparent]` takes a picture of the node without its own fills.

## Main definitions

* `Directive.table`, `Directive.link`, `Directive.gif`, `Directive.transparent`
* `hasDirective`: A name starts with a directive.
* `linkTarget?`: The address that a link leads to.
* `gifId?`: The identifier of an animation.
* `Node.isTableRegion`: The node is a frame or group to be rebuilt as a table.
* `Node.countTableRegions`: The number of such nodes in a tree.

## Theorems

* `hasDirective_iff`: A name with a directive is the directive and the rest of the name.
-/

namespace Letterpress

namespace Directive

/-- Rebuild the text as a table. -/
def table : String := "[table]"

/-- Wrap in a link. -/
def link : String := "[link]"

/-- Refer to an animation. -/
def gif : String := "[gif]"

/-- Leave the node's own fills out of its picture. -/
def transparent : String := "[transparent]"

end Directive

/-- The name starts with the directive. An empty name carries none. -/
def hasDirective (name directive : String) : Bool :=
  !name.isEmpty && Text.startsWith directive name

/-- An empty name does not start with a directive anyway. -/
theorem hasDirective_iff {name directive : String} (h : directive ≠ "") :
    hasDirective name directive = true ↔ ∃ rest, name.toList = directive.toList ++ rest := by
  rw [hasDirective, Bool.and_eq_true, Text.startsWith, List.isPrefixOf_iff_prefix]
  constructor
  · rintro ⟨-, rest, hrest⟩
    exact ⟨rest, hrest.symm⟩
  · rintro ⟨rest, hrest⟩
    refine ⟨?_, rest, hrest.symm⟩
    rw [Bool.not_eq_true', Bool.eq_false_iff]
    intro hempty
    rw [String.isEmpty_iff.mp hempty, String.toList_empty] at hrest
    exact h (String.toList_eq_nil_iff.mp (List.append_eq_nil_iff.mp hrest.symm).1)

/-- The address that a name's link directive leads to: the rest of the first line
    that is not blank, trimmed; `#` if there is none. -/
def linkTarget? (name : String) : Option String :=
  if hasDirective name Directive.link then
    let rest := Text.trimStart (name.toList.drop Directive.link.length)
    let target := Text.trim (rest.takeWhile (· ≠ '\n'))
    some (if target = [] then "#" else String.ofList target)
  else none

/-- The identifier in a name's animation directive. -/
def gifId? (name : String) : Option String :=
  if hasDirective name Directive.gif then
    some (String.ofList (Text.trim (name.toList.drop Directive.gif.length)))
  else none

namespace Node

variable {K : Type}

/-- The node is rebuilt as a table: a frame or group whose name says so. -/
def isTableRegion : Node K → Bool
  | container c k _ => (k = .frame || k = .group) && hasDirective c.name Directive.table
  | _ => false

/-- The number of nodes in the tree that are rebuilt as tables. -/
def countTableRegions (root : Node K) : Nat :=
  root.preorder.countP isTableRegion

end Node

end Letterpress
