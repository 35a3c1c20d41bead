import Letterpress.Proofs.Markup.Front
import Letterpress.Proofs.Markup.Registry

/-!
# Building Trees Node by Node

A builder holds the elements that are open and what was closed before, so its tree is complete
only when everything is closed. But the tree is there at any time: closing leaves it as it is, and
a node that is added stands at the end of the innermost open element.

The nodes of this tree, numbered in preorder, are the nodes of a registry that is kept event by
event. So they come in the order of the events that make them, and all that holds of a registry
holds of the tree.

## Main definitions

* `Node.preorder`, `Node.alone`: The nodes of a tree, and a node without what is in it.
* `Node.entries`: The nodes of a tree as they are registered.
* `Builder.treeWith`: The tree of a builder with nodes at the end of the innermost open element.
* `Builder.registry`: The nodes of a builder as they are registered.

## Theorems

* `Builder.finish_eq`: Closing elements leaves the tree as it is.
* `Builder.entries_treeWith`: Where nodes are entered.
* `Builder.registry_step`: The nodes are registered event by event.
* `registry_sound`: What holds of a tree at any time while it is built.
-/

namespace Letterpress.Markup

namespace Node

/-- The node without what is in it. -/
def alone : Node → Node
  | element tag attributes _ => element tag attributes []
  | n => n

mutual

/-- The node and all nodes below it, parents before their children. -/
def preorder : Node → List Node
  | element tag attributes children =>
    element tag attributes children :: preorderAll children
  | text data => [text data]
  | comment data => [comment data]
  | declaration data => [declaration data]

/-- The nodes and all nodes below them, in order. -/
def preorderAll : List Node → List Node
  | [] => []
  | n :: ns => n.preorder ++ preorderAll ns

end

end Node

/-- The numbers of nodes that are registered one after another, each with all that is in it. -/
def numbers (first : Nat) : List Node → List Nat
  | [] => []
  | n :: ns => first :: numbers (first + n.preorder.length) ns

mutual

/-- The entries of a node and of all nodes below it, where the node has the given parent and
    number. -/
def Node.entries (parent : Option Nat) (number : Nat) : Node → List Entry
  | .element tag attributes children =>
    ⟨.element tag attributes [], parent, numbers (number + 1) children⟩
      :: entriesAll number (number + 1) children
  | .text data => [⟨.text data, parent, []⟩]
  | .comment data => [⟨.comment data, parent, []⟩]
  | .declaration data => [⟨.declaration data, parent, []⟩]

/-- The entries of the nodes in a node, where the first has the given number. -/
def entriesAll (parent first : Nat) : List Node → List Entry
  | [] => []
  | n :: ns => n.entries (some parent) first ++ entriesAll parent (first + n.preorder.length) ns

end

section Entries

theorem numbers_append (first : Nat) (ns ms : List Node) :
    numbers first (ns ++ ms)
      = numbers first ns ++ numbers (first + (Node.preorderAll ns).length) ms := by
  induction ns generalizing first with
  | nil => rfl
  | cons n ns ih =>
      rw [List.cons_append, numbers, ih, numbers, Node.preorderAll, List.length_append,
        Nat.add_assoc, List.cons_append]

theorem entriesAll_append (parent first : Nat) (ns ms : List Node) :
    entriesAll parent first (ns ++ ms) = entriesAll parent first ns
      ++ entriesAll parent (first + (Node.preorderAll ns).length) ms := by
  induction ns generalizing first with
  | nil => rfl
  | cons n ns ih =>
      rw [List.cons_append, entriesAll, ih, entriesAll, Node.preorderAll, List.length_append,
        Nat.add_assoc, List.append_assoc]

mutual

/-- The entries of a tree are those of its preorder. -/
theorem nodes_entries (parent : Option Nat) (number : Nat) : (n : Node) →
    (n.entries parent number).map Entry.node = n.preorder.map Node.alone
  | .element tag as children => by
    rw [Node.entries, List.map_cons, nodes_entriesAll, Node.preorder, List.map_cons, Node.alone]
  | .text _ | .comment _ | .declaration _ => rfl

theorem nodes_entriesAll (parent first : Nat) : (ns : List Node) →
    (entriesAll parent first ns).map Entry.node = (Node.preorderAll ns).map Node.alone
  | [] => rfl
  | n :: ns => by
    rw [entriesAll, List.map_append, nodes_entries, nodes_entriesAll, Node.preorderAll,
      List.map_append]

end

theorem length_entriesAll (parent first : Nat) (ns : List Node) :
    (entriesAll parent first ns).length = (Node.preorderAll ns).length := by
  rw [← List.length_map Entry.node, nodes_entriesAll, List.length_map]

end Entries

namespace Builder

/-- The tree of open elements and the nodes outside of them, with some nodes at the end of the
    innermost one. -/
def treeWith (outside : List Node) : List Open → List Node → Node
  | [], inner => Node.root (outside.reverse ++ inner)
  | o :: os, inner =>
    treeWith outside os [.element o.tag o.attributes (o.children.reverse ++ inner)]

/-- How many nodes there are, the root included. -/
def size (outside : List Node) : List Open → Nat
  | [] => 1 + (Node.preorderAll outside.reverse).length
  | o :: os => size outside os + 1 + (Node.preorderAll o.children.reverse).length

/-- The numbers of open elements and of the root, the innermost first. -/
def openNumbers (outside : List Node) : List Open → List Nat
  | [] => [0]
  | _ :: os => size outside os :: openNumbers outside os

/-- The nodes as they are registered, numbered in preorder. -/
def registry (b : Builder) : Registry :=
  ⟨b.finish.entries none 0, openNumbers b.outside b.opened⟩

section Tree

variable {b : Builder} {outside : List Node} {os : List Open}

theorem treeWith_add (b : Builder) (n : Node) (inner : List Node) :
    treeWith (b.add n).outside (b.add n).opened inner
      = treeWith b.outside b.opened (n :: inner) := by
  rcases b with ⟨opened, outside⟩
  cases opened with
  | nil => simp [add, treeWith]
  | cons o os => simp [add, treeWith]

theorem openNumbers_add (b : Builder) (n : Node) :
    openNumbers (b.add n).outside (b.add n).opened = openNumbers b.outside b.opened := by
  rcases b with ⟨opened, outside⟩
  cases opened <;> rfl

theorem treeWith_closeInnermost (b : Builder) :
    treeWith b.closeInnermost.outside b.closeInnermost.opened []
      = treeWith b.outside b.opened [] := by
  rcases b with ⟨opened, outside⟩
  cases opened with
  | nil => rfl
  | cons o os =>
      refine (treeWith_add ⟨os, outside⟩ o.close []).trans ?_
      rw [treeWith, List.append_nil]
      rfl

theorem treeWith_closeMany (k : Nat) (b : Builder) :
    treeWith (closeMany k b).outside (closeMany k b).opened []
      = treeWith b.outside b.opened [] := by
  induction k generalizing b with
  | zero => rfl
  | succ k ih => rw [closeMany, ih, treeWith_closeInnermost]

/-- Closing elements leaves the tree as it is. -/
theorem finish_eq (b : Builder) : b.finish = treeWith b.outside b.opened [] := by
  have htree := treeWith_closeMany b.opened.length b
  have hopened := closeMany_opened b.opened.length b
  rw [Nat.sub_self, List.length_eq_zero_iff] at hopened
  rw [← htree, hopened, treeWith, List.append_nil, finish]

theorem finish_closeMany (k : Nat) (b : Builder) : (closeMany k b).finish = b.finish := by
  rw [finish_eq, treeWith_closeMany, finish_eq]

theorem openNumbers_closeMany {k : Nat} {b : Builder} (hk : k ≤ b.opened.length) :
    openNumbers (closeMany k b).outside (closeMany k b).opened
      = (openNumbers b.outside b.opened).drop k := by
  induction k generalizing b with
  | zero => rfl
  | succ k ih =>
      rcases b with ⟨opened, outside⟩
      cases opened with
      | nil => exact absurd hk (Nat.not_succ_le_zero k)
      | cons o os =>
          have hclosed : (closeInnermost ⟨o :: os, outside⟩).opened.length = os.length :=
            closeMany_opened 1 ⟨o :: os, outside⟩
          rw [closeMany, ih (by rw [hclosed]; exact Nat.le_of_succ_le_succ hk)]
          exact congrArg _ (openNumbers_add ⟨os, outside⟩ o.close)

/-- The innermost open element by itself, or the root. -/
def innermost : List Open → Node
  | [] => Node.root []
  | o :: _ => .element o.tag o.attributes []

/-- Nodes at the end of the innermost open element are entered in it and after all others. -/
theorem entries_treeWith (outside : List Node) (os : List Open) :
    ∃ (before : List Entry) (e : Entry) (after : List Entry),
      before.length = (openNumbers outside os).headD 0 ∧
      before.length + 1 + after.length = size outside os ∧ e.node = innermost os ∧
      ∀ inner, (treeWith outside os inner).entries none 0
        = before ++ { e with children := e.children ++ numbers (size outside os) inner }
          :: (after ++ entriesAll before.length (size outside os) inner) := by
  induction os with
  | nil =>
      refine ⟨[], ⟨Node.root [], none, numbers 1 outside.reverse⟩,
        entriesAll 0 1 outside.reverse, rfl, ?_, rfl, fun inner => ?_⟩
      · rw [length_entriesAll, size]
        rfl
      · rw [treeWith, Node.root, Node.entries, numbers_append, entriesAll_append]
        rfl
  | cons o os ih =>
      -- What is in the element is entered after it, and the element after all that was there.
      rcases ih with ⟨before, e, after, -, hsize, -, htree⟩
      let start := size outside os
      refine ⟨before ++ { e with children := e.children ++ [start] } :: after,
        ⟨.element o.tag o.attributes [], some before.length,
          numbers (start + 1) o.children.reverse⟩,
        entriesAll start (start + 1) o.children.reverse, ?_, ?_, rfl, fun inner => ?_⟩
      · rw [List.length_append, List.length_cons, openNumbers, List.headD_cons]
        omega
      · rw [List.length_append, List.length_cons, length_entriesAll, size]
        omega
      · have hlength : (before ++ { e with children := e.children ++ [start] } :: after).length
            = start := by
          rw [List.length_append, List.length_cons]
          omega
        rw [treeWith, htree, hlength, size, entriesAll, entriesAll, Node.entries, numbers_append,
          entriesAll_append]
        simp [numbers, start]

theorem length_registry (b : Builder) : b.registry.entries.length = size b.outside b.opened := by
  rcases entries_treeWith b.outside b.opened with ⟨before, e, after, -, hsize, -, htree⟩
  rw [registry, finish_eq, htree []]
  simp only [List.length_append, List.length_cons, entriesAll, List.length_nil]
  omega

theorem current_registry (b : Builder) :
    b.registry.current = (openNumbers b.outside b.opened).headD 0 :=
  rfl

/-- A node without children is put into the innermost open one. -/
theorem registry_add {n : Node} (hn : ∀ parent number, n.entries parent number = [⟨n, parent, []⟩])
    (b : Builder) : (b.add n).registry = b.registry.enter n := by
  have hlength := length_registry b
  rcases entries_treeWith b.outside b.opened with ⟨before, e, after, hcurrent, -, -, htree⟩
  have hbefore : b.registry.entries = before ++ e :: after := by
    rw [registry, finish_eq, htree]
    simp only [numbers, entriesAll, List.append_nil]
  refine congrArg₂ Registry.mk ?_ (openNumbers_add b n)
  rw [hlength, current_registry, ← hcurrent, hbefore, finish_eq, treeWith_add, htree, entriesAll,
    hn]
  simp [List.modify_eq_take_cons_drop, Entry.put, numbers, entriesAll]

/-- An element without children is put into the innermost open one and opened. -/
theorem registry_open (b : Builder) (tag : String) (as : List Attribute) :
    ({ b with opened := ⟨tag, as, []⟩ :: b.opened } : Builder).registry
      = b.registry.enterOpen (.element tag as []) := by
  have hadd := registry_add (n := .element tag as []) (fun _ _ => rfl) b
  have htree : ({ b with opened := ⟨tag, as, []⟩ :: b.opened } : Builder).finish
      = (b.add (.element tag as [])).finish := by
    rw [finish_eq, finish_eq, treeWith_add]
    rfl
  have hentries : (b.add (.element tag as [])).registry.entries
      = (b.registry.enter (.element tag as [])).entries := by rw [hadd]
  refine congrArg₂ Registry.mk ?_ ?_
  · rw [htree]
    exact hentries
  · rw [length_registry]
    rfl

/-- The open elements have the tags that they are registered with. -/
theorem tags_openNumbers (outside : List Node) (os : List Open) (inner : List Node) :
    (openNumbers outside os).dropLast.map (fun i =>
        ((treeWith outside os inner).entries none 0)[i]?.map Entry.node)
      = os.map fun o => some (.element o.tag o.attributes []) := by
  induction os generalizing inner with
  | nil => rfl
  | cons o os ih =>
      have hrest : openNumbers outside os ≠ [] := by cases os <;> simp [openNumbers]
      rcases entries_treeWith outside (o :: os) with ⟨before, e, after, hcurrent, -, hnode, htree⟩
      rw [openNumbers, List.dropLast_cons_of_ne_nil hrest, List.map_cons, List.map_cons,
        List.cons_eq_cons]
      refine ⟨?_, ih _⟩
      rw [openNumbers, List.headD_cons] at hcurrent
      rw [htree, ← hcurrent, List.getElem?_append_right (Nat.le_refl _), Nat.sub_self,
        List.getElem?_cons_zero, Option.map_some, hnode]
      rfl

/-- Open elements are closed in the same way. -/
theorem registry_close (b : Builder) (tag : String) :
    (b.close tag).registry = b.registry.close tag := by
  have hsearch : (b.registry.stack.dropLast.findIdx? fun i => b.registry.tagOf? i = some tag)
      = b.opened.findIdx? fun o => o.tag = tag := by
    have htags := tags_openNumbers b.outside b.opened []
    rw [← finish_eq] at htags
    have hfind := congrArg (List.findIdx? fun m => m.bind Node.tag? = some tag) htags
    rw [List.findIdx?_map, List.findIdx?_map] at hfind
    refine hfind.trans (congrArg (List.findIdx? · b.opened) (funext fun o => ?_))
    exact decide_eq_decide.mpr (Option.some.injEq o.tag tag ▸ Iff.rfl)
  rw [close, Registry.close, hsearch]
  cases hfind : b.opened.findIdx? fun o => o.tag = tag with
  | none => rfl
  | some k =>
      have hk := (List.findIdx?_eq_some_iff_findIdx_eq.mp hfind).1
      refine congrArg₂ Registry.mk ?_ (openNumbers_closeMany hk)
      rw [finish_closeMany]
      rfl

/-- The nodes are registered event by event. -/
theorem registry_step (b : Builder) (e : Event) : (b.step e).registry = b.registry.step e := by
  cases e with
  | start tag as =>
      rw [step, Registry.step]
      by_cases hvoid : voidTags.contains tag = true
      · rw [if_pos hvoid, if_pos hvoid]
        exact registry_add (fun _ _ => rfl) b
      · rw [if_neg hvoid, if_neg hvoid]
        exact registry_open b tag as
  | finish tag => exact registry_close b tag
  | selfClosed tag as => exact registry_add (fun _ _ => rfl) b
  | data s | entity s | code s | comment s | declaration s =>
      exact registry_add (fun _ _ => rfl) b

theorem registry_foldl (events : List Event) (b : Builder) :
    (events.foldl step b).registry = events.foldl Registry.step b.registry := by
  induction events generalizing b with
  | nil => rfl
  | cons e events ih => rw [List.foldl_cons, ih, registry_step, List.foldl_cons]

end Tree

end Builder

/-- While a tree is built, whatever the events are, the registry that is kept event by event
    holds the nodes of the tree, numbered in preorder. It is sound, and the preorder of the tree
    is the order of the events that make its nodes. An end tag leaves all nodes and the tree as
    they are, and if no open element has its tag, it leaves the open ones as they are. -/
theorem registry_sound (events : List Event) :
    let b := events.foldl Builder.step Builder.empty
    let r := events.foldl Registry.step Registry.empty
    r = b.registry ∧ r.Sound events ∧
      b.finish.preorder.map Node.alone = Node.root [] :: events.filterMap Event.node? ∧
      ∀ tag, (r.step (.finish tag)).entries = r.entries ∧
        (b.step (.finish tag)).finish = b.finish ∧
        ((∀ i ∈ r.stack.dropLast, r.tagOf? i ≠ some tag) →
          (r.step (.finish tag)).stack = r.stack) := by
  intro b r
  have hregistry : r = b.registry := (Builder.registry_foldl events Builder.empty).symm
  have hsound : r.Sound events := Registry.sound_foldl events
  refine ⟨hregistry, hsound, ?_, fun tag => ⟨?_, ?_, fun htag => ?_⟩⟩
  · rw [← hsound.nodes, hregistry]
    exact (nodes_entries none 0 b.finish).symm
  · rw [Registry.step, Registry.close]
    split <;> rfl
  · rw [Builder.step, Builder.close]
    split
    · exact Builder.finish_closeMany _ b
    · rfl
  -- The root is never closed, and so only the elements above it on the stack are searched.
  · have hnone : (r.stack.dropLast.findIdx? fun i => r.tagOf? i = some tag) = none :=
      List.findIdx?_eq_none_iff.mpr fun i hi => decide_eq_false (htag i hi)
    rw [Registry.step, Registry.close, hnone]

/-- A paragraph in a division, with a line break before it and neither of them closed. -/
def openParagraph : List Event :=
  [.start "div" [], .start "br" [], .start "p" [], .data "Salt", .entity "amp"]

/-- A stray end tag leaves both open, and nothing is in the line break. -/
theorem registry_sound_openParagraph :
    let r := openParagraph.foldl Registry.step Registry.empty
    r.stack = [3, 1, 0] ∧ (∀ i ∈ r.stack.dropLast, r.tagOf? i ≠ some "span") ∧
      (r.step (.finish "span")).stack = r.stack ∧
      r.childrenOf 1 = [2, 3] ∧ r.childrenOf 2 = [] ∧ (r.step (.finish "div")).stack = [0] :=
  have h := registry_sound openParagraph
  ⟨by decide, by decide, (h.2.2.2 "span").2.2 (by decide), by decide,
    h.2.1.childless 1 (.start "br" []) rfl rfl, by decide⟩

end Letterpress.Markup
