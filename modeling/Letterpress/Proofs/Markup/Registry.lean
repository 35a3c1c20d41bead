import Letterpress.Markup.Builder
import Mathlib.Data.List.Chain
import Mathlib.Data.List.Nodup

/-!
# A Registry of Nodes

While markup is read, nodes are made one by one, and each is put into the innermost element that
is open. A registry says what is known of each node at any time: what it is by itself, which node
it is in and which nodes are in it. Nodes have numbers in the order in which they are made, and
the root, which is there from the start, has the number zero.

Whatever events come, tags that match or not, the nodes stay a tree. A node and the one that it
is in agree on this, the open nodes lead from the root to the innermost one by last children, and
what was never open has nothing in it. An end tag closes nodes and does nothing else, and the
root is never closed.

## Main definitions

* `Event.node?`, `Event.opens`: The node that an event makes, and whether it is open then.
* `Entry`, `Registry`: What is known of a node, and of all nodes made so far.
* `Registry.step`: The effect of one event.
* `Registry.Sound`: What holds of the nodes that some events make.

## Theorems

* `childrenOf_enter`, `parentOf?_enter`: A new node changes one list of children and one parent.
* `Sound.enter`, `Sound.enterOpen`, `Sound.close`: What the effects keep.
* `Sound.step`, `sound_foldl`: One event, and any number of them.
-/

namespace Letterpress.Markup

namespace Event

/-- The node that is made by an event, as long as nothing is in it. -/
def node? : Event → Option Node
  | .start tag attributes | .selfClosed tag attributes => some (.element tag attributes [])
  | .finish _ => none
  | .data s => some (.text s)
  | .entity name => some (.text ("&" ++ name ++ ";"))
  | .code digits => some (.text ("&#" ++ digits ++ ";"))
  | .comment s => some (.comment s)
  | .declaration s => some (.declaration s)

/-- An element is open after the event. -/
def opens : Event → Bool
  | .start tag _ => !voidTags.contains tag
  | _ => false

end Event

/-- A node as it is registered: by itself, with the number of the node that it is in and the
    numbers of those in it. -/
structure Entry where
  node : Node
  parent : Option Nat
  children : List Nat

/-- One more node is in a node. -/
def Entry.put (number : Nat) (e : Entry) : Entry :=
  { e with children := e.children ++ [number] }

/-- The nodes made so far, each under the number of those before it, and the numbers of the open
    ones, the innermost first. The root has the number zero and is always open. -/
structure Registry where
  entries : List Entry
  stack : List Nat

namespace Registry

/-- Nothing made yet but the root. -/
def empty : Registry :=
  ⟨[⟨Node.root [], none, []⟩], [0]⟩

/-- The innermost open node. -/
def current (r : Registry) : Nat :=
  r.stack.headD 0

/-- A new node is put into the innermost open one, at the end. -/
def enter (r : Registry) (n : Node) : Registry :=
  { r with entries := r.entries.modify r.current (Entry.put r.entries.length)
      ++ [⟨n, some r.current, []⟩] }

/-- A new node is put into the innermost open one and is open itself from then on. -/
def enterOpen (r : Registry) (n : Node) : Registry :=
  { r.enter n with stack := r.entries.length :: r.stack }

/-- The tag of a registered element. -/
def tagOf? (r : Registry) (i : Nat) : Option String :=
  (r.entries[i]?.map Entry.node).bind Node.tag?

/-- The open nodes up to the nearest one with a tag are closed, if there is one besides the
    root. -/
def close (r : Registry) (tag : String) : Registry :=
  match r.stack.dropLast.findIdx? fun i => r.tagOf? i = some tag with
  | some i => { r with stack := r.stack.drop (i + 1) }
  | none => r

/-- The effect of one event. -/
def step (r : Registry) : Event → Registry
  | .start tag attributes =>
    if voidTags.contains tag then r.enter (.element tag attributes [])
    else r.enterOpen (.element tag attributes [])
  | .selfClosed tag attributes => r.enter (.element tag attributes [])
  | .finish tag => r.close tag
  | .data s => r.enter (.text s)
  | .entity name => r.enter (.text ("&" ++ name ++ ";"))
  | .code digits => r.enter (.text ("&#" ++ digits ++ ";"))
  | .comment s => r.enter (.comment s)
  | .declaration s => r.enter (.declaration s)

/-- The number of the node that a node is in. -/
def parentOf? (r : Registry) (i : Nat) : Option Nat :=
  r.entries[i]?.bind Entry.parent

/-- The numbers of the nodes in a node. -/
def childrenOf (r : Registry) (i : Nat) : List Nat :=
  (r.entries[i]?.map Entry.children).getD []

/-- The events that make a node. -/
def making (events : List Event) : List Event :=
  events.filter fun e => e.node?.isSome

/-- What holds of the nodes that are made by some events. -/
structure Sound (r : Registry) (events : List Event) : Prop where
  /-- The nodes are those of the events, in order. -/
  nodes : r.entries.map Entry.node = Node.root [] :: events.filterMap Event.node?
  /-- Each open node is the last child of the next one. -/
  path : r.stack.IsChain fun inner outer => (r.childrenOf outer).getLast? = some inner
  /-- The outermost open node is the root. -/
  bottom : r.stack.getLast? = some 0
  /-- The parent of a node is the one that has it among its children. -/
  kin : ∀ i j, i ∈ r.childrenOf j ↔ r.parentOf? i = some j
  /-- No node has another one twice. -/
  once : ∀ j, (r.childrenOf j).Nodup
  /-- Every node but the root is in one that was made before. -/
  rooted : ∀ i, 0 < i → i < r.entries.length → ∃ j < i, r.parentOf? i = some j
  /-- What is not open after it was made stays without children. -/
  childless : ∀ i e, (making events)[i]? = some e → e.opens = false → r.childrenOf (i + 1) = []
  /-- It is never open. -/
  unopened : ∀ i e, (making events)[i]? = some e → e.opens = false → i + 1 ∉ r.stack
  /-- What is open was made later than what it is in. -/
  descending : r.stack.Pairwise (· > ·)
  /-- What is open was made. -/
  known : ∀ i ∈ r.stack, i < r.entries.length

section Entering

variable {r : Registry} {n : Node} {events : List Event} {e : Event}

theorem length_making (events : List Event) :
    (making events).length = (events.filterMap Event.node?).length := by
  rw [making, List.length_filterMap_eq_countP, List.countP_eq_length_filter]

theorem Sound.length (h : r.Sound events) :
    r.entries.length = (making events).length + 1 := by
  rw [length_making, ← List.length_cons, ← h.nodes, List.length_map]

/-- The innermost open node stands first. -/
theorem Sound.stack_eq (h : r.Sound events) : r.stack = r.current :: r.stack.tail := by
  have hbottom := h.bottom
  unfold current
  cases hstack : r.stack with
  | nil =>
      rw [hstack] at hbottom
      exact absurd hbottom (by simp)
  | cons i stack => rfl

theorem Sound.current_mem (h : r.Sound events) : r.current ∈ r.stack := by
  rw [h.stack_eq]
  exact List.mem_cons_self

theorem length_enter (r : Registry) (n : Node) :
    (r.enter n).entries.length = r.entries.length + 1 := by
  simp [enter]

theorem childrenOf_of_length_le {i : Nat} (h : r.entries.length ≤ i) : r.childrenOf i = [] := by
  rw [childrenOf, List.getElem?_eq_none h]
  rfl

theorem parentOf?_of_length_le {i : Nat} (h : r.entries.length ≤ i) : r.parentOf? i = none := by
  rw [parentOf?, List.getElem?_eq_none h]
  rfl

theorem getElem?_enter (r : Registry) (n : Node) (i : Nat) :
    (r.enter n).entries[i]? = if i = r.entries.length then some ⟨n, some r.current, []⟩
      else r.entries[i]?.map fun e => if r.current = i then e.put r.entries.length else e := by
  rw [enter, List.getElem?_append, List.length_modify, List.getElem?_modify]
  by_cases hi : i < r.entries.length
  · rw [if_pos hi, if_neg (by omega)]
    rfl
  · rw [if_neg hi]
    by_cases hlast : i = r.entries.length
    · rw [if_pos hlast, hlast, Nat.sub_self, List.getElem?_cons_zero]
    · rw [if_neg hlast, List.getElem?_eq_none (by simp; omega),
        List.getElem?_eq_none (by omega), Option.map_none]

theorem nodes_enter (r : Registry) (n : Node) :
    (r.enter n).entries.map Entry.node = r.entries.map Entry.node ++ [n] := by
  have hmodify : ∀ (es : List Entry) (i : Nat),
      (es.modify i (Entry.put r.entries.length)).map Entry.node = es.map Entry.node := by
    intro es
    induction es with
    | nil => intro i; cases i <;> rfl
    | cons e es ih =>
        intro i
        cases i with
        | zero => rfl
        | succ i => rw [List.modify_succ_cons, List.map_cons, ih, List.map_cons]
  rw [enter, List.map_append, hmodify]
  rfl

theorem childrenOf_enter (hcurrent : r.current < r.entries.length) (n : Node) (i : Nat) :
    (r.enter n).childrenOf i
      = r.childrenOf i ++ if i = r.current then [r.entries.length] else [] := by
  rw [childrenOf, getElem?_enter]
  by_cases hlast : i = r.entries.length
  · rw [if_pos hlast, if_neg (by omega), childrenOf_of_length_le (by omega)]
    rfl
  · rw [if_neg hlast, Option.map_map, childrenOf]
    cases hentry : r.entries[i]? with
    | none =>
        have hi := List.getElem?_eq_none_iff.mp hentry
        rw [if_neg (by omega)]
        rfl
    | some e =>
        by_cases hi : i = r.current
        · simp [hi, Entry.put]
        · simp [hi, Ne.symm hi]

theorem parentOf?_enter (r : Registry) (n : Node) (i : Nat) :
    (r.enter n).parentOf? i
      = if i = r.entries.length then some r.current else r.parentOf? i := by
  rw [parentOf?, getElem?_enter]
  by_cases hlast : i = r.entries.length
  · rw [if_pos hlast, if_pos hlast, Option.bind_some]
  · rw [if_neg hlast, if_neg hlast, parentOf?]
    cases r.entries[i]? with
    | none => rfl
    | some e => by_cases hi : r.current = i <;> simp [hi, Entry.put]

theorem making_append_some (he : (e.node?).isSome = true) (events : List Event) :
    making (events ++ [e]) = making events ++ [e] := by
  simp [making, he]

theorem making_append_none (he : e.node? = none) (events : List Event) :
    making (events ++ [e]) = making events := by
  simp [making, he]

/-- The number of the next node is not taken. -/
theorem Sound.fresh (h : r.Sound events) (j : Nat) : r.entries.length ∉ r.childrenOf j := by
  rw [h.kin, parentOf?_of_length_le (Nat.le_refl _)]
  exact (Option.some_ne_none j).symm

theorem Sound.kin_enter (h : r.Sound events) (n : Node) (i j : Nat) :
    i ∈ (r.enter n).childrenOf j ↔ (r.enter n).parentOf? i = some j := by
  rw [childrenOf_enter (h.known _ h.current_mem), parentOf?_enter, List.mem_append]
  by_cases hi : i = r.entries.length
  · rw [if_pos hi, hi, Option.some.injEq, or_iff_right (h.fresh j)]
    by_cases hj : j = r.current
    · simp [hj]
    · simp [hj, Ne.symm hj]
  · rw [if_neg hi, ← h.kin]
    refine or_iff_left fun hmem => hi ?_
    split at hmem
    · exact List.mem_singleton.mp hmem
    · exact absurd hmem List.not_mem_nil

theorem Sound.once_enter (h : r.Sound events) (n : Node) (j : Nat) :
    ((r.enter n).childrenOf j).Nodup := by
  rw [childrenOf_enter (h.known _ h.current_mem)]
  split
  · exact (h.once j).append (List.nodup_singleton _) (List.disjoint_singleton.mpr (h.fresh j))
  · rw [List.append_nil]
    exact h.once j

/-- The current node is open, so it is none of those that have to stay without children. -/
theorem Sound.childless_enter (h : r.Sound events) {i : Nat} {m : Event}
    (hm : (making events ++ [e])[i]? = some m) (hopens : m.opens = false) (n : Node) :
    (r.enter n).childrenOf (i + 1) = [] := by
  have hcurrent := h.known _ h.current_mem
  have hlength := h.length
  rw [childrenOf_enter hcurrent]
  rw [List.getElem?_append] at hm
  split at hm
  · have hclosed := h.unopened i m hm hopens
    have hother : i + 1 ≠ r.current := fun hi => hclosed (hi ▸ h.current_mem)
    rw [h.childless i m hm hopens, if_neg hother]
    rfl
  · have hi := (List.getElem?_eq_some_iff.mp hm).1
    rw [List.length_singleton] at hi
    rw [childrenOf_of_length_le (by omega), if_neg (by omega)]
    rfl

/-- A new node is in the innermost open one and nowhere else. -/
theorem Sound.enter (h : r.Sound events) (he : e.node? = some n) :
    (r.enter n).Sound (events ++ [e]) := by
  have hcurrent := h.known _ h.current_mem
  have hlength := h.length
  have hmaking := making_append_some (e := e) (by rw [he]; rfl) events
  constructor
  case nodes =>
    rw [nodes_enter, h.nodes, List.filterMap_append, List.cons_append,
      List.filterMap_cons_some he]
    rfl
  case path =>
    -- Only the current node has a new child, and it is the innermost one.
    refine h.path.imp_of_mem_tail_imp fun inner outer _ houter hlast => ?_
    have hdescending := h.descending
    rw [h.stack_eq] at hdescending
    have hless := (List.pairwise_cons.mp hdescending).1 outer houter
    rw [childrenOf_enter hcurrent, if_neg (Nat.ne_of_lt hless), List.append_nil]
    exact hlast
  case bottom => exact h.bottom
  case kin => exact h.kin_enter n
  case once => exact h.once_enter n
  case rooted =>
    intro i hpos hi
    rw [parentOf?_enter]
    by_cases hlast : i = r.entries.length
    · rw [if_pos hlast]
      exact ⟨r.current, by omega, rfl⟩
    · rw [if_neg hlast]
      rw [length_enter] at hi
      exact h.rooted i hpos (by omega)
  case childless =>
    intro i m hm hopens
    rw [hmaking] at hm
    exact h.childless_enter hm hopens n
  case unopened =>
    intro i m hm hopens hmem
    have hknown := h.known _ hmem
    rw [hmaking, List.getElem?_append_left (by omega)] at hm
    exact h.unopened i m hm hopens hmem
  case descending => exact h.descending
  case known =>
    intro i hi
    rw [length_enter]
    exact Nat.lt_succ_of_lt (h.known i hi)

/-- A new node that stays open is the last one in the node that it is put into. -/
theorem Sound.enterOpen (h : r.Sound events) (he : e.node? = some n) (hopens : e.opens = true) :
    (r.enterOpen n).Sound (events ++ [e]) := by
  have hentered := h.enter he
  have hcurrent := h.known _ h.current_mem
  have hlength := h.length
  have hmaking := making_append_some (e := e) (by rw [he]; rfl) events
  refine { hentered with
    path := ?path, bottom := ?bottom, unopened := ?unopened, descending := ?descending,
    known := ?known }
  case path =>
    refine hentered.path.cons fun outer houter => ?_
    have hlast : outer = r.current := by
      change outer ∈ r.stack.head? at houter
      rw [h.stack_eq] at houter
      exact (Option.some.inj houter).symm
    change ((r.enter n).childrenOf outer).getLast? = _
    rw [childrenOf_enter hcurrent, if_pos hlast, List.getLast?_concat]
  case bottom =>
    change (r.entries.length :: r.stack).getLast? = some 0
    rw [List.getLast?_cons, h.bottom]
    rfl
  case unopened =>
    intro i m hm hm' hmem
    rcases List.mem_cons.mp hmem with hi | hmem
    · -- The last node that was made is open.
      rw [hmaking, List.getElem?_append_right (by omega),
        show i - (making events).length = 0 by omega, List.getElem?_cons_zero,
        Option.some.injEq] at hm
      rw [← hm, hopens] at hm'
      exact Bool.false_ne_true hm'.symm
    · exact hentered.unopened i m hm hm' hmem
  case descending => exact List.pairwise_cons.mpr ⟨h.known, h.descending⟩
  case known =>
    intro i hi
    change i < (r.enter n).entries.length
    rw [length_enter]
    rcases List.mem_cons.mp hi with rfl | hi
    · exact Nat.lt_succ_self _
    · exact Nat.lt_succ_of_lt (h.known i hi)

/-- Closing open nodes changes nothing else. -/
theorem Sound.shorten (h : r.Sound events) {k : Nat} (hk : k < r.stack.length) :
    ({ r with stack := r.stack.drop k } : Registry).Sound events :=
  { h with
    path := h.path.drop k
    bottom := by
      change (r.stack.drop k).getLast? = some 0
      rw [List.getLast?_drop, if_neg (by omega), h.bottom]
    unopened := fun i m hm hopens hmem => h.unopened i m hm hopens (List.mem_of_mem_drop hmem)
    descending := h.descending.drop
    known := fun i hi => h.known i (List.mem_of_mem_drop hi) }

/-- An event that makes no node says nothing of the nodes. -/
theorem Sound.silent (h : r.Sound events) (he : e.node? = none) : r.Sound (events ++ [e]) :=
  { h with
    nodes := by
      rw [h.nodes, List.filterMap_append, List.filterMap_cons_none he, List.filterMap_nil,
        List.append_nil]
    childless := by
      rw [making_append_none he]
      exact h.childless
    unopened := by
      rw [making_append_none he]
      exact h.unopened }

theorem Sound.close (h : r.Sound events) (tag : String) : (r.close tag).Sound events := by
  unfold Registry.close
  split
  · rename_i k hk
    have hlength := (List.findIdx?_eq_some_iff_findIdx_eq.mp hk).1
    rw [List.length_dropLast] at hlength
    exact h.shorten (by omega)
  · exact h

/-- The effect of an event keeps the nodes sound. -/
theorem Sound.step (h : r.Sound events) (e : Event) : (r.step e).Sound (events ++ [e]) := by
  cases e with
  | start tag as =>
      rw [Registry.step]
      by_cases hvoid : voidTags.contains tag = true
      · rw [if_pos hvoid]
        exact h.enter rfl
      · rw [if_neg hvoid]
        rw [Bool.not_eq_true] at hvoid
        exact h.enterOpen rfl (by rw [Event.opens, hvoid]; rfl)
  | finish tag => exact (h.close tag).silent rfl
  | selfClosed tag as => exact h.enter rfl
  | data s | entity s | code s | comment s | declaration s => exact h.enter rfl

theorem sound_empty : empty.Sound [] := by
  have hchildren : ∀ i, empty.childrenOf i = [] := fun i => by cases i <;> rfl
  have hparent : ∀ i, empty.parentOf? i = none := fun i => by cases i <;> rfl
  exact {
    nodes := rfl
    path := List.isChain_singleton _
    bottom := rfl
    kin := fun i j => by simp [hchildren, hparent]
    once := fun j => by rw [hchildren]; exact List.nodup_nil
    rooted := fun i hpos hi => absurd hi (Nat.not_lt.mpr hpos)
    childless := fun i _ _ _ => hchildren (i + 1)
    unopened := fun i _ h => absurd h (by simp [making])
    descending := List.pairwise_singleton _ _
    known := fun i hi => by rw [List.mem_singleton.mp hi]; exact Nat.one_pos }

/-- After any events the nodes are sound. -/
theorem sound_foldl (events : List Event) : (events.foldl Registry.step empty).Sound events := by
  induction events using List.reverseRecOn with
  | nil => exact sound_empty
  | append_singleton events e ih =>
      rw [List.foldl_append]
      exact ih.step e

end Entering

end Registry

end Letterpress.Markup
