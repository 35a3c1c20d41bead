import Letterpress.Proofs.Markup.Elements
import Letterpress.Proofs.Markup.Reading

/-!
# Reading What Was Written

Whatever passes over a tree trusts that its text still means the tree. It does for trees
whose text shows where their parts begin and end: lower-case tags and names, elements
without content where the tag allows none, character data without markup in it,
references one by one, comments that do not end early. Attribute values are free, since
they are escaped.

The text does not show where character data is divided. Two neighbors are read as one,
so reading gives the tree back with its neighbors joined. Apart from that a legible tree
is *tidy* in the sense of `Writing`, and tidy trees are read back as they are.

## Main definitions

* `Node.Legible`: The text of a tree shows its parts.
* `Node.joined`: A tree with neighboring character data joined.
* `Node.WellFormed`: The same for trees with references anywhere in their text.
* `Node.bare`: The elements of a tree.

## Theorems

* `tidyAll_joined`: Joining makes legible trees tidy.
* `serializeAll_joined`: Joining leaves the text as it is.
* `joinedAll_tidy`: In a tidy tree there is nothing to join.
* `parse_wellFormed`: A well-formed tree is read back, with its text divided otherwise.
* `parse_serialize`: A legible tree is read back, with its neighbors joined.
-/

namespace Letterpress.Markup

namespace Node

mutual

/-- The text of the tree shows its parts, except where character data is divided. -/
def Legible : Node → Prop
  | element tag attributes children =>
    isTag tag = true ∧ rawTags.contains tag = false ∧ (∀ a ∈ attributes, isName a.1 = true) ∧
      (voidTags.contains tag = true → children = []) ∧ LegibleAll children
  | text data => isPlain data = true ∨ IsReference data.toList
  | comment data => hasNoCommentEnd data.toList = true
  | declaration data => isDocumentType data = true

/-- The texts of the trees show their parts. -/
def LegibleAll : List Node → Prop
  | [] => True
  | n :: ns => Legible n ∧ LegibleAll ns

end

/-- A node in front of others. It joins the first of them if both are character data. -/
def joinFront : Node → List Node → List Node
  | text s, text t :: ns =>
    if isPlain s && isPlain t then text (s ++ t) :: ns else text s :: text t :: ns
  | n, ns => n :: ns

mutual

/-- The tree with neighboring character data joined. -/
def joined : Node → Node
  | element tag attributes children => element tag attributes (joinedAll children)
  | text data => text data
  | comment data => comment data
  | declaration data => declaration data

/-- The trees with neighboring character data joined. -/
def joinedAll : List Node → List Node
  | [] => []
  | n :: ns => joinFront (joined n) (joinedAll ns)

end

mutual

/-- The elements of the tree. -/
def bare : Node → Node
  | element tag attributes children => element tag attributes (bareAll children)
  | n => n

/-- The elements of the trees. -/
def bareAll : List Node → List Node
  | [] => []
  | n :: ns => (if n.isElement then [bare n] else []) ++ bareAll ns

end

end Node

open Letterpress.Markup.Node (joinFront joined joinedAll Legible LegibleAll bare bareAll)

/-- A node joins the first of the others, or it stays a node of its own and would not have
    been read as one with it. -/
theorem joinFront_cases (n : Node) (ns : List Node) :
    (∃ s t more, n = .text s ∧ ns = .text t :: more ∧ isPlain s = true ∧ isPlain t = true ∧
      joinFront n ns = .text (s ++ t) :: more) ∨
    ((n.isPlainText = true → ns.head?.any Node.isPlainText = false) ∧
      joinFront n ns = n :: ns) := by
  cases n with
  | element tag as children => exact Or.inr ⟨fun h => absurd h (by simp [Node.isPlainText]), rfl⟩
  | comment data => exact Or.inr ⟨fun h => absurd h (by simp [Node.isPlainText]), rfl⟩
  | declaration data => exact Or.inr ⟨fun h => absurd h (by simp [Node.isPlainText]), rfl⟩
  -- Only character data joins, and only with character data.
  | text s =>
      rcases ns with _ | ⟨m, more⟩
      · exact Or.inr ⟨fun _ => rfl, rfl⟩
      cases m with
      | element tag as children => exact Or.inr ⟨fun _ => rfl, rfl⟩
      | comment data => exact Or.inr ⟨fun _ => rfl, rfl⟩
      | declaration data => exact Or.inr ⟨fun _ => rfl, rfl⟩
      | text t =>
          by_cases hboth : (isPlain s && isPlain t) = true
          · have hparts := hboth
            rw [Bool.and_eq_true] at hparts
            refine Or.inl ⟨s, t, more, rfl, rfl, hparts.1, hparts.2, ?_⟩
            rw [joinFront, if_pos hboth]
          · refine Or.inr ⟨fun hs => ?_, by rw [joinFront, if_neg hboth]⟩
            rw [Node.isPlainText] at hs
            simpa [Node.isPlainText, hs] using hboth

theorem isPlain_append {s t : String} (hs : isPlain s = true) (ht : isPlain t = true) :
    isPlain (s ++ t) = true := by
  simp only [isPlain, Bool.and_eq_true, Bool.not_eq_true', List.isEmpty_eq_false_iff] at hs ht ⊢
  rw [String.toList_append, List.all_append, hs.2, ht.2]
  exact ⟨List.append_ne_nil_of_left_ne_nil hs.1 _, rfl⟩

theorem tidyAll_joinFront {n : Node} {ns : List Node} (hn : n.Tidy) (hns : Node.TidyAll ns) :
    Node.TidyAll (joinFront n ns) := by
  rcases joinFront_cases n ns with ⟨s, t, more, rfl, rfl, hs, ht, heq⟩ | ⟨hnext, heq⟩
  · rw [heq]
    rw [Node.TidyAll] at hns ⊢
    -- What follows the joined data followed its second part before.
    exact ⟨Or.inl (isPlain_append hs ht), fun _ => hns.2.1 ht, hns.2.2⟩
  · rw [heq, Node.TidyAll]
    exact ⟨hn, hnext, hns⟩

theorem serializeAll_joinFront (n : Node) (ns : List Node) :
    Node.serializeAll (joinFront n ns) = n.serialize ++ Node.serializeAll ns := by
  rcases joinFront_cases n ns with ⟨s, t, more, rfl, rfl, -, -, heq⟩ | ⟨-, heq⟩
  · rw [heq, Node.serializeAll, Node.serialize, Node.serializeAll, Node.serialize, Node.serialize,
      String.append_assoc]
  · rw [heq, Node.serializeAll]

mutual

/-- A legible tree becomes tidy when its neighbors are joined. -/
theorem tidy_joined : (n : Node) → n.Legible → n.joined.Tidy
  | .element tag as children, h => by
    rw [Legible] at h
    rcases h with ⟨htag, hraw, hnames, hvoid, hchildren⟩
    rw [joined, Node.Tidy]
    refine ⟨htag, hnames, ?_⟩
    by_cases hempty : voidTags.contains tag = true
    · rw [if_pos hempty, hvoid hempty]
      rfl
    · rw [if_neg hempty, if_neg (by rw [hraw]; exact Bool.false_ne_true)]
      exact tidyAll_joined children hchildren
  | .text _, h => h
  | .comment _, h => h
  | .declaration _, h => h

theorem tidyAll_joined : (ns : List Node) → LegibleAll ns → Node.TidyAll (joinedAll ns)
  | [], _ => trivial
  | n :: ns, h => tidyAll_joinFront (tidy_joined n h.1) (tidyAll_joined ns h.2)

end

mutual

/-- Joining neighbors leaves the text of a tree as it is. -/
theorem serialize_joined : (n : Node) → n.joined.serialize = n.serialize
  | .element tag as children => by
    rw [joined, Node.serialize, Node.serialize, serializeAll_joined children]
  | .text _ => rfl
  | .comment _ => rfl
  | .declaration _ => rfl

theorem serializeAll_joined : (ns : List Node) →
    Node.serializeAll (joinedAll ns) = Node.serializeAll ns
  | [] => rfl
  | n :: ns => by
    rw [joinedAll, serializeAll_joinFront, serialize_joined n, serializeAll_joined ns,
      Node.serializeAll]

end

mutual

theorem joined_tidy : (n : Node) → n.Tidy → n.joined = n
  | .element tag as children, h => by
    rw [Node.Tidy] at h
    rw [joined]
    by_cases hvoid : voidTags.contains tag = true
    · rw [if_pos hvoid] at h
      rw [h.2.2]
      rfl
    · rw [if_neg hvoid] at h
      by_cases hraw : rawTags.contains tag = true
      · rw [if_pos hraw] at h
        rcases h.2.2 with ⟨data, rfl, -⟩
        rfl
      · rw [if_neg hraw] at h
        rw [joinedAll_tidy children h.2.2]
  | .text _, _ => rfl
  | .comment _, _ => rfl
  | .declaration _, _ => rfl

/-- In tidy trees there is nothing to join. -/
theorem joinedAll_tidy : (ns : List Node) → Node.TidyAll ns → joinedAll ns = ns
  | [], _ => rfl
  | n :: ns, h => by
    rw [Node.TidyAll] at h
    rw [joinedAll, joined_tidy n h.1, joinedAll_tidy ns h.2.2]
    rcases joinFront_cases n ns with ⟨s, t, more, rfl, rfl, hs, ht, -⟩ | ⟨-, heq⟩
    · exact absurd ht (by simpa [Node.isPlainText] using h.2.1 hs)
    · exact heq

end

section Division

theorem bareAll_cons (n : Node) (ns : List Node) :
    bareAll (n :: ns) = bareAll [n] ++ bareAll ns := by
  rw [bareAll, bareAll, bareAll, List.append_nil]

theorem bareAll_append (ns ms : List Node) : bareAll (ns ++ ms) = bareAll ns ++ bareAll ms := by
  induction ns with
  | nil => rfl
  | cons n ns ih => rw [List.cons_append, bareAll, ih, bareAll, List.append_assoc]

theorem serializeAll_append (ns ms : List Node) :
    Node.serializeAll (ns ++ ms) = Node.serializeAll ns ++ Node.serializeAll ms := by
  induction ns with
  | nil => exact String.empty_append.symm
  | cons n ns ih =>
      rw [List.cons_append, Node.serializeAll, ih, Node.serializeAll, String.append_assoc]

theorem legibleAll_append {ns ms : List Node} (hns : LegibleAll ns) (hms : LegibleAll ms) :
    LegibleAll (ns ++ ms) := by
  induction ns with
  | nil => exact hms
  | cons n ns ih => exact ⟨hns.1, ih hns.2⟩

theorem bareAll_joinFront (n : Node) (ns : List Node) :
    bareAll (joinFront n ns) = bareAll (n :: ns) := by
  rcases joinFront_cases n ns with ⟨s, t, more, rfl, rfl, -, -, heq⟩ | ⟨-, heq⟩
  · rw [heq]
    rfl
  · rw [heq]

mutual

theorem bareAll_joined : (n : Node) → bareAll [n.joined] = bareAll [n]
  | .element tag as children => by
    have hself := bareAll_joinedAll children
    simp only [joined, bareAll, bare, Node.isElement, if_true, hself]
  | .text _ => rfl
  | .comment _ => rfl
  | .declaration _ => rfl

/-- Joining neighbors leaves the elements of a tree as they are. -/
theorem bareAll_joinedAll : (ns : List Node) → bareAll (joinedAll ns) = bareAll ns
  | [] => rfl
  | n :: ns => by
    rw [joinedAll, bareAll_joinFront, bareAll_cons, bareAll_joined n, bareAll_joinedAll ns,
      ← bareAll_cons]

end

mutual

theorem elementsIn_bare : (n : Node) → n.bare.elementsIn = n.elementsIn.map bare
  | .element tag as children => by
    rw [bare, elementsIn_element, elementsBelow_element, elementsAll_bareAll children,
      elementsIn_element, elementsBelow_element, List.map_cons, bare]
  | .text _ => rfl
  | .comment _ => rfl
  | .declaration _ => rfl

theorem elementsAll_bareAll : (ns : List Node) →
    Node.elementsAll (bareAll ns) = (Node.elementsAll ns).map bare
  | [] => rfl
  | n :: ns => by
    have hrest := elementsAll_bareAll ns
    rw [bareAll, elementsAll_append, hrest, elementsAll_cons, List.map_append,
      ← elementsIn_bare n]
    cases n with
    | element tag as children => exact congrArg (· ++ _) (List.append_nil _)
    | text data | comment data | declaration data => rfl

end

/-- The elements of a tree are found without the text between them. -/
theorem elementsBelow_bare (n : Node) : n.bare.elementsBelow = n.elementsBelow.map bare := by
  cases n with
  | element tag as children =>
      rw [bare, elementsBelow_element, elementsBelow_element, elementsAll_bareAll]
  | text data | comment data | declaration data => rfl

/-- What all elements of a tree have in common, whatever text is in them, is the same for all
    trees with the same elements. -/
theorem forall_elementsBelow_bare {Q : Node → Prop} (hQ : ∀ e : Node, Q e.bare ↔ Q e)
    {n m : Node} (h : m.bare = n.bare) (hn : ∀ e ∈ n.elementsBelow, Q e) :
    ∀ e ∈ m.elementsBelow, Q e := by
  intro e he
  have hmem : e.bare ∈ n.elementsBelow.map bare := by
    rw [← elementsBelow_bare, ← h, elementsBelow_bare]
    exact List.mem_map_of_mem he
  rcases List.mem_map.mp hmem with ⟨e', he', hbare⟩
  rw [← hQ, ← hbare, hQ]
  exact hn e' he'

/-- Text that is made of character data and references. -/
def IsText (data : String) : Prop :=
  ∃ pieces : List String, Text.concat pieces = data ∧
    ∀ piece ∈ pieces, isPlain piece = true ∨ IsReference piece.toList

namespace Node

mutual

/-- A tree of which everything but the division of its text is seen from its markup. Between
    its elements is any text without markup in it, with references anywhere. -/
def WellFormed : Node → Prop
  | element tag attributes children =>
    isTag tag = true ∧ rawTags.contains tag = false ∧ (∀ a ∈ attributes, isName a.1 = true) ∧
      (voidTags.contains tag = true → children = []) ∧ WellFormedAll children
  | text data => IsText data
  | comment data => hasNoCommentEnd data.toList = true
  | declaration data => isDocumentType data = true

/-- Trees of which this is true. -/
def WellFormedAll : List Node → Prop
  | [] => True
  | n :: ns => WellFormed n ∧ WellFormedAll ns

end

/-- An element around well-formed content. -/
theorem wellFormed_filled {tag : String} {as : List Attribute} {children : List Node}
    (htag : isFilledTag tag = true) (hnames : ∀ a ∈ as, isName a.1 = true)
    (hchildren : WellFormedAll children) : WellFormed (.element tag as children) := by
  rcases isFilledTag_parts htag with ⟨htag, hvoid, hraw⟩
  exact ⟨htag, hraw, hnames, fun h => absurd h (by rw [hvoid]; exact Bool.false_ne_true),
    hchildren⟩

/-- A text without markup or references in it. -/
theorem wellFormedAll_plain {data : String} (h : isPlain data = true) :
    WellFormedAll [.text data] :=
  ⟨⟨[data], String.append_empty, List.forall_mem_singleton.mpr (Or.inl h)⟩, trivial⟩

end Node

/-- The trees have the same text and the same elements, and those that are left show where
    their text is divided. -/
structure Divides (ns ms : List Node) : Prop where
  legible : LegibleAll ms
  text : Node.serializeAll ms = Node.serializeAll ns
  elements : bareAll ms = bareAll ns

theorem divides_leaf {n : Node} (h : n.Legible) : Divides [n] [n] :=
  ⟨⟨h, trivial⟩, rfl, rfl⟩

theorem divides_pieces {pieces : List String}
    (h : ∀ piece ∈ pieces, isPlain piece = true ∨ IsReference piece.toList) :
    Divides [.text (Text.concat pieces)] (pieces.map Node.text) := by
  induction pieces with
  | nil => exact ⟨trivial, rfl, rfl⟩
  | cons piece pieces ih =>
      rw [List.forall_mem_cons] at h
      have hrest := ih h.2
      refine ⟨⟨h.1, hrest.legible⟩, ?_, ?_⟩
      · rw [List.map_cons, Node.serializeAll, hrest.text]
        simp only [Node.serializeAll, Node.serialize, Text.concat, String.append_empty]
      · rw [List.map_cons, bareAll_cons, hrest.elements]
        rfl

mutual

theorem exists_divides : (n : Node) → n.WellFormed → ∃ ms, Divides [n] ms
  | .element tag as children, h => by
    rw [Node.WellFormed] at h
    rcases h with ⟨htag, hraw, hnames, hvoid, hchildren⟩
    by_cases hempty : voidTags.contains tag = true
    · obtain rfl := hvoid hempty
      exact ⟨_, divides_leaf ⟨htag, hraw, hnames, fun _ => rfl, trivial⟩⟩
    · rcases exists_dividesAll children hchildren with ⟨ms, hms⟩
      refine ⟨[.element tag as ms], ⟨⟨htag, hraw, hnames, fun h => absurd h hempty, hms.legible⟩,
        trivial⟩, ?_, ?_⟩
      · simp only [Node.serializeAll, Node.serialize, hms.text]
      · simp only [bareAll, bare, Node.isElement, if_true, hms.elements]
  | .text data, h => by
    rcases h with ⟨pieces, rfl, hpieces⟩
    exact ⟨_, divides_pieces hpieces⟩
  | .comment _, h => ⟨_, divides_leaf h⟩
  | .declaration _, h => ⟨_, divides_leaf h⟩

/-- The text of well-formed trees can be divided so that their markup shows it. -/
theorem exists_dividesAll : (ns : List Node) → Node.WellFormedAll ns → ∃ ms, Divides ns ms
  | [], _ => ⟨[], trivial, rfl, rfl⟩
  | n :: ns, h => by
    rcases exists_divides n h.1 with ⟨first, hfirst⟩
    rcases exists_dividesAll ns h.2 with ⟨rest, hrest⟩
    refine ⟨first ++ rest, legibleAll_append hfirst.legible hrest.legible, ?_, ?_⟩
    · rw [serializeAll_append, hfirst.text, hrest.text]
      simp only [Node.serializeAll, String.append_empty]
    · rw [bareAll_append, hfirst.elements, hrest.elements, ← bareAll_cons]

end

/-- A well-formed tree that is written is read back as a tidy tree, which has the same text and
    the same elements. -/
theorem parse_wellFormed {ns : List Node} (h : Node.WellFormedAll ns) :
    ∃ ms, Node.TidyAll ms ∧ parse (Node.root ns).serialize = .ok (Node.root ms) ∧
      (Node.root ms).serialize = (Node.root ns).serialize ∧
      (Node.root ms).bare = (Node.root ns).bare := by
  rcases exists_dividesAll ns h with ⟨divided, hdivided⟩
  have htidy := tidyAll_joined divided hdivided.legible
  have htext : Node.serializeAll (joinedAll divided) = Node.serializeAll ns := by
    rw [serializeAll_joined, hdivided.text]
  have hroot : ∀ ms, (Node.root ms).serialize = Node.serializeAll ms := fun ms => by
    rw [Node.root, Node.serialize, if_pos rfl]
  refine ⟨joinedAll divided, htidy, ?_, ?_, ?_⟩
  · rw [hroot, ← htext]
    exact parse_serializeAll htidy
  · rw [hroot, hroot, htext]
  · rw [Node.root, Node.root, bare, bare, bareAll_joinedAll, hdivided.elements]

end Division

/-- A legible tree that is written is read back with its neighbors joined, and what is read
    is written with the same text. -/
theorem parse_serialize {ns : List Node} (h : LegibleAll ns) :
    parse (Node.root ns).serialize = .ok (Node.root (joinedAll ns)) ∧
      (Node.root (joinedAll ns)).serialize = (Node.root ns).serialize := by
  have hroot : ∀ ms, (Node.root ms).serialize = Node.serializeAll ms := fun ms => by
    rw [Node.root, Node.serialize, if_pos rfl]
  have htext := serializeAll_joined ns
  rw [hroot, hroot]
  refine ⟨?_, htext⟩
  -- The joined tree is written with the same text, and it is tidy.
  rw [← htext]
  exact parse_serializeAll (tidyAll_joined ns h)

/-- A text with divided character data, an escaped value and all kinds of nodes. -/
def noticeTree : List Node :=
  [.declaration "doctype html",
    .element "p" [("title", some "\"a\" & <b>\nc"), ("hidden", none)]
      [.text "Fish ", .text "and", .text "&amp;", .text " chips", .element "br" [] []],
    .comment " a -- b > c-"]

/-- The notice is read back, with the first two words in one. -/
theorem parse_serialize_noticeTree : LegibleAll noticeTree ∧
    parse (Node.root noticeTree).serialize = .ok (Node.root
      [.declaration "doctype html",
        .element "p" [("title", some "\"a\" & <b>\nc"), ("hidden", none)]
          [.text "Fish and", .text "&amp;", .text " chips", .element "br" [] []],
        .comment " a -- b > c-"]) := by
  have hreference : IsReference ("&amp;" : String).toList :=
    .named 'a' ['m', 'p'] (by decide) (by decide)
  have hlegible : LegibleAll noticeTree := by
    have htype : isDocumentType "doctype html" = true := by decide
    have hcomment : hasNoCommentEnd (" a -- b > c-" : String).toList = true := by decide
    refine ⟨htype, ⟨by decide, by decide, by decide, by decide, ?_⟩, hcomment, trivial⟩
    exact ⟨Or.inl (by decide), Or.inl (by decide), Or.inr hreference, Or.inl (by decide),
      ⟨by decide, by decide, by decide, fun _ => rfl, trivial⟩, trivial⟩
  exact ⟨hlegible, (parse_serialize hlegible).1⟩

end Letterpress.Markup
