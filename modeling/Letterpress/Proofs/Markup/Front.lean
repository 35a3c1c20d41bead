import Letterpress.Proofs.Markup.Elements
import Letterpress.Proofs.Markup.Reading

/-!
# The Front of a Text

What is read first comes first in the tree. The elements of a tree, parents before their
children, are those whose start tags were read, in the order in which they were read,
wherever their end tags are. So the first elements of a tree are known from the front of
its text, whatever follows, as long as a tree comes of it at all.

## Main definitions

* `Event.begun?`: The element that begins with an event.
* `Node.labels`: The tags and attributes of the elements of some nodes.
* `openings`: The text of layers up to their content.

## Theorems

* `labels_ofEvents`: The elements of a tree are those that have begun.
* `labels_of_reads`, `step_of_reads`: What the front of a text says about its tree.
* `writtenAll_inLayers`, `reads_openings`: The front of layers.
* `find?_labels`: The first element of a kind is the first one that begins.
-/

namespace Letterpress.Markup

/-- The tag and the attributes of an element. -/
def Node.label (n : Node) : String × List Attribute :=
  (n.tag?.getD "", n.attributes)

/-- The tags and attributes of the elements of some nodes, parents before their children. -/
def Node.labels (ns : List Node) : List (String × List Attribute) :=
  (Node.elementsAll ns).map Node.label

/-- The element that begins with an event. -/
def Event.begun? : Event → Option (String × List Attribute)
  | .start tag attributes | .selfClosed tag attributes => some (tag, attributes)
  | _ => none

section Labels

theorem labels_append (ns ms : List Node) :
    Node.labels (ns ++ ms) = Node.labels ns ++ Node.labels ms := by
  rw [Node.labels, elementsAll_append, List.map_append]
  rfl

theorem labels_element (tag : String) (as : List Attribute) (children : List Node) :
    Node.labels [.element tag as children] = (tag, as) :: Node.labels children := by
  rw [Node.labels, elementsAll_cons, elementsIn_element, elementsBelow_element]
  simp only [Node.elementsAll, List.flatMap_nil, List.append_nil, List.map_cons]
  rfl

theorem labels_leaf {n : Node} (h : n.isElement = false) : Node.labels [n] = [] := by
  rw [Node.labels, elementsAll_cons, elementsIn_leaf h]
  rfl

/-- What holds of all elements holds of their labels. -/
theorem labels_everywhere {P : String → List Attribute → Prop} {ns : List Node}
    (h : Node.EverywhereAll P ns) : ∀ x ∈ Node.labels ns, P x.1 x.2 := by
  classical
  -- A search for an element without the property finds nothing.
  have hnone := filter_elementsAll (q := fun n => decide (¬ P n.label.1 n.label.2))
    (fun tag as children hp => decide_eq_false (not_not_intro hp)) ns h
  rw [List.filter_eq_nil_iff] at hnone
  intro x hx
  rcases List.mem_map.mp hx with ⟨e, he, rfl⟩
  simpa using hnone e he

end Labels

namespace Builder

/-- The tags and attributes of what has been read, in order. -/
def labels (b : Builder) : List (String × List Attribute) :=
  Node.labels b.outside.reverse
    ++ b.opened.reverse.flatMap fun o => (o.tag, o.attributes) :: Node.labels o.children.reverse

theorem labels_add (b : Builder) (n : Node) : (b.add n).labels = b.labels ++ Node.labels [n] := by
  rcases b with ⟨opened, outside⟩
  cases opened with
  | nil => simp [labels, add, labels_append]
  | cons o os => simp [labels, add, labels_append]

theorem labels_push (b : Builder) (tag : String) (as : List Attribute) :
    labels { b with opened := ⟨tag, as, []⟩ :: b.opened } = b.labels ++ [(tag, as)] := by
  simp [labels, Node.labels, Node.elementsAll]

/-- Closing elements leaves what has been read. -/
theorem labels_closeInnermost (b : Builder) : b.closeInnermost.labels = b.labels := by
  rcases b with ⟨opened, outside⟩
  cases opened with
  | nil => rfl
  | cons o os =>
      rw [closeInnermost]
      dsimp only
      rw [labels_add, Open.close, labels_element]
      simp [labels]

theorem labels_closeMany (n : Nat) (b : Builder) : (closeMany n b).labels = b.labels := by
  induction n generalizing b with
  | zero => rfl
  | succ n ih => rw [closeMany, ih, labels_closeInnermost]

/-- An event adds the element that begins with it. -/
theorem labels_step (b : Builder) (e : Event) :
    (b.step e).labels = b.labels ++ e.begun?.toList := by
  have hleaf : ∀ n : Node, n.isElement = false → (b.add n).labels = b.labels ++ [] := by
    intro n hn
    rw [labels_add, labels_leaf hn]
  cases e with
  -- A void element is complete at once; any other one is pushed, and stands open.
  | start tag as =>
      rw [step]
      split
      · rw [labels_add, labels_element]
        rfl
      · exact labels_push b tag as
  | selfClosed tag as =>
      rw [step, labels_add, labels_element]
      rfl
  | finish tag =>
      rw [step, close]
      split
      · rw [labels_closeMany]
        exact (List.append_nil _).symm
      · exact (List.append_nil _).symm
  | data s | entity s | code s | comment s | declaration s => exact hleaf _ rfl

theorem labels_steps (es : List Event) (b : Builder) :
    (es.foldl step b).labels = b.labels ++ es.filterMap Event.begun? := by
  induction es generalizing b with
  | nil => exact (List.append_nil _).symm
  | cons e es ih =>
      rw [List.foldl_cons, ih, labels_step, List.append_assoc]
      cases h : e.begun? <;> simp [h]

theorem labels_addAll (ns : List Node) (b : Builder) :
    (b.addAll ns).labels = b.labels ++ Node.labels ns := by
  induction ns generalizing b with
  | nil => exact (List.append_nil _).symm
  | cons n ns ih =>
      rw [addAll, List.foldl_cons]
      change ((b.add n).addAll ns).labels = _
      rw [ih, labels_add, List.append_assoc, ← labels_append]
      rfl

theorem closeMany_opened (n : Nat) (b : Builder) :
    (closeMany n b).opened.length = b.opened.length - n := by
  have hadd : ∀ (b : Builder) (m : Node), (b.add m).opened.length = b.opened.length := by
    intro b m
    rcases b with ⟨opened, outside⟩
    cases opened <;> rfl
  induction n generalizing b with
  | zero => rfl
  | succ n ih =>
      rw [closeMany, ih]
      rcases b with ⟨opened, outside⟩
      cases opened with
      | nil => simp [closeInnermost]
      | cons o os =>
          rw [closeInnermost]
          dsimp only
          rw [hadd, List.length_cons]
          dsimp only
          omega

theorem labels_finish (b : Builder) : b.finish.elementsBelow.map Node.label = b.labels := by
  have hlabels := labels_closeMany b.opened.length b
  have hopened := closeMany_opened b.opened.length b
  rw [Nat.sub_self, List.length_eq_zero_iff] at hopened
  rw [finish, Node.root, elementsBelow_element, ← hlabels, labels, hopened]
  exact (List.append_nil _).symm

end Builder

/-- The elements of a tree are those that have begun. -/
theorem labels_ofEvents (es : List Event) :
    (ofEvents es).elementsBelow.map Node.label = es.filterMap Event.begun? := by
  rw [ofEvents, Builder.labels_finish, Builder.labels_steps]
  rfl

/-- What is read first comes first in the tree. -/
theorem labels_of_reads {markup : String} {es : List Event} {q : Position} {tree : Node}
    (h : Reads ⟨none, markup.toList⟩ es q) (hparse : parse markup = .ok tree) :
    ∃ others, tree.elementsBelow.map Node.label = es.filterMap Event.begun? ++ others := by
  rw [parse, except_map_ok] at hparse
  rcases hparse with ⟨all, hall, rfl⟩
  rcases pass_of_reads h markup.toList.length (Nat.le_refl _) with ⟨left, -, hpass⟩
  rw [events, hpass] at hall
  simp only [except_bind_ok, except_map_ok, except_pure_ok] at hall
  rcases hall with ⟨_, ⟨⟨more, stopped⟩, -, rfl⟩, ⟨second, last⟩, -, rfl⟩
  rw [labels_ofEvents, List.append_assoc, List.append_assoc, List.filterMap_append]
  exact ⟨_, rfl⟩

/-- Where a text is read as a tree, every step of the reading succeeds. -/
theorem step_of_reads {markup : String} {es : List Event} {q : Position} {tree : Node}
    (h : Reads ⟨none, markup.toList⟩ es q) (hrest : q.rest ≠ [])
    (hparse : parse markup = .ok tree) :
    ∃ outcome, step false q = .ok outcome := by
  rw [parse, except_map_ok] at hparse
  rcases hparse with ⟨all, hall, -⟩
  rcases pass_of_reads h markup.toList.length (Nat.le_refl _) with ⟨left, hleft, hpass⟩
  rw [events, hpass] at hall
  simp only [except_bind_ok, except_map_ok] at hall
  rcases hall with ⟨_, ⟨more, hmore, -⟩, -⟩
  -- There is fuel left as long as there is text left.
  cases left with
  | zero => exact absurd (List.length_eq_zero_iff.mp (Nat.le_zero.mp hleft)) hrest
  | succ left =>
      rw [pass, except_bind_ok] at hmore
      rcases hmore with ⟨outcome, houtcome, -⟩
      exact ⟨outcome, houtcome⟩

section Parts

/-- A start tag is read by itself. -/
theorem reads_start {tag : String} (htag : isFilledTag tag = true) {as values : List Attribute}
    (hnames : ∀ a ∈ as, isName a.1 = true) (hquotes : AttributesInQuotes as)
    (hvalues : as.mapM decoded = .ok values) (rest : List Char) :
    Reads ⟨none, writtenStart tag as ++ rest⟩ [.start tag values] ⟨none, rest⟩ := by
  rcases isFilledTag_parts htag with ⟨htag, -, hraw⟩
  have hstart := step_start htag hnames hquotes rest
  rw [hvalues, hraw] at hstart
  refine Reads.single hstart ?_
  rw [List.length_append, writtenStart, List.length_cons]
  dsimp only
  omega

/-- Inert drafts are read with all of their elements. -/
theorem reads_inert {ns : List Node} (htidy : Node.TidyAll ns)
    (hinert : Node.EverywhereAll InertAttributes ns) {rest : List Char} (hrest : StopsData rest) :
    ∃ es, Reads ⟨none, Node.writtenAll ns ++ rest⟩ es ⟨none, rest⟩ ∧
      es.filterMap Event.begun? = Node.labels ns := by
  have hquotes : Node.InQuotesAll ns :=
    everywhereAll_mono (fun _ _ => InertAttributes.inQuotes) ns hinert
  have hread := reads_nodes ns htidy hquotes rest hrest
  rw [decodeAll_inert ns hinert] at hread
  rcases hread with ⟨es, hreads, heffect⟩
  refine ⟨es, hreads, ?_⟩
  -- Both are what is in a tree to which nothing else was added.
  have hlabels := Builder.labels_steps es Builder.empty
  rw [heffect, Builder.labels_addAll] at hlabels
  exact (List.append_cancel_left hlabels).symm

end Parts

section Layers

/-- The text of layers up to their content. -/
def openings (layers : List Layer) : List Char :=
  layers.flatMap fun l => writtenStart l.tag l.attributes ++ Node.writtenAll l.before

/-- The elements that begin before the content of layers. -/
def openLabels (layers : List Layer) : List (String × List Attribute) :=
  layers.flatMap fun l => (l.tag, l.attributes) :: Node.labels l.before

/-- Layers are written up to their content, and then on. -/
theorem writtenAll_inLayers {layers : List Layer}
    (hlayers : ∀ l ∈ layers, voidTags.contains l.tag = false) (content : List Node) :
    ∃ closing, Node.writtenAll (inLayers layers content)
      = openings layers ++ (Node.writtenAll content ++ closing) := by
  induction layers with
  | nil => exact ⟨[], by simp [inLayers, openings]⟩
  | cons l ls ih =>
      rw [List.forall_mem_cons] at hlayers
      rcases ih hlayers.2 with ⟨closing, hinner⟩
      refine ⟨closing ++ Node.writtenAll l.after ++ writtenEnd l.tag, ?_⟩
      rw [inLayers, Node.writtenAll, Node.writtenAll, Layer.around, Node.written, hlayers.1,
        if_neg Bool.false_ne_true, writtenAll_append, writtenAll_append, hinner]
      simp [openings]

/-- The front of layers is read up to their content. -/
theorem reads_openings {layers : List Layer} (htidy : ∀ l ∈ layers, l.IsTidy)
    (hinert : ∀ l ∈ layers, l.Everywhere InertAttributes) {rest : List Char}
    (hrest : StopsData rest) :
    ∃ es, Reads ⟨none, openings layers ++ rest⟩ es ⟨none, rest⟩ ∧
      es.filterMap Event.begun? = openLabels layers := by
  induction layers with
  | nil => exact ⟨[], Reads.refl _, rfl⟩
  | cons l ls ih =>
      rw [List.forall_mem_cons] at htidy hinert
      rcases ih htidy.2 hinert.2 with ⟨others, hothers, hlabels⟩
      -- What comes next is the start tag of another layer, or what follows all layers.
      have hstop : StopsData (openings ls ++ rest) := by
        cases ls with
        | nil => exact hrest
        | cons k ks => exact fun c hc => by rw [← Option.some.inj hc]; rfl
      have hstart := reads_start htidy.1.tag htidy.1.names hinert.1.1.inQuotes
        (decoded_inert hinert.1.1) (Node.writtenAll l.before ++ (openings ls ++ rest))
      rcases reads_inert htidy.1.before hinert.1.2.1 hstop with ⟨inside, hinside, hbefore⟩
      have htext : openings (l :: ls) ++ rest = writtenStart l.tag l.attributes
          ++ (Node.writtenAll l.before ++ (openings ls ++ rest)) := by
        simp [openings]
      refine ⟨[.start l.tag l.attributes] ++ (inside ++ others), ?_, ?_⟩
      · rw [htext]
        exact hstart.trans (hinside.trans hothers)
      · rw [List.filterMap_append, List.filterMap_append, hbefore, hlabels]
        rfl

theorem openLabels_everywhere {P : String → List Attribute → Prop} {layers : List Layer}
    (h : ∀ l ∈ layers, l.Everywhere P) : ∀ x ∈ openLabels layers, P x.1 x.2 := by
  intro x hx
  rcases List.mem_flatMap.mp hx with ⟨l, hl, hx⟩
  rcases List.mem_cons.mp hx with rfl | hx
  · exact (h l hl).1
  · exact labels_everywhere (h l hl).2.1 x hx

end Layers

/-- The first element of a kind is the first one of its kind that begins. -/
theorem find?_labels {tree : Node} {p : String × List Attribute → Bool}
    {before others : List (String × List Attribute)} {label : String × List Attribute}
    (hlabels : tree.elementsBelow.map Node.label = before ++ label :: others)
    (hbefore : ∀ x ∈ before, p x = false) (hself : p label = true) :
    ∃ n, tree.elementsBelow.find? (fun e => p e.label) = some n ∧ n.label = label := by
  have hfind : (tree.elementsBelow.map Node.label).find? p = some label := by
    rw [hlabels, List.find?_append, List.find?_eq_none.mpr fun x hx => by simp [hbefore x hx],
      List.find?_cons, hself]
    rfl
  rw [List.find?_map, Option.map_eq_some_iff] at hfind
  exact hfind

end Letterpress.Markup
