import Letterpress.Proofs.Markup.Lines
import Letterpress.Proofs.Markup.Places

/-!
# Elements of a Tree

The elements below a node are found by their paths. They are also found node by node: an
element comes before those among its children. So a search for elements goes past layers
that hold none of what is searched for.

## Main definitions

* `Node.elementsBelow`: The elements at the element paths of a node.
* `Node.elementsIn`, `Node.elementsAll`: The elements of a node by itself, and of several.
* `Node.elementChildren`: The elements right below a node.

## Theorems

* `elementsBelow_element`: The elements below a node are those of its children.
* `filter_elementsAll`, `filter_inLayers`: Searches that find nothing in some nodes.
* `elements_lines`: The elements among lines.
* `mem_elementsBelow`: The elements below a node are those at its places.
* `countP_modifyAt`, `everywhere_of_countP`: A tree with one element of a kind has none left when
  this one is changed.
-/

namespace Letterpress.Markup

namespace Node

/-- The elements below a node, parents before their children. -/
def elementsBelow (n : Node) : List Node :=
  n.elementPaths.filterMap n.at?

/-- The elements of a node by itself, the node included. -/
def elementsIn (n : Node) : List Node :=
  if n.isElement then n :: n.elementsBelow else []

/-- The elements of several nodes. -/
def elementsAll (ns : List Node) : List Node :=
  ns.flatMap elementsIn

/-- The elements right below a node. -/
def elementChildren (n : Node) : List Node :=
  n.children.filter isElement

end Node

section Paths

variable {tag : String} {as : List Attribute}

theorem elementsIn_leaf {n : Node} (h : n.isElement = false) : n.elementsIn = [] := by
  rw [Node.elementsIn, h, if_neg Bool.false_ne_true]

theorem elementsIn_element (tag : String) (as : List Attribute) (children : List Node) :
    (Node.element tag as children).elementsIn
      = .element tag as children :: (Node.element tag as children).elementsBelow :=
  rfl

theorem elementPathsAll_at (before ns : List Node) :
    (Node.elementPathsAll before.length ns).filterMap (Node.element tag as (before ++ ns)).at?
      = Node.elementsAll ns := by
  induction ns generalizing before with
  | nil => rfl
  | cons n ns ih =>
      -- The paths of a child start with the number of its siblings in front.
      have hinside : ((if n.isElement then [] :: n.elementPaths else []).map
          (before.length :: ·)).filterMap (Node.element tag as (before ++ n :: ns)).at?
            = n.elementsIn := by
        rw [List.filterMap_map]
        have hat : (Node.element tag as (before ++ n :: ns)).at? ∘ (before.length :: ·)
            = n.at? := funext fun path => Document.at?_nested n path
        rw [hat, Node.elementsIn]
        by_cases hn : n.isElement = true
        · rw [if_pos hn, if_pos hn]
          rfl
        · rw [if_neg hn, if_neg hn]
          rfl
      have hrest := ih (before ++ [n])
      rw [List.length_append, List.length_singleton, List.append_assoc,
        List.singleton_append] at hrest
      rw [Node.elementPathsAll, List.filterMap_append, hinside, hrest]
      rfl

/-- The elements below a node are those of its children. -/
theorem elementsBelow_element (tag : String) (as : List Attribute) (children : List Node) :
    (Node.element tag as children).elementsBelow = Node.elementsAll children :=
  elementPathsAll_at [] children

end Paths

theorem elementsAll_cons (n : Node) (ns : List Node) :
    Node.elementsAll (n :: ns) = n.elementsIn ++ Node.elementsAll ns :=
  rfl

theorem elementsAll_append (ns ms : List Node) :
    Node.elementsAll (ns ++ ms) = Node.elementsAll ns ++ Node.elementsAll ms :=
  List.flatMap_append

section Searches

variable {P : String → List Attribute → Prop} {q : Node → Bool}

mutual

theorem filter_elementsIn
    (hq : ∀ tag as children, P tag as → q (.element tag as children) = false) :
    (n : Node) → n.Everywhere P → n.elementsIn.filter q = []
  | .element tag as children, h => by
    rw [elementsIn_element, elementsBelow_element, List.filter_cons_of_neg,
      filter_elementsAll hq children h.2]
    rw [hq tag as children h.1]
    exact Bool.false_ne_true
  | .text _, _ => by rw [elementsIn_leaf rfl]; rfl
  | .comment _, _ => by rw [elementsIn_leaf rfl]; rfl
  | .declaration _, _ => by rw [elementsIn_leaf rfl]; rfl

/-- A search finds nothing among elements that it does not look for. -/
theorem filter_elementsAll
    (hq : ∀ tag as children, P tag as → q (.element tag as children) = false) :
    (ns : List Node) → Node.EverywhereAll P ns → (Node.elementsAll ns).filter q = []
  | [], _ => rfl
  | n :: ns, h => by
    rw [elementsAll_cons, List.filter_append, filter_elementsIn hq n h.1,
      filter_elementsAll hq ns h.2]
    rfl

end

/-- A search goes past the other nodes of a layer. -/
theorem filter_around (hq : ∀ tag as children, P tag as → q (.element tag as children) = false)
    {l : Layer} (hbefore : Node.EverywhereAll P l.before) (hafter : Node.EverywhereAll P l.after)
    (content : List Node) :
    (l.around content).elementsBelow.filter q = (Node.elementsAll content).filter q := by
  rw [Layer.around, elementsBelow_element, elementsAll_append, elementsAll_append,
    List.filter_append, List.filter_append, filter_elementsAll hq l.before hbefore,
    filter_elementsAll hq l.after hafter, List.nil_append, List.append_nil]

/-- A search goes past layers that it does not look for. -/
theorem filter_inLayers (hq : ∀ tag as children, P tag as → q (.element tag as children) = false)
    {layers : List Layer} (hlayers : ∀ l ∈ layers, l.Everywhere P) (content : List Node) :
    (Node.elementsAll (inLayers layers content)).filter q
      = (Node.elementsAll content).filter q := by
  induction layers with
  | nil => rfl
  | cons l ls ih =>
      rw [List.forall_mem_cons] at hlayers
      have hself : q (l.around (inLayers ls content)) = false := hq _ _ _ hlayers.1.1
      have hin : (l.around (inLayers ls content)).elementsIn
          = l.around (inLayers ls content) :: (l.around (inLayers ls content)).elementsBelow :=
        rfl
      rw [inLayers, elementsAll_cons, hin, Node.elementsAll, List.flatMap_nil, List.append_nil,
        List.filter_cons_of_neg (by rw [hself]; exact Bool.false_ne_true),
        filter_around hq hlayers.1.2.1 hlayers.1.2.2, ih hlayers.2]

end Searches

/-- The elements among lines are those of each line. -/
theorem elements_lines (pieces : List (List Node)) :
    (lines pieces).filter Node.isElement = pieces.flatMap fun ns => ns.filter Node.isElement := by
  induction pieces with
  | nil => rfl
  | cons ns pieces ih =>
      cases pieces with
      | nil => rw [lines, List.flatMap_cons, List.flatMap_nil, List.append_nil]
      | cons ms pieces =>
          rw [lines_cons ns (List.cons_ne_nil ms pieces), List.filter_append,
            List.filter_cons_of_neg Bool.false_ne_true, ih]
          rfl

section Places

theorem elementsBelow_eq (n : Node) : n.elementsBelow = Node.elementsAll n.children := by
  cases n with
  | element tag as children => exact elementsBelow_element tag as children
  | text data | comment data | declaration data => rfl

theorem mem_elementsAll {e : Node} {ns : List Node} :
    e ∈ Node.elementsAll ns ↔ ∃ n ∈ ns, e ∈ n.elementsIn :=
  List.mem_flatMap

theorem mem_elementsIn_of_at? {n e : Node} {p : Path} (h : n.at? p = some e)
    (he : e.isElement = true) : e ∈ n.elementsIn := by
  induction p generalizing n with
  | nil =>
      obtain rfl := Option.some.inj h
      rw [Node.elementsIn, if_pos he]
      exact List.mem_cons_self
  | cons i p ih =>
      rw [Node.at?_cons, Option.bind_eq_some_iff] at h
      rcases h with ⟨child, hchild, hat⟩
      have hbelow : e ∈ n.elementsBelow := by
        rw [elementsBelow_eq, mem_elementsAll]
        exact ⟨child, List.mem_of_getElem? hchild, ih hat⟩
      cases n with
      | element tag as children => exact List.mem_cons_of_mem _ hbelow
      | text data | comment data | declaration data => exact absurd hbelow List.not_mem_nil

/-- The element at a place below a node is one of the elements below it. -/
theorem mem_elementsBelow {n e : Node} {p : Path} (hp : p ≠ []) (h : n.at? p = some e)
    (he : e.isElement = true) : e ∈ n.elementsBelow := by
  cases p with
  | nil => exact absurd rfl hp
  | cons i p =>
      rw [Node.at?_cons, Option.bind_eq_some_iff] at h
      rcases h with ⟨child, hchild, hat⟩
      rw [elementsBelow_eq, mem_elementsAll]
      exact ⟨child, List.mem_of_getElem? hchild, mem_elementsIn_of_at? hat he⟩

/-- What holds everywhere in a tree holds everywhere at its places. -/
theorem Node.Everywhere.at? {Q : String → List Attribute → Prop} {n e : Node}
    (h : n.Everywhere Q) {p : Path} (hp : n.at? p = some e) : e.Everywhere Q := by
  induction p generalizing n with
  | nil =>
      obtain rfl := Option.some.inj hp
      exact h
  | cons i p ih =>
      rw [Node.at?_cons, Option.bind_eq_some_iff] at hp
      rcases hp with ⟨child, hchild, hat⟩
      have hmem := List.mem_of_getElem? hchild
      cases n with
      | element tag as children => exact ih (everywhereAll_iff.mp h.2 child hmem) hat
      | text data | comment data | declaration data => exact absurd hmem List.not_mem_nil

theorem Node.TidyAll.mem {ns : List Node} (h : Node.TidyAll ns) {n : Node} (hn : n ∈ ns) :
    n.Tidy := by
  induction ns with
  | nil => exact absurd hn List.not_mem_nil
  | cons m ns ih =>
      rcases List.mem_cons.mp hn with rfl | hn
      · exact h.1
      · exact ih h.2.2 hn

/-- The elements of a tidy tree are tidy. -/
theorem Node.Tidy.at? {n e : Node} (h : n.Tidy) {p : Path} (hp : n.at? p = some e)
    (he : e.isElement = true) : e.Tidy := by
  induction p generalizing n with
  | nil =>
      obtain rfl := Option.some.inj hp
      exact h
  | cons i p ih =>
      rw [Node.at?_cons, Option.bind_eq_some_iff] at hp
      rcases hp with ⟨child, hchild, hat⟩
      have hmem := List.mem_of_getElem? hchild
      cases n with
      | text data | comment data | declaration data => exact absurd hmem List.not_mem_nil
      | element tag as children =>
          change child ∈ children at hmem
          rw [Node.Tidy] at h
          by_cases hvoid : voidTags.contains tag = true
          · rw [if_pos hvoid] at h
            rw [h.2.2] at hmem
            exact absurd hmem List.not_mem_nil
          · rw [if_neg hvoid] at h
            by_cases hraw : rawTags.contains tag = true
            · -- There are no elements in content that is no markup.
              rw [if_pos hraw] at h
              rcases h.2.2 with ⟨data, rfl, -⟩
              obtain rfl := List.mem_singleton.mp hmem
              have hleaf := mem_elementsIn_of_at? hat he
              rw [elementsIn_leaf rfl] at hleaf
              exact absurd hleaf List.not_mem_nil
            · rw [if_neg hraw] at h
              exact ih (h.2.2.mem hmem) hat

/-- The elements below a node with tidy children are tidy. -/
theorem Node.TidyAll.below {tag : String} {as : List Attribute} {ns : List Node}
    (h : Node.TidyAll ns) {p : Path} (hne : p ≠ []) {e : Node}
    (hp : (Node.element tag as ns).at? p = some e) (he : e.isElement = true) : e.Tidy := by
  cases p with
  | nil => exact absurd rfl hne
  | cons i p =>
      rw [Node.at?_cons, Option.bind_eq_some_iff] at hp
      rcases hp with ⟨child, hchild, hat⟩
      exact (h.mem (List.mem_of_getElem? hchild)).at? hat he

theorem tidyAll_modify {g : Node → Node} (hg : ∀ n : Node, n.Tidy → (g n).Tidy)
    (htext : ∀ n, (g n).isPlainText = n.isPlainText) {ns : List Node} (h : Node.TidyAll ns)
    (i : Nat) : Node.TidyAll (ns.modify i g) := by
  induction ns generalizing i with
  | nil => cases i <;> exact h
  | cons n ns ih =>
      cases i with
      | zero =>
          rw [List.modify_zero_cons]
          refine ⟨hg n h.1, fun hn => h.2.1 ?_, h.2.2⟩
          rw [← htext]
          exact hn
      | succ i =>
          rw [List.modify_succ_cons]
          refine ⟨h.1, fun hn => ?_, ih h.2.2 i⟩
          -- Whether the next node is plain text is not changed by changing it.
          have hhead : (ns.modify i g).head?.any Node.isPlainText
              = ns.head?.any Node.isPlainText := by
            cases ns with
            | nil => cases i <;> rfl
            | cons m ns =>
                cases i with
                | zero => exact htext m
                | succ i => rfl
          rw [hhead]
          exact h.2.1 hn

end Places

section Counts

variable {P : Node → Bool} {f : Node → Node}

theorem countP_elementsIn (tag : String) (as : List Attribute) (children : List Node) :
    (Node.element tag as children).elementsIn.countP P
      = (Node.elementsAll children).countP P
        + if P (.element tag as children) = true then 1 else 0 := by
  rw [elementsIn_element, elementsBelow_element, List.countP_cons]

theorem countP_elementsAll_modify {g : Node → Node} {ns : List Node} {i : Nat} {n : Node}
    (hn : ns[i]? = some n)
    (hg : (g n).elementsIn.countP P + 1 = n.elementsIn.countP P) :
    (Node.elementsAll (ns.modify i g)).countP P + 1 = (Node.elementsAll ns).countP P := by
  induction ns generalizing i with
  | nil => exact absurd hn (by simp)
  | cons m ns ih =>
      cases i with
      | zero =>
          obtain rfl := Option.some.inj hn
          rw [List.modify_zero_cons, elementsAll_cons, elementsAll_cons, List.countP_append,
            List.countP_append]
          omega
      | succ i =>
          have hrest := ih hn
          rw [List.modify_succ_cons, elementsAll_cons, elementsAll_cons, List.countP_append,
            List.countP_append]
          omega

/-- An element of a kind that becomes one of another kind is one less in the count. -/
theorem countP_modifyAt
    (hP : ∀ tag as children children', P (.element tag as children) = P (.element tag as children'))
    {n e : Node} {p : Path} (h : n.at? p = some e) (he : e.isElement = true) (hPe : P e = true)
    (hfe : (f e).isElement = true) (hchildren : (f e).children = e.children)
    (hPf : P (f e) = false) :
    (n.modifyAt f p).elementsIn.countP P + 1 = n.elementsIn.countP P := by
  induction p generalizing n with
  | nil =>
      obtain rfl := Option.some.inj h
      -- Below the element nothing changes, and itself it no longer counts.
      change (f n).elementsIn.countP P + 1 = _
      rw [Node.elementsIn, if_pos hfe, Node.elementsIn, if_pos he, elementsBelow_eq, hchildren,
        ← elementsBelow_eq, List.countP_cons_of_neg (by rw [hPf]; exact Bool.false_ne_true),
        List.countP_cons_of_pos hPe]
  | cons i p ih =>
      rw [Node.at?_cons, Option.bind_eq_some_iff] at h
      rcases h with ⟨child, hchild, hat⟩
      cases n with
      | text data | comment data | declaration data =>
          exact absurd hchild (by simp [Node.children])
      | element tag as children =>
          have hrest := @countP_elementsAll_modify P _ children i child hchild (ih hat)
          rw [Node.modifyAt, countP_elementsIn, countP_elementsIn, hP tag as _ children]
          omega

mutual

/-- A tree that has no element of a kind has elements of other kinds everywhere. -/
theorem everywhere_of_countP
    (hP : ∀ tag as children children',
      P (.element tag as children) = P (.element tag as children')) :
    (n : Node) → n.elementsIn.countP P = 0 →
      n.Everywhere fun tag as => P (.element tag as []) = false
  | .element tag as children, h => by
    rw [countP_elementsIn] at h
    have hself : P (.element tag as children) = false := by
      by_contra hpos
      rw [Bool.not_eq_false] at hpos
      rw [if_pos hpos] at h
      omega
    exact ⟨(hP tag as [] children).trans hself, everywhereAll_of_countP hP children (by omega)⟩
  | .text _, _ => trivial
  | .comment _, _ => trivial
  | .declaration _, _ => trivial

theorem everywhereAll_of_countP
    (hP : ∀ tag as children children',
      P (.element tag as children) = P (.element tag as children')) :
    (ns : List Node) → (Node.elementsAll ns).countP P = 0 →
      Node.EverywhereAll (fun tag as => P (.element tag as []) = false) ns
  | [], _ => trivial
  | n :: ns, h => by
    rw [elementsAll_cons, List.countP_append] at h
    exact ⟨everywhere_of_countP hP n (by omega), everywhereAll_of_countP hP ns (by omega)⟩

end

end Counts

end Letterpress.Markup
