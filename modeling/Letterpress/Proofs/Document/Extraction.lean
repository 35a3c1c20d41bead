import Letterpress.Document.Extraction
import Letterpress.Proofs.Markup.Writing

/-!
# Extraction Node by Node

Fragments are taken out of a whole tree by the paths of its positioned tables, and the
tree changes from one path to the next, since a table loses its place before it is
written. Still, what is taken out of a node does not depend on what stands around it:
the fragments of a node are those of its children, one child after another. Only the
link directly around a table is taken out with it.

## Main definitions

* `extractIn`, `extractAll`: The fragments of a node by itself, and of several nodes.
* `IsStill`: The attributes of an element that is no positioned table.

## Theorems

* `extractAt_nested`: Paths into a child lead to what the child has by itself.
* `extractIn_element`: The fragments of an element are those of its children.
* `extractIn_table`, `extractIn_link`: A positioned table, and a link around one.
* `extractAll_still`: Where no table is positioned, there are no fragments.
* `extractOn_parsed`: The fragments of a text are those of the nodes it is read as.
-/

namespace Letterpress.Document

open Markup (Attribute rootTag)

variable {K : Type} [Scalar K] {config : Config K} {canvas : Int}

/-- The places of the outermost positioned tables in a node, the node itself included. -/
def placesIn (n : Markup.Node) : List Markup.Path :=
  if n.isElement && isPositionedTable n then [[]] else n.outermost isPositionedTable

/-- The fragments of a node by itself. -/
def extractIn (config : Config K) (canvas : Int) (n : Markup.Node) :
    Except NumeralError (List Fragment) :=
  extractAt config canvas n (placesIn n)

/-- The fragments of several nodes, one node after another. -/
def extractAll (config : Config K) (canvas : Int) :
    List Markup.Node → Except NumeralError (List Fragment)
  | [] => return []
  | n :: ns => do
    let first ← extractIn config canvas n
    return first ++ (← extractAll config canvas ns)

theorem extractAll_append (ns ms : List Markup.Node) :
    extractAll config canvas (ns ++ ms) = do
      let before ← extractAll config canvas ns
      return before ++ (← extractAll config canvas ms) := by
  induction ns with
  | nil =>
      cases hms : extractAll config canvas ms <;> simp [extractAll, hms]
  | cons n ns ih =>
      rw [List.cons_append, extractAll, ih, extractAll]
      cases extractIn config canvas n with
      | error e => rfl
      | ok first =>
          cases extractAll config canvas ns with
          | error e => rfl
          | ok before =>
              cases extractAll config canvas ms with
              | error e => rfl
              | ok after =>
                  change Except.ok (first ++ (before ++ after))
                    = Except.ok (first ++ before ++ after)
                  rw [List.append_assoc]

theorem extractAll_singleton (n : Markup.Node) :
    extractAll config canvas [n] = extractIn config canvas n := by
  rw [extractAll, extractAll]
  cases extractIn config canvas n with
  | error e => rfl
  | ok fs => exact congrArg Except.ok (List.append_nil fs)

theorem extractAt_nil (tree : Markup.Node) : extractAt config canvas tree [] = .ok [] :=
  rfl

theorem extractAt_none {tree : Markup.Node} {path : Markup.Path} (h : tree.at? path = none)
    (paths : List Markup.Path) :
    extractAt config canvas tree (path :: paths) = extractAt config canvas tree paths := by
  rw [extractAt, h]

theorem extractAt_some {tree table : Markup.Node} {path : Markup.Path}
    (h : tree.at? path = some table) (paths : List Markup.Path) :
    extractAt config canvas tree (path :: paths) = do
      let tree := tree.modifyAt unplaced path
      let wrapper? := wrapperPath? tree path
      let markup := ((tree.at? (wrapper?.getD path)).map Markup.Node.serialize).getD ""
      let first ← fragmentOf config canvas table markup wrapper?.isSome
      return first :: (← extractAt config canvas tree paths) := by
  rw [extractAt, h]

section Nested

variable {tag : String} {as : List Attribute} {before after : List Markup.Node}

theorem at?_nested (child : Markup.Node) (path : Markup.Path) :
    (Markup.Node.element tag as (before ++ child :: after)).at? (before.length :: path)
      = child.at? path := by
  simp [Markup.Node.at?, Markup.Node.children]

theorem modifyAt_nested (child : Markup.Node) (path : Markup.Path) :
    (Markup.Node.element tag as (before ++ child :: after)).modifyAt unplaced
        (before.length :: path)
      = .element tag as (before ++ child.modifyAt unplaced path :: after) := by
  rw [Markup.Node.modifyAt]
  congr 1
  induction before with
  | nil => rfl
  | cons n before ih => rw [List.cons_append, List.length_cons, List.modify_succ_cons, ih]; rfl

/-- The link around an element is found from its parent on, unless the parent's own
    parent would be one. -/
theorem wrapperPath?_nested (hwrapper : isLinkWrapper (.element tag as []) = false)
    (child : Markup.Node) (path : Markup.Path) :
    wrapperPath? (.element tag as (before ++ child :: after)) (before.length :: path)
      = (wrapperPath? child path).map (before.length :: ·) := by
  cases path with
  | nil =>
      have hparent : isLinkWrapper (.element tag as (before ++ child :: after)) = false :=
        hwrapper
      simp [wrapperPath?, Markup.Node.at?, hparent]
  | cons j path =>
      simp only [wrapperPath?, List.cons_ne_nil, if_false, List.dropLast_cons_cons, at?_nested]
      split <;> rfl

/-- Paths into a child lead to what the child has by itself, and leave everything around
    the child as it is. -/
theorem extractAt_nested (hwrapper : isLinkWrapper (.element tag as []) = false)
    (paths rest : List Markup.Path) (child : Markup.Node) :
    ∃ child', extractAt config canvas (.element tag as (before ++ child :: after))
        (paths.map (before.length :: ·) ++ rest) = do
      let first ← extractAt config canvas child paths
      return first ++ (← extractAt config canvas
        (.element tag as (before ++ child' :: after)) rest) := by
  -- The child changes from path to path, so the claim is about any child. The first path turns
  -- it into one whose table has lost its place, and the others are those of this child.
  induction paths generalizing child with
  | nil =>
      refine ⟨child, ?_⟩
      rw [List.map_nil, List.nil_append, extractAt_nil]
      cases extractAt config canvas (.element tag as (before ++ child :: after)) rest <;> rfl
  | cons path paths ih =>
      rw [List.map_cons, List.cons_append]
      cases htable : child.at? path with
      | none =>
          rcases ih child with ⟨child', hrest⟩
          refine ⟨child', ?_⟩
          rw [extractAt_none (by rw [at?_nested, htable]), extractAt_none htable, hrest]
      | some table =>
          rcases ih (child.modifyAt unplaced path) with ⟨child', hrest⟩
          refine ⟨child', ?_⟩
          -- What is written is the table or the link around it, and both are below
          -- the child.
          have hunit : ∀ t : Markup.Node, (Markup.Node.element tag as (before ++ t :: after)).at?
              (((wrapperPath? t path).map (before.length :: ·)).getD (before.length :: path))
                = t.at? ((wrapperPath? t path).getD path) := by
            intro t
            cases wrapperPath? t path with
            | none => exact at?_nested t path
            | some wrapper => exact at?_nested t wrapper
          rw [extractAt_some (by rw [at?_nested, htable]), extractAt_some htable]
          simp only [modifyAt_nested, wrapperPath?_nested hwrapper, hunit, hrest,
            Option.isSome_map]
          cases fragmentOf config canvas table _ _ with
          | error e => rfl
          | ok first =>
              cases extractAt config canvas (child.modifyAt unplaced path) paths with
              | error e => rfl
              | ok others =>
                  cases extractAt config canvas (.element tag as (before ++ child' :: after))
                    rest <;> rfl

theorem extractAt_children (hwrapper : isLinkWrapper (.element tag as []) = false)
    (before ns : List Markup.Node) :
    extractAt config canvas (.element tag as (before ++ ns))
        (Markup.Node.outermostAll isPositionedTable before.length ns)
      = extractAll config canvas ns := by
  -- The children whose paths are done are in front, as they are now.
  induction ns generalizing before with
  | nil => rfl
  | cons n ns ih =>
      rw [Markup.Node.outermostAll, extractAll]
      rcases @extractAt_nested _ _ config canvas _ _ _ ns hwrapper
        (placesIn n) (Markup.Node.outermostAll isPositionedTable (before.length + 1) ns) n
        with ⟨n', hn⟩
      have hlength : (before ++ [n']).length = before.length + 1 := by simp
      have htree : before ++ n' :: ns = (before ++ [n']) ++ ns := by simp
      rw [← ih (before ++ [n']), hlength, ← htree]
      exact hn

end Nested

/-- The fragments of an element that is neither a positioned table nor a link are those of
    its children. -/
theorem extractIn_element {tag : String} {as : List Attribute}
    (hstill : isPositionedTable (.element tag as []) = false)
    (hwrapper : isLinkWrapper (.element tag as []) = false) (children : List Markup.Node) :
    extractIn config canvas (.element tag as children) = extractAll config canvas children := by
  have hplaces : placesIn (.element tag as children)
      = Markup.Node.outermostAll isPositionedTable 0 children := by
    have hself : isPositionedTable (.element tag as children) = false := hstill
    rw [placesIn, hself, Bool.and_false, if_neg Bool.false_ne_true, Markup.Node.outermost]
  rw [extractIn, hplaces]
  exact extractAt_children hwrapper [] children

/-- Whatever is no element has no fragments. -/
theorem extractIn_leaf {n : Markup.Node} (h : n.isElement = false) :
    extractIn config canvas n = .ok [] := by
  cases n with
  | element tag as children => exact absurd h (by simp [Markup.Node.isElement])
  | text data | comment data | declaration data => rfl

theorem isElement_of_isPositionedTable {n : Markup.Node} (h : isPositionedTable n = true) :
    n.isElement = true := by
  cases n with
  | element tag as children => rfl
  | text data | comment data | declaration data => exact absurd h Bool.false_ne_true

theorem placesIn_table {table : Markup.Node} (h : isPositionedTable table = true) :
    placesIn table = [[]] := by
  rw [placesIn, h, isElement_of_isPositionedTable h, Bool.and_true, if_pos rfl]

/-- A positioned table by itself is a fragment. -/
theorem extractIn_table {table : Markup.Node} (h : isPositionedTable table = true) :
    extractIn config canvas table
      = (fun f => [f]) <$> fragmentOf config canvas table (unplaced table).serialize false := by
  rw [extractIn, placesIn_table h, extractAt_some rfl]
  simp only [wrapperPath?, Markup.Node.modifyAt, Markup.Node.at?, if_true, Option.getD_none,
    Option.map_some, Option.getD_some, Option.isSome_none, extractAt_nil]
  cases fragmentOf config canvas table (unplaced table).serialize false <;> rfl

/-- A positioned table is a fragment together with the link around it. -/
theorem extractIn_link {tag : String} {as : List Attribute} {table : Markup.Node}
    (hstill : isPositionedTable (.element tag as []) = false)
    (hwrapper : isLinkWrapper (.element tag as []) = true)
    (h : isPositionedTable table = true) :
    extractIn config canvas (.element tag as [table])
      = (fun f => [f]) <$> fragmentOf config canvas table
          (Markup.Node.element tag as [unplaced table]).serialize true := by
  have hself : isPositionedTable (.element tag as [table]) = false := hstill
  have hparent : isLinkWrapper (.element tag as [unplaced table]) = true := hwrapper
  -- The table is the only place there, and the link around it is its unit.
  have hplaces : placesIn (.element tag as [table]) = [[0]] := by
    rw [placesIn, hself, Bool.and_false, if_neg Bool.false_ne_true, Markup.Node.outermost,
      Markup.Node.outermostAll, Markup.Node.outermostAll, List.append_nil]
    change (placesIn table).map (0 :: ·) = [[0]]
    rw [placesIn_table h]
    rfl
  have hwrapped : wrapperPath? (.element tag as [unplaced table]) [0] = some [] := by
    simp [wrapperPath?, Markup.Node.at?, hparent]
  rw [extractIn, hplaces, @extractAt_some _ _ _ _ _ table _ rfl]
  simp only [Markup.Node.modifyAt, List.modify_zero_cons, hwrapped, Option.getD_some,
    Markup.Node.at?, Option.map_some, Option.isSome_some, extractAt_nil]
  cases fragmentOf config canvas table (Markup.Node.element tag as [unplaced table]).serialize
    true <;> rfl

/-- The attributes of an element that is no positioned table. -/
def IsStill (tag : String) (as : List Attribute) : Prop :=
  isPositionedTable (.element tag as []) = false

mutual

theorem outermost_still : (n : Markup.Node) → n.Everywhere IsStill →
    placesIn n = [] ∧ n.outermost isPositionedTable = []
  | .element tag as children, h => by
    rw [Markup.Node.Everywhere] at h
    have hself : isPositionedTable (.element tag as children) = false := h.1
    have hbelow : (Markup.Node.element tag as children).outermost isPositionedTable = [] := by
      rw [Markup.Node.outermost]
      exact outermostAll_still 0 children h.2
    rw [placesIn, hself, Bool.and_false, if_neg Bool.false_ne_true]
    exact ⟨hbelow, hbelow⟩
  | .text _, _ => ⟨rfl, rfl⟩
  | .comment _, _ => ⟨rfl, rfl⟩
  | .declaration _, _ => ⟨rfl, rfl⟩

theorem outermostAll_still (i : Nat) : (ns : List Markup.Node) →
    Markup.Node.EverywhereAll IsStill ns → Markup.Node.outermostAll isPositionedTable i ns = []
  | [], _ => rfl
  | n :: ns, h => by
    rw [Markup.Node.EverywhereAll] at h
    have hn : (if n.isElement && isPositionedTable n then [[]]
        else n.outermost isPositionedTable) = [] := (outermost_still n h.1).1
    rw [Markup.Node.outermostAll, outermostAll_still (i + 1) ns h.2, hn]
    rfl

end

/-- Where no table is positioned, there are no fragments. -/
theorem extractAll_still {ns : List Markup.Node} (h : Markup.Node.EverywhereAll IsStill ns) :
    extractAll config canvas ns = .ok [] := by
  induction ns with
  | nil => rfl
  | cons n ns ih =>
      rw [Markup.Node.EverywhereAll] at h
      rw [extractAll, ih h.2, extractIn, (outermost_still n h.1).1]
      rfl

/-- The fragments of a text are those of the nodes it is read as. -/
theorem extractOn_parsed {markup : String} {nodes : Except NumeralError (List Markup.Node)}
    (h : Markup.parse markup = (Markup.Node.root <$> nodes).mapError MarkupError.numeral) :
    extractOn config markup (.ok canvas)
      = (nodes.mapError fun e => Fault.markup (.numeral e)) >>= fun ns =>
          (extractAll config canvas ns).mapError Fault.numeral := by
  rw [extractOn, h]
  cases nodes with
  | error e => rfl
  | ok ns =>
      have hroot : extractAt config canvas (Markup.Node.root ns)
          ((Markup.Node.root ns).outermost isPositionedTable) = extractAll config canvas ns :=
        @extractAt_children _ _ config canvas rootTag [] (by decide) [] ns
      change (extractAt config canvas (Markup.Node.root ns)
        ((Markup.Node.root ns).outermost isPositionedTable)).mapError Fault.numeral = _
      rw [hroot]
      rfl

end Letterpress.Document
