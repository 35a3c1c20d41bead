import Letterpress.Proofs.Document.Settled
import Letterpress.Proofs.Document.Units
import Letterpress.Proofs.Markup.RoundTrip

/-!
# Detaching Tables

A positioned table loses its place when it is taken out of a tree, and then it should be no
positioned table any more. That depends on the table: what it declares under other names must
not read as a position, and the unit that is taken out with it must hold no other positioned
table. If this holds of all elements of a tree, its units have nothing in common, and what is
taken out of it holds nothing that could be taken out again.

All of this is about elements only. It does not depend on how the text between them is divided.

## Main definitions

* `IsUnit`: A positioned table, or a link directly around one.
* `IsDetachable`: A positioned table can be taken out of an element once and for all.

## Theorems

* `exists_unit`: What is taken out with an outermost positioned table.
* `unit_still`: It holds no positioned table once this one has lost its place.
* `units_alone`: No unit holds the table of another one.
* `fragmentAt_ok`: What is taken out of a tree of detachable elements.
* `isDetachable_bare`: Whether an element is detachable is seen without its text.
-/

namespace Letterpress.Document

open Markup
open Text (hasLongCode)

variable {K : Type} [Scalar K] {config : Config K} {canvas : Int}

section Units

/-- A node that is taken out of a tree: a positioned table, or a link directly around one. -/
def IsUnit (n : Markup.Node) : Prop :=
  isPositionedTable n = true ∨ (isLinkWrapper n = true ∧ n.children.any isPositionedTable = true)

/-- The alignments that a table declares. -/
def alignments (n : Markup.Node) : List String :=
  [alignment n "text-align" "align" "left", alignment n "vertical-align" "valign" "top"]

/-- An element that can be taken out once and for all. There is one positioned table in it if
    it is a unit, and a positioned table declares its position nowhere but among its placing
    declarations. The alignments of the table can be written and read. -/
structure IsDetachable (e : Markup.Node) : Prop where
  alone : IsUnit e → e.elementsIn.countP isPositionedTable = 1
  placed : isPositionedTable e = true → ∀ d ∈ Style.readStyle (styleOf e),
    placingProperties.contains (Text.lowerString d.property) = false →
      Style.isAbsolute d.css = false
  aligned : isPositionedTable e = true → ∀ value ∈ alignments e,
    '"' ∉ value.toList ∧ hasLongCode value.toList = false

instance (n : Markup.Node) : Decidable (IsUnit n) :=
  inferInstanceAs (Decidable (_ ∨ _))

theorem isDetachable_iff {e : Markup.Node} : IsDetachable e ↔
    (IsUnit e → e.elementsIn.countP isPositionedTable = 1) ∧
    (isPositionedTable e = true → ∀ d ∈ Style.readStyle (styleOf e),
      placingProperties.contains (Text.lowerString d.property) = false →
        Style.isAbsolute d.css = false) ∧
    (isPositionedTable e = true → ∀ value ∈ alignments e,
      '"' ∉ value.toList ∧ hasLongCode value.toList = false) :=
  ⟨fun ⟨halone, hplaced, haligned⟩ => ⟨halone, hplaced, haligned⟩,
    fun ⟨halone, hplaced, haligned⟩ => ⟨halone, hplaced, haligned⟩⟩

instance (e : Markup.Node) : Decidable (IsDetachable e) :=
  decidable_of_iff' _ isDetachable_iff

variable {tree : Markup.Node} {p q : Markup.Path}

theorem styleOf_unplaced (tag : String) (as : List Attribute) (children : List Markup.Node) :
    styleOf (unplaced (.element tag as children))
      = Style.without placingProperties (styleOf (.element tag as children)) := by
  change (((setAttribute "style" _ as).lookup "style").map _).getD "" = _
  rw [lookup_setAttribute, if_pos rfl]
  rfl

theorem isElement_unplaced (n : Markup.Node) : (unplaced n).isElement = n.isElement := by
  cases n <;> rfl

theorem isElement_modifyAt (n : Markup.Node) (p : Markup.Path) :
    (n.modifyAt unplaced p).isElement = n.isElement := by
  cases p with
  | nil => exact isElement_unplaced n
  | cons i p => cases n <;> rfl

/-- A table that can be taken out has no place afterwards. -/
theorem unplaced_still {e : Markup.Node} (h : IsDetachable e) (he : isPositionedTable e = true) :
    isPositionedTable (unplaced e) = false := by
  cases e with
  | element tag as children =>
      rw [isPositionedTable, styleOf_unplaced, Style.isAbsolute_without (h.placed he),
        Bool.and_false]
  | text data | comment data | declaration data => exact absurd he Bool.false_ne_true

theorem exists_table (hp : tree.IsOutermostAt isPositionedTable p) :
    ∃ table, tree.at? p = some table ∧ isPositionedTable table = true := by
  have hholds := hp.holds
  rw [Node.holdsAt, Option.any_eq_true] at hholds
  rcases hholds with ⟨table, htable, hpositioned⟩
  rw [Bool.and_eq_true] at hpositioned
  exact ⟨table, htable, hpositioned.2⟩

/-- The unit of an outermost positioned table holds it, and is no whole text. -/
theorem exists_unit (hroot : isLinkWrapper tree = false)
    (hp : tree.IsOutermostAt isPositionedTable p) :
    ∃ unit rest table, unitAt tree p ++ rest = p ∧ unitAt tree p ≠ [] ∧
      tree.at? (unitAt tree p) = some unit ∧ IsUnit unit ∧
      unit.at? rest = some table ∧ isPositionedTable table = true := by
  rcases exists_table hp with ⟨table, htable, hpositioned⟩
  by_cases hlink : (tree.at? p.dropLast).any isLinkWrapper = true
  · have hunit : unitAt tree p = p.dropLast := by
      simp only [unitAt, wrapperPath?, if_neg hp.below, if_pos hlink, Option.getD_some]
    rw [Option.any_eq_true] at hlink
    rcases hlink with ⟨link, hlink, hwrapper⟩
    -- The table is the last step on its path, and the link is where that step starts.
    have hparts := List.dropLast_append_getLast hp.below
    have hchild : link.at? [p.getLast hp.below] = some table := by
      rw [← hparts, Node.at?_append, hlink] at htable
      exact htable
    refine ⟨link, [p.getLast hp.below], table, by rw [hunit, hparts], ?_, by rw [hunit, hlink],
      Or.inr ⟨hwrapper, ?_⟩, hchild, hpositioned⟩
    -- The whole text is no link, so the link lies below it.
    · intro hnil
      rw [← hunit, hnil] at hlink
      obtain rfl := Option.some.inj hlink
      rw [hwrapper] at hroot
      exact Bool.noConfusion hroot
    · rw [Node.at?_cons, Option.bind_eq_some_iff] at hchild
      rcases hchild with ⟨child, hmem, hself⟩
      obtain rfl := Option.some.inj hself
      exact List.any_eq_true.mpr ⟨child, List.mem_of_getElem? hmem, hpositioned⟩
  · have hunit : unitAt tree p = p := by
      simp only [unitAt, wrapperPath?, if_neg hp.below, if_neg hlink, Option.getD_none]
    exact ⟨table, [], table, by rw [hunit, List.append_nil], by rw [hunit]; exact hp.below,
      by rw [hunit, htable], Or.inl hpositioned, rfl, hpositioned⟩

/-- The unit of a table that can be taken out holds no positioned table once this one has lost
    its place. -/
theorem unit_still (hroot : isLinkWrapper tree = false)
    (hdetach : ∀ e ∈ tree.elementsBelow, IsDetachable e)
    (hp : tree.IsOutermostAt isPositionedTable p) :
    ∃ unit, (tree.modifyAt unplaced p).at? (unitAt tree p) = some unit ∧
      unit.isElement = true ∧ unit.Everywhere IsStill := by
  rcases exists_unit hroot hp with ⟨unit, rest, table, hplace, hbelow, hunit, hisUnit, htable,
    hpositioned⟩
  have htableElement := isElement_of_isPositionedTable hpositioned
  have hat : tree.at? p = some table := by
    rw [← hplace, Node.at?_append, hunit]
    exact htable
  have hunitElement : unit.isElement = true := by
    cases unit with
    | element tag as children => rfl
    | text data | comment data | declaration data =>
        rcases hisUnit with h | h
        · exact absurd h Bool.false_ne_true
        · exact absurd h.1 Bool.false_ne_true
  -- The unit holds no other positioned table, and this one loses its position.
  have hself := hdetach table (mem_elementsBelow hp.below hat htableElement)
  have hone := (hdetach unit (mem_elementsBelow hbelow hunit hunitElement)).alone hisUnit
  have hcount := countP_modifyAt (f := unplaced) (fun _ _ _ _ => rfl) htable htableElement
    hpositioned ((isElement_unplaced table).trans htableElement) (children_unplaced table)
    (unplaced_still hself hpositioned)
  refine ⟨unit.modifyAt unplaced rest, ?_, ?_, ?_⟩
  · have habove := Node.at?_modifyAt_above unplaced tree (unitAt tree p) rest
    rw [hplace, hunit] at habove
    exact habove
  · rw [isElement_modifyAt, hunitElement]
  · exact everywhere_of_countP (fun _ _ _ _ => rfl) _ (by omega)

/-- Units that hold one positioned table each have nothing in common. -/
theorem units_alone (hroot : isLinkWrapper tree = false)
    (hdetach : ∀ e ∈ tree.elementsBelow, IsDetachable e)
    (hp : p ∈ tree.outermost isPositionedTable) (hq : q ∈ tree.outermost isPositionedTable)
    (h : unitAt tree p <+: q) : p = q := by
  by_contra hne
  rcases unit_still hroot hdetach (Node.mem_outermost.mp hp) with ⟨unit, hunit, -, hstill⟩
  rcases h with ⟨rest, rfl⟩
  -- The other table would still be positioned in the unit.
  rcases exists_table (Node.mem_outermost.mp hq) with ⟨table, htable, hpositioned⟩
  have hmap := Node.map_at?_modifyAt (f := unplaced) (g := isPositionedTable)
    (fun _ _ _ _ => rfl) children_unplaced (fun h => absurd h hne) tree
  rw [htable, Node.at?_append, hunit, Option.map_some, hpositioned] at hmap
  rcases Option.map_eq_some_iff.mp hmap with ⟨other, hother, hself⟩
  have hnone := hstill.at? hother
  cases other with
  | element tag as children =>
      have hfalse : isPositionedTable (.element tag as children) = false := hnone.1
      rw [hself] at hfalse
      exact Bool.noConfusion hfalse
  | text data | comment data | declaration data => exact Bool.noConfusion hself

theorem unplaced_tidy {n : Markup.Node} (h : n.Tidy) : (unplaced n).Tidy := by
  cases n with
  | element tag as children =>
      refine h.replaced (fun a ha => ?_) id (fun _ => id) id
      rcases mem_setAttribute ha with hold | hnew
      · exact h.names a hold
      · rw [hnew]
        exact (by decide : isName "style" = true)
  | text data | comment data | declaration data => exact h

theorem isPlainText_modifyAt (p : Markup.Path) (n : Markup.Node) :
    (n.modifyAt unplaced p).isPlainText = n.isPlainText := by
  cases p with
  | nil => cases n <;> rfl
  | cons i p => cases n <;> rfl

/-- A tidy tree is tidy after a table in it has lost its place. -/
theorem modifyAt_tidy {n : Markup.Node} (h : n.Tidy) (p : Markup.Path) :
    (n.modifyAt unplaced p).Tidy := by
  induction p generalizing n with
  | nil => exact unplaced_tidy h
  | cons i p ih =>
      cases n with
      | text data | comment data | declaration data => exact h
      | element tag as children =>
          refine h.replaced h.names ?_ ?_ fun hall =>
            tidyAll_modify (fun m hm => ih hm) (isPlainText_modifyAt p) hall i
          · rintro rfl
            cases i <;> rfl
          · rintro data rfl
            cases i with
            | zero => cases p <;> rfl
            | succ i => cases i <;> rfl

theorem fragmentOf_ok {table : Markup.Node} {markup : String} {linked : Bool} {f : Fragment}
    (h : fragmentOf config canvas table markup linked = .ok f) :
    f.markup = markup ∧ [f.textAlign, f.verticalAlign] = alignments table := by
  simp only [fragmentOf, except_bind_ok, except_pure_ok] at h
  rcases h with ⟨top, -, left, -, width, -, height, -, rfl⟩
  exact ⟨rfl, rfl⟩

/-- What is taken out of a tree that can be taken out has no positioned table in it. -/
theorem fragmentAt_ok {ns : List Markup.Node} (htidy : Node.TidyAll ns)
    (hdetach : ∀ e ∈ (Node.root ns).elementsBelow, IsDetachable e)
    (hp : (Node.root ns).IsOutermostAt isPositionedTable p) {f : Fragment}
    (hf : fragmentAt config canvas (Node.root ns) p = .ok f) :
    (∃ unit, IsUnitOf f unit ∧ unit.Everywhere IsStill) ∧ AlignsReadably f := by
  rcases exists_table hp with ⟨table, htable, hpositioned⟩
  rcases unit_still rfl hdetach hp with ⟨unit, hunit, helement, hstill⟩
  simp only [fragmentAt, hunit, htable, Option.map_some, Option.getD_some] at hf
  rcases fragmentOf_ok hf with ⟨hmarkup, halignments⟩
  -- The unit is written from the tree in which its table has lost its place.
  have htidyUnit : unit.Tidy := by
    rcases exists_unit rfl hp with ⟨_, _, _, -, hbelow, -⟩
    cases p with
    | nil => exact absurd rfl hp.below
    | cons i p =>
        exact Node.TidyAll.below (tidyAll_modify (fun n hn => modifyAt_tidy hn p)
          (isPlainText_modifyAt p) htidy i) hbelow hunit helement
  have hsolid : unit.isPlainText = false := by
    cases unit with
    | element tag as children => rfl
    | text data | comment data | declaration data => exact absurd helement Bool.false_ne_true
  have haligned := (hdetach table (mem_elementsBelow hp.below htable
    (isElement_of_isPositionedTable hpositioned))).aligned hpositioned
  rw [← halignments] at haligned
  exact ⟨⟨unit, ⟨hmarkup, htidyUnit, hsolid⟩, hstill⟩,
    fun value hvalue => (haligned value hvalue).1, fun value hvalue => (haligned value hvalue).2⟩

end Units

section Bare

theorem isPositionedTable_bare (e : Markup.Node) :
    isPositionedTable e.bare = isPositionedTable e := by
  cases e <;> rfl

theorem any_positioned_bareAll (ns : List Markup.Node) :
    (Node.bareAll ns).any isPositionedTable = ns.any isPositionedTable := by
  induction ns with
  | nil => rfl
  | cons n ns ih =>
      rw [Node.bareAll, List.any_append, ih, List.any_cons]
      cases n with
      | element tag as children => exact congrArg (· || _) (Bool.or_false _)
      | text data | comment data | declaration data => rfl

theorem isUnit_bare (e : Markup.Node) : IsUnit e.bare ↔ IsUnit e := by
  cases e with
  | element tag as children =>
      unfold IsUnit
      rw [isPositionedTable_bare, Node.bare]
      change _ ∨ (_ ∧ (Node.bareAll children).any isPositionedTable = true) ↔ _
      rw [any_positioned_bareAll]
      rfl
  | text data | comment data | declaration data => exact Iff.rfl

/-- Whether an element can be taken out is seen without its text. -/
theorem isDetachable_bare (e : Markup.Node) : IsDetachable e.bare ↔ IsDetachable e := by
  have hcount : e.bare.elementsIn.countP isPositionedTable
      = e.elementsIn.countP isPositionedTable := by
    rw [elementsIn_bare, List.countP_map]
    exact List.countP_congr fun n _ => by rw [Function.comp_apply, isPositionedTable_bare]
  have hstyle : styleOf e.bare = styleOf e := by cases e <;> rfl
  have halignments : alignments e.bare = alignments e := by cases e <;> rfl
  rw [isDetachable_iff, isDetachable_iff, isUnit_bare, hcount, isPositionedTable_bare, hstyle,
    halignments]

end Bare

end Letterpress.Document
