import Letterpress.Document.Extraction
import Letterpress.Proofs.Document.Extraction
import Letterpress.Proofs.Markup.Places
import Letterpress.Proofs.Markup.Reading
import Letterpress.Proofs.Number.Exact

/-!
# Units of Extraction

What is taken out of a tree with a positioned table is a unit: the table itself, or the link
directly around it. Tables lose their places one after another, so a unit that is written
later could show what has become of the tables before it. It does not, as long as no unit
holds the table of another one. Then the units have nothing in common, and each is written
as if its table were the only one.

A link that stands directly around two tables is a unit of both. It is taken out twice, with
both tables in it, and the second one still has its place when it is written first. This is
the only way in which units can meet.

## Main definitions

* `unitAt`: The place of the unit of a table.
* `fragmentAt`: The fragment of a table, as if it were the only one.

## Theorems

* `units_meet`: Units have something in common exactly if one holds the table of the other.
* `extractAt_alone`: Where units do not meet, every table is taken out by itself.
* `extract_alone`: The fragments of a text without links around several tables.
* `extract_units`: The units of a text and its fragments.
-/

namespace Letterpress

namespace Markup

theorem lookup_setAttribute (name value : String) (as : List Attribute) (other : String) :
    (setAttribute name value as).lookup other
      = if other = name then some (some value) else as.lookup other :=
  lookup_of_set (setAttribute name value) rfl (fun _ _ _ => rfl) as other

theorem mem_setAttribute {name value : String} {as : List Attribute} {a : Attribute}
    (h : a ∈ setAttribute name value as) : a ∈ as ∨ a = (name, some value) := by
  induction as with
  | nil => exact Or.inr (List.mem_singleton.mp h)
  | cons first rest ih =>
      rcases first with ⟨n, v⟩
      rw [setAttribute] at h
      split at h
      · rcases List.mem_cons.mp h with hnew | hold
        · exact Or.inr hnew
        · exact Or.inl (List.mem_cons_of_mem _ hold)
      · rcases List.mem_cons.mp h with hself | hrest
        · exact Or.inl (hself ▸ List.mem_cons_self)
        · exact (ih hrest).imp_left (List.mem_cons_of_mem _)

end Markup

namespace Document

variable {K : Type} [Scalar K] {config : Config K} {canvas : Int} {tree now : Markup.Node}
  {p q : Markup.Path}

/-- The place of what is taken out with the table at a place: that of the table itself, or of
    the link directly around it. -/
def unitAt (tree : Markup.Node) (path : Markup.Path) : Markup.Path :=
  (wrapperPath? tree path).getD path

/-- The fragment of the table at a place of a tree, as if this table were the only one. -/
def fragmentAt (config : Config K) (canvas : Int) (tree : Markup.Node) (path : Markup.Path) :
    Except NumeralError Fragment :=
  let unit := (tree.modifyAt unplaced path).at? (unitAt tree path)
  let markup := (unit.map Markup.Node.serialize).getD ""
  fragmentOf config canvas ((tree.at? path).getD tree) markup (wrapperPath? tree path).isSome

theorem unitAt_above (tree : Markup.Node) (path : Markup.Path) : unitAt tree path <+: path := by
  by_cases hpath : path = []
  · rw [unitAt, wrapperPath?, if_pos hpath]
    exact List.prefix_rfl
  · simp only [unitAt, wrapperPath?, if_neg hpath]
    split
    · exact List.dropLast_prefix path
    · exact List.prefix_rfl

section Wrappers

theorem get?_unplaced {n : Markup.Node} {name : String} (h : name ≠ "style") :
    (unplaced n).get? name = n.get? name := by
  cases n with
  | element tag as children =>
      change ((Markup.setAttribute _ _ as).lookup name).map _ = (as.lookup name).map _
      rw [Markup.lookup_setAttribute, if_neg h]
  | text data | comment data | declaration data => rfl

/-- A link is a link also without a place. -/
theorem isLinkWrapper_unplaced (n : Markup.Node) :
    isLinkWrapper (unplaced n) = isLinkWrapper n := by
  cases n with
  | element tag as children =>
      have hhas : (Markup.Node.element tag as children).has "data-link-placeholder-id"
          = (unplaced (.element tag as children)).has "data-link-placeholder-id" := by
        change (as.lookup _).isSome = ((Markup.setAttribute _ _ as).lookup _).isSome
        rw [Markup.lookup_setAttribute, if_neg (by decide)]
      simp only [isLinkWrapper, get?_unplaced (show "href" ≠ "style" by decide), ← hhas]
      rfl
  | text data | comment data | declaration data => rfl

theorem children_unplaced (n : Markup.Node) : (unplaced n).children = n.children := by
  cases n <;> rfl

/-- Links stay where they are when a table loses its place. -/
theorem wrapperPath?_modifyAt (n : Markup.Node) (p q : Markup.Path) :
    wrapperPath? (n.modifyAt unplaced p) q = wrapperPath? n q := by
  have hwrapper : ∀ r, ((n.modifyAt unplaced p).at? r).any isLinkWrapper
      = (n.at? r).any isLinkWrapper := by
    intro r
    have hmap := Markup.Node.map_at?_modifyAt (p := p) (q := r) (f := unplaced) (g := isLinkWrapper)
      (fun _ _ _ _ => rfl) children_unplaced (fun _ => isLinkWrapper_unplaced) n
    have hany : ∀ o : Option Markup.Node,
        o.any isLinkWrapper = (o.map isLinkWrapper).getD false := fun o => by
      cases o <;> rfl
    rw [hany, hmap, hany]
  simp only [wrapperPath?, hwrapper]

end Wrappers

/-- Units have something in common exactly if one of them holds the table of the other. -/
theorem units_meet (tree : Markup.Node) (p q : Markup.Path) :
    (∃ e, unitAt tree p <+: e ∧ unitAt tree q <+: e) ↔
      unitAt tree p <+: q ∨ unitAt tree q <+: p := by
  constructor
  · rintro ⟨e, hp, hq⟩
    rcases List.prefix_or_prefix_of_prefix hp hq with hpq | hqp
    · exact Or.inl (hpq.trans (unitAt_above tree q))
    · exact Or.inr (hqp.trans (unitAt_above tree p))
  · rintro (hpq | hqp)
    · exact ⟨q, hpq, unitAt_above tree q⟩
    · exact ⟨p, unitAt_above tree p, hqp⟩

/-- The links and the units at the places are those of the other tree. -/
structure KeepsUnits (tree now : Markup.Node) (paths : List Markup.Path) : Prop where
  wrapper : ∀ q, wrapperPath? now q = wrapperPath? tree q
  unit : ∀ q ∈ paths, now.at? (unitAt tree q) = tree.at? (unitAt tree q)

theorem KeepsUnits.table {paths : List Markup.Path} (h : KeepsUnits tree now paths)
    (hp : p ∈ paths) : now.at? p = tree.at? p := by
  rcases unitAt_above tree p with ⟨rest, hrest⟩
  have hunit := h.unit p hp
  rw [← hrest, Markup.Node.at?_append, hunit, ← Markup.Node.at?_append]

/-- A unit without the place of its table. -/
theorem KeepsUnits.unplaced {paths : List Markup.Path} (h : KeepsUnits tree now paths)
    (hp : p ∈ paths) : (now.modifyAt unplaced p).at? (unitAt tree p)
      = (tree.modifyAt unplaced p).at? (unitAt tree p) := by
  rcases unitAt_above tree p with ⟨rest, hrest⟩
  have habove : ∀ n : Markup.Node, (n.modifyAt Document.unplaced p).at? (unitAt tree p)
      = (n.at? (unitAt tree p)).map (Markup.Node.modifyAt Document.unplaced rest) := fun n => by
    rw [← Markup.Node.at?_modifyAt_above, hrest]
  rw [habove, habove, h.unit p hp]

/-- If no table lies in the unit of a later one or around it, every table is taken out as if it
    were the only one. -/
theorem extractAt_alone {paths : List Markup.Path} (hkeeps : KeepsUnits tree now paths)
    (htables : ∀ p ∈ paths, (tree.at? p).isSome = true)
    (hapart : paths.Pairwise fun p q => ¬ p <+: unitAt tree q ∧ ¬ unitAt tree q <+: p) :
    extractAt config canvas now paths = paths.mapM (fragmentAt config canvas tree) := by
  induction paths generalizing now with
  | nil => rfl
  | cons p paths ih =>
      rw [List.forall_mem_cons] at htables
      rw [List.pairwise_cons] at hapart
      rcases Option.isSome_iff_exists.mp htables.1 with ⟨table, htable⟩
      have hself := List.mem_cons_self (a := p) (l := paths)
      -- The unit of a later table is apart from this one, and so taking this one out leaves it as
      -- it is.
      have hrest : KeepsUnits tree (now.modifyAt unplaced p) paths := by
        refine ⟨fun q => (wrapperPath?_modifyAt now p q).trans (hkeeps.wrapper q), fun q hq => ?_⟩
        rcases hapart.1 q hq with ⟨hbelow, habove⟩
        rw [Markup.Node.at?_modifyAt_apart hbelow habove]
        exact hkeeps.unit q (List.mem_cons_of_mem p hq)
      rw [extractAt_some ((hkeeps.table hself).trans htable), List.mapM_cons]
      simp only [hrest.wrapper, ih hrest htables.2 hapart.2]
      change (fragmentOf config canvas table
        (((now.modifyAt unplaced p).at? (unitAt tree p)).map Markup.Node.serialize |>.getD "") _
          >>= _) = _
      rw [hkeeps.unplaced hself, fragmentAt, htable]
      rfl

/-- If no unit holds another positioned table, every outermost table is taken out as if it were
    the only one. -/
theorem extractAt_outermost
    (h : ∀ p ∈ tree.outermost isPositionedTable, ∀ q ∈ tree.outermost isPositionedTable,
      unitAt tree p <+: q → p = q) :
    extractAt config canvas tree (tree.outermost isPositionedTable)
      = (tree.outermost isPositionedTable).mapM (fragmentAt config canvas tree) := by
  refine extractAt_alone ⟨fun _ => rfl, fun _ _ => rfl⟩ (fun p hp => ?_) ?_
  · exact Option.isSome_of_any (Markup.Node.mem_outermost.mp hp).holds
  · refine (Markup.Node.outermost_sorted isPositionedTable tree).imp_of_mem ?_
    intro p q hp hq hlt
    have hne : p ≠ q := by
      rintro rfl
      exact absurd hlt (List.lt_irrefl p)
    constructor
    · intro hbelow
      exact hne (Markup.Node.outermost_apart hp hq (hbelow.trans (unitAt_above tree q)))
    · intro habove
      exact hne (h q hq p hp habove).symm

/-- If no unit holds another positioned table, what is taken out of a text is what is taken out
    with each of its tables. -/
theorem extract_alone {markup : String} (hparse : Markup.parse markup = .ok tree)
    (h : ∀ p ∈ tree.outermost isPositionedTable, ∀ q ∈ tree.outermost isPositionedTable,
      unitAt tree p <+: q → p = q) (config : Config K) (width : K) :
    extract config markup width = (do
      let canvas ← Scalar.roundHalfUp width
      ((tree.outermost isPositionedTable).mapM (fragmentAt config canvas tree)).mapError
        Fault.numeral) := by
  rw [extract, extractOn, hparse]
  cases Scalar.roundHalfUp width with
  | error e => rfl
  | ok canvas =>
      change (extractAt config canvas tree _).mapError Fault.numeral = _
      rw [extractAt_outermost h]
      rfl

/-- The outermost positioned tables of a text are found, each once and in order. The units of
    two of them have something in common exactly if one is a link that holds both tables. If
    there is no such link, every table becomes a fragment with its unit as it stands in the
    text, but for the place of the table. -/
theorem extract_units {markup : String} (hparse : Markup.parse markup = .ok tree) :
    (∀ p, p ∈ tree.outermost isPositionedTable ↔ tree.IsOutermostAt isPositionedTable p) ∧
    (tree.outermost isPositionedTable).Pairwise (· < ·) ∧
    (∀ p ∈ tree.outermost isPositionedTable, ∀ q ∈ tree.outermost isPositionedTable, p ≠ q →
      ((∃ e, unitAt tree p <+: e ∧ unitAt tree q <+: e) ↔
        unitAt tree p <+: q ∨ unitAt tree q <+: p)) ∧
    ((∀ p ∈ tree.outermost isPositionedTable, ∀ q ∈ tree.outermost isPositionedTable,
        unitAt tree p <+: q → p = q) →
      ∀ (config : Config K) (width : K), extract config markup width = do
        let canvas ← Scalar.roundHalfUp width
        ((tree.outermost isPositionedTable).mapM (fragmentAt config canvas tree)).mapError
          Fault.numeral) := by
  exact ⟨fun p => Markup.Node.mem_outermost, Markup.Node.outermost_sorted _ tree,
    fun p _ q _ _ => units_meet tree p q, fun halone => extract_alone hparse halone⟩

/-- Two positioned tables, the first one in a link. -/
def linkThenTable : List Markup.Node :=
  [.element "a" [("href", some "x")]
      [.element "table" [("style", some "position:absolute; top:5px; width:40px;")]
        [.element "tr" [] [.element "td" [] [.text "1"]]]],
    .element "table" [("style", some "position:absolute; left:30px; width:200px;")]
      [.element "tr" [] [.element "td" [] [.text "2"]]]]

/-- The first table is taken out with its link, the second one by itself. -/
theorem extract_units_linkThenTable : ∃ markup,
    Markup.parse markup = .ok (Markup.Node.root linkThenTable) ∧
    extract {} markup (100 : Rat) = .ok
      [{ markup := "<a href=\"x\"><table style=\"width:40px;\"><tr><td>1</td></tr></table></a>",
         left := 0, top := 5, width := 40, height := 100, linkWrapped := true },
        { markup := "<table style=\"width:200px;\"><tr><td>2</td></tr></table>",
          left := 30, top := 0, width := 100, height := 100 }] := by
  have hrow : ∀ data, Markup.isPlain data = true →
      Markup.Node.TidyAll [.element "tr" [] [.element "td" [] [.text data]]] := fun data hdata =>
    ⟨⟨by decide, by decide, ⟨by decide, by decide, Or.inl hdata, fun _ => rfl, trivial⟩,
      fun _ => rfl, trivial⟩, fun _ => rfl, trivial⟩
  have htidy : Markup.Node.TidyAll linkThenTable :=
    ⟨⟨by decide, by decide, ⟨by decide, by decide, hrow "1" (by decide)⟩, fun _ => rfl, trivial⟩,
      fun _ => rfl, ⟨by decide, by decide, hrow "2" (by decide)⟩, fun _ => rfl, trivial⟩
  have hparse := Markup.parse_serializeAll htidy
  have hplaces : (Markup.Node.root linkThenTable).outermost isPositionedTable = [[0, 0], [1]] := by
    decide +kernel
  have halone : ∀ p ∈ (Markup.Node.root linkThenTable).outermost isPositionedTable,
      ∀ q ∈ (Markup.Node.root linkThenTable).outermost isPositionedTable,
      unitAt (Markup.Node.root linkThenTable) p <+: q → p = q := by
    rw [hplaces]
    decide +kernel
  refine ⟨_, hparse, ?_⟩
  rcases extract_units (K := Rat) hparse with ⟨-, -, -, hextract⟩
  rw [hextract halone, hplaces, roundHalfUp_rat]
  decide +kernel

end Document

end Letterpress
