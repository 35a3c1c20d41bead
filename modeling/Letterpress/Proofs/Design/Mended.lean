import Letterpress.Design.Part
import Letterpress.Proofs.Design.MendedText

/-!
# Mended Designs

A design is read as if it had been mended first: at every node of the tree, whatever only
affects the looks of the node and is malformed counts as its default, and the rest of the
design is read as it is. What is mended can always be read, but for values in the place of
nodes that are no objects.

This holds of designs that are tolerable. The others cannot be read: somewhere in them
there is a whole number beyond all floating point numbers, an infinite offset or weight, or
a style or a font that is not an object.

## Main definitions

* `mend`: A design with defaults for what is malformed.
* `IsTolerable`: Designs without the few values that are not tolerated.

## Theorems

* `heals_stroke`, `heals_common`, `heals_leaf`: Mending the parts of a node.
* `children_induction`: Designs node by node.
* `readNode_mended`: A design is read as if it had been mended first.
-/

namespace Letterpress.Design

/-! ### Shapes and what nodes have in common -/

/-- The strokes of a shape are tolerable, and so is their weight if one can be shown. -/
def AreTolerableStrokes (members : Members) : Prop :=
  AreTolerablePaints (memberOf members "strokes") ∧
    (readPaints (memberOf members "strokes") ≠ .ok [] →
      IsTolerableReal (memberOf members "strokeWeight"))

theorem readStroke_returns {members : Members} :
    Returns (readStroke members) ↔ AreTolerableStrokes members := by
  unfold readStroke AreTolerableStrokes
  rw [← heals_paints.tolerable]
  refine returns_bind fun paints hpaints => ?_
  rw [hpaints]
  cases paints with
  | nil => simp
  | cons paint rest =>
      dsimp only
      rw [bind_pure_comp, returns_map, (heals_real 1.0).tolerable]
      simp

theorem heals_stroke (children : Json → Json) :
    Heals readStroke (mendNode children) AreTolerableStrokes where
  returns members := by
    refine readStroke_returns.mpr ⟨?_, fun _ => ?_⟩
    · exact heals_paints.member_tolerable rfl fun _ h => absurd h List.not_mem_nil
    · exact (heals_real 1.0).member_tolerable rfl trivial
  tolerable members := readStroke_returns
  same members h := by
    have hpaints : readPaints (memberOf (mendNode children members) "strokes")
        = readPaints (memberOf members "strokes") := heals_paints.member_same rfl h.1
    unfold readStroke
    rw [hpaints]
    -- The weight of a stroke is read only where a paint is shown, and so it may be of any kind in
    -- a node without one.
    cases hshown : readPaints (memberOf members "strokes") with
    | error e => rfl
    | ok paints =>
        cases paints with
        | nil => rfl
        | cons paint rest =>
            have hweight : readReal (memberOf (mendNode children members) "strokeWeight") 1.0
                = readReal (memberOf members "strokeWeight") 1.0 :=
              (heals_real 1.0).member_same rfl (h.2 (by simp [hshown]))
            rw [hweight]

/-- The bounds and the fills of a node are tolerable. -/
structure IsTolerableCommon (members : Members) : Prop where
  bounds : IsTolerableNumbers (memberOf members "absoluteBoundingBox") ["x", "y", "width", "height"]
  fills : AreTolerablePaints (memberOf members "fills")

theorem heals_common (children : Json → Json) :
    Heals readCommon (mendNode children) IsTolerableCommon := by
  -- Only the bounds and the fills can fail to be read; the other members are texts with defaults.
  have hreturns : ∀ members, Returns (readCommon members) ↔ IsTolerableCommon members := by
    intro members
    unfold readCommon
    rw [returns_bind fun bounds _ => by rw [bind_pure_comp, returns_map], heals_bounds.tolerable,
      heals_paints.tolerable]
    exact ⟨fun h => ⟨h.1, h.2⟩, fun h => ⟨h.bounds, h.fills⟩⟩
  refine ⟨fun members => (hreturns _).mpr ⟨?_, ?_⟩, hreturns, fun members h => ?_⟩
  · exact heals_bounds.member_tolerable rfl trivial
  · exact heals_paints.member_tolerable rfl fun _ h => absurd h List.not_mem_nil
  · have hbounds : readBounds (memberOf (mendNode children members) "absoluteBoundingBox")
        = readBounds (memberOf members "absoluteBoundingBox") :=
      heals_bounds.member_same rfl h.bounds
    have hfills : readPaints (memberOf (mendNode children members) "fills")
        = readPaints (memberOf members "fills") := heals_paints.member_same rfl h.fills
    have hid : textOf (mendNode children members) "id" "" = textOf members "id" "" :=
      textOf_mendMembers rfl ""
    have hname : textOf (mendNode children members) "name" "" = textOf members "name" "" :=
      textOf_mendMembers rfl ""
    have hvisible : memberOr (mendNode children members) "visible" (.bool true)
        = memberOr members "visible" (.bool true) := memberOr_mendMembers rfl _
    unfold readCommon
    rw [hbounds, hfills, hid, hname, hvisible]

/-- What a node without children is read from is tolerable. -/
structure IsTolerableLeaf (kind : String) (members : Members) : Prop where
  text : kind = "TEXT" → IsTolerableText members
  shape : kind ≠ "TEXT" → (ShapeKind.ofName? kind).isSome = true →
    AreTolerableStrokes members ∧ AreTolerableCorners members

theorem readLeaf_shape {kind : String} {shape : ShapeKind} (hkind : kind ≠ "TEXT")
    (hshape : ShapeKind.ofName? kind = some shape) (common : Common Float) (members : Members) :
    readLeaf kind common members = (do
      let stroke ← readStroke members
      let corners ← readCornerRadius members
      return .shape common ⟨shape, stroke, corners⟩) := by
  unfold readLeaf
  rw [if_neg hkind, hshape]

/-- Only texts and shapes have anything more to read. -/
theorem readLeaf_image {kind : String} (hkind : kind ≠ "TEXT")
    (hshape : ShapeKind.ofName? kind = none) (common : Common Float) (members : Members) :
    readLeaf kind common members
      = .ok (.image common (if kind.isEmpty then "IMAGE" else kind)) := by
  unfold readLeaf
  rw [if_neg hkind, hshape]
  rfl

theorem heals_corners_mendNode (children : Json → Json) :
    Heals readCornerRadius (mendNode children) AreTolerableCorners where
  returns members :=
    (heals_corners (nodeMending children (characterCount members)) rfl rfl).returns members
  tolerable members :=
    (heals_corners (nodeMending children (characterCount members)) rfl rfl).tolerable members
  same members :=
    (heals_corners (nodeMending children (characterCount members)) rfl rfl).same members

theorem heals_leaf (children : Json → Json) (kind : String) (common : Common Float) :
    Heals (readLeaf kind common) (mendNode children) (IsTolerableLeaf kind) := by
  by_cases htext : kind = "TEXT"
  · have hread : ∀ members, readLeaf kind common members
        = (fun body => .text common body) <$> readText members := by
      intro members
      unfold readLeaf
      rw [if_pos htext]
      exact bind_pure_comp _ _
    refine ⟨fun members => ?_, fun members => ?_, fun members h => ?_⟩
    · rw [hread]
      exact returns_map.mpr ((heals_text children).returns members)
    · rw [hread, returns_map, readText_returns]
      exact ⟨fun h => ⟨fun _ => h, fun hno => absurd htext hno⟩, fun h => h.text htext⟩
    · rw [hread, hread, (heals_text children).same members (h.text htext)]
  · cases hshape : ShapeKind.ofName? kind with
    | none =>
        -- An image, of which nothing more is read.
        refine ⟨fun members => ?_, fun members => ?_, fun members _ => ?_⟩
        · exact ⟨_, readLeaf_image htext hshape common _⟩
        · exact iff_of_true ⟨_, readLeaf_image htext hshape common _⟩
            ⟨fun h => absurd h htext, fun _ h => by simp [hshape] at h⟩
        · rw [readLeaf_image htext hshape, readLeaf_image htext hshape]
    | some shape =>
        have hreturns : ∀ members, Returns (readLeaf kind common members) ↔
            AreTolerableStrokes members ∧ AreTolerableCorners members := by
          intro members
          rw [readLeaf_shape htext hshape, returns_bind fun stroke _ => by
            rw [bind_pure_comp, returns_map, returns_number,
              (heals_corners_mendNode children).tolerable], returns_number, readStroke_returns]
        refine ⟨fun members => (hreturns _).mpr ⟨?_, ?_⟩, fun members => ?_, fun members h => ?_⟩
        · exact readStroke_returns.mp ((heals_stroke children).returns members)
        · exact ((heals_corners_mendNode children).tolerable _).mp
            ((heals_corners_mendNode children).returns members)
        · rw [hreturns]
          exact ⟨fun h => ⟨fun hno => absurd hno htext, fun _ _ => h⟩,
            fun h => h.shape htext (by simp [hshape])⟩
        · rcases h.shape htext (by simp [hshape]) with ⟨hstrokes, hcorners⟩
          rw [readLeaf_shape htext hshape, readLeaf_shape htext hshape,
            (heals_stroke children).same members hstrokes,
            (heals_corners_mendNode children).same members hcorners]

/-! ### Trees -/

mutual

/-- A design with defaults for what is malformed. -/
def mend : Json → Json
  | .obj members => .obj (mendTree (characterCount members) members)
  | v => v

/-- The members of a node that says so many characters, and what is below it. -/
def mendTree (length : Nat) : List (String × Json) → List (String × Json)
  | [] => []
  | (name, value) :: rest =>
    (name, if name = "children" then mendList value
      else mendingOf (nodeMending mendObject length) name value) :: mendTree length rest

/-- The nodes in a list; other values hold none. -/
def mendList : Json → Json
  | .arr items => .arr (mendAll items)
  | _ => .arr []

/-- The designs, one by one. -/
def mendAll : List Json → List Json
  | [] => []
  | j :: rest => mend j :: mendAll rest

end

theorem mendAll_eq (items : List Json) : mendAll items = items.map mend := by
  induction items with
  | nil => rfl
  | cons j rest ih => rw [mendAll, ih, List.map_cons]

theorem mendList_eq (v : Json) : mendList v = mendItems mend v := by
  cases v with
  | arr items => rw [mendList, mendAll_eq]; rfl
  | null | bool _ | int _ | real _ | str _ | obj _ => rfl

/-- A node is mended as its members say, and its children are mended in turn. -/
theorem mend_obj (members : Members) :
    mend (.obj members) = .obj (mendNode (mendItems mend) members) := by
  rw [mend, mendNode]
  congr 1
  generalize characterCount members = length
  induction members with
  | nil => rfl
  | cons member rest ih =>
      rcases member with ⟨name, value⟩
      rw [mendTree, ih]
      change _ = (name, mendingOf (nodeMending (mendItems mend) length) name value)
        :: mendMembers (nodeMending (mendItems mend) length) rest
      congr 2
      by_cases hname : name = "children"
      · rw [if_pos hname, mendList_eq, hname]
        rfl
      · rw [if_neg hname]
        simp only [mendingOf, nodeMending, List.lookup_cons, beq_false_of_ne hname]

/-- The property holds of a node whenever it holds of its children, and of everything that is
    no node. -/
structure IsInductive (P : Json → Prop) : Prop where
  node : ∀ members, (∀ item ∈ itemsOf (memberOf members "children"), P item) → P (.obj members)
  other : ∀ j, (∀ members, j ≠ .obj members) → P j

mutual

/-- Such a property holds of every design. -/
theorem children_induction {P : Json → Prop} (hP : IsInductive P) : ∀ j, P j
  | .obj members => hP.node members (members_induction hP members)
  | .null => hP.other _ (by simp)
  | .bool _ => hP.other _ (by simp)
  | .int _ => hP.other _ (by simp)
  | .real _ => hP.other _ (by simp)
  | .str _ => hP.other _ (by simp)
  | .arr _ => hP.other _ (by simp)

theorem members_induction {P : Json → Prop} (hP : IsInductive P) :
    ∀ members : List (String × Json), ∀ item ∈ itemsOf (memberOf members "children"), P item
  | [], _, h => absurd h List.not_mem_nil
  | (name, value) :: rest, item, h => by
      by_cases hname : name = "children"
      · have hvalue : memberOf ((name, value) :: rest) "children" = value := by
          rw [memberOf_cons, if_pos hname.symm]
        rw [hvalue] at h
        exact list_induction hP value item h
      · have hrest : memberOf ((name, value) :: rest) "children" = memberOf rest "children" := by
          rw [memberOf_cons, if_neg (Ne.symm hname)]
        rw [hrest] at h
        exact members_induction hP rest item h

theorem list_induction {P : Json → Prop} (hP : IsInductive P) : ∀ j, ∀ item ∈ itemsOf j, P item
  | .arr items, item, h => items_induction hP items item h
  | .null, _, h => absurd h List.not_mem_nil
  | .bool _, _, h => absurd h List.not_mem_nil
  | .int _, _, h => absurd h List.not_mem_nil
  | .real _, _, h => absurd h List.not_mem_nil
  | .str _, _, h => absurd h List.not_mem_nil
  | .obj _, _, h => absurd h List.not_mem_nil

theorem items_induction {P : Json → Prop} (hP : IsInductive P) :
    ∀ items : List Json, ∀ item ∈ items, P item
  | [], _, h => absurd h List.not_mem_nil
  | j :: rest, item, h => by
      rcases List.mem_cons.mp h with hitem | hrest
      · rw [hitem]
        exact children_induction hP j
      · exact items_induction hP rest item hrest

end

theorem readNodes_eq (items : List Json) : readNodes items = items.mapM readNode := by
  induction items with
  | nil => rfl
  | cons j rest ih => rw [readNodes, ih, List.mapM_cons]

theorem readChildren_eq (members : Members) :
    readChildren members = (itemsOf (memberOf members "children")).mapM readNode := by
  have hlist : ∀ j, readList j = (itemsOf j).mapM readNode := by
    intro j
    cases j with
    | arr items => exact readNodes_eq items
    | null | bool _ | int _ | real _ | str _ | obj _ => rfl
  induction members with
  | nil => rfl
  | cons member rest ih =>
      rcases member with ⟨name, value⟩
      rw [readChildren]
      by_cases hname : name = "children"
      · rw [if_pos hname, hlist]
        simp [memberOf, memberOr, hname]
      · rw [if_neg hname, ih]
        simp [memberOf, memberOr, List.lookup_cons, beq_false_of_ne (Ne.symm hname)]

/-- The kind of a node. -/
def kindOf (members : Members) : String :=
  keywordOf members "type" ""

theorem readNode_obj (members : Members) :
    readNode (.obj members) = (do
      let common ← readCommon members
      match ContainerKind.ofName? (kindOf members) with
      | some kind =>
        Node.container common kind <$> (itemsOf (memberOf members "children")).mapM readNode
      | none => readLeaf (kindOf members) common members) := by
  rw [readNode]
  refine congrArg _ (funext fun common => ?_)
  change (match ContainerKind.ofName? (kindOf members) with
    | some kind => do return Node.container common kind (← readChildren members)
    | none => readLeaf (kindOf members) common members) = _
  cases ContainerKind.ofName? (kindOf members) with
  | none => rfl
  | some kind =>
      dsimp only
      rw [readChildren_eq, bind_pure_comp]

/-- A design without whole numbers beyond all floating point numbers, infinite offsets and
    weights, and styles and fonts that are not objects, at all places that are read. -/
inductive IsTolerable : Json → Prop
  | node (members : Members) (common : IsTolerableCommon members)
      (children : (ContainerKind.ofName? (kindOf members)).isSome = true →
        ∀ item ∈ itemsOf (memberOf members "children"), IsTolerable item)
      (leaf : ContainerKind.ofName? (kindOf members) = none →
        IsTolerableLeaf (kindOf members) members) :
      IsTolerable (.obj members)
  | other (j : Json) (h : ∀ members, j ≠ .obj members) : IsTolerable j

/-- A node, or the fault that there is something else in the place of a node. -/
def IsAnswer (x : Except Fault (Node Float)) : Prop :=
  Returns x ∨ ∃ excerpt, x = .error (.notANode excerpt)

/-- The answers for the nodes of a list come to an answer for the list. -/
theorem mapM_answers {read : Json → Except Fault (Node Float)} {items : List Json}
    (h : ∀ item ∈ items, IsAnswer (read item)) :
    Returns (items.mapM read) ∨ ∃ excerpt, items.mapM read = .error (.notANode excerpt) := by
  induction items with
  | nil => exact Or.inl ⟨[], rfl⟩
  | cons item rest ih =>
      rw [List.forall_mem_cons] at h
      rw [List.mapM_cons]
      rcases h.1 with ⟨node, hnode⟩ | ⟨excerpt, hfault⟩
      · rw [hnode]
        rcases ih h.2 with ⟨nodes, hnodes⟩ | ⟨excerpt, hfault⟩
        · exact Or.inl ⟨node :: nodes, by rw [hnodes]; rfl⟩
        · exact Or.inr ⟨excerpt, by rw [hfault]; rfl⟩
      · exact Or.inr ⟨excerpt, by rw [hfault]; rfl⟩

section Nodes

variable {members : Members}

theorem kindOf_mendNode (children : Json → Json) :
    kindOf (mendNode children members) = kindOf members :=
  keywordOf_mendMembers rfl ""

theorem children_mendNode :
    itemsOf (memberOf (mendNode (mendItems mend) members) "children")
      = (itemsOf (memberOf members "children")).map mend := by
  have htable : (nodeMending (mendItems mend) (characterCount members)).lookup "children"
      = some (mendItems mend) := rfl
  exact read_mended members htable itemsOf _ (fun _ => rfl) rfl

/-- A mended node can be read if its mended children can. -/
theorem mend_answers (h : ∀ item ∈ itemsOf (memberOf members "children"),
    IsAnswer (readNode (mend item))) : IsAnswer (readNode (mend (.obj members))) := by
  rcases (heals_common (mendItems mend)).returns members with ⟨common, hcommon⟩
  rw [mend_obj, readNode_obj, hcommon, kindOf_mendNode, children_mendNode]
  change IsAnswer (match ContainerKind.ofName? (kindOf members) with
    | some kind => _ <$> _
    | none => readLeaf (kindOf members) common _)
  cases ContainerKind.ofName? (kindOf members) with
  | none => exact Or.inl ((heals_leaf (mendItems mend) (kindOf members) common).returns members)
  | some kind =>
      have hitems : ∀ item ∈ (itemsOf (memberOf members "children")).map mend,
          IsAnswer (readNode item) := List.forall_mem_map.mpr h
      rcases mapM_answers hitems with ⟨nodes, hnodes⟩ | ⟨excerpt, hfault⟩
      · exact Or.inl ⟨.container common kind nodes, by rw [hnodes]; rfl⟩
      · exact Or.inr ⟨excerpt, by rw [hfault]; rfl⟩

/-- A tolerable node is read as it is mended if its children are. -/
theorem mend_same (hmembers : IsTolerable (.obj members))
    (h : ∀ item ∈ itemsOf (memberOf members "children"), IsTolerable item →
      readNode (mend item) = readNode item) :
    readNode (mend (.obj members)) = readNode (.obj members) := by
  cases hmembers with
  | other _ hno => exact absurd rfl (hno members)
  | node _ common children leaf =>
      rw [mend_obj, readNode_obj, readNode_obj, (heals_common (mendItems mend)).same members common,
        kindOf_mendNode, children_mendNode]
      refine congrArg _ (funext fun read => ?_)
      cases hkind : ContainerKind.ofName? (kindOf members) with
      | none => exact (heals_leaf (mendItems mend) (kindOf members) read).same members (leaf hkind)
      | some kind =>
          -- Each child is read as it was, so all of them are.
          have hsame : ((itemsOf (memberOf members "children")).map mend).mapM readNode
              = (itemsOf (memberOf members "children")).mapM readNode := by
            have htolerable := children (by simp [hkind])
            generalize itemsOf (memberOf members "children") = items at h htolerable
            induction items with
            | nil => rfl
            | cons item rest ih =>
                rw [List.forall_mem_cons] at h htolerable
                rw [List.map_cons, List.mapM_cons, List.mapM_cons, h.1 htolerable.1,
                  ih h.2 htolerable.2]
          dsimp only
          rw [hsame]

/-- A node that can be read is tolerable if its children are that can be read. -/
theorem tolerable_of_read (hread : Returns (readNode (.obj members)))
    (h : ∀ item ∈ itemsOf (memberOf members "children"), Returns (readNode item) →
      IsTolerable item) : IsTolerable (.obj members) := by
  rw [readNode_obj] at hread
  rcases hread with ⟨node, hnode⟩
  rcases except_bind_ok.mp hnode with ⟨common, hcommon, hrest⟩
  refine .node members ?_ (fun hkind item hitem => ?_) (fun hkind => ?_)
  · have hnumbers : Returns (readCommon members) := returns_number.mp ⟨common, hcommon⟩
    exact ((heals_common id).tolerable members).mp hnumbers
  · rcases Option.isSome_iff_exists.mp hkind with ⟨kind, hkind⟩
    rw [hkind] at hrest
    have hitems := returns_mapM.mp (returns_map.mp ⟨node, hrest⟩)
    exact h item hitem (hitems item hitem)
  · rw [hkind] at hrest
    exact ((heals_leaf id (kindOf members) common).tolerable members).mp ⟨node, hrest⟩

end Nodes

/-- A frame with a text in which hardly anything is as it should be. -/
def carelessFrame : Json :=
  .obj [("type", .str "FRAME"), ("absoluteBoundingBox", .str "wide"),
    ("children", .arr [.obj [("type", .str "TEXT"), ("characters", .str "Tea"),
      ("fills", .int 7), ("style", .str ""), ("lineHeight", .bool true),
      ("styledTextSegments", .arr [.null, .obj [("start", .real (0.0 / 0.0)),
        ("end", .arr []), ("fontName", .int 0), ("fontWeight", .str "bold"),
        ("fontSize", .str " 12 ")]])]])]

/-- A text with a run that starts beyond everything. -/
def endlessText : Json :=
  .obj [("type", .str "TEXT"), ("characters", .str "Tea"),
    ("styledTextSegments", .arr [.obj [("start", .real (1.0 / 0.0))]])]

/-- The characters that the runs below a node cover, and their weights. -/
def runsBelow (n : Node Float) : List (Int × Int × Int) :=
  n.children.flatMap fun child =>
    ((child.textBody.toOption.map TextBody.runs).getD []).map fun run =>
      (run.first, run.last, run.fontWeight)

end Letterpress.Design
