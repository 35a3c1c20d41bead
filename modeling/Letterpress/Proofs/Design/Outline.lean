import Letterpress.Design.Directive
import Letterpress.Proofs.Design.Mended
import Mathlib.Data.List.Forall2

/-!
# Outlines of Designs

A design is read object by object, and its tree has one node for each object that is
reached. Only the items in a list of children are reached, and only below an object whose
type is that of a container; whatever else an object holds under that name is passed over,
and so are the children of texts, shapes and pictures. The *outline* of a design lists the
objects that are reached, parents before what is below them, and is told from the design
alone.

One object gives one node: its type tells the variety of the node, its fills are the paints
that can be shown, and what is below it comes from its children. All else follows by going
down the tree. Since the nodes of the tree are the objects of the outline, the regions that
an export is charged for can be counted before the design is read.

## Main definitions

* `childrenOf`, `outline`: The objects that are reached.
* `varietyOf`: The variety of node that a type stands for.
* `isShownPaint`: A paint that can be shown.
* `Depicts`: A paint is what its object says.
* `IsReadFrom`: A node is what its object says.
* `isRegionObject`: An object that becomes a region for a table.

## Theorems

* `readPaints_shown`: The paints that are read are those that can be shown.
* `readNode_own`: What one object gives.
* `readNode_outline`: The nodes of a tree are the objects of its outline.
-/

namespace Letterpress.Design

/-! ### The objects that are reached -/

/-- The types of containers. -/
def containerTypes : List String :=
  ["FRAME", "GROUP", "COMPONENT", "INSTANCE"]

/-- The types of shapes. -/
def shapeTypes : List String :=
  ["RECTANGLE", "ELLIPSE", "LINE", "POLYGON", "STAR", "VECTOR"]

/-- The items in the list of children of a container; nothing else has children. -/
def childrenOf (members : Members) : List Json :=
  if kindOf members ∈ containerTypes then itemsOf (memberOf members "children") else []

mutual

/-- The objects that are reached from a value, parents before what is below them. -/
def outline : Json → List Members
  | .obj members =>
    members :: if kindOf members ∈ containerTypes then outlineBelow members else []
  | _ => []

/-- The objects that are reached from the children among the members of an object. -/
def outlineBelow : List (String × Json) → List Members
  | [] => []
  | (name, value) :: rest => if name = "children" then outlineList value else outlineBelow rest

/-- The objects that are reached from the items of a list. -/
def outlineList : Json → List Members
  | .arr items => outlineAll items
  | _ => []

/-- The objects that are reached from values. -/
def outlineAll : List Json → List Members
  | [] => []
  | j :: rest => outline j ++ outlineAll rest

end

theorem outlineAll_eq (items : List Json) : outlineAll items = items.flatMap outline := by
  induction items with
  | nil => rfl
  | cons j rest ih => rw [outlineAll, ih, List.flatMap_cons]

theorem outlineBelow_eq (members : Members) :
    outlineBelow members = (itemsOf (memberOf members "children")).flatMap outline := by
  have hlist : ∀ j, outlineList j = (itemsOf j).flatMap outline := by
    intro j
    cases j with
    | arr items => exact outlineAll_eq items
    | null | bool _ | int _ | real _ | str _ | obj _ => rfl
  induction members with
  | nil => rfl
  | cons member rest ih =>
      rcases member with ⟨name, value⟩
      rw [outlineBelow]
      by_cases hname : name = "children"
      · rw [if_pos hname, hlist, memberOf_cons, if_pos hname.symm]
      · rw [if_neg hname, ih, memberOf_cons, if_neg (Ne.symm hname)]

/-- An object stands before all that is reached from its children. -/
theorem outline_obj (members : Members) :
    outline (.obj members) = members :: (childrenOf members).flatMap outline := by
  rw [outline, childrenOf, outlineBelow_eq]
  by_cases hkind : kindOf members ∈ containerTypes
  · rw [if_pos hkind, if_pos hkind]
  · rw [if_neg hkind, if_neg hkind, List.flatMap_nil]

/-! ### Paints -/

/-- The value can be read as a number. -/
def isNumber (j : Json) : Bool :=
  match toReal? j with
  | .ok (some _) => true
  | _ => false

/-- The value is an object with a number under each of the names. -/
def hasNumbers (j : Json) (names : List String) : Bool :=
  names.all fun name => (j.get? name).any isNumber

/-- The paint of an object is of a supported type, with what that type needs: channels for a
    color, and a reference for a picture. -/
def isSupportedPaint (members : Members) : Bool :=
  if keywordOf members "type" "" = "SOLID" then
    hasNumbers (memberOf members "color") ["r", "g", "b"]
  else if keywordOf members "type" "" = "IMAGE" then
    (memberOf members "imageRef").truthy || (memberOf members "imageHash").truthy
  else false

/-- The value is a paint that can be shown: an object that is not made invisible, of a
    supported type. -/
def isShownPaint : Json → Bool
  | .obj members => !isFalse (memberOf members "visible") && isSupportedPaint members
  | _ => false

/-- The value under a name is read as a number. -/
def HasNumber (j : Json) (name : String) (x : Float) : Prop :=
  ∃ value, j.get? name = some value ∧ toReal? value = .ok (some x)

/-- A paint is what its object says: a color with its channels, or the picture that a
    reference means. The opacity counts as full where it is malformed. -/
inductive Depicts : Json → Paint Float → Prop
  | solid {members : Members} {red green blue opacity : Float}
      (hkind : keywordOf members "type" "" = "SOLID")
      (hred : HasNumber (memberOf members "color") "r" red)
      (hgreen : HasNumber (memberOf members "color") "g" green)
      (hblue : HasNumber (memberOf members "color") "b" blue)
      (hopacity : readReal (memberOf members "opacity") 1.0 = .ok opacity) :
      Depicts (.obj members) (.solid ⟨red, green, blue⟩ opacity)
  | image {members : Members} {opacity : Float} (hkind : keywordOf members "type" "" = "IMAGE")
      (hopacity : readReal (memberOf members "opacity") 1.0 = .ok opacity) :
      Depicts (.obj members) (.image
        (firstTruthy (memberOf members "imageRef") (memberOf members "imageHash")).display opacity)

/-- Numbers are read from an object exactly if it has them. -/
theorem readNumbers?_cases {j : Json} {names : List String} {xs : Option (List Float)}
    (h : readNumbers? j names = .ok xs) :
    (hasNumbers j names = true ∧ ∃ ys, xs = some ys ∧ List.Forall₂ (HasNumber j) names ys) ∨
      (hasNumbers j names = false ∧ xs = none) := by
  induction names generalizing xs with
  | nil =>
      rw [readNumbers?, except_pure_ok] at h
      exact Or.inl ⟨rfl, [], h.symm, .nil⟩
  | cons name names ih =>
      rw [readNumbers?] at h
      have hcons : hasNumbers j (name :: names)
          = ((j.get? name).any isNumber && hasNumbers j names) := rfl
      rw [hcons]
      cases hvalue : j.get? name with
      | none =>
          simp only [hvalue, except_pure_ok] at h
          exact Or.inr ⟨rfl, h.symm⟩
      | some value =>
          simp only [hvalue, except_bind_ok] at h
          rcases h with ⟨x, hx, hrest⟩
          rw [Option.any_some, isNumber, hx]
          -- The first value that is no number ends the reading.
          cases x with
          | none =>
              rw [except_pure_ok] at hrest
              exact Or.inr ⟨rfl, hrest.symm⟩
          | some x =>
              simp only [except_bind_ok, except_pure_ok] at hrest
              rcases hrest with ⟨ys, hys, rfl⟩
              rcases ih hys with ⟨hall, zs, rfl, hzs⟩ | ⟨hnone, rfl⟩
              · exact Or.inl ⟨hall, x :: zs, rfl, .cons ⟨value, hvalue, hx⟩ hzs⟩
              · exact Or.inr ⟨hnone, rfl⟩

/-- A color is read from an object with three channels. -/
theorem readColor_cases {j : Json} {color : Option (Rgb Float)} (h : readColor j = .ok color) :
    (hasNumbers j ["r", "g", "b"] = true ∧ ∃ c, color = some c ∧
        HasNumber j "r" c.red ∧ HasNumber j "g" c.green ∧ HasNumber j "b" c.blue) ∨
      (hasNumbers j ["r", "g", "b"] = false ∧ color = none) := by
  simp only [readColor, except_bind_ok] at h
  rcases h with ⟨xs, hxs, hcolor⟩
  rcases readNumbers?_cases hxs with ⟨hall, ys, rfl, hys⟩ | ⟨hnone, rfl⟩
  · -- Three names have three numbers.
    rcases hys with _ | ⟨hred, _ | ⟨hgreen, _ | ⟨hblue, hnil⟩⟩⟩
    cases hnil
    rw [except_pure_ok] at hcolor
    exact Or.inl ⟨hall, _, hcolor.symm, hred, hgreen, hblue⟩
  · rw [except_pure_ok] at hcolor
    exact Or.inr ⟨hnone, hcolor.symm⟩

/-- A paint is read exactly if it can be shown, and then it is what its object says. -/
theorem readPaint_cases {j : Json} {paint : Option (Paint Float)} (h : readPaint j = .ok paint) :
    (isShownPaint j = true ∧ ∃ p, paint = some p ∧ Depicts j p) ∨
      (isShownPaint j = false ∧ paint = none) := by
  cases j with
  | null | bool _ | int _ | real _ | str _ | arr _ =>
      exact Or.inr ⟨rfl, (except_pure_ok.mp h).symm⟩
  | obj members =>
      rw [readPaint_obj] at h
      by_cases hhidden : isFalse (memberOf members "visible") = true
      · rw [if_pos hhidden, except_pure_ok] at h
        exact Or.inr ⟨by simp [isShownPaint, hhidden], h.symm⟩
      · rw [if_neg hhidden, except_bind_ok] at h
        rcases h with ⟨opacity, hopacity, h⟩
        have hshown : isShownPaint (.obj members) = isSupportedPaint members := by
          simp [isShownPaint, hhidden]
        rw [hshown, isSupportedPaint]
        by_cases hsolid : keywordOf members "type" "" = "SOLID"
        · rw [if_pos hsolid] at h ⊢
          simp only [except_bind_ok, except_pure_ok] at h
          rcases h with ⟨color, hcolor, rfl⟩
          rcases readColor_cases hcolor with ⟨hall, c, rfl, hred, hgreen, hblue⟩ | ⟨hnone, rfl⟩
          · exact Or.inl ⟨hall, _, rfl, .solid hsolid hred hgreen hblue hopacity⟩
          · exact Or.inr ⟨hnone, rfl⟩
        · rw [if_neg hsolid] at h ⊢
          by_cases himage : keywordOf members "type" "" = "IMAGE"
          · rw [if_pos himage, except_pure_ok] at h
            rw [if_pos himage]
            -- The first reference counts unless it is missing, and then the second one does.
            have htruthy : (firstTruthy (memberOf members "imageRef")
                (memberOf members "imageHash")).truthy = ((memberOf members "imageRef").truthy
                  || (memberOf members "imageHash").truthy) := by
              unfold firstTruthy
              by_cases href : (memberOf members "imageRef").truthy = true <;> simp [href]
            rw [htruthy] at h
            by_cases href : ((memberOf members "imageRef").truthy
                || (memberOf members "imageHash").truthy) = true
            · rw [if_pos href] at h
              exact Or.inl ⟨href, _, h.symm, .image himage hopacity⟩
            · rw [if_neg href] at h
              exact Or.inr ⟨Bool.eq_false_iff.mpr href, h.symm⟩
          · rw [if_neg himage, except_pure_ok] at h
            rw [if_neg himage]
            exact Or.inr ⟨rfl, h.symm⟩

/-- The paints that are read from a list are those that can be shown, in order. -/
theorem readPaints_shown {j : Json} {paints : List (Paint Float)} (h : readPaints j = .ok paints) :
    List.Forall₂ Depicts ((itemsOf j).filter isShownPaint) paints := by
  simp only [readPaints, except_bind_ok, except_pure_ok] at h
  rcases h with ⟨read, hread, rfl⟩
  generalize itemsOf j = items at hread
  induction items generalizing read with
  | nil =>
      rw [List.mapM_nil, except_pure_ok] at hread
      rw [← hread]
      exact .nil
  | cons item rest ih =>
      rcases mapM_cons_ok.mp hread with ⟨paint, others, hpaint, hothers, rfl⟩
      have hrest := ih others hothers
      rcases readPaint_cases hpaint with ⟨hshown, p, rfl, hp⟩ | ⟨hhidden, rfl⟩
      · rw [List.filter_cons_of_pos hshown]
        exact .cons hp hrest
      · rw [List.filter_cons_of_neg (by simp [hhidden])]
        exact hrest

/-! ### Nodes -/

/-- The variety of node that a type stands for. What is no container, no text and no shape
    can only be had as a picture. -/
def varietyOf (kind : String) : String :=
  if kind ∈ containerTypes then "ContainerNode"
  else if kind = "TEXT" then "TextNode"
  else if kind ∈ shapeTypes then "ShapeNode"
  else "ImageNode"

theorem varietyOf_container (kind : String) :
    varietyOf kind = "ContainerNode" ↔ kind ∈ containerTypes := by
  unfold varietyOf
  by_cases hmem : kind ∈ containerTypes
  · simp [hmem]
  · rw [if_neg hmem]
    by_cases htext : kind = "TEXT"
    · simp [htext, containerTypes]
    · rw [if_neg htext]
      by_cases hshape : kind ∈ shapeTypes <;> simp [hshape, hmem]

/-- A node is what its object says, apart from what is below it. -/
structure IsReadFrom (members : Members) (n : Node Float) : Prop where
  variety : n.variety = varietyOf (kindOf members)
  kind : n.kind = if (kindOf members).isEmpty then "IMAGE" else kindOf members
  id : n.id = textOf members "id" ""
  name : n.name = textOf members "name" ""
  visible : n.visible = (memberOr members "visible" (.bool true)).truthy
  fills : List.Forall₂ Depicts ((itemsOf (memberOf members "fills")).filter isShownPaint) n.fills

/-- Kinds are found by their names. -/
theorem find?_name {κ : Type} (kinds : List κ) (name : κ → String) (s : String) :
    (∃ k, kinds.find? (fun k => name k = s) = some k ∧ name k = s ∧ s ∈ kinds.map name) ∨
      (kinds.find? (fun k => name k = s) = none ∧ s ∉ kinds.map name) := by
  cases hfound : kinds.find? fun k => name k = s with
  | some k =>
      have hname : name k = s := by simpa using List.find?_some hfound
      exact Or.inl ⟨k, rfl, hname, List.mem_map.mpr ⟨k, List.mem_of_find?_eq_some hfound, hname⟩⟩
  | none =>
      refine Or.inr ⟨rfl, fun hmem => ?_⟩
      rcases List.mem_map.mp hmem with ⟨k, hk, hname⟩
      exact List.find?_eq_none.mp hfound k hk (by simp [hname])

/-- A type is that of a container if there is a kind of containers of that name. -/
theorem containerKind_cases (kind : String) :
    (∃ k, ContainerKind.ofName? kind = some k ∧ k.name = kind ∧ kind ∈ containerTypes) ∨
      (ContainerKind.ofName? kind = none ∧ kind ∉ containerTypes) :=
  find?_name _ ContainerKind.name kind

/-- A type is that of a shape if there is a kind of shapes of that name. -/
theorem shapeKind_cases (kind : String) :
    (∃ k, ShapeKind.ofName? kind = some k ∧ k.name = kind ∧ kind ∈ shapeTypes) ∨
      (ShapeKind.ofName? kind = none ∧ kind ∉ shapeTypes) :=
  find?_name _ ShapeKind.name kind

/-- What all nodes have is read from their objects. -/
theorem readCommon_parts {members : Members} {common : Common Float}
    (h : readCommon members = .ok common) :
    common.id = textOf members "id" "" ∧ common.name = textOf members "name" "" ∧
      common.visible = (memberOr members "visible" (.bool true)).truthy ∧
      List.Forall₂ Depicts ((itemsOf (memberOf members "fills")).filter isShownPaint)
        common.fills := by
  simp only [readCommon, except_bind_ok, except_pure_ok] at h
  rcases h with ⟨bounds, -, fills, hfills, rfl⟩
  exact ⟨rfl, rfl, rfl, readPaints_shown hfills⟩

/-- A type that is among others than the empty one is not empty. -/
theorem not_isEmpty_of_mem {kind : String} {kinds : List String} (h : kind ∈ kinds)
    (hempty : "" ∉ kinds) : ¬ kind.isEmpty = true := by
  intro hkind
  rw [String.isEmpty_iff.mp hkind] at h
  exact hempty h

/-- A node without children has what all nodes have, and the variety of its type. -/
theorem readLeaf_parts {kind : String} {common : Common Float} {members : Members}
    {n : Node Float} (hkind : kind ∉ containerTypes)
    (h : readLeaf kind common members = .ok n) :
    n.common = common ∧ n.children = [] ∧ n.variety = varietyOf kind ∧
      n.kind = if kind.isEmpty then "IMAGE" else kind := by
  rw [varietyOf, if_neg hkind]
  by_cases htext : kind = "TEXT"
  · rw [readLeaf, if_pos htext, except_bind_ok] at h
    rcases h with ⟨body, -, hn⟩
    rw [← except_pure_ok.mp hn, if_pos htext, htext]
    exact ⟨rfl, rfl, rfl, rfl⟩
  · rw [if_neg htext]
    -- What is neither a text nor a shape is read as a picture, whatever its type is called.
    rcases shapeKind_cases kind with ⟨shape, hshape, hname, hmem⟩ | ⟨hshape, hmem⟩
    · rw [readLeaf_shape htext hshape, except_bind_ok] at h
      rcases h with ⟨stroke, -, h⟩
      rcases except_bind_ok.mp h with ⟨corners, -, hn⟩
      rw [← except_pure_ok.mp hn, if_pos hmem, if_neg (not_isEmpty_of_mem hmem (by decide))]
      exact ⟨rfl, rfl, rfl, hname⟩
    · rw [readLeaf_image htext hshape] at h
      rw [← Except.ok.inj h, if_neg hmem]
      exact ⟨rfl, rfl, rfl, rfl⟩

/-- One object gives one node, and its children give what is below it. -/
theorem readNode_own {members : Members} {n : Node Float} (h : readNode (.obj members) = .ok n) :
    IsReadFrom members n ∧ (childrenOf members).mapM readNode = .ok n.children := by
  rw [readNode_obj] at h
  rcases except_bind_ok.mp h with ⟨common, hcommon, h⟩
  rcases readCommon_parts (number_ok.mp hcommon) with ⟨hid, hname, hvisible, hfills⟩
  rcases containerKind_cases (kindOf members) with ⟨k, hkind, hkindName, hmem⟩ | ⟨hkind, hmem⟩
  · rw [hkind] at h
    rcases except_map_ok.mp h with ⟨children, hchildren, rfl⟩
    rw [childrenOf, if_pos hmem]
    refine ⟨⟨?_, ?_, hid, hname, hvisible, hfills⟩, hchildren⟩
    · rw [varietyOf, if_pos hmem]
      rfl
    · rw [if_neg (not_isEmpty_of_mem hmem (by decide))]
      exact hkindName
  · rw [hkind] at h
    rcases readLeaf_parts hmem h with ⟨hown, hchildren, hvariety, hkindName⟩
    rw [childrenOf, if_neg hmem, hchildren]
    rw [← hown] at hid hname hvisible hfills
    exact ⟨⟨hvariety, hkindName, hid, hname, hvisible, hfills⟩, rfl⟩

/-! ### Trees -/

/-- Values of which each gives the nodes of its outline give the nodes of all outlines. -/
theorem forall₂_outlines {items : List Json} {ns : List (Node Float)}
    (hread : items.mapM readNode = .ok ns)
    (h : ∀ item ∈ items, ∀ n, readNode item = .ok n →
      List.Forall₂ IsReadFrom (outline item) n.preorder) :
    List.Forall₂ IsReadFrom (items.flatMap outline) (Node.preorderList ns) := by
  induction items generalizing ns with
  | nil =>
      rw [List.mapM_nil, except_pure_ok] at hread
      rw [← hread]
      exact .nil
  | cons item rest ih =>
      rcases mapM_cons_ok.mp hread with ⟨n, others, hn, hothers, rfl⟩
      rw [List.forall_mem_cons] at h
      rw [List.flatMap_cons, Node.preorderList]
      exact List.rel_append (h.1 n hn) (ih hothers h.2)

/-- The nodes of a tree are the objects of its outline, one by one and in order. -/
theorem preorder_outline (j : Json) :
    ∀ n, readNode j = .ok n → List.Forall₂ IsReadFrom (outline j) n.preorder := by
  -- By induction on the design: an object gives its own node, its children give the others.
  refine children_induction (P := fun j => ∀ n, readNode j = .ok n →
    List.Forall₂ IsReadFrom (outline j) n.preorder) ⟨fun members ih n h => ?_, fun j hj n h => ?_⟩ j
  · rcases readNode_own h with ⟨hown, hchildren⟩
    rw [outline_obj, Node.preorder_eq]
    refine .cons hown (forall₂_outlines hchildren fun item hitem => ih item ?_)
    unfold childrenOf at hitem
    split at hitem
    · exact hitem
    · exact absurd hitem List.not_mem_nil
  · cases j with
    | obj members => exact absurd rfl (hj members)
    | null | bool _ | int _ | real _ | str _ | arr _ => exact absurd h (by simp [readNode, throw,
        throwThe, MonadExceptOf.throw])

/-- The object becomes a region for a table: a frame or a group whose name says so. -/
def isRegionObject (members : Members) : Bool :=
  (kindOf members = "FRAME" || kindOf members = "GROUP")
    && "[table]".toList.isPrefixOf (textOf members "name" "").toList

theorem isRegionObject_eq {members : Members} {n : Node Float} (h : IsReadFrom members n) :
    n.isTableRegion = isRegionObject members := by
  have hname : hasDirective n.name Directive.table
      = "[table]".toList.isPrefixOf (textOf members "name" "").toList := by
    rw [Bool.eq_iff_iff, hasDirective_iff (by decide), List.isPrefixOf_iff_prefix, h.name]
    exact exists_congr fun rest => eq_comm
  have hcontainer : n.variety = "ContainerNode" ↔ kindOf members ∈ containerTypes := by
    rw [h.variety, varietyOf_container]
  have hkind := h.kind
  cases n with
  | container common k children =>
      rw [if_neg (not_isEmpty_of_mem (hcontainer.mp rfl) (by decide))] at hkind
      rw [isRegionObject, ← hkind, ← hname]
      cases k <;> rfl
  | text _ _ | shape _ _ | image _ _ =>
      -- What is no container is neither a frame nor a group.
      have hmem : kindOf members ∉ containerTypes := mt hcontainer.mpr (by simp [Node.variety])
      simp only [containerTypes, List.mem_cons, not_or] at hmem
      simp [Node.isTableRegion, isRegionObject, hmem.1, hmem.2.1]

/-- A design keeps its tree. The nodes of the tree are the objects that are reached in the
    design, one by one and in order: each has the variety, the identifier and the name that
    its object says, and its fills are the paints of its object that can be shown. The regions
    that are rebuilt as tables are the frames and groups among those objects whose names say
    so. -/
theorem readNode_outline {j : Json} {n : Node Float} (h : readNode j = .ok n) :
    List.Forall₂ IsReadFrom (outline j) n.preorder ∧
      n.countTableRegions = (outline j).countP isRegionObject := by
  have houtline := preorder_outline j n h
  refine ⟨houtline, ?_⟩
  rw [Node.countTableRegions]
  generalize outline j = objects at houtline
  generalize n.preorder = nodes at houtline
  induction houtline with
  | nil => rfl
  | cons hfirst _ ih => rw [List.countP_cons, List.countP_cons, ih, isRegionObject_eq hfirst]

/-- A frame with three paints, of which one can be shown; its text has children that count for
    nothing, and its group has none that are in a list. -/
def nestedDesign : Json :=
  .obj [("type", .str "frame"), ("name", .str "[table] Prices"),
    ("fills", .arr [
      .obj [("type", .str "SOLID"), ("visible", .bool false),
        ("color", .obj [("r", .int 0), ("g", .int 0), ("b", .int 0)])],
      .obj [("type", .str "solid"), ("color", .obj [("r", .int 1), ("g", .int 0)])],
      .obj [("type", .str "image"), ("imageRef", .str ""), ("imageHash", .str "paper")]]),
    ("children", .arr [
      .obj [("type", .str "TEXT"), ("name", .str "[table]"), ("children", .arr [.obj []])],
      .obj [("type", .str "Group"), ("name", .str "[table]"), ("children", .obj [])]])]

/-- The tree of the design has three nodes, of which two are regions, and the picture is the
    only fill of the frame. -/
theorem readNode_outline_nestedDesign :
    ∃ n, readNode nestedDesign = .ok n ∧
      List.Forall₂ IsReadFrom (outline nestedDesign) n.preorder ∧
      n.preorder.map (fun m => (m.variety, m.name, m.fills.length))
        = [("ContainerNode", "[table] Prices", 1), ("TextNode", "[table]", 0),
          ("ContainerNode", "[table]", 0)] ∧
      n.countTableRegions = 2 := by
  have hnodes : (readNode nestedDesign).toOption.map (fun n =>
      n.preorder.map fun m => (m.variety, m.name, m.fills.length))
        = some [("ContainerNode", "[table] Prices", 1), ("TextNode", "[table]", 0),
          ("ContainerNode", "[table]", 0)] := by
    decide +kernel
  cases hread : readNode nestedDesign with
  | error fault => exact absurd hnodes (by simp [hread, Except.toOption])
  | ok n =>
      rw [hread] at hnodes
      rcases readNode_outline hread with ⟨houtline, hcount⟩
      refine ⟨n, rfl, houtline, Option.some.inj hnodes, ?_⟩
      rw [hcount]
      decide +kernel

end Letterpress.Design
