import Letterpress.Proofs.Design.Pruned
import Letterpress.Proofs.Layout.Images
import Letterpress.Proofs.Walk.Alike
import Letterpress.Proofs.Walk.Offset
import Letterpress.Table.Synthesis

/-!
# Walks over Pruned Frames

A region is rebuilt from its texts and donors. Both are collected without regard to what
is invisible, in recursions of their own: texts where the text or a container around it is
met, donors where the children of a container are gone through. Pruning takes out nothing
that either of them would have found.

A donor that is a container is pruned itself, which its color and its box do not show.

What is invisible does not get into a mail. Visibility is asked about in four places: when
the children of the frame are placed, when the texts of a region are collected, when its
donors are, and when a node is painted. A walk over a frame from which everything
invisible has been taken out has the same result, if its design tool paints a node without
regard to what is invisible below it. The tool that works from files alone is one of these.

The children of both frames are twins. The order in which they are visited is that of
their tops, whatever these are: it is not asked here that they can be compared.

## Main definitions

* `Donor.pruned`: A donor in the pruned region.

## Theorems

* `textLeaves_pruned`, `donors_pruned`: The texts and the donors of a pruned region.
* `rowsMarkup_pruned`: The rows with the donors of a pruned region.
* `synthesize_pruned`: A pruned region is rebuilt as the same table.
* `placedChildren_pruned`: The children of a pruned frame keep their places and order.
* `staticHost_blind`: The tool that works from files does not see what is invisible.
* `walk_pruned`: The walk over a pruned frame.
-/

namespace Letterpress.Table

section Sources

variable {K : Type}

/-- The donor in the pruned region. -/
def Donor.pruned (donor : Donor K) : Donor K :=
  ⟨donor.node.pruned, donor.box⟩

/-- There are no texts in an invisible node. -/
theorem textLeaves_hidden {n : Node K} (h : n.visible = false) : textLeaves n = [] := by
  cases n with
  | text c b =>
      have hhidden : c.visible = false := h
      rw [textLeaves, leafOf]
      cases c.bounds <;> simp [hhidden]
  | container c k cs =>
      have hhidden : c.visible = false := h
      rw [textLeaves, hhidden]
      rfl
  | shape c b => rfl
  | image c k => rfl

mutual

/-- The texts of a pruned tree are those of the tree. -/
theorem textLeaves_pruned : (n : Node K) → textLeaves n.pruned = textLeaves n
  | .container c k cs => by
    rw [Node.pruned, textLeaves, textLeaves, textLeavesOf_pruned cs]
  | .text _ _ => rfl
  | .shape _ _ => rfl
  | .image _ _ => rfl

theorem textLeavesOf_pruned : (ns : List (Node K)) →
    textLeavesOf (Node.prunedAll ns) = textLeavesOf ns
  | [] => rfl
  | n :: ns => by
    cases hvisible : n.visible with
    | true =>
        rw [Node.prunedAll_visible hvisible, textLeavesOf, textLeavesOf, textLeaves_pruned n,
          textLeavesOf_pruned ns]
    | false =>
        rw [Node.prunedAll_hidden hvisible, textLeavesOf_pruned ns, textLeavesOf,
          textLeaves_hidden hvisible, List.nil_append]

end

/-- There are no donors in an invisible node. -/
theorem donorsFrom_hidden {n : Node K} (h : n.visible = false) : donorsFrom n = [] := by
  cases n with
  | container c k cs =>
      have hhidden : c.visible = false := h
      rw [donorsFrom, hhidden]
      rfl
  | shape c b =>
      have hhidden : c.visible = false := h
      rw [donorsFrom, hhidden]
      rfl
  | text c b => rfl
  | image c k => rfl

theorem donorOf_pruned (n : Node K) : donorOf n.pruned = (donorOf n).map Donor.pruned := by
  unfold donorOf
  rw [Node.bounds_pruned, Node.fills_pruned]
  cases n.bounds with
  | none => rfl
  | some box => cases n.fills <;> rfl

mutual

theorem donorsFrom_pruned : (n : Node K) →
    donorsFrom n.pruned = (donorsFrom n).map Donor.pruned
  | .container c k cs => by
    have hown : donorOf (.container c k (Node.prunedAll cs))
        = (donorOf (.container c k cs)).map Donor.pruned :=
      donorOf_pruned (.container c k cs)
    rw [Node.pruned, donorsFrom, donorsFrom, hown, donors_pruned cs]
    split
    · rw [List.map_append]
    · rfl
  | .shape c b => by
    have hown : donorOf (.shape c b) = (donorOf (.shape c b)).map Donor.pruned :=
      donorOf_pruned (.shape c b)
    rw [Node.pruned, donorsFrom]
    split
    · exact hown
    · rfl
  | .text _ _ => rfl
  | .image _ _ => rfl

/-- The donors in pruned trees are those in the trees, pruned. -/
theorem donors_pruned : (ns : List (Node K)) →
    donors (Node.prunedAll ns) = (donors ns).map Donor.pruned
  | [] => rfl
  | n :: ns => by
    cases hvisible : n.visible with
    | true =>
        rw [Node.prunedAll_visible hvisible, donors, donors, donorsFrom_pruned n, donors_pruned ns,
          List.map_append]
    | false =>
        rw [Node.prunedAll_hidden hvisible, donors_pruned ns, donors, donorsFrom_hidden hvisible,
          List.nil_append]

end

end Sources

variable {K ω : Type} [Scalar K] {host : Host ω K} {config : Config K}

/-- A pruned donor lends the color that it lends. -/
theorem cellBackground_pruned (header : Bool) (leaf : TextLeaf K) (donors : List (Donor K)) :
    cellBackground config header leaf (donors.map Donor.pruned)
      = cellBackground config header leaf donors := by
  have hcolor : ∀ donor : Donor K, colorFrom? config leaf.box.center donor.pruned
      = colorFrom? config leaf.box.center donor := by
    intro donor
    rw [colorFrom?, colorFrom?, Donor.pruned, Node.fillColor?_pruned]
  rw [cellBackground, cellBackground, donatedColor, donatedColor, List.findSome?_map]
  simp only [Function.comp_def, hcolor]

theorem cellsFrom_pruned (donors : List (Donor K)) (row rows columns column : Nat)
    (cells : List (TextLeaf K × String)) :
    cellsFrom config row rows columns (donors.map Donor.pruned) column cells
      = cellsFrom config row rows columns donors column cells := by
  induction cells generalizing column with
  | nil => rfl
  | cons cell rest ih =>
      rw [cellsFrom, cellsFrom, cellBackground_pruned, ih (column + 1)]

theorem rowsMarkup_pruned (donors : List (Donor K)) (count row : Nat)
    (rows : List (List (TextLeaf K))) :
    rowsMarkup host config (donors.map Donor.pruned) count row rows
      = rowsMarkup host config donors count row rows := by
  induction rows generalizing row with
  | nil => rfl
  | cons leaves rest ih =>
      have hcells : rowCells config row count (donors.map Donor.pruned) leaves
          = rowCells config row count donors leaves :=
        cellsFrom_pruned donors row count leaves.length 0 _
      rw [rowsMarkup, rowsMarkup, hcells, ih (row + 1)]

/-- A pruned region is rebuilt as the same table. -/
theorem synthesize_pruned (node : Node K) (x y : K) :
    synthesize host config node.pruned x y = synthesize host config node x y := by
  cases node with
  | text c b => rfl
  | shape c b => rfl
  | image c k => rfl
  | container c k cs =>
      have hbounds : (Node.container c k (Node.prunedAll cs)).bounds
          = (Node.container c k cs).bounds := rfl
      have hleaves : textLeaves (.container c k (Node.prunedAll cs))
          = textLeaves (.container c k cs) :=
        textLeaves_pruned (.container c k cs)
      rw [Node.pruned]
      unfold synthesize
      rw [hbounds, hleaves]
      cases (Node.container c k cs).bounds with
      | none => rfl
      | some box => simp only [donors_pruned, rowsMarkup_pruned]

end Letterpress.Table

namespace Letterpress

variable {K : Type} [Scalar K] {ω : Type} {host : Host ω K} {config : Config K}
  {R : ω → ω → Prop}

/-- The child of the pruned frame, at its place. -/
def Placed.pruned (p : Placed K) : Placed K :=
  { p with node := p.node.pruned }

omit [Scalar K] in
theorem isText_pruned (n : Node K) : n.pruned.isText = n.isText := by
  cases n <;> rfl

omit [Scalar K] in
theorem hasMarkup_pruned (n : Node K) : hasMarkup n.pruned = hasMarkup n := by
  cases n <;> rfl

omit [Scalar K] in
theorem pictured_pruned (n : Node K) : pictured n.pruned = (pictured n).pruned := by
  unfold pictured
  rw [Node.name_pruned]
  split
  · exact Node.withoutFills_pruned n
  · rfl

/-- What is no text cannot be shown as one, pruned or not. -/
theorem text_pruned (host : Host ω K) (config : Config K) (n : Node K) (x y : K) :
    Render.text host config n.pruned x y = Render.text host config n x y := by
  unfold Render.text
  rw [Node.bounds_pruned, Node.textBody_pruned]

theorem shape_pruned (n : Node K) (x y : K) :
    Render.shape n.pruned x y = Render.shape n x y := by
  have hstyle : ∀ box, Render.shapeStyle n.pruned box = Render.shapeStyle n box := by
    intro box
    rw [Render.shapeStyle, Render.shapeStyle, Node.firstFill_pruned, Node.shapeBody_pruned]
  unfold Render.shape
  rw [Node.bounds_pruned]
  simp only [hstyle]

theorem isPaper_pruned (config : Config K) (p : Placed K) (frame : Rect K) :
    p.pruned.isPaper config frame = p.isPaper config frame := by
  rcases p with ⟨node, box, x, y⟩
  cases node <;> rfl

theorem placed?_pruned (frame : Rect K) (child : Node K) :
    placed? frame child.pruned = (placed? frame child).map Placed.pruned := by
  unfold placed?
  rw [Node.visible_pruned, Node.bounds_pruned]
  cases child.visible with
  | false => rfl
  | true => cases child.bounds <;> rfl

/-- An invisible child has no place. -/
theorem placed?_hidden (frame : Rect K) {child : Node K} (h : child.visible = false) :
    placed? frame child = none := by
  unfold placed?
  rw [h]

/-- The children of a pruned frame have the places and the order that they had. -/
theorem placedChildren_pruned (frame : Rect K) (children : List (Node K)) :
    placedChildren frame (Node.prunedAll children)
      = (placedChildren frame children).map Placed.pruned := by
  have hplaced : (Node.prunedAll children).filterMap (placed? frame)
      = (children.filterMap (placed? frame)).map Placed.pruned := by
    induction children with
    | nil => rfl
    | cons child rest ih =>
        cases hvisible : child.visible with
        | true =>
            rw [Node.prunedAll_visible hvisible, List.filterMap_cons, List.filterMap_cons,
              placed?_pruned, ih]
            cases placed? frame child <;> rfl
        | false =>
            rw [Node.prunedAll_hidden hvisible, ih, List.filterMap_cons,
              placed?_hidden frame hvisible]
  rw [placedChildren, hplaced, Layout.sortOn_images]
  rfl

/-- A child and its counterpart in the pruned frame are twins. -/
theorem twins_pruned (p : Placed K) :
    p.Twins host config (fun n n' => n' = n.pruned) p.pruned where
  x := rfl
  y := rfl
  width := rfl
  height := rfl
  id := Node.id_pruned p.node
  name := Node.name_pruned p.node
  isText := isText_pruned p.node
  isTableRegion := Node.isTableRegion_pruned p.node
  hasMarkup := hasMarkup_pruned p.node
  table _ := Table.synthesize_pruned p.node
  text := text_pruned host config p.node
  shape := shape_pruned p.node
  node := rfl
  pictured := pictured_pruned p.node

/-- The walks over a frame and over the pruned frame are alike. -/
theorem walk_alike_pruned (hhost : host.BlindTo R fun n n' => n' = n.pruned)
    (config : Config K) (root : Node K) :
    Task.Alike R (walk host config root) (walk host config root.pruned) := by
  have hbounds : root.pruned.bounds = root.bounds.map id := by
    rw [Node.bounds_pruned, Option.map_id_fun, id]
  refine walk_alike hhost (Node.name_pruned root) (Node.firstFill_pruned root) hbounds
    (Node.childList_pruned root) fun frame children _ => ?_
  rw [id, placedChildren_pruned]
  exact List.forall₂_map_right_iff.mpr (List.forall₂_same.mpr fun p _ =>
    ⟨twins_pruned p, isPaper_pruned config p frame⟩)

/-- The tool that works from files does not see what is invisible below a node. -/
theorem staticHost_blind (tool : StaticHost) :
    (tool.host : Host FileTree K).BlindTo Eq fun n n' => n' = n.pruned where
  loadFont _ _ _ ht := by
    rw [ht]
    exact ⟨rfl, rfl, rfl⟩
  rasterize n _ scale t _ hn ht := by
    rw [hn, ← ht]
    exact ⟨congrArg (Content.picture <$> ·) (tool.rasterize_pruned n scale t), rfl, rfl⟩
  imageBytes _ _ _ ht := by
    rw [ht]
    exact ⟨rfl, rfl, rfl⟩

/-- Invisible layers do not matter. A frame is walked with the same result whether or not
    everything invisible is taken out of it, by every tool whose picture of a node does not
    depend on what is invisible below it. The tool that works from files is of this kind: it
    draws a pruned tree by the same steps. -/
theorem walk_pruned (root : Node K) :
    (∀ (ω : Type) (host : Host ω K) (config : Config K) (R : ω → ω → Prop),
      (host.BlindTo R fun n n' => n' = n.pruned) → ∀ s s' : Session ω K, s.Alike R s' →
        (walk host config root.pruned s').1 = (walk host config root s).1 ∧
          (walk host config root.pruned s').2.journal = (walk host config root s).2.journal) ∧
      (∀ (gallery : Preview.Gallery) (origin : Rect K) (scale : K) (node : Node K),
        Preview.paint gallery origin scale node.pruned
          = Preview.paint gallery origin scale node) ∧
      ∀ tool : StaticHost, (tool.host : Host FileTree K).BlindTo Eq fun n n' => n' = n.pruned := by
  refine ⟨fun ω host config R hhost s s' hs => ?_, fun gallery origin scale node => ?_,
    fun tool => staticHost_blind tool⟩
  · have halike := walk_alike_pruned hhost config root s s' hs
    exact ⟨halike.1, halike.2.journal⟩
  · exact Preview.paint_pruned node

/-- A frame with a hidden sheet over all of it, a region with a hidden text, and a small
    group with a hidden shape in it. -/
def layeredCard : Node Rat :=
  .container ⟨"0", "Card", true, some ⟨0, 0, 100, 80⟩, []⟩ .frame
    [.shape ⟨"1", "Sheet", false, some ⟨0, 0, 100, 80⟩, []⟩ ⟨.ellipse, none, none⟩,
      .container ⟨"2", "[table] Prices", true, some ⟨0, 0, 100, 20⟩, []⟩ .group
        [.text ⟨"3", "Name", true, some ⟨0, 0, 50, 20⟩, []⟩ ⟨"Tea", [], "LEFT", none⟩,
          .text ⟨"4", "Cost", false, some ⟨50, 10, 50, 20⟩, []⟩ ⟨"12", [], "LEFT", none⟩],
      .container ⟨"5", "Seal", true, some ⟨0, 60, 1, 1⟩, []⟩ .group
        [.shape ⟨"6", "Ink", false, some ⟨0, 60, 1, 1⟩, [.solid ⟨1, 0, 0⟩ 1]⟩
          ⟨.rectangle, none, none⟩]]

/-- The hidden layers are taken out of the card, and its walk is the same: a table with a
    single row, and a picture of the group. -/
theorem walk_pruned_layeredCard :
    layeredCard.preorder.length = 7 ∧ layeredCard.pruned.preorder.length = 4 ∧
      ∃ w : Walk,
        (walk (StaticHost.host ⟨[], none⟩) {} layeredCard ⟨{}, [], []⟩).1 = .ok w ∧
        (walk (StaticHost.host ⟨[], none⟩) {} layeredCard.pruned ⟨{}, [], []⟩).1 = .ok w ∧
        w.offset = 28 ∧ w.assets.map Asset.name = ["image-1.png"] := by
  have hwalked : (walk (StaticHost.host ⟨[], none⟩) {} layeredCard ⟨{}, [], []⟩).1.toOption.map
      (fun w => (w.offset, w.assets.map Asset.name)) = some (28, ["image-1.png"]) := by
    decide +kernel
  have hpruned : (walk (StaticHost.host ⟨[], none⟩) {} layeredCard.pruned ⟨{}, [], []⟩).1
      = (walk (StaticHost.host ⟨[], none⟩) {} layeredCard ⟨{}, [], []⟩).1 :=
    ((walk_pruned layeredCard).1 FileTree (StaticHost.host ⟨[], none⟩) {} Eq
      ((walk_pruned layeredCard).2.2 ⟨[], none⟩) ⟨{}, [], []⟩ ⟨{}, [], []⟩ ⟨rfl, rfl⟩).1
  refine ⟨by decide +kernel, by decide +kernel, ?_⟩
  cases hrun : (walk (StaticHost.host ⟨[], none⟩) {} layeredCard ⟨{}, [], []⟩).1 with
  | error fault => exact absurd hwalked (by simp [hrun, Except.toOption])
  | ok w =>
      rw [hrun] at hwalked hpruned
      simp only [Except.toOption, Option.map_some, Option.some.injEq, Prod.mk.injEq] at hwalked
      exact ⟨w, rfl, hpruned, hwalked⟩

end Letterpress
