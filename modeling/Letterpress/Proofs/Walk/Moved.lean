import Letterpress.Proofs.Table.Moved
import Letterpress.Proofs.Walk.Alike
import Letterpress.Proofs.Walk.Offset

/-!
# Walks over Moved Frames

Where a frame lies on the canvas should not matter: its children are placed as seen from
its corner. With exact arithmetic it matters in one place only. The rows of a rebuilt
region are steps of a grid that is fixed to the canvas, and a move may change which texts
share a step. Then the table has other rows, another height, and everything below it
shifts by another distance.

All other moves leave the walk as it is, for every design tool that cannot tell where a
node lies.

## Main definitions

* `KeepsTables`: The move keeps the rows of all regions that are rebuilt.

## Theorems

* `placedChildren_moved`: The children of a moved frame have the places that they had.
* `keepsTables_steps`: Moving by whole steps of the grid keeps tables.
* `walk_moved`: The walk over a moved frame.
* `moved_walk_differs`: A move that changes the rows of a table.
-/

namespace Letterpress

section Places

variable {K : Type} [Scalar K] {dx dy : K}

/-- The child of the moved frame. Its place in the frame is what it was. -/
def Placed.moved (dx dy : K) (p : Placed K) : Placed K :=
  ⟨p.node.moved dx dy, p.box.moved dx dy, p.x, p.y⟩

theorem isText_moved (n : Node K) : (n.moved dx dy).isText = n.isText := by
  cases n <;> rfl

theorem hasMarkup_moved (n : Node K) : hasMarkup (n.moved dx dy) = hasMarkup n := by
  cases n <;> rfl

theorem pictured_moved (n : Node K) : pictured (n.moved dx dy) = (pictured n).moved dx dy := by
  unfold pictured
  rw [Node.name_moved]
  split
  · exact Node.withoutFills_moved n
  · rfl

/-- The child fills the frame with paper if and only if it did before. -/
theorem isPaper_moved (config : Config K) (p : Placed K) (frame : Rect K) :
    (p.moved dx dy).isPaper config (frame.moved dx dy) = p.isPaper config frame := by
  rcases p with ⟨node, box, x, y⟩
  cases node with
  | container c k cs => rfl
  | text c b => rfl
  | image c k => rfl
  | shape c b =>
      rcases b with ⟨kind, stroke, radius⟩
      cases kind <;> rfl

/-- A shape is drawn in its extent, wherever it lies. -/
theorem shape_moved (n : Node K) (x y : K) :
    Render.shape (n.moved dx dy) x y = Render.shape n x y := by
  unfold Render.shape
  rw [Node.bounds_moved]
  cases n.bounds with
  | none => rfl
  | some box =>
      have hstyle : Render.shapeStyle (n.moved dx dy) (box.moved dx dy)
          = Render.shapeStyle n box := by
        unfold Render.shapeStyle
        rw [Node.firstFill_moved, Node.shapeBody_moved]
        rfl
      rw [Option.map_some]
      dsimp only
      rw [hstyle]
      rfl

theorem text_moved {ω : Type} (host : Host ω K) (config : Config K) (n : Node K) (x y : K) :
    Render.text host config (n.moved dx dy) x y = Render.text host config n x y := by
  unfold Render.text
  rw [Node.bounds_moved, Node.textBody_moved]
  cases n.bounds <;> rfl

end Places

variable {ω : Type} {host : Host ω Rat} {config : Config Rat} {R : ω → ω → Prop} {dx dy : Rat}

theorem placed?_moved (frame : Rect Rat) (child : Node Rat) :
    placed? (frame.moved dx dy) (child.moved dx dy)
      = (placed? frame child).map (Placed.moved dx dy) := by
  unfold placed?
  rw [Node.visible_moved, Node.bounds_moved]
  cases child.visible with
  | false => rfl
  | true =>
      cases child.bounds with
      | none => rfl
      | some box =>
          rw [Option.map_some]
          dsimp only
          rw [relativeTo_moved]
          rfl

/-- The children of a moved frame have the places and the order that they had. -/
theorem placedChildren_moved (frame : Rect Rat) (children : List (Node Rat)) :
    placedChildren (frame.moved dx dy) (Node.movedAll dx dy children)
      = (placedChildren frame children).map (Placed.moved dx dy) := by
  have hplaced : (Node.movedAll dx dy children).filterMap (placed? (frame.moved dx dy))
      = (children.filterMap (placed? frame)).map (Placed.moved dx dy) := by
    rw [Node.movedAll_eq, List.filterMap_map, List.map_filterMap]
    exact List.filterMap_congr fun child _ => placed?_moved frame child
  -- The tops to sort by are differences, which the move leaves alone.
  rw [placedChildren, hplaced, Layout.sortOn_images]
  rfl

/-- The move keeps the rows of all regions of the frame that are rebuilt. -/
def KeepsTables (config : Config Rat) (dy : Rat) (root : Node Rat) : Prop :=
  ∀ child ∈ root.children, child.visible = true → child.bounds.isSome = true →
    child.isTableRegion = true →
      Table.KeepsRows config.rowBucket dy (Table.textLeaves child)

/-- Moving by whole steps of the grid keeps tables. -/
theorem keepsTables_steps (config : Config Rat) (steps : Int) (root : Node Rat) :
    KeepsTables config (steps * config.rowBucket) root :=
  fun child _ _ _ _ => Table.keepsRows_steps config.rowBucket steps (Table.textLeaves child)

/-- A child and its counterpart in the moved frame are twins. -/
theorem twins_moved {p : Placed Rat}
    (hrows : p.node.isTableRegion = true →
      Table.KeepsRows config.rowBucket dy (Table.textLeaves p.node)) :
    p.Twins host config (fun n n' => n' = n.moved dx dy) (p.moved dx dy) where
  x := rfl
  y := rfl
  width := rfl
  height := rfl
  id := Node.id_moved p.node
  name := Node.name_moved p.node
  isText := isText_moved p.node
  isTableRegion := Node.isTableRegion_moved p.node
  hasMarkup := hasMarkup_moved p.node
  table hregion := Table.synthesize_moved (hrows hregion)
  text := text_moved host config p.node
  shape := shape_moved p.node
  node := rfl
  pictured := pictured_moved p.node

/-- The walks over a frame and over the moved frame are alike. -/
theorem walk_alike_moved (hhost : host.BlindTo R fun n n' => n' = n.moved dx dy)
    {root : Node Rat} (htables : KeepsTables config dy root) :
    Task.Alike R (walk host config root) (walk host config (root.moved dx dy)) := by
  refine walk_alike hhost (Node.name_moved root) (Node.firstFill_moved root)
    (Node.bounds_moved root) (Node.childList_moved root) fun frame children hlist => ?_
  -- Both walks take the same steps, from one pair of twins to the next.
  rw [placedChildren_moved]
  refine List.forall₂_map_right_iff.mpr (List.forall₂_same.mpr fun p hp =>
    ⟨twins_moved fun hregion => ?_, isPaper_moved config p frame⟩)
  rcases mem_placedChildren hp with ⟨hmem, hvisible, hbox⟩
  exact htables p.node (Node.childList_ok hlist ▸ hmem) hvisible (by rw [hbox]; rfl) hregion

/-- A frame is walked with the same result wherever it lies, by a tool that cannot tell
    where nodes lie, if the move keeps the rows of its tables. -/
theorem walk_moved (hhost : host.BlindTo R fun n n' => n' = n.moved dx dy)
    {root : Node Rat} (htables : KeepsTables config dy root) {s s' : Session ω Rat}
    (hs : s.Alike R s') :
    (walk host config (root.moved dx dy) s').1 = (walk host config root s).1 ∧
      (walk host config (root.moved dx dy) s').2.journal
        = (walk host config root s).2.journal :=
  have halike := walk_alike_moved hhost htables s s' hs
  ⟨halike.1, halike.2.journal⟩

/-- A region with two texts. The second starts a little lower than the first. -/
def twoPrices : Node Rat :=
  .container ⟨"0", "Prices", true, some ⟨0, 0, 200, 100⟩, []⟩ .frame
    [.container ⟨"1", "[table] Prices", true, some ⟨0, 0, 100, 20⟩, []⟩ .group
      [.text ⟨"2", "Name", true, some ⟨0, 0, 50, 20⟩, []⟩ ⟨"Tea", [], "LEFT", none⟩,
        .text ⟨"3", "Price", true, some ⟨50, 2, 50, 20⟩, []⟩ ⟨"12", [], "LEFT", none⟩]]

/-- A host without pictures cannot tell where nodes lie. -/
theorem picturelessHost_blind (twins : Node Rat → Node Rat → Prop) :
    picturelessHost.BlindTo Eq twins where
  loadFont _ _ _ _ := ⟨rfl, rfl, rfl⟩
  rasterize _ _ _ _ _ _ _ := ⟨rfl, rfl, rfl⟩
  imageBytes _ _ _ _ := ⟨rfl, rfl, rfl⟩

/-- After a small move the two texts still share a row, and the table is the same. -/
theorem walk_moved_twoPrices :
    KeepsTables {} (1 / 4) twoPrices ∧
      ∃ w : Walk, (walk picturelessHost {} twoPrices ⟨(), [], []⟩).1 = .ok w ∧
        (walk picturelessHost {} (twoPrices.moved 7 (1 / 4)) ⟨(), [], []⟩).1 = .ok w ∧
        w.offset = 28 := by
  have htables : KeepsTables {} (1 / 4) twoPrices := by
    intro child hchild _ _ _
    obtain rfl := List.mem_singleton.mp hchild
    unfold Table.KeepsRows
    decide +kernel
  have hoffset : (walk picturelessHost {} twoPrices ⟨(), [], []⟩).1.toOption.map Walk.offset
      = some 28 := by decide +kernel
  have hsame : Session.Alike Eq (⟨(), [], []⟩ : Session Unit Rat) ⟨(), [], []⟩ := ⟨rfl, rfl⟩
  have hmoved : (walk picturelessHost {} (twoPrices.moved 7 (1 / 4)) ⟨(), [], []⟩).1
      = (walk picturelessHost {} twoPrices ⟨(), [], []⟩).1 :=
    (walk_moved (picturelessHost_blind _) htables hsame).1
  refine ⟨htables, ?_⟩
  cases hrun : (walk picturelessHost {} twoPrices ⟨(), [], []⟩).1 with
  | error fault => exact absurd hoffset (by simp [hrun, Except.toOption])
  | ok w =>
      rw [hrun] at hoffset hmoved
      exact ⟨w, rfl, hmoved, by simpa [Except.toOption] using hoffset⟩

/-- A move by one pixel puts the two texts into different steps of the grid. The table then
    has two rows, and what follows it shifts by another row. -/
theorem moved_walk_differs :
    (picturelessHost.BlindTo Eq fun n n' => n' = n.moved 0 1) ∧
      (walk picturelessHost {} twoPrices ⟨(), [], []⟩).1.toOption.map Walk.offset = some 28 ∧
      (walk picturelessHost {} (twoPrices.moved 0 1) ⟨(), [], []⟩).1.toOption.map Walk.offset
        = some 62 :=
  ⟨picturelessHost_blind _, by decide +kernel, by decide +kernel⟩

end Letterpress
