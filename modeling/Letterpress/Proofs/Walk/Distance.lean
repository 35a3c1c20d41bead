import Letterpress.Proofs.Walk.Offset

/-!
# Distances in a Walk

What a table takes beyond its region is made up for below it, in exact arithmetic.

The fragments of two children are as far apart as the children themselves, in whole
pixels, and the drifts of all children from the first up to the second come on top.
Drifts are never negative, so no distance shrinks. If the first child is a region that
is rebuilt as a table, its own drift is among them, and with it the second child clears
the table as it cleared the region: the drift is the least whole number of pixels that
the region has to grow by, and rounding commutes with it.

## Theorems

* `totalDrift_take`: The drifts up to a child.
* `visit_height`: The fragment of a region is as high as its table is planned.
* `walk_distances`: No distance shrinks, and no table covers what was below its region.
-/

namespace Letterpress

section Heights

variable {K ω : Type} [Scalar K] {host : Host ω K} {config : Config K} {p : Placed K}
  {w w' : Walk} {made : Option Fragment} {s s' : Session ω K}

/-- The fragment of a region comes from the synthesizer, and has the height that it
    expects. -/
theorem visitTable_height {y : K} (h : visitTable host config p y w s = (.ok (made, w'), s')) :
    ∀ f ∈ made, f.height = Table.plannedHeight config p.node := by
  simp only [visitTable, Task.bind_ok, Task.number_ok] at h
  rcases h with ⟨table, s₁, htable, d, s₂, -, h⟩
  cases table with
  | none =>
      simp only [Task.pure_ok, Prod.mk.injEq] at h
      simp [← h.1.1]
  | some table =>
      simp only [Task.bind_ok, Task.number_ok, Task.pure_ok, Prod.mk.injEq] at h
      rcases h with ⟨left, s₃, -, top, s₄, -, width, s₅, -, ⟨rfl, -⟩, -⟩
      intro f hf
      rw [← Option.some.inj hf]
      exact synthesize_planned htable

/-- The fragment of a region is as high as its table is planned, with or without a link
    around it. -/
theorem visit_height (htable : p.node.isTableRegion = true)
    (h : visit host config p w s = (.ok w', s'))
    (hmade : w'.fragments = w.fragments ++ made.toList) :
    ∀ f ∈ made, f.height = Table.plannedHeight config p.node := by
  rcases visit_made h hmade with ⟨shift, own, w₁, s₁, -, hown, hlink⟩
  rw [visitUnlinked, if_pos htable] at hown
  have hheight := visitTable_height hown
  intro f hf
  obtain rfl : made = some f := hf
  -- A link does not change the height of a fragment.
  rcases hlink with ⟨rfl, -, -⟩ | ⟨fragment, target, wrapped, w₂, rfl, -, hwrapped, hsame, -⟩
  · exact hheight f rfl
  · have hfragment := hheight fragment rfl
    rw [Option.some.inj hsame]
    rcases (visitLink_keeps hwrapped).1 with rfl | rfl
    · exact hfragment
    · exact hfragment

end Heights

variable {ω : Type} {host : Host ω Rat} {config : Config Rat}

theorem totalDrift_append (steps rest : List (Placed Rat × Option Fragment)) :
    totalDrift config (steps ++ rest) = totalDrift config steps + totalDrift config rest := by
  simp [totalDrift]

theorem totalDrift_nonneg (config : Config Rat) (steps : List (Placed Rat × Option Fragment)) :
    0 ≤ totalDrift config steps := by
  induction steps with
  | nil => simp [totalDrift]
  | cons step rest ih =>
      have hstep := driftOf_nonneg config step.1
      simp only [totalDrift, List.map_cons, List.sum_cons] at ih ⊢
      omega

/-- The drifts before a later child include those before an earlier one, and the earlier
    one's own. -/
theorem totalDrift_take {steps : List (Placed Rat × Option Fragment)} {i j : Nat}
    {step : Placed Rat × Option Fragment} (hi : steps[i]? = some step) (hij : i < j) :
    totalDrift config (steps.take i) + driftOf config step.1
      ≤ totalDrift config (steps.take j) := by
  have hsplit : steps.take j = steps.take i ++ step :: (steps.drop (i + 1)).take (j - (i + 1)) := by
    have hcut : steps.take j = steps.take i ++ (steps.drop i).take (j - i) := by
      rw [← List.take_add, Nat.add_sub_cancel' (Nat.le_of_lt hij)]
    have hlater : j - i = j - (i + 1) + 1 := by omega
    rcases List.getElem?_eq_some_iff.mp hi with ⟨hlt, hget⟩
    rw [hcut, List.drop_eq_getElem_cons hlt, hget, hlater, List.take_succ_cons]
  -- No child between the two moves anything up.
  have hrest := totalDrift_nonneg config ((steps.drop (i + 1)).take (j - (i + 1)))
  rw [hsplit, totalDrift_append]
  simp only [totalDrift, List.map_cons, List.sum_cons] at hrest ⊢
  omega

/-- Whatever starts below a region starts below the table that takes its place, once it
    is moved down by the region's drift. -/
theorem pixelOf_clears {top next height : Rat} (planned : Int) (h : top + height ≤ next) :
    pixelOf top + planned ≤ pixelOf next + ⌈max 0 ((planned : Rat) - height)⌉ := by
  -- Rounding the drift up makes up for all that the table takes beyond its region.
  have hdrift : (planned : Rat) - height ≤ (⌈max 0 ((planned : Rat) - height)⌉ : Int) :=
    le_trans (le_max_right _ _) (Int.le_ceil _)
  -- A whole number of pixels can be added before rounding as well as after it.
  rw [← pixelOf_add_int, ← pixelOf_add_int]
  exact pixelOf_mono (by linarith)

section Runs

variable {root : Node Rat} {frame : Rect Rat} {w : Walk} {s s' : Session ω Rat}
  {steps : List (Placed Rat × Option Fragment)} {i j : Nat} {p q : Placed Rat} {f g : Fragment}

/-- The fragment of a region in a run is as high as its table is planned. -/
theorem IsWalkRun.height (h : IsWalkRun host config root frame s steps w s')
    (hi : steps[i]? = some (p, some f)) (htable : p.node.isTableRegion = true) :
    f.height = Table.plannedHeight config p.node := by
  rcases h.visits with ⟨before, s₀, -, hvisits⟩
  rcases hvisits.visited (List.mem_of_getElem? hi) with ⟨w₁, s₁, w₂, s₂, hvisit, hmade⟩
  exact visit_height htable hvisit hmade f rfl

/-- A child that lies below another comes after it. -/
theorem IsWalkRun.lt_of_below (h : IsWalkRun host config root frame s steps w s')
    {a b : Placed Rat × Option Fragment} (hi : steps[i]? = some a) (hj : steps[j]? = some b)
    (hbelow : a.1.y < b.1.y) : i < j := by
  rcases List.getElem?_eq_some_iff.mp hi with ⟨hilt, rfl⟩
  rcases List.getElem?_eq_some_iff.mp hj with ⟨hjlt, rfl⟩
  -- The run is sorted by tops, so only a strictly higher child has to come first.
  rcases Nat.lt_trichotomy i j with hlt | heq | hgt
  · exact hlt
  · simp only [heq, lt_self_iff_false] at hbelow
  · have horder := List.pairwise_iff_getElem.mp h.sorted j i hjlt hilt hgt
    exact absurd hbelow (not_lt.mpr horder)

/-- The distance of two fragments is that of their children, and the drifts from the
    first child up to the second. -/
theorem IsWalkRun.distance (h : IsWalkRun host config root frame s steps w s')
    (hi : steps[i]? = some (p, some f)) (hj : steps[j]? = some (q, some g)) (hij : i < j) :
    pixelOf q.y - pixelOf p.y + driftOf config p ≤ g.top - f.top := by
  have hdrifts : totalDrift config (steps.take i) + driftOf config p
      ≤ totalDrift config (steps.take j) := totalDrift_take hi hij
  have hfirst := (h.place hi).2
  have hsecond := (h.place hj).2
  omega

/-- A child that starts at or below the lower edge of a region has its fragment at or
    below the lower edge of the table. -/
theorem IsWalkRun.clears (h : IsWalkRun host config root frame s steps w s')
    (hi : steps[i]? = some (p, some f)) (hj : steps[j]? = some (q, some g))
    (htable : p.node.isTableRegion = true) (hheight : 0 < p.box.height)
    (hbelow : p.box.y + p.box.height ≤ q.box.y) : f.top + f.height ≤ g.top := by
  have hcorner := (h.corner (List.mem_of_getElem? hi)).2
  have hother := (h.corner (List.mem_of_getElem? hj)).2
  dsimp only at hcorner hother
  -- Both places are seen from the same corner, which cancels.
  have hplaces : p.y + p.box.height ≤ q.y := by linarith
  have hij : i < j := h.lt_of_below hi hj (by dsimp only; linarith)
  have hdistance := h.distance hi hj hij
  rw [driftOf, if_pos htable, ← h.height hi htable] at hdistance
  have hclears := pixelOf_clears f.height hplaces
  omega

end Runs

/-- Vertical distances never shrink. In the run of a walk, the tops of the fragments of
    two children are at least as far apart as the children in whole pixels. If the first
    is a region of some height that is rebuilt as a table, its fragment has the height
    that the synthesizer expects of the table, and whatever started at or below the lower
    edge of the region now starts at or below that of the table. -/
theorem walk_distances (host : Host ω Rat) (config : Config Rat) {root : Node Rat}
    {frame : Rect Rat} (hbounds : root.bounds = some frame) {w : Walk} {s s' : Session ω Rat}
    (h : walk host config root s = (.ok w, s')) :
    ∃ steps, IsWalkRun host config root frame s steps w s' ∧
      w.fragments = steps.filterMap Prod.snd ∧
      ∀ (i j : Nat) (p q : Placed Rat) (f g : Fragment),
        steps[i]? = some (p, some f) → steps[j]? = some (q, some g) →
        (p.node.isTableRegion = true → 0 < p.box.height →
          p.box.y + p.box.height ≤ q.box.y →
            f.height = Table.plannedHeight config p.node ∧ f.top + f.height ≤ g.top) ∧
        (i < j → pixelOf q.y - pixelOf p.y ≤ g.top - f.top) := by
  rcases walk_isWalkRun hbounds h with ⟨steps, hrun⟩
  refine ⟨steps, hrun, hrun.fragments, fun i j p q f g hi hj => ⟨fun htable hheight hbelow => ?_,
    fun hij => ?_⟩⟩
  · exact ⟨hrun.height hi htable, hrun.clears hi hj htable hheight hbelow⟩
  · have hdistance := hrun.distance hi hj hij
    have hdrift := driftOf_nonneg config p
    omega

/-- The region of the price list as a child of its frame. -/
def priceTable : Placed Rat :=
  ⟨.container ⟨"2", "[table] Prices", true, some ⟨0, 10, 100, 20⟩, []⟩ .group
    [.text ⟨"3", "Price", true, some ⟨0, 10, 50, 20⟩, []⟩ ⟨"12", [], "LEFT", none⟩],
    ⟨0, 10, 100, 20⟩, 0, 10⟩

/-- The line of the price list as a child of its frame. -/
def priceLine : Placed Rat :=
  ⟨.shape ⟨"1", "Line", true, some ⟨0, 201 / 4, 200, 2⟩, []⟩ ⟨.rectangle, none, none⟩,
    ⟨0, 201 / 4, 200, 2⟩, 0, 201 / 4⟩

theorem priceList_children {nodes : List (Node Rat)} (h : priceList.childList = .ok nodes) :
    nodes.filterMap (placed? ⟨0, 0, 200, 100⟩) = [priceLine, priceTable] := by
  rw [← Except.ok.inj h]
  simp [placed?, Node.visible, Node.bounds, Node.common,
    Rect.relativeTo, priceLine, priceTable]

/-- The line of the price list is 20 pixels below the region, and lies 20 pixels below the
    table that takes the region's place. -/
theorem walk_distances_priceList :
    ∃ (w : Walk) (s : Session Unit Rat) (f g : Fragment),
      walk picturelessHost {} priceList ⟨(), [], []⟩ = (.ok w, s) ∧
      IsWalkRun picturelessHost {} priceList ⟨0, 0, 200, 100⟩ ⟨(), [], []⟩
        [(priceTable, some f), (priceLine, some g)] w s ∧
      f.height = 48 ∧ f.top + f.height ≤ g.top ∧ 40 ≤ g.top - f.top := by
  have hheights : (walk picturelessHost {} priceList ⟨(), [], []⟩).1.toOption.map
      (fun w => w.fragments.map (fun f => f.height)) = some [48, 2] := by decide +kernel
  rcases hrun : walk picturelessHost {} priceList ⟨(), [], []⟩ with ⟨result, s⟩
  rw [hrun] at hheights
  cases result with
  | error fault => exact absurd hheights (by simp [Except.toOption])
  | ok w =>
      simp only [Except.toOption, Option.map_some, Option.some.injEq] at hheights
      rcases walk_distances picturelessHost {}
        (show priceList.bounds = some ⟨0, 0, 200, 100⟩ from rfl) hrun with
        ⟨steps, hsteps, hfragments, hdistances⟩
      rcases hsteps.order with ⟨nodes, placed, hnodes, hsorted, hplaced⟩
      rw [priceList_children hnodes] at hsorted
      have hsort : placed = [priceTable, priceLine] :=
        Layout.stablySorted_unique (Layout.before_isStrictWeak.onKey Placed.y) hsorted.ordered
          (by simp [Layout.Ordered, Layout.before, priceTable, priceLine]; norm_num)
          (hsorted.rearranges.symm.trans
            (Layout.rearranges_swap (Layout.before_isStrictWeak.onKey Placed.y) [priceLine]
              [priceTable] (by simp [Layout.before, priceTable, priceLine]; norm_num)))
      have htable : priceTable.isElided {} ⟨0, 0, 200, 100⟩ = false := by decide
      have hline : priceLine.isElided {} ⟨0, 0, 200, 100⟩ = false := by decide +kernel
      have hshown : steps.map Prod.fst = [priceTable, priceLine] := by
        simp [hplaced, hsort, htable, hline]
      -- There are as many fragments as children, so each child has made one.
      obtain ⟨f, g, rfl⟩ : ∃ f g, steps = [(priceTable, some f), (priceLine, some g)] := by
        rcases steps with _ | ⟨⟨p, made⟩, _ | ⟨⟨q, made'⟩, _ | ⟨_, _⟩⟩⟩ <;>
          simp only [List.map_cons, List.map_nil, List.cons.injEq, reduceCtorEq, and_false,
            and_true] at hshown
        rw [hfragments] at hheights
        rcases hshown with ⟨rfl, rfl⟩
        cases made <;> cases made' <;> simp at hheights ⊢
      have hbelow := hdistances 0 1 priceTable priceLine f g rfl rfl
      have hclears := hbelow.1 (by decide) (by norm_num [priceTable])
        (by norm_num [priceTable, priceLine])
      have hapart := hbelow.2 Nat.zero_lt_one
      have hpixels : pixelOf priceLine.y - pixelOf priceTable.y = 40 := by decide +kernel
      rw [hpixels] at hapart
      have hfirst : f.height = 48 := by simpa [hfragments] using congrArg List.head? hheights
      exact ⟨w, s, f, g, rfl, hsteps, hfirst, hclears.2, hapart⟩

end Letterpress
