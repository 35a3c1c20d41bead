import Letterpress.Proofs.Layout.Buckets
import Letterpress.Proofs.Walk.Visit

/-!
# Offsets of a Walk

Where the fragments of a walk lie, in exact arithmetic.

A walk carries an offset from child to child, and places each child at its own
height plus the offset. `Visits` is the record of such a run: the children that
were visited, in order, each with the fragment that it made or none. From it the
offset has a closed form. Before a child it is the sum of the drifts of the
children before, whichever of them were pictures that could not be taken, links
that stayed as they were or tables without text. Drifts are whole numbers, so it
makes no difference that places are rounded after the offset is added, and none is
negative, so the fragments come out from top to bottom.

## Main definitions

* `driftOf`: How far a child moves what follows, in exact arithmetic.
* `Placed.isElided`: A child is left out as a blank sheet.
* `Visits`: A run over children, with what each of them made.
* `IsWalkRun`: The run of a walk over a frame.

## Theorems

* `visitAll_visits`, `walk_visits`: A walk visits what is not left out, in order.
* `walk_isWalkRun`: Every walk has its run.
* `Visits.visited`, `Visits.reaches`: The visit of a child in a run.
* `Visits.fragments`: The fragments are those that were made, in order.
* `Visits.offset`: The offset is the sum of the drifts.
* `Visits.place`: Where the fragment of a child lies.
* `Visits.tops`: The tops of the fragments never decrease.
* `walk_offsets`: All of this for the walk over a frame.
-/

namespace Letterpress

section Runs

variable {K ω : Type} [Scalar K] {host : Host ω K} {config : Config K}

/-- The child is left out, since it is a blank sheet behind the frame. -/
def Placed.isElided (config : Config K) (frame : Rect K) (p : Placed K) : Bool :=
  match p.isPaper config frame with
  | .ok elided => elided
  | .error _ => false

/-- A run over children, each with the fragment that its visit made, if it made one. -/
inductive Visits (host : Host ω K) (config : Config K) :
    List (Placed K × Option Fragment) → Walk → Session ω K → Walk → Session ω K → Prop
  | nil (w : Walk) (s : Session ω K) : Visits host config [] w s w s
  | cons {p : Placed K} {made : Option Fragment} {rest : List (Placed K × Option Fragment)}
      {w w₁ w' : Walk} {s s₁ s' : Session ω K}
      (hvisit : visit host config p w s = (.ok w₁, s₁))
      (hmade : w₁.fragments = w.fragments ++ made.toList)
      (hrest : Visits host config rest w₁ s₁ w' s') :
      Visits host config ((p, made) :: rest) w s w' s'

/-- A walk visits what is not left out, in order. -/
theorem visitAll_visits {frame : Rect K} (children : List (Placed K)) {w w' : Walk}
    {s s' : Session ω K} (h : visitAll host config frame children w s = (.ok w', s')) :
    ∃ steps, Visits host config steps w s w' s' ∧
      steps.map Prod.fst = children.filter fun p => !p.isElided config frame := by
  induction children generalizing w s with
  | nil =>
      rw [visitAll, Task.pure_ok] at h
      rw [h.1, h.2]
      exact ⟨[], Visits.nil w' s', rfl⟩
  | cons p rest ih =>
      simp only [visitAll, Task.bind_ok, Task.number_ok] at h
      rcases h with ⟨paper, s₀, ⟨hpaper, rfl⟩, h⟩
      have helided : p.isElided config frame = paper := by
        simp only [Placed.isElided, hpaper]
      -- What is left out makes no step of the run.
      by_cases hp : paper = true
      · rw [if_pos hp] at h
        rcases ih h with ⟨steps, hvisits, hsteps⟩
        refine ⟨steps, hvisits, ?_⟩
        rw [List.filter_cons_of_neg (by simp [helided, hp])]
        exact hsteps
      · simp only [hp, Bool.false_eq_true, if_false, Task.bind_ok] at h
        rcases h with ⟨w₁, s₁, hvisit, h⟩
        rcases ih h with ⟨steps, hvisits, hsteps⟩
        rcases visit_step hvisit with ⟨shift, d, made, -, -, -, hmade, -, -⟩
        refine ⟨(p, made) :: steps, Visits.cons hvisit hmade hvisits, ?_⟩
        rw [List.filter_cons_of_pos (by simp [helided, hp]), List.map_cons, hsteps]

/-- The fragments are those that were made, in order. -/
theorem Visits.fragments {steps : List (Placed K × Option Fragment)} {w w' : Walk}
    {s s' : Session ω K} (h : Visits host config steps w s w' s') :
    w'.fragments = w.fragments ++ steps.filterMap Prod.snd := by
  induction h with
  | nil w s => simp
  | @cons p made rest w w₁ w' s s₁ s' hvisit hmade hrest ih =>
      rw [ih, hmade, List.append_assoc]
      cases made <;> simp

/-- Each child of a run was visited. -/
theorem Visits.visited {steps : List (Placed K × Option Fragment)} {w w' : Walk}
    {s s' : Session ω K} (h : Visits host config steps w s w' s')
    {step : Placed K × Option Fragment}
    (hstep : step ∈ steps) :
    ∃ w₁ s₁ w₂ s₂, visit host config step.1 w₁ s₁ = (.ok w₂, s₂) ∧
      w₂.fragments = w₁.fragments ++ step.2.toList := by
  induction h with
  | nil w s => exact absurd hstep List.not_mem_nil
  | @cons p made rest w w₁ w' s s₁ s' hvisit hmade hrest ih =>
      rcases List.mem_cons.mp hstep with rfl | hlater
      · exact ⟨w, s, w₁, s₁, hvisit, hmade⟩
      · exact ih hlater

/-- A run comes to each of its children: it visits those before, then the child, then
    those behind. -/
theorem Visits.reaches {steps : List (Placed K × Option Fragment)} {w w' : Walk}
    {s s' : Session ω K} (h : Visits host config steps w s w' s') {i : Nat} {p : Placed K}
    {made : Option Fragment} (hi : steps[i]? = some (p, made)) :
    ∃ w₁ s₁ w₂ s₂, Visits host config (steps.take i) w s w₁ s₁ ∧
      visit host config p w₁ s₁ = (.ok w₂, s₂) ∧
      w₂.fragments = w₁.fragments ++ made.toList := by
  induction h generalizing i with
  | nil w s => simp at hi
  | @cons q first rest w w₁ w' s s₁ s' hvisit hmade hrest ih =>
      cases i with
      | zero =>
          simp only [List.getElem?_cons_zero, Option.some.injEq, Prod.mk.injEq] at hi
          rcases hi with ⟨rfl, rfl⟩
          exact ⟨w, s, w₁, s₁, .nil w s, hvisit, hmade⟩
      | succ i =>
          rw [List.getElem?_cons_succ] at hi
          rcases ih hi with ⟨wᵢ, sᵢ, w₂, s₂, hbefore, hchild, hadded⟩
          exact ⟨wᵢ, sᵢ, w₂, s₂, .cons hvisit hmade hbefore, hchild, hadded⟩

/-- A walk has the background of its frame, and then visits its children. -/
theorem walk_visits {root : Node K} {frame : Rect K} (hbounds : root.bounds = some frame)
    {w : Walk} {s s' : Session ω K} (h : walk host config root s = (.ok w, s')) :
    ∃ nodes steps before s₀, root.childList = .ok nodes ∧
      steps.map Prod.fst
        = (placedChildren frame nodes).filter (fun p => !p.isElided config frame) ∧
      backgroundOf host config root {} s = (.ok before, s₀) ∧
      Visits host config steps before s₀ w s' := by
  simp only [walk, hbounds, Task.bind_ok, Task.lift_ok] at h
  rcases h with ⟨before, s₀, hbefore, nodes, _, ⟨hnodes, rfl⟩, h⟩
  rcases visitAll_visits _ h with ⟨steps, hvisits, hsteps⟩
  exact ⟨nodes, steps, before, s₀, hnodes, hsteps, hbefore, hvisits⟩

/-- The run of a walk over a frame: it visits the visible children with bounds, in the
    stable order of their tops, but for the blank sheets, and starts with nothing but a
    background. -/
structure IsWalkRun (host : Host ω K) (config : Config K) (root : Node K) (frame : Rect K)
    (s : Session ω K) (steps : List (Placed K × Option Fragment)) (w : Walk)
    (s' : Session ω K) : Prop where
  order : ∃ nodes placed, root.childList = .ok nodes ∧
    Layout.StablySorted (fun a b => Layout.before a.y b.y) (nodes.filterMap (placed? frame))
      placed ∧
    steps.map Prod.fst = placed.filter fun p => !p.isElided config frame
  visits : ∃ before s₀, backgroundOf host config root {} s = (.ok before, s₀) ∧
    Visits host config steps before s₀ w s'

/-- The fragments of a walk are those that its run made, in order. -/
theorem IsWalkRun.fragments {root : Node K} {frame : Rect K} {w : Walk} {s s' : Session ω K}
    {steps : List (Placed K × Option Fragment)}
    (h : IsWalkRun host config root frame s steps w s') :
    w.fragments = steps.filterMap Prod.snd := by
  rcases h.visits with ⟨before, s₀, hbefore, hvisits⟩
  rw [hvisits.fragments, (backgroundOf_step hbefore).1]
  rfl

/-- A child that is visited has its place as seen from the corner of the frame. -/
theorem IsWalkRun.corner {root : Node K} {frame : Rect K} {w : Walk} {s s' : Session ω K}
    {steps : List (Placed K × Option Fragment)}
    (h : IsWalkRun host config root frame s steps w s') {step : Placed K × Option Fragment}
    (hstep : step ∈ steps) :
    step.1.x = step.1.box.x - frame.x ∧ step.1.y = step.1.box.y - frame.y := by
  rcases h.order with ⟨nodes, placed, -, hsorted, hsteps⟩
  have hplaced : step.1 ∈ placed :=
    List.mem_of_mem_filter (hsteps ▸ List.mem_map_of_mem hstep)
  rcases List.mem_filterMap.mp (hsorted.rearranges.perm.mem_iff.mpr hplaced) with
    ⟨child, -, hchild⟩
  unfold placed? at hchild
  split at hchild
  · rw [← Option.some.inj hchild]
    exact ⟨rfl, rfl⟩
  · exact absurd hchild (by simp)

end Runs

variable {ω : Type} {host : Host ω Rat} {config : Config Rat}

/-- How far a child moves what follows: the room that a table takes beyond its region,
    rounded up, and nothing for all others. -/
def driftOf (config : Config Rat) (p : Placed Rat) : Int :=
  if p.node.isTableRegion then
    ⌈max 0 ((Table.plannedHeight config p.node : Rat) - p.box.height)⌉
  else 0

/-- How far a run moves what follows it. -/
def totalDrift (config : Config Rat) (steps : List (Placed Rat × Option Fragment)) : Int :=
  (steps.map fun step => driftOf config step.1).sum

theorem growth_rat (expected : Int) (height : Rat) :
    growth expected height = .ok ⌈max 0 ((expected : Rat) - height)⌉ := by
  have hzero : (0.0 : Rat) = 0 := by norm_num
  have hgrowth : growth expected height =
      if 0.0 < (expected : Rat) - height then Scalar.ceil ((expected : Rat) - height)
      else .ok 0 := by
    simp only [growth, ofInt?_rat]
    rfl
  rw [hgrowth, hzero]
  -- A table that is not higher than its region moves nothing.
  by_cases hpositive : 0 < (expected : Rat) - height
  · rw [if_pos hpositive, max_eq_right (le_of_lt hpositive), ceil_rat]
  · rw [if_neg hpositive, max_eq_left (not_lt.mp hpositive), Int.ceil_zero]

theorem drift_rat (config : Config Rat) (p : Placed Rat) :
    drift config p = .ok (driftOf config p) := by
  rw [drift, driftOf]
  by_cases htable : p.node.isTableRegion = true
  · rw [if_pos htable, if_pos htable, growth_rat]
  · rw [if_neg htable, if_neg htable]

theorem driftOf_nonneg (config : Config Rat) (p : Placed Rat) : 0 ≤ driftOf config p := by
  rw [driftOf]
  by_cases htable : p.node.isTableRegion = true
  · rw [if_pos htable]
    exact Int.ceil_nonneg (le_max_left _ _)
  · rw [if_neg htable]

/-- A visit places its fragment at the child's place in whole pixels, moved down by the
    offset. -/
theorem visit_place {p : Placed Rat} {w w' : Walk} {s s' : Session ω Rat}
    {made : Option Fragment} (h : visit host config p w s = (.ok w', s'))
    (hmade : w'.fragments = w.fragments ++ made.toList) :
    (∀ f ∈ made, f.left = pixelOf p.x ∧ f.top = pixelOf p.y + w.offset) ∧
      w'.offset = w.offset + driftOf config p := by
  rcases visit_step h with ⟨shift, d, made', hshift, hd, hat, hmade', hoffset, -⟩
  rw [ofInt?_rat] at hshift
  rw [drift_rat] at hd
  rw [← Except.ok.inj hshift] at hat
  rw [hmade'] at hmade
  -- Whatever the visit added is what the run says it made.
  have hsame : made' = made := made_unique hmade
  rw [← Except.ok.inj hd] at hoffset
  rw [hsame] at hat
  refine ⟨fun f hf => ?_, hoffset⟩
  have hplace := hat f hf
  have hleft := hplace.left
  have htop := hplace.top
  rw [roundHalfUp_rat] at hleft htop
  rw [pixelOf_add_int] at htop
  exact ⟨(Except.ok.inj hleft).symm, (Except.ok.inj htop).symm⟩

/-- The offset is the sum of the drifts. -/
theorem Visits.offset {steps : List (Placed Rat × Option Fragment)} {w w' : Walk}
    {s s' : Session ω Rat} (h : Visits host config steps w s w' s') :
    w'.offset = w.offset + totalDrift config steps := by
  induction h with
  | nil w s => simp [totalDrift]
  | @cons p made rest w w₁ w' s s₁ s' hvisit hmade hrest ih =>
      rw [ih, (visit_place hvisit hmade).2, totalDrift, totalDrift, List.map_cons,
        List.sum_cons, Int.add_assoc]

/-- Where the fragment of a child lies: the drifts of all children before it move it
    down. -/
theorem Visits.place {steps : List (Placed Rat × Option Fragment)} {w w' : Walk}
    {s s' : Session ω Rat} (h : Visits host config steps w s w' s') {i : Nat}
    {p : Placed Rat} {f : Fragment} (hi : steps[i]? = some (p, some f)) :
    f.left = pixelOf p.x ∧
      f.top = pixelOf p.y + (w.offset + totalDrift config (steps.take i)) := by
  -- Along the run, where each step hands on the offset that it leaves.
  induction h generalizing i with
  | nil w s => simp at hi
  | @cons q made rest w w₁ w' s s₁ s' hvisit hmade hrest ih =>
      have hplace := visit_place hvisit hmade
      cases i with
      | zero =>
          simp only [List.getElem?_cons_zero, Option.some.injEq, Prod.mk.injEq] at hi
          rw [hi.1] at hplace
          have hf := hplace.1 f (by rw [hi.2]; rfl)
          rw [List.take_zero]
          exact ⟨hf.1, by simp [hf.2, totalDrift]⟩
      | succ i =>
          rw [List.getElem?_cons_succ] at hi
          have hlater := ih hi
          refine ⟨hlater.1, ?_⟩
          rw [hlater.2, hplace.2, List.take_succ_cons, totalDrift, totalDrift, List.map_cons,
            List.sum_cons, Int.add_assoc]

/-- No fragment of a run lies above the first place of the run. -/
theorem Visits.le_top {steps : List (Placed Rat × Option Fragment)} {w w' : Walk}
    {s s' : Session ω Rat} (h : Visits host config steps w s w' s') (y : Rat)
    (hy : ∀ step ∈ steps, y ≤ step.1.y) :
    ∀ g ∈ steps.filterMap Prod.snd, pixelOf y + w.offset ≤ g.top := by
  induction h with
  | nil w s => simp
  | @cons p made rest w w₁ w' s s₁ s' hvisit hmade hrest ih =>
      intro g hg
      have hplace := visit_place hvisit hmade
      rw [List.filterMap_cons] at hg
      have hstep : g ∈ made ∨ g ∈ rest.filterMap Prod.snd := by
        cases made with
        | none => exact Or.inr hg
        | some f =>
            rcases List.mem_cons.mp hg with heq | hmem
            · exact Or.inl (by rw [heq]; rfl)
            · exact Or.inr hmem
      -- The first child is moved by the offset alone, and offsets only grow.
      rcases hstep with hown | hlater
      · have hmono : pixelOf y ≤ pixelOf p.y := pixelOf_mono (hy (p, made) List.mem_cons_self)
        have htop := (hplace.1 g hown).2
        omega
      · have hnonneg := driftOf_nonneg config p
        have hnext := ih (fun step hstep => hy step (List.mem_cons_of_mem _ hstep)) g hlater
        have hoffset := hplace.2
        omega

/-- The tops of the fragments never decrease when the children come from top to
    bottom. -/
theorem Visits.tops {steps : List (Placed Rat × Option Fragment)} {w w' : Walk}
    {s s' : Session ω Rat} (h : Visits host config steps w s w' s')
    (hsorted : steps.Pairwise fun a b => a.1.y ≤ b.1.y) :
    (steps.filterMap Prod.snd).Pairwise fun f g => f.top ≤ g.top := by
  induction h with
  | nil w s => exact List.Pairwise.nil
  | @cons p made rest w w₁ w' s s₁ s' hvisit hmade hrest ih =>
      rw [List.pairwise_cons] at hsorted
      have hplace := visit_place hvisit hmade
      rw [List.filterMap_cons]
      cases made with
      | none => exact ih hsorted.2
      | some f =>
          -- All later children are lower, and moved at least as far.
          refine List.pairwise_cons.mpr ⟨fun g hg => ?_, ih hsorted.2⟩
          have hfirst := (hplace.1 f rfl).2
          have hlater := hrest.le_top p.y hsorted.1 g hg
          have hnonneg := driftOf_nonneg config p
          have hoffset := hplace.2
          omega

/-- Visits in the order of a walk are its run. -/
theorem isWalkRun_of_visits {root : Node Rat} {frame : Rect Rat} {nodes : List (Node Rat)}
    {steps : List (Placed Rat × Option Fragment)} {before w : Walk} {s s₀ s' : Session ω Rat}
    (hnodes : root.childList = .ok nodes)
    (hsteps : steps.map Prod.fst
      = (placedChildren frame nodes).filter fun p => !p.isElided config frame)
    (hbefore : backgroundOf host config root {} s = (.ok before, s₀))
    (hvisits : Visits host config steps before s₀ w s') :
    IsWalkRun host config root frame s steps w s' :=
  ⟨⟨nodes, placedChildren frame nodes, hnodes,
    Layout.sortOn_stable Layout.before_isStrictWeak Placed.y (nodes.filterMap (placed? frame)),
    hsteps⟩,
    before, s₀, hbefore, hvisits⟩

/-- Every walk has its run. -/
theorem walk_isWalkRun {root : Node Rat} {frame : Rect Rat} (hbounds : root.bounds = some frame)
    {w : Walk} {s s' : Session ω Rat} (h : walk host config root s = (.ok w, s')) :
    ∃ steps, IsWalkRun host config root frame s steps w s' := by
  rcases walk_visits hbounds h with ⟨nodes, steps, before, s₀, hnodes, hsteps, hbefore, hvisits⟩
  exact ⟨steps, isWalkRun_of_visits hnodes hsteps hbefore hvisits⟩

section WalkRuns

variable {root : Node Rat} {frame : Rect Rat} {w : Walk} {s s' : Session ω Rat}
  {steps : List (Placed Rat × Option Fragment)}

/-- The children come from top to bottom. -/
theorem IsWalkRun.sorted (h : IsWalkRun host config root frame s steps w s') :
    steps.Pairwise fun a b => a.1.y ≤ b.1.y := by
  rcases h.order with ⟨nodes, placed, -, hsorted, hsteps⟩
  -- Leaving children out keeps the order of the others.
  have hfiltered := hsorted.ordered.sublist
    (List.filter_sublist (p := fun p => !p.isElided config frame))
  rw [← hsteps, Layout.Ordered, List.pairwise_map] at hfiltered
  refine hfiltered.imp fun {a b} hab => ?_
  simpa [Layout.before] using hab

/-- Where the fragment of a child lies. -/
theorem IsWalkRun.place (h : IsWalkRun host config root frame s steps w s') {i : Nat}
    {p : Placed Rat} {f : Fragment} (hi : steps[i]? = some (p, some f)) :
    f.left = pixelOf p.x ∧ f.top = pixelOf p.y + totalDrift config (steps.take i) := by
  rcases h.visits with ⟨before, s₀, hbefore, hvisits⟩
  have hplace := hvisits.place hi
  rw [(backgroundOf_step hbefore).2.1, Int.zero_add] at hplace
  exact hplace

end WalkRuns

/-- The walk over a frame. It takes the frame's visible children with bounds in the
    stable order of their tops, leaves out blank sheets, and visits the others in this
    order. The fragment of a child lies at the child's place in whole pixels, moved down
    by the drifts of all children before it; a drift is what the height that the table of
    a region is planned to take, which is the height the synthesizer expects of it,
    exceeds the region's own height by. -/
theorem walk_offsets (host : Host ω Rat) (config : Config Rat) {root : Node Rat}
    {frame : Rect Rat} (hbounds : root.bounds = some frame) {w : Walk} {s s' : Session ω Rat}
    (h : walk host config root s = (.ok w, s')) :
    ∃ (nodes : List (Node Rat)) (placed : List (Placed Rat))
      (steps : List (Placed Rat × Option Fragment)) (before : Walk) (s₀ : Session ω Rat),
      root.childList = .ok nodes ∧
      Layout.StablySorted (fun a b => decide (a.y < b.y)) (nodes.filterMap (placed? frame))
        placed ∧
      steps.map Prod.fst = placed.filter (fun p => !p.isElided config frame) ∧
      backgroundOf host config root {} s = (.ok before, s₀) ∧
      Visits host config steps before s₀ w s' ∧
      w.fragments = steps.filterMap Prod.snd ∧
      (∀ i p f, steps[i]? = some (p, some f) →
        f.left = pixelOf p.x ∧ f.top = pixelOf p.y + totalDrift config (steps.take i)) ∧
      (∀ step ∈ steps, ∀ (x y : Rat) (t t' : Session ω Rat) table,
        Table.synthesize host config step.1.node x y t = (.ok table, t') →
          (table.map Table.Synthesized.expectedHeight).getD 0
            = Table.plannedHeight config step.1.node) ∧
      (w.fragments.Pairwise fun f g => f.top ≤ g.top) ∧
      w.offset = totalDrift config steps := by
  rcases walk_isWalkRun hbounds h with ⟨steps, hrun⟩
  rcases hrun.order with ⟨nodes, placed, hnodes, hsorted, hsteps⟩
  rcases hrun.visits with ⟨before, s₀, hbefore, hvisits⟩
  refine ⟨nodes, placed, steps, before, s₀, hnodes, hsorted, hsteps, hbefore, hvisits,
    hrun.fragments, fun i p f hi => hrun.place hi, fun _ _ _ _ _ _ _ h => synthesize_planned h,
    ?_, ?_⟩
  · rw [hrun.fragments]
    exact hvisits.tops hrun.sorted
  · rw [hvisits.offset, (backgroundOf_step hbefore).2.1, Int.zero_add]

/-- A host that has all fonts and no pictures. -/
def picturelessHost : Host Unit Rat where
  loadFont _ _ := { result := .ok (), world := () }
  rasterize _ _ _ := { result := .error (.host "no picture"), world := () }
  imageBytes _ _ := { result := .ok none, world := () }

/-- A host that has a picture of everything, and no fonts. -/
def fontlessHost : Host Unit Rat where
  loadFont _ _ := { result := .error (.host "no font"), world := () }
  rasterize _ _ _ := { result := .ok (.bytes []), world := () }
  imageBytes _ _ := { result := .ok (some (.bytes [])), world := () }

/-- A region with a single text, and a line below it that comes first in the tree. -/
def priceList : Node Rat :=
  .container ⟨"0", "Prices", true, some ⟨0, 0, 200, 100⟩, []⟩ .frame
    [.shape ⟨"1", "Line", true, some ⟨0, 201 / 4, 200, 2⟩, []⟩ ⟨.rectangle, none, none⟩,
      .container ⟨"2", "[table] Prices", true, some ⟨0, 10, 100, 20⟩, []⟩ .group
        [.text ⟨"3", "Price", true, some ⟨0, 10, 50, 20⟩, []⟩ ⟨"12", [], "LEFT", none⟩]]

/-- The table is planned to take 48 pixels where its region has 20, and the line below it
    moves down by the difference. -/
theorem walk_offsets_priceList :
    ∃ (w : Walk) (s : Session Unit Rat) (steps : List (Placed Rat × Option Fragment)),
      walk picturelessHost {} priceList ⟨(), [], []⟩ = (.ok w, s) ∧
      w.fragments = steps.filterMap Prod.snd ∧
      w.fragments.map (fun f => (f.left, f.top)) = [(0, 10), (0, 78)] ∧
      w.offset = totalDrift {} steps ∧ w.offset = 28 := by
  have hplaces : (walk picturelessHost {} priceList ⟨(), [], []⟩).1.toOption.map
      (fun w => (w.fragments.map (fun f => (f.left, f.top)), w.offset))
        = some ([(0, 10), (0, 78)], 28) := by decide +kernel
  rcases hrun : walk picturelessHost {} priceList ⟨(), [], []⟩ with ⟨result, s⟩
  rw [hrun] at hplaces
  cases result with
  | error fault => exact absurd hplaces (by simp [Except.toOption])
  | ok w =>
      simp only [Except.toOption, Option.map_some, Option.some.injEq, Prod.mk.injEq] at hplaces
      rcases walk_offsets picturelessHost {}
        (show priceList.bounds = some ⟨0, 0, 200, 100⟩ from rfl) hrun with
        ⟨nodes, placed, steps, before, s₀, -, -, -, -, -, hfragments, -, -, -, hoffset⟩
      exact ⟨w, s, steps, rfl, hfragments, hplaces.1, hoffset, hplaces.2⟩

end Letterpress
