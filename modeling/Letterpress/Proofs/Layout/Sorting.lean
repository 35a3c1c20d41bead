import Letterpress.Layout.Sorting
import Letterpress.Proofs.Layout.Merging

/-!
# Sorting Is Stable

For keys that are compared by the strict order of a linear preorder, `sortOn` is the
stable sort, and so it is any stable sort.

The list is taken apart from the front. What is consumed so far waits as runs, each
in order, which side by side are a rearrangement of it (`Waits`). Every step keeps
this: a new run joins behind the others, and two neighboring runs become one. That
the runs are merged in a certain order, and only when certain depths meet, plays no
part.

## Main definitions

* `joined`: Waiting runs side by side.
* `Waits`: The runs are what is left to merge of a consumed list.

## Theorems

* `insertSorted_stable`: Inserting behind the equals is stable.
* `leadingRun_parts`: The leading run is the stable sort of the front of a list.
* `mergeAll_stable`: Merging all runs sorts what is consumed.
* `sortOn_stable`: Sorting is stable.
-/

namespace Letterpress.Layout

variable {α κ : Type} {lt : α → α → Bool}

/-- Sorting goes on where a part of the list is sorted already. -/
theorem StablySorted.trans {l m front front' : List α} (hfront : StablySorted lt front front')
    (hm : StablySorted lt (front' ++ l) m) : StablySorted lt (front ++ l) m :=
  StablySorted.of_rearranges (hfront.rearranges.append (rearranges_refl l)) hm

theorem insertSorted_stable (h : IsStrictWeak lt) {sorted : List α} (hs : Ordered lt sorted)
    (x : α) : StablySorted lt (sorted ++ [x]) (insertSorted lt sorted x) := by
  rcases stretch_parts (pairwise_notAbove h hs x) with ⟨front, back, rfl, hsplit, hfront, hback⟩
  have hpoint : insertionPoint lt x (front ++ back) = front.length :=
    bisect_eq hsplit _ _ _ (by omega) (Nat.zero_le _) (by simp) (Nat.le_refl _)
  simp only [insertSorted, hpoint, List.take_left, List.drop_left]
  -- The new item passes everything from where it is inserted on.
  have hpass : StablySorted lt (back ++ [x]) (x :: back) := by
    refine stablySorted_swap h (ordered_append.mp hs).2.1 (ordered_singleton x) ?_
    intro z hz w hw
    rw [List.mem_singleton.mp hw]
    simpa using hback z hz
  refine hpass.takeFirst hs fun z hz w hw => ?_
  rw [List.mem_singleton.mp hw]
  simpa using hfront z hz

/-- Inserting one item after the other sorts them. -/
theorem foldl_insertSorted_stable (h : IsStrictWeak lt) (items : List α) {sorted : List α}
    (hs : Ordered lt sorted) :
    StablySorted lt (sorted ++ items) (items.foldl (insertSorted lt) sorted) := by
  induction items generalizing sorted with
  | nil =>
      rw [List.append_nil]
      exact stablySorted_of_ordered hs
  | cons x items ih =>
      have hx := insertSorted_stable h hs x
      rw [List.foldl_cons, ← List.singleton_append, ← List.append_assoc]
      exact hx.trans (ih hx.ordered)

/-- A list stays ordered when something that its head is not below goes in front. -/
theorem Ordered.cons (h : IsStrictWeak lt) {x y : α} {rest : List α}
    (ho : Ordered lt (y :: rest)) (hyx : lt y x = false) : Ordered lt (x :: y :: rest) :=
  ordered_cons.mpr ⟨ho.notBelow_head h hyx, ho⟩

/-- A list keeps falling when something above its head goes in front. -/
theorem falling_cons (h : IsStrictWeak lt) {x y : α} {rest : List α}
    (hfall : (y :: rest).Pairwise fun a b => lt b a = true) (hyx : lt y x = true) :
    (x :: y :: rest).Pairwise fun a b => lt b a = true := by
  refine List.pairwise_cons.mpr ⟨fun z hz => ?_, hfall⟩
  rcases List.mem_cons.mp hz with rfl | hmem
  · exact hyx
  · exact h.trans_le ((List.pairwise_cons.mp hfall).1 z hmem) (h.asymm _ _ hyx)

theorem risingRun_parts (h : IsStrictWeak lt) (last : α) (items : List α) :
    items = (risingRun lt last items).1 ++ (risingRun lt last items).2 ∧
      Ordered lt (last :: (risingRun lt last items).1) := by
  induction items generalizing last with
  | nil => exact ⟨rfl, ordered_singleton last⟩
  | cons x rest ih =>
      rw [risingRun]
      by_cases hx : lt x last = true
      · rw [if_pos hx]
        exact ⟨rfl, ordered_singleton last⟩
      · rw [if_neg hx]
        exact ⟨congrArg (x :: ·) (ih x).1, (ih x).2.cons h (by simpa using hx)⟩

theorem fallingRun_parts (h : IsStrictWeak lt) (last : α) (items : List α) :
    items = (fallingRun lt last items).1 ++ (fallingRun lt last items).2 ∧
      (last :: (fallingRun lt last items).1).Pairwise fun a b => lt b a = true := by
  induction items generalizing last with
  | nil => exact ⟨rfl, List.pairwise_singleton _ last⟩
  | cons x rest ih =>
      rw [fallingRun]
      by_cases hx : lt x last = true
      · rw [if_pos hx]
        exact ⟨congrArg (x :: ·) (ih x).1, falling_cons h (ih x).2 hx⟩
      · rw [if_neg hx]
        exact ⟨rfl, List.pairwise_singleton _ last⟩

/-- The leading run is the stable sort of the front of a list. -/
theorem leadingRun_parts (h : IsStrictWeak lt) (items : List α) :
    ∃ front, items = front ++ (leadingRun lt items).2 ∧
      StablySorted lt front (leadingRun lt items).1 ∧ (items ≠ [] → front ≠ []) := by
  match items with
  | [] => exact ⟨[], rfl, stablySorted_of_ordered ordered_nil, fun hne => hne⟩
  | [x] => exact ⟨[x], rfl, stablySorted_of_ordered (ordered_singleton x), fun hne => hne⟩
  | x :: y :: rest =>
      rw [leadingRun]
      by_cases hyx : lt y x = true
      · rw [if_pos hyx]
        have hrun := fallingRun_parts h y rest
        have hfall := falling_cons h hrun.2 hyx
        -- No two items of a run that falls strictly are tied, so it can be reversed.
        exact ⟨x :: y :: (fallingRun lt y rest).1, congrArg (x :: y :: ·) hrun.1,
          ⟨rearranges_reverse h _ hfall, ordered_reverse h _ hfall⟩, fun _ => by simp⟩
      · rw [if_neg hyx]
        have hrun := risingRun_parts h y rest
        exact ⟨x :: y :: (risingRun lt y rest).1, congrArg (x :: y :: ·) hrun.1,
          stablySorted_of_ordered (hrun.2.cons h (by simpa using hyx)), fun _ => by simp⟩

/-- Waiting runs side by side; the first of them was met last. -/
def joined : List (Run α) → List α
  | [] => []
  | run :: rest => joined rest ++ run.items

/-- The runs are in order, and side by side they rearrange what is consumed. -/
structure Waits (lt : α → α → Bool) (consumed : List α) (runs : List (Run α)) : Prop where
  ordered : ∀ run ∈ runs, Ordered lt run.items
  rearranges : Rearranges lt consumed (joined runs)

theorem waits_nil : Waits lt [] ([] : List (Run α)) :=
  ⟨fun _ hrun => absurd hrun List.not_mem_nil, rearranges_refl []⟩

/-- Two neighboring runs become one. -/
theorem Waits.merged (h : IsStrictWeak lt) (patience : Nat) {consumed : List α}
    (after : List (Run α)) {rest : List (Run α)} {last before : Run α}
    (hw : Waits lt consumed (after ++ last :: before :: rest)) (start depth : Nat) :
    Waits lt consumed
      (after ++ ⟨start, (merge lt patience before.items last.items).1, depth⟩ :: rest) := by
  have hmerge := merge_stable h patience (hw.ordered before (by simp)) (hw.ordered last (by simp))
  constructor
  · intro run hrun
    rcases List.mem_append.mp hrun with hafter | hbehind
    · exact hw.ordered run (List.mem_append_left _ hafter)
    · rcases List.mem_cons.mp hbehind with heq | hrest
      · rw [heq]
        exact hmerge.ordered
      · exact hw.ordered run (by simp [hrest])
  · refine hw.rearranges.trans ?_
    -- The runs met after the two are as they were.
    clear hw
    induction after with
    | nil =>
        rw [List.nil_append, List.nil_append, joined, joined, joined, List.append_assoc]
        exact (rearranges_refl _).append hmerge.rearranges
    | cons run after ih => exact ih.append (rearranges_refl run.items)

theorem mergeDeeper_waits (h : IsStrictWeak lt) (depth : Nat) {consumed : List α}
    (runs : List (Run α)) (patience : Nat) (hw : Waits lt consumed runs) :
    Waits lt consumed (mergeDeeper lt depth runs patience).1 := by
  induction runs, patience using mergeDeeper.induct lt depth with
  | case1 last before rest patience hdeeper items patience' hmerge ih =>
      rw [mergeDeeper, if_pos hdeeper, hmerge]
      refine ih ?_
      have hmerged := Waits.merged h patience [] hw before.start before.depth
      rw [hmerge] at hmerged
      exact hmerged
  | case2 last before rest patience hdeeper =>
      rw [mergeDeeper, if_neg hdeeper]
      exact hw
  | case3 runs patience hfew =>
      rw [mergeDeeper]
      · exact hw
      · exact hfew

/-- A new run joins behind the others. -/
theorem push_waits (h : IsStrictWeak lt) (size : Nat) {consumed front : List α} {m : Merges α}
    {run : Run α} (hw : Waits lt consumed m.runs) (hrun : StablySorted lt front run.items) :
    Waits lt (consumed ++ front) (m.push lt size run).runs := by
  -- Depths are bookkeeping: a run is ordered whatever depth it is given.
  have hjoin : ∀ runs depths, Waits lt consumed runs → joined depths = joined runs →
      (∀ r ∈ depths, Ordered lt r.items) → Waits lt (consumed ++ front) (run :: depths) := by
    intro runs depths hruns hsame hordered
    refine ⟨fun r hr => ?_, ?_⟩
    · rcases List.mem_cons.mp hr with heq | hmem
      · rw [heq]
        exact hrun.ordered
      · exact hordered r hmem
    · rw [joined, hsame]
      exact hruns.rearranges.append hrun.rearranges
  rw [Merges.push]
  split
  · rename_i hnone
    rw [hnone] at hw
    exact hjoin [] [] hw rfl hw.ordered
  · rename_i last others hsome
    have hdeeper := mergeDeeper_waits h (boundaryDepth size last run) m.runs m.patience hw
    dsimp only
    split
    · rename_i top rest patience hmerged
      rw [hmerged] at hdeeper
      refine hjoin (top :: rest) _ hdeeper rfl fun r hr => ?_
      rcases List.mem_cons.mp hr with heq | hmem
      · rw [heq]
        exact hdeeper.ordered top List.mem_cons_self
      · exact hdeeper.ordered r (List.mem_cons_of_mem top hmem)
    · rename_i patience hmerged
      rw [hmerged] at hdeeper
      exact hjoin [] [] hdeeper rfl hdeeper.ordered

/-- Merging all runs sorts what is consumed. -/
theorem mergeAll_stable (h : IsStrictWeak lt) {consumed : List α} (runs : List (Run α))
    (patience : Nat) (hw : Waits lt consumed runs) :
    StablySorted lt consumed (mergeAll lt runs patience) := by
  induction runs, patience using mergeAll.induct lt with
  | case1 patience =>
      rw [mergeAll]
      exact ⟨hw.rearranges, ordered_nil⟩
  | case2 run patience =>
      rw [mergeAll]
      exact ⟨hw.rearranges, hw.ordered run List.mem_cons_self⟩
  | case3 last before patience =>
      rw [mergeAll]
      have hmerged := Waits.merged h patience [] hw before.start before.depth
      exact ⟨hmerged.rearranges, hmerged.ordered _ List.mem_cons_self⟩
  -- Of three runs the middle one is merged with the shorter of its neighbors.
  | case4 last middle first rest patience hshort items patience' hmerge ih =>
      rw [mergeAll, if_pos hshort, hmerge]
      refine ih ?_
      have hmerged := Waits.merged h patience [last] hw first.start first.depth
      rw [hmerge] at hmerged
      exact hmerged
  | case5 last middle first rest patience hshort items patience' hmerge ih =>
      rw [mergeAll, if_neg hshort, hmerge]
      refine ih ?_
      have hmerged := Waits.merged h patience [] hw middle.start middle.depth
      rw [hmerge] at hmerged
      exact hmerged

theorem sortFrom_stable (h : IsStrictWeak lt) (size fuel start : Nat) {consumed : List α}
    (items : List α) (m : Merges α) (hfuel : items.length ≤ fuel)
    (hw : Waits lt consumed m.runs) :
    StablySorted lt (consumed ++ items) (sortFrom lt size fuel start items m) := by
  induction fuel generalizing start consumed items m with
  | zero =>
      have hitems : items = [] := List.eq_nil_of_length_eq_zero (by omega)
      rw [hitems, List.append_nil, sortFrom]
      exact mergeAll_stable h m.runs m.patience hw
  | succ fuel ih =>
      by_cases hempty : items = []
      · rw [hempty, List.append_nil, sortFrom]
        · exact mergeAll_stable h m.runs m.patience hw
        · simp
      · rcases leadingRun_parts h items with ⟨front, hparts, hrun, hfront⟩
        rcases hlead : leadingRun lt items with ⟨run, others⟩
        rw [hlead] at hparts hrun
        dsimp only at hparts hrun
        rw [sortFrom, hlead]
        · dsimp only
          generalize leastRun size - run.length = missing
          -- The run is made longer by what follows it.
          have hlong := hrun.trans (foldl_insertSorted_stable h (others.take missing) hrun.ordered)
          have hlength : (others.drop missing).length ≤ fuel := by
            have hpositive : 0 < front.length := List.length_pos_iff.mpr (hfront hempty)
            have hcount : items.length = front.length + others.length := by
              rw [hparts, List.length_append]
            rw [List.length_drop]
            omega
          generalize (others.take missing).foldl (insertSorted lt) run = longer at hlong ⊢
          -- What is consumed grows by the run, and that is what waits after the push.
          have hnext := ih (start + longer.length) (others.drop missing)
            (m.push lt size ⟨start, longer, 0⟩) hlength (push_waits h size hw hlong)
          rw [List.append_assoc, List.append_assoc, List.take_append_drop, ← hparts] at hnext
          exact hnext
        · exact hempty

theorem sort_stable (h : IsStrictWeak lt) (items : List α) :
    StablySorted lt items (sort lt items) :=
  sortFrom_stable h items.length items.length 0 items {} (Nat.le_refl _) waits_nil

/-- Sorting by a key is stable. -/
theorem sortOn_stable {lt : κ → κ → Bool} (h : IsStrictWeak lt) (key : α → κ) (items : List α) :
    StablySorted (fun a b => lt (key a) (key b)) items (sortOn lt key items) :=
  sort_stable (h.onKey key) items

end Letterpress.Layout
