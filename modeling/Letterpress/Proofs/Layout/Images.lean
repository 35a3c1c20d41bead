import Letterpress.Proofs.Layout.Keeping

/-!
# Sorting Goes by Comparisons

All that sorting asks of its items is how they compare. So if the items are replaced by
others that compare the same way, the others end up in the same order. This needs no
order: it holds of any comparison, also of scalars that are not numbers.

Every function that sorting is made of passes this on to the next. Its items are images
under a map, and it gives the images of what it gives for the items themselves.

## Theorems

* `gallop_images`, `forward_images`, `backward_images`, `merge_images`: Merging images.
* `sort_images`, `sortOn_images`: Sorting images.
-/

namespace Letterpress.Layout

variable {α β κ : Type} (f : α → β)

section Stretches

variable (inside : β → Bool)

theorem bisect_images (items : List α) (fuel low high : Nat) :
    bisect inside (items.map f) fuel low high
      = bisect (fun a => inside (f a)) items fuel low high := by
  induction fuel generalizing low high with
  | zero => rfl
  | succ fuel ih =>
      rw [bisect, bisect]
      simp only [ih, List.getElem?_map]
      cases items[(low + high) / 2]? <;> rfl

theorem passesAt_images (items : List α) (position : Nat) :
    passesAt inside (items.map f) position = passesAt (fun a => inside (f a)) items position := by
  rw [passesAt, passesAt, List.getElem?_map]
  cases items[position]? <;> rfl

theorem gallop_images (items : List α) (start : Nat) :
    gallop inside (items.map f) start = gallop (fun a => inside (f a)) items start := by
  simp only [gallop, passesAt_images, bisect_images, List.length_map]

/-- A gallop that starts at the end of a list which is read backwards. -/
theorem gallopBack_images (items : List α) :
    gallop inside (items.map f).reverse ((items.map f).length - 1)
      = gallop (fun a => inside (f a)) items.reverse (items.length - 1) := by
  rw [← List.map_reverse, List.length_map, gallop_images]

end Stretches

section Merging

variable (lt : β → β → Bool)

/-- What a list of images is after some items. -/
theorem drop_images {items rest : List α} {n : Nat} (h : items.drop n = rest) :
    (items.map f).drop n = rest.map f := by
  rw [← List.map_drop, h]

/-- Merging images from the front. It takes the same turns as for the items. -/
theorem forward_images (fuel : Nat) (pace : Pace) (patience : Nat) (done first second : List α) :
    forward lt fuel pace patience (done.map f) (first.map f) (second.map f)
      = Prod.map (List.map f) id
        (forward (fun a b => lt (f a) (f b)) fuel pace patience done first second) := by
  fun_induction forward (fun a b => lt (f a) (f b)) fuel pace patience done first second with
  | case1 | case2 | case3 | case4 => simp_all [forward]
  -- From here on the merge gallops, by the same lengths as for the items themselves.
  | case5 fuel before done first y second patience m done₁ first₁ hone =>
      have hm : gallop (fun b => !lt (f y) b) (first.map f) 0 = m := gallop_images f _ first 0
      have hfirst : (first.map f).drop m = first₁.map f := drop_images f rfl
      rw [List.map_cons, forward, hm, hfirst]
      simp_all [done₁, patience]
  | case6 fuel before done first y second patience m done₁ first₁ hmany hempty =>
      have hm : gallop (fun b => !lt (f y) b) (first.map f) 0 = m := gallop_images f _ first 0
      have hfirst : (first.map f).drop m = first₁.map f := drop_images f rfl
      rw [List.map_cons, forward, hm, hfirst]
      simp_all [done₁, patience]
  | case7 fuel before done first y second patience m done₁ first₁ hmany x others hrest n done₂
      second₁ hempty =>
      have hm : gallop (fun b => !lt (f y) b) (first.map f) 0 = m := gallop_images f _ first 0
      have hn : gallop (fun b => lt b (f x)) (second.map f) 0 = n := gallop_images f _ second 0
      have hfirst : (first.map f).drop m = first₁.map f := drop_images f rfl
      have hsecond : (second.map f).drop n = second₁.map f := drop_images f rfl
      rw [List.map_cons, forward, hm, hfirst]
      simp_all [done₁, done₂, patience]
  | case8 fuel before done first y second patience m done₁ first₁ hmany x others hrest n done₂
      second₁ hne hone =>
      have hm : gallop (fun b => !lt (f y) b) (first.map f) 0 = m := gallop_images f _ first 0
      have hn : gallop (fun b => lt b (f x)) (second.map f) 0 = n := gallop_images f _ second 0
      have hfirst : (first.map f).drop m = first₁.map f := drop_images f rfl
      have hsecond : (second.map f).drop n = second₁.map f := drop_images f rfl
      rw [List.map_cons, forward, hm, hfirst]
      simp_all [done₁, done₂, patience]
  | case9 fuel before done first y second patience m done₁ first₁ hmany x others hrest n done₂
      second₁ hne hmore pace next hpace ih =>
      have hm : gallop (fun b => !lt (f y) b) (first.map f) 0 = m := gallop_images f _ first 0
      have hn : gallop (fun b => lt b (f x)) (second.map f) 0 = n := gallop_images f _ second 0
      have hfirst : (first.map f).drop m = first₁.map f := drop_images f rfl
      have hsecond : (second.map f).drop n = second₁.map f := drop_images f rfl
      rw [List.map_cons, forward, hm, hfirst]
      simp_all [done₁, done₂, patience]
  | case10 fuel pace patience done first second hwalk hgallop =>
      -- Without fuel or without items on both sides the rest stays as it is.
      cases fuel with
      | zero => simp [forward]
      | succ fuel =>
          cases second with
          | nil => cases pace <;> simp [forward]
          | cons y second =>
              cases pace with
              | galloping => exact absurd rfl (hgallop fuel y second rfl rfl)
              | walking m n =>
                  cases first with
                  | nil => simp [forward]
                  | cons x first => exact absurd rfl (hwalk fuel m n x first y second rfl rfl rfl)

/-- Merging images from the back. -/
theorem backward_images (fuel : Nat) (pace : Pace) (patience : Nat)
    (done first second : List α) :
    backward lt fuel pace patience (done.map f) (first.map f) (second.map f)
      = Prod.map (List.map f) id
        (backward (fun a b => lt (f a) (f b)) fuel pace patience done first second) := by
  fun_induction backward (fun a b => lt (f a) (f b)) fuel pace patience done first second with
  | case1 | case2 | case3 | case4 => simp_all [backward]
  | case5 fuel before done first y second patience kept m done₁ hempty =>
      have hkept : gallop (fun b => !lt (f y) b) (first.map f).reverse ((first.map f).length - 1)
          = kept := gallopBack_images f _ first
      have hm : (first.map f).length - kept = m := by rw [List.length_map]
      have hfirst : (first.map f).drop m = List.map f [] := drop_images f hempty
      rw [List.map_cons, backward, hkept, hm, hfirst]
      simp_all [done₁, patience]
  | case6 fuel before done first y second patience kept m done₁ x others hrest hone =>
      have hkept : gallop (fun b => !lt (f y) b) (first.map f).reverse ((first.map f).length - 1)
          = kept := gallopBack_images f _ first
      have hm : (first.map f).length - kept = m := by rw [List.length_map]
      have hfirst : (first.map f).drop m = (x :: others).map f := drop_images f hrest
      rw [List.map_cons, backward, hkept, hm, hfirst]
      simp_all [done₁, patience]
  | case7 fuel before done first y second patience kept m done₁ x others hrest hone kept₂ n
      done₂ second₁ hfew =>
      have hkept : gallop (fun b => !lt (f y) b) (first.map f).reverse ((first.map f).length - 1)
          = kept := gallopBack_images f _ first
      have hm : (first.map f).length - kept = m := by rw [List.length_map]
      have hfirst : (first.map f).drop m = (x :: others).map f := drop_images f hrest
      have hkept₂ : gallop (fun b => lt b (f x)) (second.map f).reverse
          ((second.map f).length - 1) = kept₂ := gallopBack_images f _ second
      have hn : (second.map f).length - kept₂ = n := by rw [List.length_map]
      have hsecond : (second.map f).drop n = second₁.map f := drop_images f rfl
      rw [List.map_cons, backward, hkept, hm, hfirst]
      simp_all [done₁, done₂, patience]
  | case8 fuel before done first y second patience kept m done₁ x hone kept₂ n done₂ second₁
      hmany hrest =>
      have hkept : gallop (fun b => !lt (f y) b) (first.map f).reverse ((first.map f).length - 1)
          = kept := gallopBack_images f _ first
      have hm : (first.map f).length - kept = m := by rw [List.length_map]
      have hfirst : (first.map f).drop m = [x].map f := drop_images f hrest
      have hkept₂ : gallop (fun b => lt b (f x)) (second.map f).reverse
          ((second.map f).length - 1) = kept₂ := gallopBack_images f _ second
      have hn : (second.map f).length - kept₂ = n := by rw [List.length_map]
      have hsecond : (second.map f).drop n = second₁.map f := drop_images f rfl
      rw [List.map_cons, backward, hkept, hm, hfirst]
      simp only [List.map_cons, List.map_nil, List.length_map] at hn hkept₂ ⊢
      -- Neither of the two lists is down to its last item.
      simp only [hone, if_false, hkept₂, hn, hsecond, List.length_map, hmany]
      simp_all [done₁, done₂, patience]
  | case9 fuel before done first y second patience kept m done₁ x others hrest hone kept₂ n
      done₂ second₁ hmany hne pace next hpace ih =>
      have hkept : gallop (fun b => !lt (f y) b) (first.map f).reverse ((first.map f).length - 1)
          = kept := gallopBack_images f _ first
      have hm : (first.map f).length - kept = m := by rw [List.length_map]
      have hfirst : (first.map f).drop m = (x :: others).map f := drop_images f hrest
      have hkept₂ : gallop (fun b => lt b (f x)) (second.map f).reverse
          ((second.map f).length - 1) = kept₂ := gallopBack_images f _ second
      have hn : (second.map f).length - kept₂ = n := by rw [List.length_map]
      have hsecond : (second.map f).drop n = second₁.map f := drop_images f rfl
      rw [List.map_cons, backward, hkept, hm, hfirst]
      simp only [List.map_cons, List.length_map] at hn hkept₂ ⊢
      simp only [hone, if_false, hkept₂, hn, hsecond, List.length_map, hmany]
      simp_all [done₁, done₂, patience]
  | case10 fuel pace patience done first second hwalk hgallop =>
      cases fuel with
      | zero => simp [backward]
      | succ fuel =>
          cases second with
          | nil => cases pace <;> simp [backward]
          | cons y second =>
              cases pace with
              | galloping => exact absurd rfl (hgallop fuel y second rfl rfl)
              | walking m n =>
                  cases first with
                  | nil => simp [backward]
                  | cons x first => exact absurd rfl (hwalk fuel m n x first y second rfl rfl rfl)

theorem mergeForward_images (patience : Nat) (first second : List α) :
    mergeForward lt patience (first.map f) (second.map f)
      = Prod.map (List.map f) id
        (mergeForward (fun a b => lt (f a) (f b)) patience first second) := by
  cases second with
  | nil => rfl
  | cons y others =>
      have hloop := forward_images f lt (first.length + (y :: others).length) (.walking 0 0)
        patience [y] first others
      simp only [mergeForward, List.map_cons, List.map_nil, List.length_map, List.length_cons,
        List.map_eq_nil_iff] at hloop ⊢
      split_ifs <;> simp [hloop]

theorem mergeBackward_images (patience : Nat) (first second : List α) :
    mergeBackward lt patience (first.map f) (second.map f)
      = Prod.map (List.map f) id
        (mergeBackward (fun a b => lt (f a) (f b)) patience first second) := by
  rw [mergeBackward, mergeBackward, ← List.map_reverse]
  cases first.reverse with
  | nil => rfl
  | cons x others =>
      have hloop := backward_images f lt (first.length + second.length) (.walking 0 0) patience
        [x] others second.reverse
      simp only [List.map_cons, List.map_nil, List.length_map, List.map_eq_nil_iff,
        List.map_reverse] at hloop ⊢
      split_ifs <;> simp [hloop]

/-- Merging images. -/
theorem merge_images (patience : Nat) (first second : List α) :
    merge lt patience (first.map f) (second.map f)
      = Prod.map (List.map f) id (merge (fun a b => lt (f a) (f b)) patience first second) := by
  cases second with
  | nil => rfl
  | cons y second =>
      rw [List.map_cons, merge, merge, gallop_images]
      dsimp only
      generalize gallop (fun a => !lt (f y) (f a)) first 0 = placed
      rw [← List.map_drop, List.getLast?_map]
      cases (first.drop placed).getLast? with
      | none => simp
      | some x =>
          rw [Option.map_some]
          dsimp only
          rw [← List.map_cons, gallop_images, List.length_map]
          generalize gallop (fun a => lt (f a) (f x)) (y :: second) _ = moving
          simp only [← List.map_take, ← List.map_drop, mergeForward_images, mergeBackward_images,
            List.length_map]
          split_ifs <;> simp

end Merging

section Sorting

variable (lt : β → β → Bool)

theorem risingRun_images (last : α) (items : List α) :
    risingRun lt (f last) (items.map f)
      = Prod.map (List.map f) (List.map f) (risingRun (fun a b => lt (f a) (f b)) last items) := by
  induction items generalizing last with
  | nil => rfl
  | cons x rest ih =>
      rw [List.map_cons, risingRun, risingRun, ih x]
      split_ifs <;> rfl

theorem fallingRun_images (last : α) (items : List α) :
    fallingRun lt (f last) (items.map f)
      = Prod.map (List.map f) (List.map f) (fallingRun (fun a b => lt (f a) (f b)) last items) := by
  induction items generalizing last with
  | nil => rfl
  | cons x rest ih =>
      rw [List.map_cons, fallingRun, fallingRun, ih x]
      split_ifs <;> rfl

theorem leadingRun_images (items : List α) :
    leadingRun lt (items.map f)
      = Prod.map (List.map f) (List.map f) (leadingRun (fun a b => lt (f a) (f b)) items) := by
  match items with
  | [] => rfl
  | [x] => rfl
  | x :: y :: rest =>
      simp only [List.map_cons, leadingRun, risingRun_images, fallingRun_images]
      split_ifs <;> simp

theorem insertSorted_images (sorted : List α) (x : α) :
    insertSorted lt (sorted.map f) (f x)
      = (insertSorted (fun a b => lt (f a) (f b)) sorted x).map f := by
  simp only [insertSorted, insertionPoint, bisect_images, List.length_map, List.map_append,
    List.map_cons, List.map_take, List.map_drop]

theorem insertAll_images (items sorted : List α) :
    (items.map f).foldl (insertSorted lt) (sorted.map f)
      = (items.foldl (insertSorted fun a b => lt (f a) (f b)) sorted).map f := by
  induction items generalizing sorted with
  | nil => rfl
  | cons x items ih => rw [List.map_cons, List.foldl_cons, List.foldl_cons, insertSorted_images, ih]

/-- The run of images. -/
def Run.image (run : Run α) : Run β :=
  { start := run.start, items := run.items.map f, depth := run.depth }

theorem boundaryDepth_images (size : Nat) (run next : Run α) :
    boundaryDepth size (run.image f) (next.image f) = boundaryDepth size run next := by
  simp only [boundaryDepth, Run.image, List.length_map]

theorem mergeDeeper_images (depth : Nat) (runs : List (Run α)) (patience : Nat) :
    mergeDeeper lt depth (runs.map (Run.image f)) patience
      = Prod.map (List.map (Run.image f)) id
        (mergeDeeper (fun a b => lt (f a) (f b)) depth runs patience) := by
  fun_induction mergeDeeper (fun a b => lt (f a) (f b)) depth runs patience with
  | case1 last before rest patience hdeeper items next hmerge ih =>
      have himages := merge_images f lt patience before.items last.items
      rw [hmerge] at himages
      rw [← ih, List.map_cons, List.map_cons, mergeDeeper]
      simp only [Run.image, hdeeper, himages, if_true, Prod.map_apply, List.map_cons, id]
  | case2 last before rest patience hflat =>
      rw [List.map_cons, List.map_cons, mergeDeeper]
      exact if_neg hflat
  | case3 runs patience hfew =>
      rcases runs with _ | ⟨last, _ | ⟨before, rest⟩⟩
      · simp [mergeDeeper]
      · simp [mergeDeeper]
      · exact absurd rfl (hfew last before rest)

/-- Waiting runs of images. -/
def Merges.image (m : Merges α) : Merges β :=
  { runs := m.runs.map (Run.image f), patience := m.patience }

theorem push_images (size : Nat) (m : Merges α) (run : Run α) :
    (m.image f).push lt size (run.image f)
      = (m.push (fun a b => lt (f a) (f b)) size run).image f := by
  rcases m with ⟨_ | ⟨last, rest⟩, patience⟩
  · rfl
  · have hdeeper := mergeDeeper_images f lt (boundaryDepth size last run) (last :: rest) patience
    rw [Merges.push.eq_def, Merges.push.eq_def]
    simp only [Merges.image, List.map_cons, boundaryDepth_images] at hdeeper ⊢
    rw [hdeeper]
    rcases mergeDeeper _ (boundaryDepth size last run) (last :: rest) patience with ⟨_ | _, _⟩ <;>
      rfl

theorem mergeAll_images (runs : List (Run α)) (patience : Nat) :
    mergeAll lt (runs.map (Run.image f)) patience
      = (mergeAll (fun a b => lt (f a) (f b)) runs patience).map f := by
  fun_induction mergeAll (fun a b => lt (f a) (f b)) runs patience with
  | case1 => simp [mergeAll]
  | case2 => simp [mergeAll, Run.image]
  | case3 last before patience =>
      simp [mergeAll, Run.image, merge_images]
  | case4 last middle first rest patience hshorter items next hmerge ih =>
      have himages := merge_images f lt patience first.items middle.items
      rw [hmerge] at himages
      rw [← ih]
      simp only [List.map_cons, mergeAll, Run.image, List.length_map, hshorter, if_true, himages,
        Prod.map_apply, id]
  | case5 last middle first rest patience hlonger items next hmerge ih =>
      have himages := merge_images f lt patience middle.items last.items
      rw [hmerge] at himages
      rw [← ih]
      simp only [List.map_cons, mergeAll, Run.image, List.length_map, hlonger, if_false, himages,
        Prod.map_apply, id]

theorem sortFrom_images (size fuel start : Nat) (items : List α) (m : Merges α) :
    sortFrom lt size fuel start (items.map f) (m.image f)
      = (sortFrom (fun a b => lt (f a) (f b)) size fuel start items m).map f := by
  induction fuel generalizing start items m with
  | zero =>
      rw [sortFrom, sortFrom]
      exact mergeAll_images f lt m.runs m.patience
  | succ fuel ih =>
      cases items with
      | nil => exact mergeAll_images f lt m.runs m.patience
      | cons x items =>
          rw [sortFrom, sortFrom, leadingRun_images]
          · rcases leadingRun (fun a b => lt (f a) (f b)) (x :: items) with ⟨run, others⟩
            simp only [Prod.map_apply, List.length_map, ← List.map_take, ← List.map_drop,
              insertAll_images]
            rw [← ih, ← push_images]
            rfl
          · simp
          · simp

/-- Sorting images sorts the items by how their images compare. -/
theorem sort_images (items : List α) :
    sort lt (items.map f) = (sort (fun a b => lt (f a) (f b)) items).map f := by
  rw [sort, sort, List.length_map]
  exact sortFrom_images f lt items.length items.length 0 items {}

/-- Sorting images by a key sorts the items by the key of their images. -/
theorem sortOn_images (before : κ → κ → Bool) (key : β → κ) (items : List α) :
    sortOn before key (items.map f) = (sortOn before (fun a => key (f a)) items).map f :=
  sort_images f (fun a b => before (key a) (key b)) items

end Sorting

end Letterpress.Layout
