import Letterpress.Layout.Row
import Letterpress.Layout.Sorting
import Letterpress.Proofs.Session
import Mathlib.Tactic.Common

/-!
# Sorting Loses Nothing

Sorting keeps the items of a list, whatever it is told about their order. Scalars need
not be in any order: comparisons with something that is not a number are all false. The
sorted list may then be in disorder, but every item is in it as often as before.

Items are counted by a test. All that merging does is cutting lists in two and putting
the parts together again, so counts add up.

## Theorems

* `forward_count`, `backward_count`, `merge_count`: Merging keeps all items.
* `sort_count`, `sort_perm`: Sorting keeps all items.
* `mem_sortOn`, `mem_bucketRows`: The items of a sorted list and of rows.
* `bucketRows_nonempty`: No row is empty, and there are rows if there are items.
-/

namespace Letterpress.Layout

variable {α : Type} (lt : α → α → Bool) (p : α → Bool)

theorem count_cut (n : Nat) (items : List α) :
    items.countP p = (items.take n).countP p + (items.drop n).countP p := by
  rw [← List.countP_append, List.take_append_drop]

/-- The count of a list that is cut before some items. -/
theorem count_before {n : Nat} {items rest : List α} (h : items.drop n = rest) :
    items.countP p = (items.take n).countP p + rest.countP p := by
  rw [count_cut p n items, h]

/-- Merging from the front keeps all items. -/
theorem forward_count (fuel : Nat) (pace : Pace) (patience : Nat)
    (done first second : List α) :
    (forward lt fuel pace patience done first second).1.countP p
      = done.countP p + first.countP p + second.countP p := by
  fun_induction forward lt fuel pace patience done first second with
  -- One list has run out, so that the loop ends.
  | case1 | case3 =>
      simp only [List.countP_append, List.countP_reverse, List.countP_cons, List.countP_nil]
      omega
  | case10 => simp only [List.countP_append, List.countP_reverse]
  -- After one comparison the count is that of the rest of the loop.
  | case2 | case4 =>
      simp_all only [List.countP_cons]
      omega
  -- From here on the merge gallops: every list it takes from is cut in two.
  | case5 fuel before done first y second patience m done₁ first₁ hone =>
      have hfirst := count_cut p m first
      simp only [List.countP_append, List.countP_reverse, List.countP_cons, done₁, first₁]
      omega
  | case6 fuel before done first y second patience m done₁ first₁ hmany hempty =>
      have hfirst := count_before p hempty
      simp only [List.countP_append, List.countP_reverse, List.countP_cons, List.countP_nil,
        done₁] at hfirst ⊢
      omega
  | case7 fuel before done first y second patience m done₁ first₁ hmany x others hrest n done₂
      second₁ hempty =>
      have hfirst := count_before p hrest
      have hsecond := count_before p hempty
      simp only [List.countP_append, List.countP_reverse, List.countP_cons, List.countP_nil,
        done₂, done₁] at hfirst hsecond ⊢
      omega
  | case8 fuel before done first y second patience m done₁ first₁ hmany x others hrest n done₂
      second₁ hne hone =>
      have hfirst := count_before p hrest
      have hsecond := count_cut p n second
      simp only [List.countP_append, List.countP_reverse, List.countP_cons, done₂, done₁,
        second₁] at hfirst hsecond ⊢
      omega
  | case9 fuel before done first y second patience m done₁ first₁ hmany x others hrest n done₂
      second₁ hne hmore pace next hpace ih =>
      have hfirst := count_before p hrest
      have hsecond := count_cut p n second
      rw [ih]
      simp only [List.countP_append, List.countP_reverse, List.countP_cons, done₂, done₁,
        second₁] at hfirst hsecond ⊢
      omega

/-- Merging from the back keeps all items. -/
theorem backward_count (fuel : Nat) (pace : Pace) (patience : Nat)
    (done first second : List α) :
    (backward lt fuel pace patience done first second).1.countP p
      = done.countP p + first.countP p + second.countP p := by
  fun_induction backward lt fuel pace patience done first second with
  | case1 | case3 | case10 =>
      simp only [List.countP_append, List.countP_reverse, List.countP_cons, List.countP_nil]
      omega
  | case2 | case4 =>
      simp_all only [List.countP_cons]
      omega
  -- From here on the merge gallops: every list it takes from is cut in two.
  | case5 fuel before done first y second patience kept m done₁ hempty =>
      have hfirst := count_before p hempty
      simp only [List.countP_append, List.countP_reverse, List.countP_cons, List.countP_nil,
        done₁] at hfirst ⊢
      omega
  | case6 fuel before done first y second patience kept m done₁ x others hrest hone =>
      have hfirst := count_before p hrest
      simp only [List.countP_append, List.countP_reverse, List.countP_cons, done₁] at hfirst ⊢
      omega
  | case7 fuel before done first y second patience kept m done₁ x others hrest hone kept₂ n
      done₂ second₁ hfew =>
      have hfirst := count_before p hrest
      have hsecond := count_cut p n second
      simp only [List.countP_append, List.countP_reverse, List.countP_cons, done₂, done₁,
        second₁] at hfirst hsecond ⊢
      omega
  | case8 fuel before done first y second patience kept m done₁ x hone kept₂ n done₂ second₁
      hmany hrest =>
      have hfirst := count_before p hrest
      have hsecond := count_cut p n second
      simp only [List.countP_append, List.countP_reverse, List.countP_cons, List.countP_nil,
        done₂, done₁, second₁] at hfirst hsecond ⊢
      omega
  | case9 fuel before done first y second patience kept m done₁ x others hrest hone kept₂ n
      done₂ second₁ hmany hne pace next hpace ih =>
      have hfirst := count_before p hrest
      have hsecond := count_cut p n second
      rw [ih]
      simp only [List.countP_append, List.countP_reverse, List.countP_cons, done₂, done₁,
        second₁] at hfirst hsecond ⊢
      omega

theorem mergeForward_count (patience : Nat) (first second : List α) :
    (mergeForward lt patience first second).1.countP p
      = first.countP p + second.countP p := by
  rw [mergeForward.eq_def]
  cases second with
  | nil => simp
  | cons y others =>
      simp only
      split
      · rename_i hempty
        simp only [hempty, List.countP_cons, List.countP_nil]
        omega
      · split
        · simp only [List.countP_append]
          omega
        · rw [forward_count]
          simp only [List.countP_cons, List.countP_nil]
          omega

theorem mergeBackward_count (patience : Nat) (first second : List α) :
    (mergeBackward lt patience first second).1.countP p
      = first.countP p + second.countP p := by
  have hreverse : first.reverse.countP p = first.countP p := List.countP_reverse
  rw [mergeBackward]
  cases hlist : first.reverse with
  | nil =>
      rw [List.reverse_eq_nil_iff.mp hlist]
      simp
  | cons x others =>
      rw [hlist, List.countP_cons] at hreverse
      simp only
      -- The loop runs only if neither list is used up by the first move.
      split
      · rename_i hempty
        simp only [hempty, List.countP_nil, List.countP_append, List.countP_cons] at hreverse ⊢
        omega
      · split
        · simp only [List.countP_append]
          omega
        · rw [backward_count]
          simp only [List.countP_cons, List.countP_nil, List.countP_reverse]
          omega

/-- Merging keeps all items. -/
theorem merge_count (patience : Nat) (first second : List α) :
    (merge lt patience first second).1.countP p = first.countP p + second.countP p := by
  rw [merge.eq_def]
  cases second with
  | nil => simp
  | cons y second =>
      simp only
      split
      · simp only [List.countP_append]
      · split
        · simp only [List.countP_append]
        · -- What both gallops leave out is not merged, but put around the rest.
          have hfirst := count_cut p (gallop (fun x => !lt y x) first 0) first
          rename_i x _ _
          have hsecond := count_cut p (gallop (fun z => lt z x) (y :: second)
            ((y :: second).length - 1)) (y :: second)
          split
          · simp only [List.countP_append, mergeForward_count]
            omega
          · simp only [List.countP_append, mergeBackward_count]
            omega

theorem risingRun_count (last : α) (items : List α) :
    (risingRun lt last items).1.countP p + (risingRun lt last items).2.countP p
      = items.countP p := by
  fun_induction risingRun lt last items with
  | case1 => rfl
  | case2 => simp only [List.countP_nil, Nat.zero_add]
  | case3 last x rest hless run others hrun ih =>
      rw [hrun] at ih
      simp only [List.countP_cons] at ih ⊢
      omega

theorem fallingRun_count (last : α) (items : List α) :
    (fallingRun lt last items).1.countP p + (fallingRun lt last items).2.countP p
      = items.countP p := by
  fun_induction fallingRun lt last items with
  | case1 => rfl
  | case2 last x rest hless run others hrun ih =>
      rw [hrun] at ih
      simp only [List.countP_cons] at ih ⊢
      omega
  | case3 => simp only [List.countP_nil, Nat.zero_add]

theorem leadingRun_count (items : List α) :
    (leadingRun lt items).1.countP p + (leadingRun lt items).2.countP p = items.countP p := by
  rw [leadingRun.eq_def]
  split
  · rfl
  · rfl
  · rename_i x y rest
    split
    · have hrun := fallingRun_count lt p y rest
      simp only [List.countP_reverse, List.countP_cons] at hrun ⊢
      omega
    · have hrun := risingRun_count lt p y rest
      simp only [List.countP_cons] at hrun ⊢
      omega

theorem insertSorted_count (sorted : List α) (x : α) :
    (insertSorted lt sorted x).countP p = sorted.countP p + [x].countP p := by
  have hsorted := count_cut p (insertionPoint lt x sorted) sorted
  simp only [insertSorted, List.countP_append, List.countP_cons, List.countP_nil]
  omega

theorem insertAll_count (items sorted : List α) :
    (items.foldl (insertSorted lt) sorted).countP p = sorted.countP p + items.countP p := by
  induction items generalizing sorted with
  | nil => rfl
  | cons x items ih =>
      rw [List.foldl_cons, ih, insertSorted_count]
      simp only [List.countP_cons, List.countP_nil]
      omega

/-- The count over all runs. -/
def countRuns : List (Run α) → Nat
  | [] => 0
  | run :: runs => run.items.countP p + countRuns runs

theorem countRuns_cons (run : Run α) (runs : List (Run α)) :
    countRuns p (run :: runs) = run.items.countP p + countRuns p runs :=
  rfl

theorem countRuns_nil : countRuns p ([] : List (Run α)) = 0 :=
  rfl

theorem mergeDeeper_count (depth : Nat) (runs : List (Run α)) (patience : Nat) :
    countRuns p (mergeDeeper lt depth runs patience).1 = countRuns p runs := by
  fun_induction mergeDeeper lt depth runs patience with
  | case1 last before rest patience hdeeper items next hmerge ih =>
      have hitems := merge_count lt p patience before.items last.items
      rw [hmerge] at hitems
      rw [ih]
      simp only [countRuns_cons] at hitems ⊢
      omega
  | case2 => rfl
  | case3 => rfl

theorem push_count (size : Nat) (m : Merges α) (run : Run α) :
    countRuns p (m.push lt size run).runs = run.items.countP p + countRuns p m.runs := by
  rcases m with ⟨runs, patience⟩
  rw [Merges.push.eq_def]
  cases runs with
  | nil => exact countRuns_cons p run []
  | cons last rest =>
      have hruns := mergeDeeper_count lt p (boundaryDepth size last run) (last :: rest) patience
      simp only
      split
      · rename_i top others next hdeeper
        rw [hdeeper] at hruns
        simp only [countRuns_cons] at hruns ⊢
        omega
      · rename_i next hdeeper
        rw [hdeeper] at hruns
        rw [← hruns]
        exact countRuns_cons p run []

theorem mergeAll_count (runs : List (Run α)) (patience : Nat) :
    (mergeAll lt runs patience).countP p = countRuns p runs := by
  fun_induction mergeAll lt runs patience with
  | case1 => rfl
  | case2 => simp [countRuns]
  | case3 =>
      simp only [merge_count, countRuns_cons, countRuns_nil]
      omega
  | case4 last middle first rest patience hshorter items next hmerge ih =>
      have hitems := merge_count lt p patience first.items middle.items
      rw [hmerge] at hitems
      rw [ih]
      simp only [countRuns_cons] at hitems ⊢
      omega
  | case5 last middle first rest patience hlonger items next hmerge ih =>
      have hitems := merge_count lt p patience middle.items last.items
      rw [hmerge] at hitems
      rw [ih]
      simp only [countRuns_cons] at hitems ⊢
      omega

/-- A list has a leading run unless it is empty. -/
theorem leadingRun_shorter {items : List α} (h : items ≠ []) :
    (leadingRun lt items).2.length < items.length := by
  have hlength := leadingRun_count lt (fun _ => true) items
  simp only [List.countP_true] at hlength
  -- A run holds at least the item it starts with.
  have hne : (leadingRun lt items).1 ≠ [] := by
    rw [leadingRun.eq_def]
    split
    · exact absurd rfl h
    · exact List.cons_ne_nil _ _
    · split
      · simp
      · exact List.cons_ne_nil _ _
  have hpositive := List.length_pos_iff.mpr hne
  omega

theorem sortFrom_count (size fuel start : Nat) (items : List α) (m : Merges α)
    (hfuel : items.length ≤ fuel) :
    (sortFrom lt size fuel start items m).countP p = items.countP p + countRuns p m.runs := by
  induction fuel generalizing start items m with
  | zero =>
      rw [List.eq_nil_of_length_eq_zero (Nat.le_zero.mp hfuel), sortFrom, mergeAll_count,
        List.countP_nil, Nat.zero_add]
  | succ fuel ih =>
      by_cases hempty : items = []
      · rw [hempty, sortFrom]
        · rw [mergeAll_count, List.countP_nil, Nat.zero_add]
        · simp
      · have hshorter := leadingRun_shorter lt hempty
        have hcount := leadingRun_count lt p items
        rcases hlead : leadingRun lt items with ⟨run, others⟩
        rw [hlead] at hshorter hcount
        rw [sortFrom, hlead]
        · dsimp only at hshorter hcount ⊢
          -- How long a run is made does not matter.
          generalize leastRun size - run.length = missing
          have hothers := count_cut p missing others
          rw [ih, push_count, insertAll_count]
          · omega
          · rw [List.length_drop]
            omega
        · exact hempty

/-- Sorting keeps all items. -/
theorem sort_count (items : List α) : (sort lt items).countP p = items.countP p := by
  rw [sort, sortFrom_count lt p items.length items.length 0 items {} (Nat.le_refl _),
    countRuns_nil, Nat.add_zero]

/-- Sorting keeps the items, whatever the comparison is. -/
theorem sort_perm (items : List α) : (sort lt items).Perm items := by
  classical
  exact List.perm_iff_count.mpr fun a => sort_count lt (· == a) items

theorem mem_sort {items : List α} {x : α} (h : x ∈ sort lt items) : x ∈ items :=
  (sort_perm lt items).subset h

/-- The items of a sorted list are those of the list. -/
theorem mem_sortOn {κ : Type} {lt : κ → κ → Bool} {key : α → κ} {items : List α} {x : α}
    (h : x ∈ sortOn lt key items) : x ∈ items :=
  mem_sort _ h

section Buckets

variable {K : Type} [Scalar K]

theorem mem_addToBucket {number : Int} {item : α} {buckets : List (Int × List α)}
    {bucket : Int × List α} (h : bucket ∈ addToBucket number item buckets) {x : α}
    (hx : x ∈ bucket.2) : x = item ∨ ∃ b ∈ buckets, x ∈ b.2 := by
  induction buckets with
  | nil =>
      rw [addToBucket, List.mem_singleton] at h
      rw [h] at hx
      exact Or.inl (List.mem_singleton.mp hx)
  | cons b buckets ih =>
      rcases b with ⟨n, members⟩
      rw [addToBucket] at h
      split at h
      · rcases List.mem_cons.mp h with rfl | hmem
        · rcases List.mem_append.mp hx with hold | hnew
          · exact Or.inr ⟨_, List.mem_cons_self, hold⟩
          · exact Or.inl (List.mem_singleton.mp hnew)
        · exact Or.inr ⟨_, List.mem_cons_of_mem _ hmem, hx⟩
      · rcases List.mem_cons.mp h with rfl | hmem
        · exact Or.inr ⟨_, List.mem_cons_self, hx⟩
        · rcases ih hmem with hitem | ⟨b, hb, hmem⟩
          · exact Or.inl hitem
          · exact Or.inr ⟨b, List.mem_cons_of_mem _ hb, hmem⟩

theorem mem_fillBuckets {e : Extent α K} {granularity : K} {items : List α}
    {buckets filled : List (Int × List α)}
    (h : fillBuckets e granularity items buckets = .ok filled) {bucket : Int × List α}
    (hbucket : bucket ∈ filled) {x : α} (hx : x ∈ bucket.2) :
    x ∈ items ∨ ∃ b ∈ buckets, x ∈ b.2 := by
  induction items generalizing buckets with
  | nil =>
      rw [fillBuckets, except_pure_ok] at h
      rw [h]
      exact Or.inr ⟨bucket, hbucket, hx⟩
  | cons item items ih =>
      rw [fillBuckets, except_bind_ok] at h
      rcases h with ⟨number, -, h⟩
      rcases ih h with hmem | ⟨b, hb, hmem⟩
      · exact Or.inl (List.mem_cons_of_mem item hmem)
      · rcases mem_addToBucket hb hmem with rfl | hold
        · exact Or.inl List.mem_cons_self
        · exact Or.inr hold

/-- The items of rows are those of the list. -/
theorem mem_bucketRows {e : Extent α K} {granularity : K} {items : List α}
    {rows : List (List α)} (h : bucketRows e granularity items = .ok rows) {row : List α}
    (hrow : row ∈ rows) {x : α} (hx : x ∈ row) : x ∈ items := by
  rw [bucketRows, except_bind_ok] at h
  rcases h with ⟨buckets, hbuckets, h⟩
  rw [except_pure_ok] at h
  rw [← h] at hrow
  rcases List.mem_map.mp hrow with ⟨members, hmembers, rfl⟩
  rcases List.mem_map.mp (mem_sort _ hmembers) with ⟨bucket, hbucket, rfl⟩
  rcases mem_fillBuckets hbuckets hbucket (mem_sortOn hx) with hmem | ⟨b, hb, -⟩
  · exact hmem
  · exact absurd hb List.not_mem_nil

theorem addToBucket_nonempty (n : Int) (item : α) {buckets : List (Int × List α)}
    (h : ∀ b ∈ buckets, b.2 ≠ []) : ∀ b ∈ addToBucket n item buckets, b.2 ≠ [] := by
  induction buckets with
  | nil => simp [addToBucket]
  | cons b rest ih =>
      rcases b with ⟨m, members⟩
      rw [List.forall_mem_cons] at h
      rw [addToBucket]
      split
      · exact List.forall_mem_cons.mpr ⟨by simp, h.2⟩
      · exact List.forall_mem_cons.mpr ⟨h.1, ih h.2⟩

theorem fillBuckets_nonempty {e : Extent α K} {granularity : K} {items : List α}
    {buckets filled : List (Int × List α)}
    (h : fillBuckets e granularity items buckets = .ok filled)
    (hbuckets : ∀ b ∈ buckets, b.2 ≠ []) :
    (∀ b ∈ filled, b.2 ≠ []) ∧ (items ≠ [] ∨ buckets ≠ [] → filled ≠ []) := by
  induction items generalizing buckets with
  | nil =>
      rw [fillBuckets, except_pure_ok] at h
      rw [← h]
      exact ⟨hbuckets, fun hne => hne.resolve_left fun hnil => hnil rfl⟩
  | cons item items ih =>
      rw [fillBuckets, except_bind_ok] at h
      rcases h with ⟨number, -, h⟩
      rcases ih h (addToBucket_nonempty number item hbuckets) with ⟨hmembers, hne⟩
      -- The item is in some bucket now, and none is taken away again.
      have hopened : addToBucket number item buckets ≠ [] := by
        rcases buckets with _ | ⟨⟨n, members⟩, rest⟩
        · exact List.cons_ne_nil _ _
        · rw [addToBucket]
          split <;> exact List.cons_ne_nil _ _
      exact ⟨hmembers, fun _ => hne (.inr hopened)⟩

/-- No row is empty, and there are rows if there are items. -/
theorem bucketRows_nonempty {e : Extent α K} {granularity : K} {items : List α}
    {rows : List (List α)} (h : bucketRows e granularity items = .ok rows) :
    (∀ row ∈ rows, row ≠ []) ∧ (items ≠ [] → rows ≠ []) := by
  rw [bucketRows, except_bind_ok] at h
  rcases h with ⟨buckets, hbuckets, h⟩
  rw [except_pure_ok] at h
  rcases fillBuckets_nonempty hbuckets (by simp) with ⟨hmembers, hne⟩
  -- Sorting changes no length.
  constructor
  · intro row hrow
    rw [← h] at hrow
    rcases List.mem_map.mp hrow with ⟨members, hmem, rfl⟩
    rcases List.mem_map.mp (mem_sort _ hmem) with ⟨bucket, hbucket, rfl⟩
    rw [← List.length_pos_iff, sortOn, (sort_perm _ _).length_eq, List.length_pos_iff]
    exact hmembers bucket hbucket
  · intro hitems
    rw [← h, ← List.length_pos_iff, List.length_map, (sort_perm _ _).length_eq, List.length_map,
      List.length_pos_iff]
    exact hne (.inl hitems)

end Buckets

end Letterpress.Layout
