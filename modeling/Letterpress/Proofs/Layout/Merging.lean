import Letterpress.Proofs.Layout.Galloping
import Letterpress.Proofs.Layout.Stability

/-!
# Merging Is Stable

Two ordered lists merge into the stable sort of the one followed by the other,
whether items are compared one by one or the merge gallops, and whether it runs
from the front or from the back.

Every branch of the two loops moves a block of one list to the end of the result
where it belongs. `StablySorted.before` and `StablySorted.after` are these moves:
a block of items that nothing left is less than goes in front, a block that is
less than nothing left goes behind. How long the blocks are, and so how patient
the merge is, does not matter.

Both loops rely on what the caller knows about the ends of the lists. Merging from
the front stops when one item of the first list is left, since the last item of
that list is greater than all of the second; merging from the back stops when one
item of the second list is left, since its first item is less than all of the
first.

## Theorems

* `StablySorted.before`, `StablySorted.after`: A block joins a stable sort.
* `forward_stable`, `backward_stable`: The two loops.
* `merge_stable`: Merging is stable.
-/

namespace Letterpress.Layout

variable {α : Type} {lt : α → α → Bool}

theorem StablySorted.of_rearranges {l l' m : List α} (hl : Rearranges lt l l')
    (hm : StablySorted lt l' m) : StablySorted lt l m :=
  ⟨hl.trans hm.rearranges, hm.ordered⟩

theorem stablySorted_of_ordered {items : List α} (h : Ordered lt items) :
    StablySorted lt items items :=
  ⟨rearranges_refl items, h⟩

/-- A block that nothing else is less than goes in front. -/
theorem StablySorted.before {l m block : List α} (hm : StablySorted lt l m)
    (hblock : Ordered lt block) (hle : ∀ x ∈ block, ∀ z ∈ l, lt z x = false) :
    StablySorted lt (block ++ l) (block ++ m) := by
  refine ⟨Rearranges.append (rearranges_refl block) hm.rearranges, ?_⟩
  rw [ordered_append]
  refine ⟨hblock, hm.ordered, fun x hx z hz => hle x hx z ?_⟩
  exact hm.rearranges.perm.symm.subset hz

/-- A block that is less than nothing else goes behind. -/
theorem StablySorted.after {l m block : List α} (hm : StablySorted lt l m)
    (hblock : Ordered lt block) (hle : ∀ z ∈ l, ∀ x ∈ block, lt x z = false) :
    StablySorted lt (l ++ block) (m ++ block) := by
  refine ⟨Rearranges.append hm.rearranges (rearranges_refl block), ?_⟩
  rw [ordered_append]
  refine ⟨hm.ordered, hblock, fun z hz x hx => hle z ?_ x hx⟩
  exact hm.rearranges.perm.symm.subset hz

/-- The second list passes the whole first list. -/
theorem stablySorted_swap (h : IsStrictWeak lt) {first second : List α} (hf : Ordered lt first)
    (hs : Ordered lt second) (hless : ∀ x ∈ first, ∀ y ∈ second, lt y x = true) :
    StablySorted lt (first ++ second) (second ++ first) := by
  refine ⟨rearranges_swap h first second hless, ?_⟩
  rw [ordered_append]
  exact ⟨hs, hf, fun y hy x hx => h.asymm _ _ (hless x hx y hy)⟩

/-- The front of the second list passes the whole first list. -/
theorem StablySorted.takeSecond (h : IsStrictWeak lt) {first block rest m : List α}
    (hm : StablySorted lt (first ++ rest) m) (hblock : Ordered lt (block ++ rest))
    (hless : ∀ x ∈ first, ∀ y ∈ block, lt y x = true) :
    StablySorted lt (first ++ (block ++ rest)) (block ++ m) := by
  rw [ordered_append] at hblock
  have hswap : Rearranges lt (first ++ (block ++ rest)) (block ++ (first ++ rest)) := by
    rw [← List.append_assoc, ← List.append_assoc]
    exact (rearranges_swap h first block hless).append (rearranges_refl rest)
  -- The block is in front now, where nothing left is less than anything in it.
  refine StablySorted.of_rearranges hswap (hm.before hblock.1 fun y hy z hz => ?_)
  rcases List.mem_append.mp hz with hfirst | hrest
  · exact h.asymm _ _ (hless z hfirst y hy)
  · exact hblock.2.2 y hy z hrest

/-- The front of the first list stays where it is. -/
theorem StablySorted.takeFirst {block rest second m : List α}
    (hm : StablySorted lt (rest ++ second) m) (hblock : Ordered lt (block ++ rest))
    (hle : ∀ x ∈ block, ∀ y ∈ second, lt y x = false) :
    StablySorted lt (block ++ rest ++ second) (block ++ m) := by
  rw [ordered_append] at hblock
  rw [List.append_assoc]
  refine hm.before hblock.1 fun x hx z hz => ?_
  rcases List.mem_append.mp hz with hrest | hsecond
  · exact hblock.2.2 x hx z hrest
  · exact hle x hx z hsecond

/-- The back of the first list passes the whole second list. -/
theorem StablySorted.takeFirstBack (h : IsStrictWeak lt) {rest block second m : List α}
    (hm : StablySorted lt (rest ++ second) m) (hblock : Ordered lt (rest ++ block))
    (hless : ∀ x ∈ block, ∀ y ∈ second, lt y x = true) :
    StablySorted lt (rest ++ block ++ second) (m ++ block) := by
  rw [ordered_append] at hblock
  have hswap : Rearranges lt (rest ++ block ++ second) (rest ++ second ++ block) := by
    rw [List.append_assoc, List.append_assoc]
    exact (rearranges_refl rest).append (rearranges_swap h block second hless)
  -- The block is behind now, where it is less than nothing left.
  refine StablySorted.of_rearranges hswap (hm.after hblock.2.1 fun z hz x hx => ?_)
  rcases List.mem_append.mp hz with hrest | hsecond
  · exact hblock.2.2 z hrest x hx
  · exact h.asymm _ _ (hless x hx z hsecond)

/-- The back of the second list stays where it is. -/
theorem StablySorted.takeSecondBack {first rest block m : List α}
    (hm : StablySorted lt (first ++ rest) m) (hblock : Ordered lt (rest ++ block))
    (hle : ∀ x ∈ first, ∀ y ∈ block, lt y x = false) :
    StablySorted lt (first ++ (rest ++ block)) (m ++ block) := by
  rw [ordered_append] at hblock
  rw [← List.append_assoc]
  refine hm.after hblock.2.1 fun z hz y hy => ?_
  rcases List.mem_append.mp hz with hfirst | hrest
  · exact hle z hfirst y hy
  · exact hblock.2.2 z hrest y hy

/-- Within an ordered list the items that are not above a bound come first. -/
theorem pairwise_notAbove (h : IsStrictWeak lt) {items : List α} (ho : Ordered lt items) (y : α) :
    items.Pairwise fun a b => (!lt y b) = true → (!lt y a) = true := by
  refine ho.imp fun {a b} hab hb => ?_
  rw [Bool.not_eq_true'] at hb ⊢
  exact h.le_trans hab hb

/-- Within an ordered list the items below a bound come first. -/
theorem pairwise_below (h : IsStrictWeak lt) {items : List α} (ho : Ordered lt items) (x : α) :
    items.Pairwise fun a b => lt b x = true → lt a x = true :=
  ho.imp fun hab hb => h.le_trans_lt hab hb

/-- What is less than the head of an ordered list is less than all of it. -/
theorem Ordered.above_head (h : IsStrictWeak lt) {x w : α} {rest : List α}
    (ho : Ordered lt (x :: rest)) (hw : lt w x = true) : ∀ z ∈ x :: rest, lt w z = true := by
  intro z hz
  rcases List.mem_cons.mp hz with rfl | hmem
  · exact hw
  · exact h.trans_le hw ((ordered_cons.mp ho).1 z hmem)

/-- If the head of an ordered list is not below a bound, nothing in the list is. -/
theorem Ordered.notBelow_head (h : IsStrictWeak lt) {y x : α} {rest : List α}
    (ho : Ordered lt (y :: rest)) (hy : lt y x = false) : ∀ w ∈ y :: rest, lt w x = false := by
  intro w hw
  rcases List.mem_cons.mp hw with rfl | hmem
  · exact hy
  · exact h.le_trans hy ((ordered_cons.mp ho).1 w hmem)

/-- If the last item of an ordered list is below a bound, all of the list is. -/
theorem Ordered.below_last (h : IsStrictWeak lt) {y x : α} {rest : List α}
    (ho : Ordered lt (rest ++ [y])) (hy : lt y x = true) : ∀ w ∈ rest ++ [y], lt w x = true := by
  intro w hw
  rcases List.mem_append.mp hw with hmem | hlast
  · exact h.le_trans_lt ((ordered_append.mp ho).2.2 w hmem y List.mem_cons_self) hy
  · rw [List.mem_singleton.mp hlast]
    exact hy

/-- What is not less than the last item of an ordered list is less than none of it. -/
theorem Ordered.notAbove_last (h : IsStrictWeak lt) {x w : α} {rest : List α}
    (ho : Ordered lt (rest ++ [x])) (hw : lt w x = false) : ∀ z ∈ rest ++ [x], lt w z = false := by
  intro z hz
  rcases List.mem_append.mp hz with hmem | hlast
  · exact h.le_trans ((ordered_append.mp ho).2.2 z hmem x List.mem_cons_self) hw
  · rw [List.mem_singleton.mp hlast]
    exact hw

/-- The last item of the first list is greater than everything in the second. -/
def LastAbove (lt : α → α → Bool) (first second : List α) : Prop :=
  ∀ x ∈ first.getLast?, ∀ y ∈ second, lt y x = true

theorem LastAbove.mono {first second second' : List α} (h : LastAbove lt first second)
    (hsub : ∀ y ∈ second', y ∈ second) : LastAbove lt first second' :=
  fun x hx y hy => h x hx y (hsub y hy)

/-- The last item stays the last when items in front of it go. -/
theorem LastAbove.of_append (front : List α) {back second : List α}
    (h : LastAbove lt (front ++ back) second) : LastAbove lt back second := by
  intro x hx y hy
  refine h x ?_ y hy
  rw [List.getLast?_append, Option.mem_def.mp hx]
  rfl

/-- A single item is the last one. -/
theorem LastAbove.all_of_length {first second : List α} (h : LastAbove lt first second)
    (hlen : first.length ≤ 1) : ∀ x ∈ first, ∀ y ∈ second, lt y x = true := by
  intro x hx y hy
  cases first with
  | nil => exact absurd hx List.not_mem_nil
  | cons z rest =>
      have hrest : rest = [] := List.eq_nil_of_length_eq_zero (by simpa using hlen)
      subst hrest
      rw [List.mem_singleton.mp hx]
      exact h z rfl y hy

/-- When one item of the first list is left, the second list passes it. -/
theorem LastAbove.swap (h : IsStrictWeak lt) {first second : List α}
    (hlast : LastAbove lt first second) (hlen : first.length ≤ 1) (hf : Ordered lt first)
    (hs : Ordered lt second) : StablySorted lt (first ++ second) (second ++ first) :=
  stablySorted_swap h hf hs (hlast.all_of_length hlen)

/-- What is said of the loop from the front, for the given fuel. -/
def ForwardStable (lt : α → α → Bool) (fuel : Nat) : Prop :=
  ∀ (pace : Pace) (patience : Nat) (done first second : List α),
    first.length + second.length ≤ fuel → Ordered lt first → Ordered lt second →
    LastAbove lt first second →
    ∃ m, (forward lt fuel pace patience done first second).1 = done.reverse ++ m ∧
      StablySorted lt (first ++ second) m

/-- One comparison of the loop from the front. -/
theorem forward_walking (h : IsStrictWeak lt) (fuel : Nat) (ih : ForwardStable lt fuel)
    (a b patience : Nat) (done first second : List α) (x y : α)
    (hfuel : first.length + second.length < fuel)
    (hf : Ordered lt (x :: first)) (hs : Ordered lt (y :: second))
    (hlast : LastAbove lt (x :: first) (y :: second)) :
    ∃ m, (forward lt (fuel + 1) (.walking a b) patience done (x :: first) (y :: second)).1
        = done.reverse ++ m ∧ StablySorted lt (x :: first ++ y :: second) m := by
  by_cases hyx : lt y x = true
  · -- The item of the second list passes the whole first list.
    have hless : ∀ z ∈ x :: first, ∀ w ∈ [y], lt w z = true := by
      intro z hz w hw
      rw [List.mem_singleton.mp hw]
      exact hf.above_head h hyx z hz
    by_cases hsec : second = []
    · subst hsec
      exact ⟨[y] ++ (x :: first), by simp [forward, hyx], stablySorted_swap h hf hs hless⟩
    · rcases hp : paceOf 0 (b + 1) patience with ⟨pace, next⟩
      rcases ih pace next (y :: done) (x :: first) second (by rw [List.length_cons]; omega) hf
        (ordered_cons.mp hs).2 (hlast.mono fun z hz => List.mem_cons_of_mem y hz)
        with ⟨m, hm, hsorted⟩
      refine ⟨[y] ++ m, ?_, hsorted.takeSecond h hs hless⟩
      simp only [forward, hyx, if_true, hsec, if_false, hp, hm, List.reverse_cons,
        List.append_assoc]
  · -- The item of the first list stays in front.
    have hle : ∀ z ∈ [x], ∀ w ∈ y :: second, lt w z = false := by
      intro z hz w hw
      rw [List.mem_singleton.mp hz]
      exact hs.notBelow_head h (by simpa using hyx) w hw
    have hrest := LastAbove.of_append [x] hlast
    by_cases hone : first.length = 1
    · refine ⟨[x] ++ (y :: second ++ first), by simp [forward, hyx, hone], ?_⟩
      exact (hrest.swap h (by omega) (ordered_cons.mp hf).2 hs).takeFirst hf hle
    · rcases hp : paceOf (a + 1) 0 patience with ⟨pace, next⟩
      rcases ih pace next (x :: done) first (y :: second) (by rw [List.length_cons]; omega)
        (ordered_cons.mp hf).2 hs hrest with ⟨m, hm, hsorted⟩
      refine ⟨[x] ++ m, ?_, hsorted.takeFirst hf hle⟩
      simp only [forward, hyx, Bool.false_eq_true, if_false, hone, hp, hm, List.reverse_cons,
        List.append_assoc]

/-- The end of a turn of the gallop from the front: both stretches are merged, and the
    head of the first list is the next to go. -/
theorem forward_remaining (h : IsStrictWeak lt) (fuel : Nat) (ih : ForwardStable lt fuel)
    (m n patience : Nat) (done others high : List α) (x : α)
    (hfuel : others.length + high.length ≤ fuel)
    (hf : Ordered lt (x :: others)) (hs : Ordered lt high)
    (hhigh : ∀ w ∈ high, lt w x = false) (hlast : LastAbove lt others high) :
    ∃ r, (if high = [] then (done.reverse ++ x :: others, patience)
        else if others.length = 1 then (done.reverse ++ x :: high ++ others, patience)
        else
          forward lt fuel (paceAfter m n patience).1 (paceAfter m n patience).2 (x :: done)
            others high).1 = done.reverse ++ r ∧
      StablySorted lt (x :: others ++ high) r := by
  -- The head is below none of what is left, so it goes in front of the rest in any case.
  have hx : ∀ z ∈ [x], ∀ w ∈ high, lt w z = false := by
    intro z hz w hw
    rw [List.mem_singleton.mp hz]
    exact hhigh w hw
  by_cases hempty : high = []
  · subst hempty
    refine ⟨x :: others, by simp, ?_⟩
    rw [List.append_nil]
    exact stablySorted_of_ordered hf
  · by_cases hone : others.length = 1
    · refine ⟨[x] ++ (high ++ others), by simp [hempty, hone], ?_⟩
      exact (hlast.swap h (by omega) (ordered_cons.mp hf).2 hs).takeFirst hf hx
    · rcases ih (paceAfter m n patience).1 (paceAfter m n patience).2 (x :: done) others high hfuel
        (ordered_cons.mp hf).2 hs hlast with ⟨r, hr, hsorted⟩
      refine ⟨[x] ++ r, ?_, hsorted.takeFirst hf hx⟩
      simp only [hempty, if_false, hone, hr, List.reverse_cons, List.append_assoc]

/-- One turn of the gallop from the front. -/
theorem forward_galloping (h : IsStrictWeak lt) (fuel : Nat) (ih : ForwardStable lt fuel)
    (before : Nat) (done first second : List α) (y : α)
    (hfuel : first.length + second.length ≤ fuel)
    (hf : Ordered lt first) (hs : Ordered lt (y :: second))
    (hlast : LastAbove lt first (y :: second)) :
    ∃ m, (forward lt (fuel + 1) .galloping before done first (y :: second)).1
        = done.reverse ++ m ∧ StablySorted lt (first ++ y :: second) m := by
  rcases gallop_parts (pairwise_notAbove h hf y) 0 (Nat.zero_le _) with
    ⟨front, back, rfl, hgallop, hfront, hback⟩
  have hrest := LastAbove.of_append front hlast
  rw [ordered_append] at hf
  -- The front of the first list stays, since it is not above the second list.
  have hle : ∀ x ∈ front, ∀ w ∈ y :: second, lt w x = false :=
    fun x hx => hs.notBelow_head h (by simpa using hfront x hx)
  -- Whatever the rest is merged to, the front stays before it.
  have houter : ∀ m, StablySorted lt (back ++ y :: second) m →
      StablySorted lt (front ++ back ++ y :: second) (front ++ m) :=
    fun m hm => hm.takeFirst (ordered_append.mpr hf) hle
  simp only [forward, hgallop, List.take_left, List.drop_left]
  -- A single item is left of the first list, and it goes to the end.
  by_cases hend : (decide (front.length ≠ 0) && decide (back.length ≤ 1)) = true
  · rw [if_pos hend]
    rw [Bool.and_eq_true, decide_eq_true_eq, decide_eq_true_eq] at hend
    refine ⟨front ++ (y :: second ++ back), by simp, houter _ ?_⟩
    exact hrest.swap h hend.2 hf.2.1 hs
  · rw [if_neg hend]
    cases back with
    | nil => exact ⟨front ++ y :: second, by simp, houter _ (stablySorted_of_ordered hs)⟩
    | cons x others =>
        rcases gallop_parts (pairwise_below h (ordered_cons.mp hs).2 x) 0 (Nat.zero_le _) with
          ⟨low, high, rfl, hcount, hlow, hhigh⟩
        -- Everything up to the end of the second stretch passes the first list.
        have hless : ∀ z ∈ x :: others, ∀ w ∈ y :: low, lt w z = true := by
          intro z hz w hw
          have hwx : lt w x = true := by
            rcases List.mem_cons.mp hw with heq | hmem
            · rw [heq]
              simpa using hback x List.mem_cons_self
            · exact hlow w hmem
          exact hf.2.1.above_head h hwx z hz
        -- So the rest of the turn has to merge only what is left of both lists.
        have hinner : ∀ m, StablySorted lt (x :: others ++ high) m →
            StablySorted lt (front ++ x :: others ++ y :: (low ++ high))
              (front ++ (y :: low ++ m)) :=
          fun m hm => houter _ (hm.takeSecond h hs hless)
        have hlastHigh : LastAbove lt others high := by
          refine (LastAbove.of_append [x] hrest).mono fun w hw => ?_
          exact List.mem_cons_of_mem y (List.mem_append_right low hw)
        rcases forward_remaining h fuel ih front.length low.length (relaxed before)
          (low.reverse ++ y :: (front.reverse ++ done)) others high x
          (by simp only [List.length_append, List.length_cons] at hfuel; omega) hf.2.1
          (ordered_append.mp (ordered_cons.mp hs).2).2.1 hhigh hlastHigh with ⟨r, hr, hsorted⟩
        refine ⟨front ++ (y :: low ++ r), ?_, hinner _ hsorted⟩
        simp only [hcount, List.take_left, List.drop_left, hr]
        simp

/-- Merging from the front is stable. -/
theorem forward_stable (h : IsStrictWeak lt) (fuel : Nat) : ForwardStable lt fuel := by
  induction fuel with
  | zero =>
      intro pace patience done first second hfuel _ _ _
      have hfirst : first = [] := List.eq_nil_of_length_eq_zero (by omega)
      have hsecond : second = [] := List.eq_nil_of_length_eq_zero (by omega)
      subst hfirst hsecond
      exact ⟨[], by simp [forward], stablySorted_of_ordered ordered_nil⟩
  | succ fuel ih =>
      intro pace patience done first second hfuel hf hs hlast
      cases second with
      | nil =>
          refine ⟨first, ?_, by rw [List.append_nil]; exact stablySorted_of_ordered hf⟩
          cases pace <;> cases first <;> simp [forward]
      | cons y second =>
          rw [List.length_cons] at hfuel
          cases pace with
          -- The two ways of merging are one induction, since each can go on as the other.
          | walking a b =>
              cases first with
              | nil => exact ⟨y :: second, by simp [forward], stablySorted_of_ordered hs⟩
              | cons x first =>
                  rw [List.length_cons] at hfuel
                  exact forward_walking h fuel ih a b patience done first second x y (by omega)
                    hf hs hlast
          | galloping =>
              exact forward_galloping h fuel ih patience done first second y (by omega) hf hs hlast

/-- The first item of the second list, which is read backwards, is less than everything
    in the first. -/
def FirstBelow (lt : α → α → Bool) (first second : List α) : Prop :=
  ∀ y ∈ second.getLast?, ∀ x ∈ first, lt y x = true

theorem FirstBelow.mono {first first' second : List α} (h : FirstBelow lt first second)
    (hsub : ∀ x ∈ first', x ∈ first) : FirstBelow lt first' second :=
  fun y hy x hx => h y hy x (hsub x hx)

/-- The first item stays the first when items behind it go. -/
theorem FirstBelow.of_append {first : List α} (back : List α) {front : List α}
    (h : FirstBelow lt first (back ++ front)) : FirstBelow lt first front := by
  intro y hy x hx
  refine h y ?_ x hx
  rw [List.getLast?_append, Option.mem_def.mp hy]
  rfl

/-- A single item is the first one. -/
theorem FirstBelow.all_of_length {first second : List α} (h : FirstBelow lt first second)
    (hlen : second.length ≤ 1) : ∀ x ∈ first, ∀ y ∈ second, lt y x = true := by
  intro x hx y hy
  cases second with
  | nil => exact absurd hy List.not_mem_nil
  | cons z rest =>
      have hrest : rest = [] := List.eq_nil_of_length_eq_zero (by simpa using hlen)
      subst hrest
      rw [List.mem_singleton.mp hy]
      exact h z rfl x hx

/-- When one item of the second list is left, it passes the first list. -/
theorem FirstBelow.swap (h : IsStrictWeak lt) {first second : List α}
    (hfirst : FirstBelow lt first second.reverse) (hlen : second.length ≤ 1)
    (hf : Ordered lt first) (hs : Ordered lt second) :
    StablySorted lt (first ++ second) (second ++ first) := by
  refine stablySorted_swap h hf hs fun x hx y hy => ?_
  exact hfirst.all_of_length (by simpa using hlen) x hx y (List.mem_reverse.mpr hy)

/-- What is said of the loop from the back, for the given fuel. Both lists are read
    backwards. -/
def BackwardStable (lt : α → α → Bool) (fuel : Nat) : Prop :=
  ∀ (pace : Pace) (patience : Nat) (done first second : List α),
    first.length + second.length ≤ fuel → Ordered lt first.reverse → Ordered lt second.reverse →
    FirstBelow lt first second →
    ∃ m, (backward lt fuel pace patience done first second).1 = m ++ done ∧
      StablySorted lt (first.reverse ++ second.reverse) m

/-- One comparison of the loop from the back. -/
theorem backward_walking (h : IsStrictWeak lt) (fuel : Nat) (ih : BackwardStable lt fuel)
    (a b patience : Nat) (done first second : List α) (x y : α)
    (hfuel : first.length + second.length < fuel)
    (hf : Ordered lt (first.reverse ++ [x])) (hs : Ordered lt (second.reverse ++ [y]))
    (hfirst : FirstBelow lt (x :: first) (y :: second)) :
    ∃ m, (backward lt (fuel + 1) (.walking a b) patience done (x :: first) (y :: second)).1
        = m ++ done ∧
      StablySorted lt (first.reverse ++ [x] ++ (second.reverse ++ [y])) m := by
  have hfparts := ordered_append.mp hf
  have hsparts := ordered_append.mp hs
  by_cases hyx : lt y x = true
  · -- The item of the first list passes the whole second list.
    have hless : ∀ z ∈ [x], ∀ w ∈ second.reverse ++ [y], lt w z = true := by
      intro z hz w hw
      rw [List.mem_singleton.mp hz]
      exact hs.below_last h hyx w hw
    by_cases hempty : first = []
    · subst hempty
      refine ⟨second.reverse ++ [y] ++ [x], by simp [backward, hyx], ?_⟩
      exact stablySorted_swap h hf hs hless
    · rcases hp : paceOf (a + 1) 0 patience with ⟨pace, next⟩
      rcases ih pace next (x :: done) first (y :: second) (by rw [List.length_cons]; omega)
        hfparts.1 (by rw [List.reverse_cons]; exact hs)
        (hfirst.mono fun z hz => List.mem_cons_of_mem x hz) with ⟨m, hm, hsorted⟩
      rw [List.reverse_cons] at hsorted
      refine ⟨m ++ [x], ?_, hsorted.takeFirstBack h hf hless⟩
      simp only [backward, hyx, if_true, hempty, if_false, hp, hm, List.append_assoc,
        List.singleton_append]
  · -- The item of the second list stays behind.
    have hle : ∀ z ∈ first.reverse ++ [x], ∀ w ∈ [y], lt w z = false := by
      intro z hz w hw
      rw [List.mem_singleton.mp hw]
      exact hf.notAbove_last h (by simpa using hyx) z hz
    have hrest := FirstBelow.of_append [y] hfirst
    by_cases hone : second.length = 1
    · refine ⟨second.reverse ++ (first.reverse ++ [x]) ++ [y], ?_, ?_⟩
      · rw [List.length_eq_one_iff] at hone
        rcases hone with ⟨z, rfl⟩
        simp [backward, hyx]
      · have hbelow : FirstBelow lt (first.reverse ++ [x]) second.reverse.reverse := by
          rw [List.reverse_reverse, ← List.reverse_cons]
          exact hrest.mono fun z hz => List.mem_reverse.mp hz
        exact (hbelow.swap h (by simp [hone]) hf hsparts.1).takeSecondBack hs hle
    · rcases hp : paceOf 0 (b + 1) patience with ⟨pace, next⟩
      rcases ih pace next (y :: done) (x :: first) second (by rw [List.length_cons]; omega)
        (by rw [List.reverse_cons]; exact hf) hsparts.1 hrest with ⟨m, hm, hsorted⟩
      rw [List.reverse_cons] at hsorted
      refine ⟨m ++ [y], ?_, hsorted.takeSecondBack hs hle⟩
      simp only [backward, hyx, Bool.false_eq_true, if_false, hone, hp, hm, List.append_assoc,
        List.singleton_append]

/-- Where a backwards list is cut when the list is cut behind its front. -/
theorem reverse_cut {items front back : List α} (h : items.reverse = front ++ back) :
    items.take (items.length - front.length) = back.reverse ∧
      items.drop (items.length - front.length) = front.reverse := by
  have hitems : items = back.reverse ++ front.reverse := by
    rw [← List.reverse_append, ← h, List.reverse_reverse]
  have hlen : items.length - front.length = back.reverse.length := by
    rw [hitems, List.length_append, List.length_reverse, List.length_reverse]
    omega
  rw [hlen]
  constructor
  · rw [hitems]
    exact List.take_left
  · rw [hitems]
    exact List.drop_left

/-- A list of one item reads the same backwards. -/
theorem reverse_of_short {items : List α} (h : items.length ≤ 1) : items.reverse = items := by
  cases items with
  | nil => rfl
  | cons z rest =>
      have hnil : rest = [] := List.eq_nil_of_length_eq_zero (by simpa using h)
      rw [hnil]
      rfl

/-- The end of a turn of the gallop from the back: both stretches are merged, and the
    last item of the first list is the next to go. -/
theorem backward_remaining (h : IsStrictWeak lt) (fuel : Nat) (ih : BackwardStable lt fuel)
    (m n patience : Nat) (done others low : List α) (x : α)
    (hfuel : others.length + low.length ≤ fuel)
    (hf : Ordered lt (others ++ [x])) (hs : Ordered lt low)
    (hlow : ∀ w ∈ low, lt w x = true) (hfirst : FirstBelow lt (others ++ [x]) low.reverse) :
    ∃ r, (if (decide (n ≠ 0) && decide (low.reverse.length ≤ 1)) = true then
          (low.reverse ++ (x :: others.reverse).reverse ++ done, patience)
        else if others.reverse = [] then (low ++ x :: done, patience)
        else
          backward lt fuel (paceAfter m n patience).1 (paceAfter m n patience).2 (x :: done)
            others.reverse low.reverse).1 = r ++ done ∧
      StablySorted lt (others ++ [x] ++ low) r := by
  have habove : ∀ z ∈ [x], ∀ w ∈ low, lt w z = true := by
    intro z hz w hw
    rw [List.mem_singleton.mp hz]
    exact hlow w hw
  -- Here it is the second list that may be down to one item, and it is looked at first.
  by_cases hend : (decide (n ≠ 0) && decide (low.reverse.length ≤ 1)) = true
  · rw [if_pos hend]
    rw [Bool.and_eq_true, decide_eq_true_eq, decide_eq_true_eq, List.length_reverse] at hend
    refine ⟨low ++ (others ++ [x]), ?_, hfirst.swap h hend.2 hf hs⟩
    simp [reverse_of_short hend.2]
  · rw [if_neg hend]
    by_cases hempty : others.reverse = []
    · have hothers : others = [] := List.reverse_eq_nil_iff.mp hempty
      subst hothers
      exact ⟨low ++ [x], by simp, stablySorted_swap h hf hs habove⟩
    · rcases ih (paceAfter m n patience).1 (paceAfter m n patience).2 (x :: done) others.reverse
        low.reverse (by rw [List.length_reverse, List.length_reverse]; exact hfuel)
        (by rw [List.reverse_reverse]; exact (ordered_append.mp hf).1)
        (by rw [List.reverse_reverse]; exact hs)
        (hfirst.mono fun z hz => List.mem_append_left [x] (List.mem_reverse.mp hz))
        with ⟨r, hr, hsorted⟩
      rw [List.reverse_reverse, List.reverse_reverse] at hsorted
      refine ⟨r ++ [x], ?_, hsorted.takeFirstBack h hf habove⟩
      simp only [hempty, if_false, hr, List.append_assoc, List.singleton_append]

/-- One turn of the gallop from the back. -/
theorem backward_galloping (h : IsStrictWeak lt) (fuel : Nat) (ih : BackwardStable lt fuel)
    (before : Nat) (done first second : List α) (y : α)
    (hfuel : first.length + second.length ≤ fuel)
    (hf : Ordered lt first.reverse) (hs : Ordered lt (second.reverse ++ [y]))
    (hfirst : FirstBelow lt first (y :: second)) :
    ∃ m, (backward lt (fuel + 1) .galloping before done first (y :: second)).1
        = m ++ done ∧
      StablySorted lt (first.reverse ++ (second.reverse ++ [y])) m := by
  have hsparts := ordered_append.mp hs
  have hrest := FirstBelow.of_append [y] hfirst
  rcases gallop_parts (pairwise_notAbove h hf y) (first.length - 1) (by simp) with
    ⟨front, back, hcut, hgallop, hfront, hback⟩
  -- The loop cuts lists that are read backwards.
  have hpieces := reverse_cut hcut
  have hlength : first.length = front.length + back.length := by
    rw [← List.length_reverse, hcut, List.length_append]
  rw [hcut] at hf ⊢
  have hfparts := ordered_append.mp hf
  -- The back of the first list is above all of the second.
  have hless : ∀ x ∈ back, ∀ w ∈ second.reverse ++ [y], lt w x = true :=
    fun x hx => hs.below_last h (by simpa using hback x hx)
  -- Whatever the rest is merged to, the back stays behind it.
  have houter : ∀ m, StablySorted lt (front ++ (second.reverse ++ [y])) m →
      StablySorted lt (front ++ back ++ (second.reverse ++ [y])) (m ++ back) :=
    fun m hm => hm.takeFirstBack h hf hless
  simp only [backward, hgallop, hpieces.1, hpieces.2, List.reverse_reverse]
  rcases List.eq_nil_or_concat front with hnil | ⟨others, x, hconcat⟩
  · subst hnil
    refine ⟨second.reverse ++ [y] ++ back, by simp, houter _ ?_⟩
    rw [List.nil_append]
    exact stablySorted_of_ordered hs
  · rw [List.concat_eq_append] at hconcat
    subst hconcat
    have hle : ∀ z ∈ others ++ [x], ∀ w ∈ [y], lt w z = false := by
      intro z hz w hw
      rw [List.mem_singleton.mp hw]
      simpa using hfront z hz
    have hbelow : FirstBelow lt (others ++ [x]) second := by
      refine hrest.mono fun z hz => ?_
      have hmem : z ∈ first.reverse := by
        rw [hcut]
        exact List.mem_append_left back hz
      exact List.mem_reverse.mp hmem
    rw [List.reverse_append, List.reverse_singleton, List.singleton_append]
    -- A single item is left of the second list, and it goes to the front.
    by_cases hone : second.length = 1
    · refine ⟨second.reverse ++ (others ++ [x]) ++ [y] ++ back, ?_, houter _ ?_⟩
      · rw [List.length_eq_one_iff] at hone
        rcases hone with ⟨z, rfl⟩
        simp
      · rw [← List.reverse_reverse second] at hbelow
        exact (hbelow.swap h (by simp [hone]) hfparts.1 hsparts.1).takeSecondBack hs hle
    · simp only [hone, if_false]
      rcases gallop_parts (pairwise_below h hsparts.1 x) (second.length - 1) (by simp) with
        ⟨low, high, hscut, hcount, hlow, hhigh⟩
      have hspieces := reverse_cut hscut
      have hslength : second.length = low.length + high.length := by
        rw [← List.length_reverse, hscut, List.length_append]
      simp only [hcount, hspieces.1, hspieces.2, List.reverse_reverse]
      rw [hscut] at hs hsparts houter
      rw [hscut]
      -- From the beginning of the second stretch on nothing is below the first list.
      have hkeep : ∀ z ∈ others ++ [x], ∀ w ∈ high ++ [y], lt w z = false := by
        intro z hz w hw
        have hwx : lt w x = false := by
          rcases List.mem_append.mp hw with hmem | hlast
          · exact hhigh w hmem
          · exact hle x (by simp) w hlast
        exact hfparts.1.notAbove_last h hwx z hz
      -- So the rest of the turn has to merge only what is left of both lists.
      have hinner : ∀ m, StablySorted lt (others ++ [x] ++ low) m →
          StablySorted lt (others ++ [x] ++ back ++ (low ++ high ++ [y]))
            (m ++ (high ++ [y]) ++ back) := by
        intro m hm
        refine houter _ ?_
        rw [List.append_assoc low] at hs ⊢
        exact hm.takeSecondBack hs hkeep
      have hlowBelow : FirstBelow lt (others ++ [x]) low.reverse := by
        have hsplit : second = high.reverse ++ low.reverse := by
          rw [← List.reverse_append, ← hscut, List.reverse_reverse]
        rw [hsplit] at hbelow
        exact FirstBelow.of_append high.reverse hbelow
      rw [List.length_append, List.length_singleton] at hlength
      rcases backward_remaining h fuel ih (first.length - (others ++ [x]).length)
        (second.length - low.length) (relaxed before) (high ++ y :: (back ++ done)) others low x
        (by omega) hfparts.1 (ordered_append.mp hsparts.1).1 hlow hlowBelow
        with ⟨r, hr, hsorted⟩
      refine ⟨r ++ (high ++ [y]) ++ back, ?_, hinner _ hsorted⟩
      rw [hr]
      simp

/-- Merging from the back is stable. -/
theorem backward_stable (h : IsStrictWeak lt) (fuel : Nat) : BackwardStable lt fuel := by
  induction fuel with
  | zero =>
      intro pace patience done first second hfuel _ _ _
      have hfirst : first = [] := List.eq_nil_of_length_eq_zero (by omega)
      have hsecond : second = [] := List.eq_nil_of_length_eq_zero (by omega)
      subst hfirst hsecond
      exact ⟨[], by simp [backward], stablySorted_of_ordered ordered_nil⟩
  | succ fuel ih =>
      intro pace patience done first second hfuel hf hs hfirst
      cases second with
      | nil =>
          refine ⟨first.reverse, ?_, ?_⟩
          · cases pace <;> cases first <;> simp [backward]
          · rw [List.reverse_nil, List.append_nil]
            exact stablySorted_of_ordered hf
      | cons y second =>
          rw [List.length_cons] at hfuel
          rw [List.reverse_cons] at hs ⊢
          -- As from the front, either way of merging can go on as the other.
          cases pace with
          | walking a b =>
              cases first with
              | nil =>
                  refine ⟨second.reverse ++ [y], by simp [backward], ?_⟩
                  exact stablySorted_of_ordered hs
              | cons x first =>
                  rw [List.length_cons] at hfuel
                  rw [List.reverse_cons] at hf ⊢
                  exact backward_walking h fuel ih a b patience done first second x y (by omega)
                    hf hs hfirst
          | galloping =>
              exact backward_galloping h fuel ih patience done first second y (by omega) hf hs
                hfirst

theorem mergeForward_stable (h : IsStrictWeak lt) (patience : Nat) {first second : List α}
    (hf : Ordered lt first) (hs : Ordered lt second)
    (hfirst : FirstBelow lt first second.reverse) (hlast : LastAbove lt first second) :
    StablySorted lt (first ++ second) (mergeForward lt patience first second).1 := by
  cases second with
  | nil =>
      rw [List.append_nil]
      exact stablySorted_of_ordered hf
  | cons y others =>
      have hless : ∀ x ∈ first, ∀ w ∈ [y], lt w x = true := by
        intro x hx w hw
        rw [List.mem_singleton.mp hw]
        exact hfirst y (by simp) x hx
      -- The head of the second list is known to come first.
      by_cases hempty : others = []
      · subst hempty
        simp only [mergeForward, if_true]
        exact stablySorted_swap h hf hs hless
      · by_cases hone : first.length = 1
        · simp only [mergeForward, hempty, hone, if_true, if_false]
          exact hlast.swap h (by omega) hf hs
        · simp only [mergeForward, hempty, hone, if_false]
          rcases forward_stable h (first.length + (y :: others).length) (.walking 0 0) patience
            [y] first others (by rw [List.length_cons]; omega) hf (ordered_cons.mp hs).2
            (hlast.mono fun z hz => List.mem_cons_of_mem y hz) with ⟨m, hm, hsorted⟩
          rw [hm]
          exact hsorted.takeSecond h hs hless

theorem mergeBackward_stable (h : IsStrictWeak lt) (patience : Nat) {first second : List α}
    (hf : Ordered lt first) (hs : Ordered lt second)
    (hfirst : FirstBelow lt first second.reverse) (hlast : LastAbove lt first second) :
    StablySorted lt (first ++ second) (mergeBackward lt patience first second).1 := by
  rcases List.eq_nil_or_concat first with hnil | ⟨others, x, hconcat⟩
  · subst hnil
    exact stablySorted_of_ordered hs
  · rw [List.concat_eq_append] at hconcat
    subst hconcat
    have hless : ∀ z ∈ [x], ∀ w ∈ second, lt w z = true := by
      intro z hz w hw
      rw [List.mem_singleton.mp hz]
      exact hlast x (by simp) w hw
    simp only [mergeBackward, List.reverse_append, List.reverse_singleton,
      List.singleton_append, List.reverse_eq_nil_iff]
    -- The last item of the first list is known to come last.
    by_cases hempty : others = []
    · subst hempty
      simp only [if_true]
      exact stablySorted_swap h hf hs hless
    · simp only [hempty, if_false]
      by_cases hone : second.length = 1
      · simp only [hone, if_true]
        exact hfirst.swap h (by omega) hf hs
      · simp only [hone, if_false]
        rcases backward_stable h ((others ++ [x]).length + second.length) (.walking 0 0) patience
          [x] others.reverse second.reverse (by simp)
          (by rw [List.reverse_reverse]; exact (ordered_append.mp hf).1)
          (by rw [List.reverse_reverse]; exact hs)
          (hfirst.mono fun z hz => List.mem_append_left [x] (List.mem_reverse.mp hz))
          with ⟨m, hm, hsorted⟩
        rw [List.reverse_reverse, List.reverse_reverse] at hsorted
        rw [hm]
        exact hsorted.takeFirstBack h hf hless

/-- The head of the second list is among what moves, since it is below the bound. -/
theorem head?_moving {x y : α} {rest moving behind : List α} (hcut : y :: rest = moving ++ behind)
    (hy : lt y x = true) (hbehind : ∀ w ∈ behind, lt w x = false) : moving.head? = some y := by
  cases moving with
  | nil =>
      have hmem : y ∈ behind := by
        rw [List.nil_append] at hcut
        rw [← hcut]
        exact List.mem_cons_self
      have habsurd := hbehind y hmem
      rw [hy] at habsurd
      exact absurd habsurd (by decide)
  | cons z front => exact congrArg some (List.cons.inj hcut).1.symm

/-- Merging is stable. -/
theorem merge_stable (h : IsStrictWeak lt) (patience : Nat) {first second : List α}
    (hf : Ordered lt first) (hs : Ordered lt second) :
    StablySorted lt (first ++ second) (merge lt patience first second).1 := by
  cases second with
  | nil =>
      rw [List.append_nil]
      exact stablySorted_of_ordered hf
  | cons y rest =>
      rcases gallop_parts (pairwise_notAbove h hf y) 0 (Nat.zero_le _) with
        ⟨placed, moved, rfl, hgallop, hplaced, hmoved⟩
      have hfparts := ordered_append.mp hf
      have hle : ∀ x ∈ placed, ∀ w ∈ y :: rest, lt w x = false :=
        fun x hx => hs.notBelow_head h (by simpa using hplaced x hx)
      -- What is not above the head of the second list is in place already.
      simp only [merge, hgallop, List.take_left, List.drop_left]
      rcases List.eq_nil_or_concat moved with hnil | ⟨others, x, hconcat⟩
      · subst hnil
        rw [List.append_nil] at hf ⊢
        exact stablySorted_of_ordered (ordered_append.mpr ⟨hf, hs, hle⟩)
      · rw [List.concat_eq_append] at hconcat
        subst hconcat
        rcases gallop_parts (pairwise_below h hs x) ((y :: rest).length - 1) (by simp) with
          ⟨moving, behind, hcut, hcount, hmoving, hbehind⟩
        have hyx : ∀ z ∈ others ++ [x], lt y z = true := by
          intro z hz
          simpa using hmoved z hz
        rw [List.getLast?_append, List.getLast?_singleton]
        simp only [hcount, Option.some_or]
        have hhead := head?_moving hcut (hyx x (by simp)) hbehind
        have hnonempty : moving.length ≠ 0 := by
          intro hzero
          rw [List.eq_nil_of_length_eq_zero hzero] at hhead
          exact absurd hhead (by simp)
        -- So is what is not below the last item of the first list.
        rw [if_neg hnonempty, hcut, List.take_left, List.drop_left]
        rw [hcut] at hs
        have hsparts := ordered_append.mp hs
        -- The ends of the two lists are as both loops need them.
        have hfirst : FirstBelow lt (others ++ [x]) moving.reverse := by
          intro w hw z hz
          rw [List.getLast?_reverse, hhead] at hw
          rw [← Option.some.inj (Option.mem_def.mp hw)]
          exact hyx z hz
        have hlast : LastAbove lt (others ++ [x]) moving := by
          intro z hz w hw
          rw [List.getLast?_append, List.getLast?_singleton] at hz
          rw [← Option.some.inj (Option.mem_def.mp hz)]
          exact hmoving w hw
        have hkeep : ∀ z ∈ others ++ [x], ∀ w ∈ behind, lt w z = false :=
          fun z hz w hw => hfparts.2.1.notAbove_last h (hbehind w hw) z hz
        have houter : ∀ m, StablySorted lt (others ++ [x] ++ moving) m →
            StablySorted lt (placed ++ (others ++ [x]) ++ (moving ++ behind))
              (placed ++ m ++ behind) := by
          intro m hm
          rw [List.append_assoc placed m]
          refine (hm.takeSecondBack hs hkeep).takeFirst hf fun z hz w hw => hle z hz w ?_
          rw [hcut]
          exact hw
        -- The shorter list decides the direction.
        split_ifs
        · exact houter _ (mergeForward_stable h patience hfparts.2.1 hsparts.1 hfirst hlast)
        · exact houter _ (mergeBackward_stable h patience hfparts.2.1 hsparts.1 hfirst hlast)

end Letterpress.Layout
