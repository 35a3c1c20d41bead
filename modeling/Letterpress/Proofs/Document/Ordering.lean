import Letterpress.Proofs.Document.Repetition
import Letterpress.Proofs.Document.Structure

/-!
# Fragments in Any Order

A table layout sorts its fragments by their places and is as high as the lowest of them needs.
So it makes no difference in which order fragments are given, as long as those that have the
same place keep their order. If no two of them have the same place, there is nothing to keep.

Lifting leaves fragments out, but it does so by looking at each of them alone, and it moves
none. Only if several fragments cannot be read does the order matter: the first one that cannot
is the one that is reported.

## Main definitions

* `Fragment.place`: What fragments are sorted by.
* `AgreeAtPlaces`: At every place there are the same fragments in the same order.
* `LaidOutAlike`: The same container and the same documents.

## Theorems

* `agreeAtPlaces_of_perm`: Fragments at different places can change theirs in the list.
* `inReadingOrder_eq`: Lists that agree at all places are sorted to the same list.
* `containerHeight_lowest`: The container ends below the lowest fragment.
* `lift_agree`: Lists that agree at all places still do so when they are lifted.
* `compileFragments_anyOrder`: The order of fragments that does not matter.
-/

namespace Letterpress

/-- What fragments are sorted by: the top, and then the left edge. -/
def Fragment.place (f : Fragment) : Int × Int :=
  (f.top, f.left)

namespace Document

variable {K : Type} [Scalar K] {config : Config K} {background : Background}
  {fragments others lifted : List Fragment}

/-- At every place there are the same fragments in the same order. -/
def AgreeAtPlaces (fragments others : List Fragment) : Prop :=
  ∀ place, fragments.filter (fun f => f.place = place) = others.filter fun f => f.place = place

/-- Only the places of the fragments have to be looked at. -/
theorem agreeAtPlaces_iff : AgreeAtPlaces fragments others ↔ ∀ f ∈ fragments ++ others,
    fragments.filter (fun g => g.place = f.place) = others.filter fun g => g.place = f.place := by
  refine ⟨fun h f _ => h f.place, fun h place => ?_⟩
  by_cases hsome : ∃ f ∈ fragments ++ others, f.place = place
  · rcases hsome with ⟨f, hf, rfl⟩
    exact h f hf
  · push Not at hsome
    have hnone : ∀ l ⊆ fragments ++ others, l.filter (fun g => g.place = place) = [] :=
      fun l hl => List.filter_eq_nil_iff.mpr fun g hg => by simpa using hsome g (hl hg)
    rw [hnone fragments (List.subset_append_left _ _), hnone others (List.subset_append_right _ _)]

instance : Decidable (AgreeAtPlaces fragments others) :=
  decidable_of_iff' _ agreeAtPlaces_iff

theorem AgreeAtPlaces.symm (h : AgreeAtPlaces fragments others) : AgreeAtPlaces others fragments :=
  fun place => (h place).symm

/-- Lists that agree at all places have the same fragments. -/
theorem AgreeAtPlaces.perm (h : AgreeAtPlaces fragments others) : fragments.Perm others := by
  rw [List.perm_iff_count]
  intro f
  have hcount : ∀ l : List Fragment, (l.filter fun g => g.place = f.place).count f = l.count f :=
    fun l => List.count_filter (by simp)
  rw [← hcount fragments, ← hcount others, h f.place]

/-- If no two fragments have the same place, they can change theirs in the list. -/
theorem agreeAtPlaces_of_perm (hperm : fragments.Perm others)
    (hplaces : (fragments.map Fragment.place).Nodup) : AgreeAtPlaces fragments others := by
  intro place
  have hsame := hperm.filter fun f => f.place = place
  have hnodup : ((fragments.filter fun f => f.place = place).map Fragment.place).Nodup :=
    hplaces.sublist (List.filter_sublist.map Fragment.place)
  have hall : ∀ f ∈ fragments.filter (fun f => f.place = place), f.place = place :=
    fun f hf => by simpa using List.of_mem_filter hf
  -- There is at most one fragment at the place, so there is no order to be changed.
  generalize fragments.filter (fun f => f.place = place) = here at hsame hnodup hall
  match here with
  | [] => exact (List.nil_perm.mp hsame).symm
  | [f] => exact (List.perm_singleton.mp hsame.symm).symm
  | f :: g :: rest =>
      simp only [List.forall_mem_cons] at hall
      simp [hall.1, hall.2.1] at hnodup

section Sorting

/-- Fragments are tied exactly if they have the same place. -/
theorem tied_place (f g : Fragment) :
    Layout.tied (fun f g : Fragment => placedBefore f.place g.place) f g
      = decide (g.place = f.place) := by
  rw [Bool.eq_iff_iff, Layout.tied, Bool.and_eq_true, Bool.not_eq_true', Bool.not_eq_true',
    Bool.eq_false_iff, Bool.eq_false_iff, ne_eq, ne_eq, placedBefore_iff, placedBefore_iff,
    decide_eq_true_iff, Prod.ext_iff]
  omega

/-- Lists that agree at all places are sorted to the same list. -/
theorem inReadingOrder_eq (h : AgreeAtPlaces fragments others) :
    inReadingOrder fragments = inReadingOrder others := by
  have hsorted := Layout.sortOn_stable placedBefore_isStrictWeak Fragment.place fragments
  have hsorted' := Layout.sortOn_stable placedBefore_isStrictWeak Fragment.place others
  have hsame : Layout.Rearranges (fun f g : Fragment => placedBefore f.place g.place) fragments
      others := by
    refine ⟨h.perm, fun f => ?_⟩
    rw [funext (tied_place f)]
    exact h f.place
  exact Layout.stablySorted_unique (placedBefore_isStrictWeak.onKey Fragment.place) hsorted.ordered
    hsorted'.ordered (hsorted.rearranges.symm.trans (hsame.trans hsorted'.rearranges))

end Sorting

section Height

/-- The greatest number of a list is not below any of them, and one of them. -/
theorem foldl_bottom (fs : List Fragment) (b : Int) :
    b ≤ fs.foldl (fun b g => max b g.bottom) b ∧
      (∀ g ∈ fs, g.bottom ≤ fs.foldl (fun b g => max b g.bottom) b) ∧
      (fs.foldl (fun b g => max b g.bottom) b = b ∨
        ∃ g ∈ fs, fs.foldl (fun b g => max b g.bottom) b = g.bottom) := by
  induction fs generalizing b with
  | nil => exact ⟨le_refl b, by simp, Or.inl rfl⟩
  | cons f fs ih =>
      rcases ih (max b f.bottom) with ⟨hstart, hall, hone⟩
      rw [List.foldl_cons, List.forall_mem_cons]
      refine ⟨le_trans (le_max_left _ _) hstart, ⟨le_trans (le_max_right _ _) hstart, hall⟩, ?_⟩
      rcases hone with hself | ⟨g, hg, hself⟩
      · rcases max_choice b f.bottom with hmax | hmax
        · exact Or.inl (hself.trans hmax)
        · exact Or.inr ⟨f, List.mem_cons_self, hself.trans hmax⟩
      · exact Or.inr ⟨g, List.mem_cons_of_mem f hg, hself⟩

/-- The container ends below the lowest fragment, with room for two borders and the padding. -/
theorem containerHeight_lowest (config : Config K) (hne : fragments ≠ []) :
    ∃ f ∈ fragments, (∀ g ∈ fragments, g.bottom ≤ f.bottom) ∧
      containerHeight config fragments
        = f.bottom + 2 * config.containerBorder + config.containerPadding := by
  cases fragments with
  | nil => exact absurd rfl hne
  | cons f fs =>
      rcases foldl_bottom fs f.bottom with ⟨hstart, hall, hself | ⟨g, hg, hself⟩⟩
      · refine ⟨f, List.mem_cons_self, List.forall_mem_cons.mpr ⟨le_refl _, ?_⟩, ?_⟩
        · rwa [hself] at hall
        · rw [containerHeight, hself]
      · rw [hself] at hstart hall
        refine ⟨g, List.mem_cons_of_mem f hg, List.forall_mem_cons.mpr ⟨hstart, hall⟩, ?_⟩
        rw [containerHeight, hself]

/-- The height of a container does not depend on any order. -/
theorem containerHeight_perm (hperm : fragments.Perm others) :
    containerHeight config fragments = containerHeight config others := by
  by_cases hne : fragments = []
  · subst hne
    rw [List.nil_perm.mp hperm]
  · have hne' : others ≠ [] := fun hnil => hne (List.perm_nil.mp (hnil ▸ hperm))
    rcases containerHeight_lowest config hne with ⟨f, hf, hlow, hheight⟩
    rcases containerHeight_lowest config hne' with ⟨g, hg, hlow', hheight'⟩
    have hfg := hlow' f (hperm.subset hf)
    have hgf := hlow g (hperm.symm.subset hg)
    omega

end Height

section Lifting

/-- What is left of a list of computations, some of which leave something out. -/
theorem filterMap_mapM {ε α β : Type} {f : α → Except ε (Option β)} {as : List α}
    {bs : List (Option β)} (h : as.mapM f = .ok bs) :
    bs.filterMap id = as.filterMap fun a => (f a).toOption.join := by
  induction as generalizing bs with
  | nil =>
      rw [List.mapM_nil, except_pure_ok] at h
      rw [← h]
      rfl
  | cons a as ih =>
      rcases mapM_cons_ok.mp h with ⟨b, bs', hb, hbs, rfl⟩
      rw [List.filterMap_cons, List.filterMap_cons, ih hbs, hb]
      rfl

/-- What is left of a fragment stays at its place. -/
theorem liftOne_place {canvas : Int} {f g : Fragment}
    (h : (liftOne config canvas f).toOption.join = some g) : g.place = f.place := by
  cases hlift : liftOne config canvas f with
  | error e =>
      rw [hlift] at h
      exact absurd h (by simp [Except.toOption])
  | ok left =>
      rw [hlift] at h
      obtain rfl : left = some g := h
      rcases liftOne_geometry hlift with ⟨hleft, htop, -, -⟩
      exact Prod.ext htop hleft

/-- Leaving fragments out leaves them out at every place. -/
theorem AgreeAtPlaces.filterMap (h : AgreeAtPlaces fragments others)
    {change : Fragment → Option Fragment} (hplace : ∀ f g, change f = some g → g.place = f.place) :
    AgreeAtPlaces (fragments.filterMap change) (others.filterMap change) := by
  intro place
  have hfilter : ∀ l : List Fragment, (l.filterMap change).filter (fun f => f.place = place)
      = (l.filter fun f => f.place = place).filterMap change := by
    intro l
    rw [List.filter_filterMap, List.filterMap_filter]
    refine List.filterMap_congr fun f _ => ?_
    cases hchange : change f with
    | none => simp
    | some g => by_cases hf : f.place = place <;> simp [hplace f g hchange, hf]
  rw [hfilter, hfilter, h place]

/-- Lists that agree at all places still do so when they are lifted. -/
theorem lift_agree (h : AgreeAtPlaces fragments others) {width : K}
    (hlift : lift config fragments width = .ok lifted) :
    ∃ lifted', lift config others width = .ok lifted' ∧ AgreeAtPlaces lifted lifted' := by
  rw [lift_eq, except_bind_ok] at hlift
  rcases hlift with ⟨canvas, hcanvas, hlift⟩
  rw [except_bind_ok] at hlift
  rcases hlift with ⟨made, hmade, hlifted⟩
  rw [except_pure_ok, filterMap_mapM hmade] at hlifted
  -- The other list has the same fragments, so all of them are lifted as well.
  have hreturns : ∀ f ∈ others, ∃ left, liftOne config canvas f = .ok left := fun f hf => by
    rcases mapM_ok_mem hmade (h.perm.symm.subset hf) with ⟨left, -, hleft⟩
    exact ⟨left, hleft⟩
  rcases except_mapM_returns hreturns with ⟨made', hmade'⟩
  refine ⟨_, ?_, hlifted ▸ h.filterMap fun f g => liftOne_place⟩
  rw [lift_eq, except_bind_ok]
  refine ⟨canvas, hcanvas, except_bind_ok.mpr ⟨made', hmade', ?_⟩⟩
  rw [except_pure_ok]
  exact filterMap_mapM hmade'

end Lifting

/-- Both lists have the same container, and the same document or none. -/
structure LaidOutAlike (config : Config K) (background : Background)
    (fragments others : List Fragment) : Prop where
  container : ∀ width, container config fragments width background
    = Document.container config others width background
  document : ∀ width height text,
    compileFragments config fragments width height background = .ok text ↔
      compileFragments config others width height background = .ok text

theorem container_eq (h : AgreeAtPlaces fragments others) (width : K) :
    container config fragments width background = container config others width background := by
  simp only [container, containerOf, inReadingOrder_eq h, containerHeight_perm h.perm]

theorem compileFragments_of_agree (h : AgreeAtPlaces fragments others) {width height : K}
    {text : String} (htext : compileFragments config fragments width height background = .ok text) :
    compileFragments config others width height background = .ok text := by
  rw [compileFragments, except_bind_ok] at htext ⊢
  rcases htext with ⟨lifted, hlift, htext⟩
  rcases lift_agree h hlift with ⟨lifted', hlift', hagree⟩
  rw [tableDocument, container_eq hagree] at htext
  exact ⟨lifted', hlift', htext⟩

theorem AgreeAtPlaces.laidOutAlike (h : AgreeAtPlaces fragments others) :
    LaidOutAlike config background fragments others :=
  ⟨container_eq h, fun _ _ _ => ⟨compileFragments_of_agree h, compileFragments_of_agree h.symm⟩⟩

/-- Fragments at different places are laid out alike in any order, and others in any order that
    keeps those at the same place in theirs. Their container declares a height that ends below
    the lowest of them, with room for two borders and the padding. -/
theorem compileFragments_anyOrder (config : Config K) (background : Background)
    (fragments others : List Fragment) :
    (fragments.Perm others → (fragments.map Fragment.place).Nodup →
      LaidOutAlike config background fragments others) ∧
    (AgreeAtPlaces fragments others → LaidOutAlike config background fragments others) ∧
    (fragments ≠ [] → ∃ f ∈ fragments, (∀ g ∈ fragments, g.bottom ≤ f.bottom) ∧
      containerHeight config fragments
        = f.bottom + 2 * config.containerBorder + config.containerPadding) ∧
    ∀ width text, container config fragments width background = .ok text →
      ∃ w rest, Scalar.roundHalfUp width = .ok w ∧
        text.toList = (presentationTable ++ " width=\"" ++ toString w ++ "\" style=\"width:"
          ++ toString w ++ "px; height:").toList
          ++ ((toString (containerHeight config fragments)).toList ++ 'p' :: rest) := by
  refine ⟨fun hperm hplaces => (agreeAtPlaces_of_perm hperm hplaces).laidOutAlike,
    AgreeAtPlaces.laidOutAlike, containerHeight_lowest config, fun width text htext => ?_⟩
  rw [container, except_bind_ok] at htext
  rcases htext with ⟨w, hw, htext⟩
  rcases containerOf_start (numeral_ok.mp htext) with ⟨-, rest, hstart⟩
  exact ⟨w, rest, number_ok.mp hw, hstart⟩

/-- A low fragment and two others, one of them on the other. -/
def threeFragments : List Fragment :=
  [⟨"<table style=\"position:absolute; top:50px;\"></table>", 0, 50, 100, 30, false, "left", "top"⟩,
    ⟨"<table style=\"position:absolute;\"></table>", 0, 0, 100, 40, false, "left", "top"⟩,
    ⟨"<a href=\"x\"><table style=\"position:absolute;\"></table></a>", 0, 0, 80, 20, true,
      "left", "top"⟩]

/-- The low fragment can stand anywhere in the list, but the other two have to keep their order.
    The height of the container is declared as 92 pixels, 12 below the lowest edge. -/
theorem compileFragments_anyOrder_threeFragments :
    ∃ low under upper text rest, threeFragments = [low, under, upper] ∧
      LaidOutAlike ({} : Config Rat) .none [low, under] [under, low] ∧
      ¬ AgreeAtPlaces [low, under, upper] [low, upper, under] ∧
      container ({} : Config Rat) [low, under, upper] 500 .none = .ok text ∧
      container ({} : Config Rat) [under, low, upper] 500 .none = .ok text ∧
      text.toList = (presentationTable ++ " width=\"500\" style=\"width:500px; height:").toList
        ++ ("92".toList ++ 'p' :: rest) := by
  have hthree : ∃ low under upper, threeFragments = [low, under, upper] ∧
      [low, under].Perm [under, low] ∧ ([low, under].map Fragment.place).Nodup ∧
      AgreeAtPlaces [low, under, upper] [under, low, upper] ∧
      ¬ AgreeAtPlaces [low, under, upper] [low, upper, under] :=
    ⟨_, _, _, rfl, List.Perm.swap _ _ _, by decide, by decide, by decide⟩
  rcases hthree with ⟨low, under, upper, hself, hperm, hplaces, hagree, hdiffer⟩
  have hmodest : ∀ f ∈ threeFragments, f.IsModest := by
    refine isModest_fragments ?_
    decide +kernel
  have hwidth : Scalar.roundHalfUp (500 : Rat) = .ok 500 := by
    rw [roundHalfUp_rat]
    decide +kernel
  have hconfig : ({} : Config Rat).IsModest := ⟨by decide +kernel, by decide +kernel⟩
  rcases container_returns hconfig hwidth (by decide +kernel) hmodest .none with ⟨text, htext⟩
  rw [hself] at htext
  have horders := compileFragments_anyOrder ({} : Config Rat) .none [low, under, upper]
    [under, low, upper]
  rcases horders.2.2.2 500 text htext with ⟨w, rest, hw, hstart⟩
  obtain rfl : 500 = w := by simpa [hwidth] using hw
  have hheight : containerHeight ({} : Config Rat) [low, under, upper] = 92 := by
    rw [← hself]
    decide
  rw [hheight] at hstart
  exact ⟨low, under, upper, text, rest, hself,
    (compileFragments_anyOrder {} .none [low, under] [under, low]).1 hperm hplaces, hdiffer, htext,
    (horders.2.1 hagree).container 500 ▸ htext, hstart⟩

end Document

end Letterpress
