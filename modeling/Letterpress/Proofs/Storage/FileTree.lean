import Letterpress.Proofs.Session
import Letterpress.Storage.FileTree

/-!
# Changes to a File Tree

A step that writes a file or makes a directory below a given directory changes what is at
one place, and it can be taken unless something of the other kind is there already. So a
series of steps is described by the entries it lays below the directory. If these are at
different places, no step takes back what another has done, and whether the series can be
taken is seen before its first step.

The directories on the way stay directories throughout, so that paths keep leading where
they led.

## Main definitions

* `IsFileName`: A name of a single file.
* `FileTree.IsDirectoryAt`: A path leads to a directory at a place.
* `FileTree.Gains`: A tree has gained entries and is the same elsewhere.
* `Filing.Lays`: What a series of steps adds to a tree, and when it can.

## Theorems

* `find?_put`: A tree with something at a place.
* `ensureDirectories_ok`: After making directories, the path leads to one.
* `write_lays`, `ensureDirectory_lays`, `Lays.andThen`: Single steps and series of steps.
-/

namespace Letterpress

/-- The name of a single file or directory: no path of several names, and no step to the
    directory itself or up. -/
structure IsFileName (name : String) : Prop where
  ne_empty : name ≠ ""
  ne_self : name ≠ "."
  ne_up : name ≠ ".."
  noSlash : '/' ∉ name.toList

namespace IsFileName

/-- A name with an extension is the name of a file if no slash is in it. -/
theorem of_extension {s extension : String} (hs : '/' ∉ s.toList)
    (hextension : '/' ∉ extension.toList) (hlong : 3 ≤ extension.toList.length) :
    IsFileName (s ++ extension) := by
  have hlength : 3 ≤ (s ++ extension).toList.length := by
    rw [String.toList_append, List.length_append]
    omega
  refine ⟨?_, ?_, ?_, ?_⟩
  · intro h
    exact absurd (h ▸ hlength) (by decide)
  · intro h
    exact absurd (h ▸ hlength) (by decide)
  · intro h
    exact absurd (h ▸ hlength) (by decide)
  · rw [String.toList_append, List.mem_append, not_or]
    exact ⟨hs, hextension⟩

theorem splitOn_none {p : Char → Bool} {s : List Char} (h : ∀ c ∈ s, p c = false) :
    Text.splitOn p s = [s] := by
  induction s with
  | nil => rfl
  | cons c s ih =>
      rw [List.forall_mem_cons] at h
      rw [Text.splitOn, h.1, ih h.2]
      rfl

variable {name : String}

/-- The name is a path of one name. -/
theorem ofText (h : IsFileName name) : Path.ofText name = ⟨"", [name]⟩ := by
  have hsplit : Text.splitOn (· = '/') name.toList = [name.toList] := by
    refine splitOn_none fun c hc => ?_
    rw [decide_eq_false_iff_not]
    rintro rfl
    exact h.noSlash hc
  have hroot : Path.rootOf name.toList = "" := by
    cases hlist : name.toList with
    | nil => rfl
    | cons c rest =>
        have hc : c ≠ '/' := by
          rintro rfl
          exact h.noSlash (hlist ▸ List.mem_cons_self)
        unfold Path.rootOf
        split <;> simp_all
  have hempty : name.toList ≠ [] := fun hnil => h.ne_empty (String.toList_inj.mp hnil)
  have hself : name.toList ≠ ['.'] := fun hself => h.ne_self (String.toList_inj.mp hself)
  rw [Path.ofText, hroot, Path.namesOf, hsplit, List.filter_cons_of_pos (by simp [hempty, hself]),
    List.filter_nil, List.map_singleton, String.ofList_toList]

theorem join (h : IsFileName name) (p : Path) :
    p.join (.ofText name) = ⟨p.root, p.names ++ [name]⟩ := by
  rw [h.ofText]
  rfl

theorem step (h : IsFileName name) (place : Place) : place.step name = place ++ [name] := by
  rw [Place.step, if_pos h.ne_up]

/-- Nothing is given at a place that such a name leads to. -/
theorem notGiven (h : IsFileName name) (place : Place) : (place ++ [name]).isGiven = false := by
  have hslash : ∀ root : String, '/' ∈ root.toList → place ++ [name] ≠ [root] := by
    intro root hroot hplace
    have hlast : name = root := by
      have hends := congrArg List.getLast? hplace
      simpa using hends
    exact h.noSlash (hlast ▸ hroot)
  have hup : (place ++ [name]).all (· = "..") = false := by
    simp [h.ne_up]
  rw [Place.isGiven, Place.isRoot, hup, Bool.or_false, Bool.or_eq_false_iff,
    decide_eq_false_iff_not, decide_eq_false_iff_not]
  exact ⟨hslash "/" (by decide), hslash "//" (by decide)⟩

end IsFileName

namespace FileTree

variable {t t' t₁ : FileTree} {p : Path} {place q : Place}

theorem lookup_putEntry (q : Place) (entry : Entry) (entries : List (Place × Entry)) (r : Place) :
    (putEntry q entry entries).lookup r = if r = q then some entry else entries.lookup r :=
  lookup_of_set (putEntry q entry) rfl (fun _ _ _ => rfl) entries r

/-- A tree with something at a place, where nothing is given. -/
theorem find?_put (h : q.isGiven = false) (t : FileTree) (entry : Entry) (r : Place) :
    (t.put q entry).find? r = if r = q then some entry else t.find? r := by
  rw [find?, find?]
  by_cases hr : r = q
  · subst hr
    rw [h, if_neg Bool.false_ne_true, if_pos rfl, put, lookup_putEntry, if_pos rfl]
  · rw [if_neg hr, put, lookup_putEntry, if_neg hr]

/-- What is at a place can be replaced by an entry: a file by a file, and nothing by
    anything. A directory may be there already. -/
def Fits : Option Entry → Entry → Prop
  | some .directory, .file _ => False
  | some (.file _), .directory => False
  | _, _ => True

/-- Where there were directories there are directories still. -/
def KeepsDirectories (t t' : FileTree) : Prop :=
  ∀ q, t.find? q = some .directory → t'.find? q = some .directory

/-- Nothing is different except for new directories. -/
def AddsDirectories (t t' : FileTree) : Prop :=
  ∀ q, t'.find? q = t.find? q ∨ t.find? q = none ∧ t'.find? q = some .directory

theorem addsDirectories_refl (t : FileTree) : t.AddsDirectories t :=
  fun _ => Or.inl rfl

theorem AddsDirectories.trans (h : t.AddsDirectories t₁) (h₁ : t₁.AddsDirectories t') :
    t.AddsDirectories t' := by
  intro q
  rcases h₁ q with hsame | ⟨hnone, hnew⟩
  · rw [hsame]
    exact h q
  · rcases h q with hsame | ⟨-, hnew'⟩
    · exact Or.inr ⟨hsame ▸ hnone, hnew⟩
    · rw [hnew'] at hnone
      exact absurd hnone (by simp)

theorem AddsDirectories.keeps (h : t.AddsDirectories t') : t.KeepsDirectories t' := by
  intro q hq
  rcases h q with hsame | ⟨hnone, -⟩
  · rw [hsame, hq]
  · rw [hq] at hnone
    exact absurd hnone (by simp)

/-- Names keep leading where they led. -/
theorem follow_kept (h : t.KeepsDirectories t') {names : List String} {place : Place}
    (hfollow : t.follow place names = .ok q) : t'.follow place names = .ok q := by
  induction names generalizing place with
  | nil => exact hfollow
  | cons name rest ih =>
      rw [follow] at hfollow ⊢
      cases hfind : t.find? place with
      | none =>
          rw [hfind] at hfollow
          exact (except_throw_ok.mp hfollow).elim
      | some entry =>
          cases entry with
          | file content =>
              rw [hfind] at hfollow
              exact (except_throw_ok.mp hfollow).elim
          | directory =>
              rw [hfind] at hfollow
              rw [h place hfind]
              exact ih hfollow

theorem locate_kept (h : t.KeepsDirectories t') (hlocate : t.locate p = .ok place) :
    t'.locate p = .ok place := by
  rw [locate, mapError_ok] at hlocate ⊢
  exact follow_kept h hlocate

/-- The path leads to a directory at the place. -/
structure IsDirectoryAt (t : FileTree) (p : Path) (place : Place) : Prop where
  located : t.locate p = .ok place
  directory : t.find? place = some .directory

theorem IsDirectoryAt.kept (h : t.IsDirectoryAt p place) (hkept : t.KeepsDirectories t') :
    t'.IsDirectoryAt p place :=
  ⟨locate_kept hkept h.located, hkept place h.directory⟩

theorem isDirectoryAt_of_has (h : t.hasDirectory p = true) : ∃ place, t.IsDirectoryAt p place := by
  rw [hasDirectory, lookup?] at h
  cases hlocate : t.locate p with
  | error e => simp [hlocate] at h
  | ok place =>
      refine ⟨place, hlocate, ?_⟩
      simp only [hlocate] at h
      split at h
      · assumption
      · exact absurd h Bool.false_ne_true

section Making

theorem makeDirectory_ok (h : t.makeDirectory p = .ok t') :
    ∃ place, t.locate p = .ok place ∧ t.find? place = none ∧ t' = t.put place .directory := by
  simp only [makeDirectory, except_bind_ok] at h
  rcases h with ⟨place, hplace, h⟩
  cases hfind : t.find? place with
  | some entry =>
      rw [hfind] at h
      exact (except_throw_ok.mp h).elim
  | none =>
      rw [hfind, except_pure_ok] at h
      exact ⟨place, hplace, hfind, h.symm⟩

theorem notGiven_of_none (h : t.find? q = none) : q.isGiven = false := by
  rw [find?] at h
  by_contra hgiven
  rw [if_pos (by simpa using hgiven)] at h
  exact absurd h (by simp)

theorem addsDirectories_put (h : t.find? q = none) : t.AddsDirectories (t.put q .directory) := by
  intro r
  rw [find?_put (notGiven_of_none h)]
  by_cases hr : r = q
  · rw [if_pos hr, hr]
    exact Or.inr ⟨h, rfl⟩
  · rw [if_neg hr]
    exact Or.inl rfl

/-- After making a directory, the path leads to one. -/
theorem makeDirectory_leads (h : t.makeDirectory p = .ok t') :
    t.AddsDirectories t' ∧ ∃ place, t'.IsDirectoryAt p place := by
  rcases makeDirectory_ok h with ⟨place, hplace, hnone, rfl⟩
  have hadds := addsDirectories_put hnone
  refine ⟨hadds, place, locate_kept hadds.keeps hplace, ?_⟩
  rw [find?_put (notGiven_of_none hnone), if_pos rfl]

theorem ensureDirectory_leads (h : t.ensureDirectory p = .ok t') :
    t.AddsDirectories t' ∧ ∃ place, t'.IsDirectoryAt p place := by
  rw [ensureDirectory] at h
  split at h
  · rename_i hmade
    rw [except_pure_ok] at h
    exact h ▸ makeDirectory_leads hmade
  · split at h
    · rename_i hhas
      rw [except_pure_ok] at h
      exact h ▸ ⟨addsDirectories_refl t, isDirectoryAt_of_has hhas⟩
    · exact (except_throw_ok.mp h).elim

theorem ensureNames_leads (root : String) {names : List String}
    (h : t.ensureNames root names = .ok t') :
    t.AddsDirectories t' ∧ ∃ place, t'.IsDirectoryAt ⟨root, names.reverse⟩ place := by
  induction names generalizing t t' with
  | nil => exact ensureDirectory_leads h
  | cons name above ih =>
      simp only [ensureNames] at h
      split at h
      · rename_i hmade
        rw [except_pure_ok] at h
        exact h ▸ makeDirectory_leads hmade
      -- Something is missing on the way, and is made first.
      · rw [except_bind_ok] at h
        rcases h with ⟨t₁, habove, hself⟩
        rcases ensureDirectory_leads hself with ⟨hadds, hleads⟩
        exact ⟨(ih habove).1.trans hadds, hleads⟩
      · split at h
        · rename_i hhas
          rw [except_pure_ok] at h
          exact h ▸ ⟨addsDirectories_refl t, isDirectoryAt_of_has hhas⟩
        · exact (except_throw_ok.mp h).elim

/-- After making a directory with all directories above it, the path leads to one, and
    nothing else is different. -/
theorem ensureDirectories_ok (h : t.ensureDirectories p = .ok t') :
    t.AddsDirectories t' ∧ ∃ place, t'.IsDirectoryAt p place := by
  have hleads := ensureNames_leads p.root h
  rwa [List.reverse_reverse] at hleads

end Making

section Below

variable {name : String}

theorem follow_append {names : List String} {place : Place} (hfollow : t.follow place names = .ok q)
    (hdirectory : t.find? q = some .directory) (name : String) :
    t.follow place (names ++ [name]) = .ok (q.step name) := by
  induction names generalizing place with
  | nil =>
      obtain rfl : place = q := except_pure_ok.mp hfollow
      -- A step is taken from a directory.
      rw [List.nil_append, follow, hdirectory]
      rfl
  | cons first rest ih =>
      rw [List.cons_append]
      rw [follow] at hfollow ⊢
      cases hfind : t.find? place with
      | none =>
          rw [hfind] at hfollow
          exact (except_throw_ok.mp hfollow).elim
      | some entry =>
          cases entry with
          | file content =>
              rw [hfind] at hfollow
              exact (except_throw_ok.mp hfollow).elim
          | directory =>
              rw [hfind] at hfollow
              exact ih hfollow

/-- A name below a directory leads one step further. -/
theorem IsDirectoryAt.locate_join (h : t.IsDirectoryAt p place) (hname : IsFileName name) :
    t.locate (p.join (.ofText name)) = .ok (place ++ [name]) := by
  have hlocated := h.located
  rw [locate, mapError_ok] at hlocated
  rw [locate, mapError_ok, hname.join]
  change t.follow (.ofRoot p.root) (p.names ++ [name]) = _
  rw [follow_append hlocated h.directory, hname.step]

end Below

/-- The tree has gained the entries below the place, and is the same elsewhere. -/
structure Gains (t t' : FileTree) (place : Place) (entries : List (List String × Entry)) :
    Prop where
  gained : ∀ e ∈ entries, t'.find? (place ++ e.1) = some e.2
  others : ∀ q, (∀ e ∈ entries, q ≠ place ++ e.1) → t'.find? q = t.find? q

variable {first second : List (List String × Entry)}

/-- Entries at different places are gained one after another. -/
theorem Gains.trans (h : t.Gains t₁ place first) (h₁ : t₁.Gains t' place second)
    (hapart : ∀ e ∈ first, ∀ e' ∈ second, e.1 ≠ e'.1) : t.Gains t' place (first ++ second) where
  gained e he := by
    rcases List.mem_append.mp he with he | he
    · rw [h₁.others _ fun e' he' hsame => hapart e he e' he' (List.append_cancel_left hsame)]
      exact h.gained e he
    · exact h₁.gained e he
  others q hq := by
    rw [List.forall_mem_append] at hq
    rw [h₁.others q hq.2, h.others q hq.1]

/-- Entries that fit leave directories in place. -/
theorem Gains.keeps (h : t.Gains t' place first)
    (hfits : ∀ e ∈ first, Fits (t.find? (place ++ e.1)) e.2) : t.KeepsDirectories t' := by
  intro q hq
  by_cases hplace : ∃ e ∈ first, q = place ++ e.1
  · rcases hplace with ⟨⟨names, entry⟩, he, rfl⟩
    have hself := hfits _ he
    rw [hq] at hself
    rw [h.gained _ he]
    -- Only a directory fits where one is.
    cases entry with
    | directory => rfl
    | file content => exact absurd hself id
  · push Not at hplace
    rw [h.others q hplace, hq]

end FileTree

namespace Filing

open FileTree

variable {t t' : FileTree} {p : Path} {place : Place} {entries : List (List String × Entry)}

theorem change_ok {f : FileTree → Except FileError FileTree} :
    change f t = (.ok (), t') ↔ f t = .ok t' := by
  unfold change
  cases f t with
  | error e => exact iff_of_false (fun h => nomatch (Prod.mk.inj h).1) (fun h => nomatch h)
  | ok after =>
      exact ⟨fun h => congrArg Except.ok (Prod.mk.inj h).2, fun h => by rw [Except.ok.inj h]⟩

/-- The steps lay entries below a place: they can all be taken exactly if the entries fit
    there, and then the tree has gained them. -/
structure Lays (steps : Filing Unit) (t : FileTree) (place : Place)
    (entries : List (List String × Entry)) : Prop where
  returns : (∃ t', steps t = (.ok (), t')) ↔ ∀ e ∈ entries, Fits (t.find? (place ++ e.1)) e.2
  gains : ∀ t', steps t = (.ok (), t') → t.Gains t' place entries

theorem Lays.keeps {steps : Filing Unit} (h : steps.Lays t place entries)
    (hrun : steps t = (.ok (), t')) : t.KeepsDirectories t' :=
  (h.gains t' hrun).keeps (h.returns.mp ⟨t', hrun⟩)

theorem lays_nil (t : FileTree) (place : Place) : (pure () : Filing Unit).Lays t place [] where
  returns := ⟨fun _ _ he => absurd he List.not_mem_nil, fun _ => ⟨t, rfl⟩⟩
  gains t' h := by
    rw [← (stateful_pure_ok.mp h).2]
    exact ⟨fun _ he => absurd he List.not_mem_nil, fun _ _ => rfl⟩

/-- Two series of steps lay the entries of both, if these are at different places. The second
    finds all directories in their places, and the entries of the first. -/
theorem Lays.andThen {steps more : Filing Unit} {first second : List (List String × Entry)}
    (h : steps.Lays t place first)
    (hmore : ∀ t₁, t.KeepsDirectories t₁ → t.Gains t₁ place first → more.Lays t₁ place second)
    (hapart : ∀ e ∈ first, ∀ e' ∈ second, e.1 ≠ e'.1) :
    (do steps; more : Filing Unit).Lays t place (first ++ second) := by
  have hnext : ∀ t₁, steps t = (.ok (), t₁) → more.Lays t₁ place second := fun t₁ hrun =>
    hmore t₁ (h.keeps hrun) (h.gains t₁ hrun)
  -- What the first steps leave alone fits as before.
  have hsame : ∀ t₁, steps t = (.ok (), t₁) →
      ∀ e ∈ second, t₁.find? (place ++ e.1) = t.find? (place ++ e.1) := by
    intro t₁ hrun e he
    refine (h.gains t₁ hrun).others _ fun e' he' hplace => ?_
    exact hapart e' he' e he (List.append_cancel_left hplace).symm
  refine ⟨⟨?_, ?_⟩, ?_⟩
  · rintro ⟨t', hrun⟩
    rcases stateful_bind_ok.mp hrun with ⟨_, t₁, hfirst, hsecond⟩
    refine List.forall_mem_append.mpr ⟨h.returns.mp ⟨t₁, hfirst⟩, fun e he => ?_⟩
    rw [← hsame t₁ hfirst e he]
    exact (hnext t₁ hfirst).returns.mp ⟨t', hsecond⟩ e he
  · intro hfits
    rw [List.forall_mem_append] at hfits
    rcases h.returns.mpr hfits.1 with ⟨t₁, hfirst⟩
    have hrest : ∀ e ∈ second, Fits (t₁.find? (place ++ e.1)) e.2 := by
      intro e he
      rw [hsame t₁ hfirst e he]
      exact hfits.2 e he
    rcases (hnext t₁ hfirst).returns.mpr hrest with ⟨t', hsecond⟩
    exact ⟨t', stateful_bind_ok.mpr ⟨(), t₁, hfirst, hsecond⟩⟩
  · intro t' hrun
    rcases stateful_bind_ok.mp hrun with ⟨_, t₁, hfirst, hsecond⟩
    exact (h.gains t₁ hfirst).trans ((hnext t₁ hfirst).gains t' hsecond) hapart

/-- Entries below a directory are entries below the one that it is in. -/
theorem Lays.below {steps : Filing Unit} {name : String}
    (h : steps.Lays t (place ++ [name]) entries) :
    steps.Lays t place (entries.map fun e => (name :: e.1, e.2)) := by
  have hplace : ∀ names : List String, place ++ name :: names = (place ++ [name]) ++ names :=
    fun names => by rw [List.append_assoc, List.singleton_append]
  refine ⟨?_, fun t' hrun => ⟨?_, fun q hq => (h.gains t' hrun).others q fun e he => ?_⟩⟩
  · rw [h.returns, List.forall_mem_map]
    exact forall₂_congr fun e _ => by rw [← hplace e.1]
  · rw [List.forall_mem_map]
    intro e he
    rw [hplace]
    exact (h.gains t' hrun).gained e he
  · rw [← hplace]
    exact hq _ (List.mem_map_of_mem he)

section Single

variable {name : String}

/-- A new entry is the only difference. -/
theorem gains_put (hname : IsFileName name) (entry : Entry) :
    t.Gains (t.put (place ++ [name]) entry) place [([name], entry)] where
  gained := List.forall_mem_singleton.mpr (by
    rw [find?_put (hname.notGiven place), if_pos rfl])
  others q hq := by
    rw [find?_put (hname.notGiven place), if_neg (hq _ (List.mem_singleton_self _))]

/-- Writing a file lays it below the directory. -/
theorem write_lays (h : t.IsDirectoryAt p place) (hname : IsFileName name) (content : Content) :
    (write (p.join (.ofText name)) content).Lays t place [([name], .file content)] := by
  have hwrite : ∀ t', write (p.join (.ofText name)) content t = (.ok (), t') ↔
      Fits (t.find? (place ++ [name])) (.file content) ∧
        t' = t.put (place ++ [name]) (.file content) := by
    intro t'
    rw [write, change_ok, FileTree.write, except_bind_ok]
    simp only [h.locate_join hname, Except.ok.injEq, exists_eq_left']
    cases t.find? (place ++ [name]) with
    | none => simpa [Fits, except_pure_ok] using eq_comm
    | some entry =>
        cases entry with
        | directory => simp [Fits, except_throw_ok]
        | file old => simpa [Fits, except_pure_ok] using eq_comm
  refine ⟨?_, fun t' hrun => ?_⟩
  · simp only [hwrite, List.forall_mem_singleton, exists_and_left, exists_eq, and_true]
  · rw [((hwrite t').mp hrun).2]
    exact gains_put hname _

/-- Making sure of a directory lays it below the one it is in. -/
theorem ensureDirectory_lays (h : t.IsDirectoryAt p place) (hname : IsFileName name) :
    (ensureDirectory (p.join (.ofText name))).Lays t place [([name], .directory)] := by
  have hlocate := h.locate_join hname
  -- The way to the place is known, and so only what is there matters.
  have hmake : t.makeDirectory (p.join (.ofText name))
      = (t.find? (place ++ [name])).elim (.ok (t.put (place ++ [name]) .directory))
        fun _ => .error ⟨.present, (p.join (.ofText name)).text⟩ := by
    simp only [makeDirectory, hlocate, bind, Except.bind]
    cases t.find? (place ++ [name]) <;> rfl
  have hensure : ∀ t', ensureDirectory (p.join (.ofText name)) t = (.ok (), t') ↔
      t.find? (place ++ [name]) = none ∧ t' = t.put (place ++ [name]) .directory ∨
        t.find? (place ++ [name]) = some .directory ∧ t' = t := by
    intro t'
    rw [ensureDirectory, change_ok, FileTree.ensureDirectory, hmake, hasDirectory, lookup?, hlocate]
    cases hfind : t.find? (place ++ [name]) with
    | none => simpa [except_pure_ok] using eq_comm
    | some entry =>
        cases entry with
        | directory => simpa [hfind, except_pure_ok] using eq_comm
        | file old => simp [hfind, except_throw_ok]
  refine ⟨?_, fun t' hrun => ?_⟩
  · simp only [hensure, List.forall_mem_singleton]
    cases t.find? (place ++ [name]) with
    | none => simp [Fits]
    | some entry => cases entry <;> simp [Fits]
  · rcases (hensure t').mp hrun with ⟨-, rfl⟩ | ⟨hthere, rfl⟩
    · exact gains_put hname _
    · exact ⟨List.forall_mem_singleton.mpr hthere, fun _ _ => rfl⟩

end Single

end Filing

end Letterpress
