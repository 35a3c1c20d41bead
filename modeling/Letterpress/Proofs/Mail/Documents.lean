import Letterpress.Mail.Compose
import Letterpress.Proofs.Document.Modest
import Letterpress.Proofs.Mail.Payment
import Letterpress.Proofs.Number.Exact
import Letterpress.Proofs.Walk.Drafts
import Letterpress.Proofs.Walk.Offset
import Letterpress.Proofs.Walk.References

/-!
# Documents of Mails

A mail in table layout is settled: no table in it is positioned, whatever the names of
its design are and whatever its host answers. The positions that it does write stand in
comments. Compiling it again therefore gives it back.

A mail comes with its pictures and with notes on its links and its animations. Its document
refers to exactly these. On the way there it was written and read twice: the addresses were
escaped, decoded and escaped again, and the links were taken out with their tables. Nothing
gets lost, and nothing is referred to twice. This holds in both layouts, and whatever the
design tool fails to deliver.

## Main definitions

* `ofWalk`: The mail of a walk.
* `pictures`: The pictures of a mail but for the one in its background.

## Theorems

* `compose_walked`, `compose_ok`, `compose_returns`: What a composed mail is made of.
* `compose_settled`: Nothing can be taken out of a mail in table layout.
* `compose_references`: The document of a mail refers to the records of the mail.
-/

namespace Letterpress.Mail

variable {K ω : Type} [Scalar K] {host : Host ω K} {ledger : Option (Ledger ω)}
  {config : Config K} {layout : MailLayout} {selection : List (Node K)} {s s' : Session ω K}
  {mail : Mail}

/-- The mail of a walk, with its document. -/
def ofWalk (root : Node K) (w : Walk) (html : String) : Mail where
  html
  fileName := Text.slug root.name
  assets := w.assets
  previews := w.previews
  links := w.links
  gifs := w.gifs

/-- A composed mail is that of a walk over the frame that was selected, with its records and
    its document. -/
theorem compose_walked (h : compose host ledger config layout selection s = (.ok mail, s')) :
    ∃ (root : Node K) (frame : Rect K) (paid : Session ω K) (w : Walk),
      selectedFrame selection = .ok root ∧ payForTables ledger root s = (.ok (), paid) ∧
      root.bounds = some frame ∧ walk host config root paid = (.ok w, s') ∧
      document config layout frame w = .ok mail.html ∧ mail = ofWalk root w mail.html := by
  simp only [compose, Task.bind_ok, Task.lift_ok] at h
  rcases h with ⟨root, _, ⟨hroot, rfl⟩, _, paid, hpaid, h⟩
  cases hbounds : root.bounds with
  | none =>
      simp only [hbounds, Task.throw_ok] at h
  | some frame =>
      simp only [hbounds, Task.bind_ok, Task.lift_ok, Task.pure_ok] at h
      rcases h with ⟨w, _, hwalk, html, _, ⟨hdocument, rfl⟩, rfl, rfl⟩
      exact ⟨root, frame, paid, w, hroot, hpaid, hbounds, hwalk, hdocument, rfl⟩

/-- A composed mail holds the document of a walk over the frame that was selected. -/
theorem compose_ok (h : compose host ledger config layout selection s = (.ok mail, s')) :
    ∃ (root : Node K) (frame : Rect K) (paid : Session ω K) (w : Walk),
      selectedFrame selection = .ok root ∧ payForTables ledger root s = (.ok (), paid) ∧
      root.bounds = some frame ∧ walk host config root paid = (.ok w, s') ∧
      document config layout frame w = .ok mail.html := by
  rcases compose_walked h with ⟨root, frame, paid, w, hroot, hpaid, hbounds, hwalk, hdocument, -⟩
  exact ⟨root, frame, paid, w, hroot, hpaid, hbounds, hwalk, hdocument⟩

/-- A mail is composed once the steps to it are taken. -/
theorem compose_returns {root : Node K} {frame : Rect K} {paid : Session ω K} {w : Walk}
    {html : String} (hroot : selectedFrame selection = .ok root)
    (hpaid : payForTables ledger root s = (.ok (), paid)) (hbounds : root.bounds = some frame)
    (hwalk : walk host config root paid = (.ok w, s'))
    (hdocument : document config layout frame w = .ok html) :
    ∃ mail, compose host ledger config layout selection s = (.ok mail, s') ∧
      mail = ofWalk root w html := by
  refine ⟨ofWalk root w html, ?_, rfl⟩
  simp only [compose, Task.bind_ok, Task.lift_ok]
  refine ⟨root, s, ⟨hroot, rfl⟩, (), paid, hpaid, ?_⟩
  simp only [hbounds, Task.bind_ok, Task.lift_ok, Task.pure_ok]
  exact ⟨w, s', hwalk, html, s', ⟨hdocument, rfl⟩, rfl, rfl⟩

omit [Scalar K] in
/-- Without a ledger nothing is paid for. -/
theorem payForTables_none (root : Node K) : payForTables none root s = (.ok (), s) := by
  unfold payForTables
  cases root.countTableRegions <;> rfl

/-- With fragments, a mail in table layout holds them compiled. -/
theorem document_tables {frame : Rect K} {w : Walk} (hne : w.fragments ≠ []) :
    document config .tables frame w
      = Document.compileFragments config w.fragments frame.width frame.height w.background := by
  simp [document, hne]

/-- A mail in absolute layout holds its fragments at their places. -/
theorem document_absolute {frame : Rect K} {w : Walk} {html : String}
    (h : Document.absoluteDocument config w.fragments frame.width frame.height w.background
      = .ok html) : document config .absolute frame w = .ok html := by
  simp [document, h, Except.mapError]

/-- Nothing can be taken out of a mail in table layout, and compiling it again gives it
    back, at any width that has a number of pixels. -/
theorem compose_settled [InertText K] (hconfig : config.IsPlain)
    (hnames : ∀ root ∈ selection, ∀ name ∈ root.names, '"' ∉ name.toList)
    (h : compose host ledger config .tables selection s = (.ok mail, s')) :
    ∃ (root : Node K) (paid : Session ω K) (w : Walk), root ∈ selection ∧
      payForTables ledger root s = (.ok (), paid) ∧ walk host config root paid = (.ok w, s') ∧
      (w.fragments ≠ [] → ∀ (other : Config K) (width : K),
        Document.extract other mail.html width
            = (do let _ ← Scalar.roundHalfUp width; return []) ∧
          ∀ height background, Document.compile other mail.html width height background
            = (do let _ ← Scalar.roundHalfUp width; return mail.html)) := by
  rcases compose_ok h with ⟨root, frame, paid, w, hroot, hpaid, -, hwalk, hdocument⟩
  have hselected : root ∈ selection := by
    rw [(selectedFrame_ok.mp hroot).1]
    exact List.mem_singleton_self root
  rcases walk_drafts hconfig hwalk with ⟨hdrafts, hbackground⟩
  refine ⟨root, paid, w, hselected, hpaid, hwalk, fun hne other width => ?_⟩
  rw [document_tables hne] at hdocument
  exact Document.compileFragments_settled hconfig hbackground hne hdrafts (hnames root hselected)
    hdocument other width

/-- A frame with a single line. -/
def ruledCard : Node Rat :=
  .container ⟨"0", "Card", true, some ⟨0, 0, 40, 20⟩, []⟩ .frame
    [.shape ⟨"1", "Line", true, some ⟨0, 5, 40, 2⟩, []⟩ ⟨.rectangle, none, none⟩]

/-- The card has a fragment, and its mail is settled. -/
theorem compose_settled_ruledCard :
    ∃ (mail : Mail) (s : Session Unit Rat),
      compose picturelessHost none {} .tables [ruledCard] ⟨(), [], []⟩ = (.ok mail, s) ∧
      Document.extract {} mail.html (40 : Rat) = .ok [] ∧
      Document.compile {} mail.html (40 : Rat) 20 .none = .ok mail.html := by
  have hnames : ∀ root ∈ [ruledCard], ∀ name ∈ root.names, '"' ∉ name.toList := by
    decide
  have hcodes : ∀ name ∈ ruledCard.names, Text.hasLongCode name.toList = false := by
    decide
  have hwalked : (walk picturelessHost {} ruledCard ⟨(), [], []⟩).1.toOption.map
      (fun w => w.fragments.map fun f => [f.left, f.top, f.width, f.height])
      = some [[0, 5, 40, 2]] := by
    decide +kernel
  rcases Task.returned_of_read hwalked with ⟨w, s, hrun, hnumbers⟩
  have hne : w.fragments ≠ [] := by
    intro hempty
    simp [hempty] at hnumbers
  have hmodest : Document.IsModestLayout ({} : Config Rat) w.fragments 40 20 :=
    ⟨⟨by decide +kernel, by decide +kernel⟩,
      isModest_fragments (by rw [hnumbers]; decide +kernel),
      ⟨_, _, roundHalfUp_rat 40, by decide +kernel, roundInt_rat _⟩, _, roundHalfUp_rat 20⟩
  rcases Document.compileFragments_returns hmodest (walk_drafts isPlain_default hrun).1
    (hnames ruledCard (List.mem_singleton_self _)) hcodes w.background with ⟨html, hhtml⟩
  have hframe : selectedFrame [ruledCard] = .ok ruledCard :=
    selectedFrame_ok.mpr ⟨rfl, rfl⟩
  rcases compose_returns hframe (payForTables_none ruledCard) rfl hrun
    ((document_tables hne).trans hhtml) with ⟨mail, hmail, -⟩
  rcases compose_settled isPlain_default hnames hmail with
    ⟨root, paid, w', hroot, hpaid, hwalk, hsettled⟩
  obtain rfl := List.mem_singleton.mp hroot
  -- The walk that the mail is made of is the one that was run.
  rw [payForTables_none, Prod.mk.injEq] at hpaid
  rw [← hpaid.2, hrun, Prod.mk.injEq, Except.ok.injEq] at hwalk
  have hwidth := hsettled (hwalk.1 ▸ hne) {} (40 : Rat)
  rw [roundHalfUp_rat] at hwidth
  exact ⟨mail, s, hmail, hwidth.1, hwidth.2 20 .none⟩

end Letterpress.Mail

namespace Letterpress.Mail

variable {K ω : Type} [Scalar K] {host : Host ω K} {ledger : Option (Ledger ω)}
  {config : Config K} {layout : MailLayout} {selection : List (Node K)} {s s' : Session ω K}
  {mail : Mail}

/-- The pictures of a mail but for the one in its background, which always has the first
    number. -/
def pictures (mail : Mail) : List Asset :=
  mail.assets.filter fun a => a.name ≠ pictureName "bg-image" 1

theorem pictures_names (mail : Mail) : mail.pictures.map Asset.name
    = (mail.assets.map Asset.name).filter fun name => name ≠ pictureName "bg-image" 1 := by
  rw [pictures, List.filter_map]
  rfl

/-- The fragments of a walk stand in its document. In table layout there is only a document
    if their names can be read; in absolute layout nobody has read them. -/
theorem document_holdsAll (hconfig : config.IsPlain) {names : List String}
    (hquotes : ∀ name ∈ names, '"' ∉ name.toList)
    (hcodes : layout = .absolute → ∀ name ∈ names, Text.hasLongCode name.toList = false)
    {frame : Rect K} {w : Walk} (hdrafts : w.HasDrafts names)
    (hbackground : w.background.IsPlain) {html : String}
    (h : document config layout frame w = .ok html) :
    ∃ tree, Markup.parse html = .ok tree ∧ Document.HoldsAll w.fragments tree := by
  rw [document] at h
  split at h
  · rename_i htables
    have hne : w.fragments ≠ [] := by
      simp only [Bool.and_eq_true, Bool.not_eq_true', List.isEmpty_eq_false_iff] at htables
      exact htables.2
    exact Document.compileFragments_holdsAll hconfig hbackground hne hdrafts hquotes h
  · rename_i habsolute
    rw [mapError_ok] at h
    cases layout with
    | absolute =>
        exact Document.absoluteDocument_holdsAll hconfig hbackground hdrafts hquotes (hcodes rfl) h
    | tables =>
        -- Only without fragments is there no table.
        have hnil : w.fragments = [] := by simpa using habsolute
        have hnone : ∀ f ∈ w.fragments, ∃ t : Render.PlacedTable, Render.HasDraft [] f t := by
          simp [hnil]
        exact Document.absoluteDocument_holdsAll hconfig hbackground hnone (by simp) (by simp) h

variable [InertText K]

/-- The document of a mail refers to the records of the mail, in both layouts: it holds each of
    its links, and shows each of its animations and each of its pictures but for the one in the
    background. -/
theorem compose_references (hconfig : config.IsPlain)
    (hquotes : ∀ root ∈ selection, ∀ name ∈ root.names, '"' ∉ name.toList)
    (hids : ∀ root ∈ selection, ∀ nodes, root.childList = .ok nodes →
      ∀ node ∈ nodes, '&' ∉ node.id.toList)
    (hcodes : layout = .absolute →
      ∀ root ∈ selection, ∀ name ∈ root.names, Text.hasLongCode name.toList = false)
    (h : compose host ledger config layout selection s = (.ok mail, s')) :
    ∃ tree, Markup.parse mail.html = .ok tree ∧
      tree.linkIds.Perm (mail.links.map fun link => some link.id) ∧
      tree.pictureSources.Perm ((recordedSources config mail.pictures mail.gifs).map some) := by
  rcases compose_walked h with
    ⟨root, frame, paid, w, hroot, -, hbounds, hwalk, hdocument, hmail⟩
  have hselected : root ∈ selection := by
    rw [(selectedFrame_ok.mp hroot).1]
    exact List.mem_singleton_self root
  rcases walk_drafts hconfig hwalk with ⟨hdrafts, hbackground⟩
  rcases document_holdsAll hconfig (hquotes root hselected)
    (fun hlayout => hcodes hlayout root hselected) hdrafts hbackground hdocument with
    ⟨tree, htree, hholds⟩
  rcases walk_referred hconfig (hquotes root hselected) (hids root hselected) hbounds hwalk with
    ⟨sheet, refs, shown, hsheet, hreferred⟩
  rcases hholds.references hreferred.fragments with ⟨hpictures, hlinks⟩
  have hassets : mail.assets = w.assets := congrArg Mail.assets hmail
  have hrecorded : mail.links = w.links := congrArg Mail.links hmail
  have hgifs : mail.gifs = w.gifs := congrArg Mail.gifs hmail
  have hshown : mail.pictures = shown := by
    rw [pictures, hassets, hreferred.assets, List.filter_append,
      List.filter_eq_nil_iff.mpr fun a ha => by simpa using hsheet a (Option.mem_toList.mp ha),
      List.nil_append, List.filter_eq_self]
    -- The picture of a child is never named like that of the background.
    intro a ha
    rcases hreferred.kinds a ha with ⟨k, hk⟩
    rw [decide_eq_true_eq, hk]
    exact fun hsame => absurd (pictureName_inj hsame).1 (by decide)
  rw [hreferred.links, List.map_map, ← hrecorded] at hlinks
  rw [hshown, hgifs]
  exact ⟨tree, htree, hlinks, hpictures.trans (hreferred.sources.map some)⟩

/-- Both documents of the postcard show its photo and its animation, and hold the link of the
    photo. Neither shows the picture in the background. -/
theorem compose_references_postcard :
    ∃ (byTables byPlace : Mail) (s : Session Unit Rat) (tree tree' : Markup.Node),
      compose fontlessHost none {} .tables [postcard] ⟨(), [], []⟩ = (.ok byTables, s) ∧
      compose fontlessHost none {} .absolute [postcard] ⟨(), [], []⟩ = (.ok byPlace, s) ∧
      Markup.parse byTables.html = .ok tree ∧ Markup.parse byPlace.html = .ok tree' ∧
      (∀ shown ∈ [tree, tree'], shown.linkIds.Perm [some "1"] ∧
        shown.pictureSources.Perm [some "./images/image-2.png", some "./images/wave.gif"]) := by
  have hquotes : ∀ root ∈ [postcard], ∀ name ∈ root.names, '"' ∉ name.toList := by
    decide
  have hcodes : ∀ root ∈ [postcard], ∀ name ∈ root.names,
      Text.hasLongCode name.toList = false := by
    decide
  have hids : ∀ root ∈ [postcard], ∀ nodes, root.childList = .ok nodes →
      ∀ node ∈ nodes, '&' ∉ node.id.toList := by
    intro root hroot nodes hnodes
    obtain rfl := List.mem_singleton.mp hroot
    obtain rfl := Except.ok.inj hnodes
    decide
  have hwalked : (walk fontlessHost {} postcard ⟨(), [], []⟩).1.toOption.map
      (fun w => (w.fragments.map fun f => [f.left, f.top, f.width, f.height],
        w.assets.map Asset.name, w.links.map LinkPlaceholder.id, w.gifs))
        = some ([[0, 0, 100, 60], [0, 60, 100, 20]], ["bg-image-1.png", "image-2.png"], ["1"],
          [⟨"wave"⟩]) := by
    decide +kernel
  rcases Task.returned_of_read hwalked with ⟨w, s, hrun, hread⟩
  simp only [Prod.mk.injEq] at hread
  rcases hread with ⟨hplaced, hassets, hlinks, hgifs⟩
  have hframe : selectedFrame [postcard] = .ok postcard :=
    selectedFrame_ok.mpr ⟨rfl, rfl⟩
  -- In either layout the records of the mail are those of the walk.
  have hmail : ∀ {layout : MailLayout} {html : String},
      document ({} : Config Rat) layout ⟨0, 0, 100, 80⟩ w = .ok html →
      ∃ mail tree, compose fontlessHost none {} layout [postcard] ⟨(), [], []⟩ = (.ok mail, s) ∧
        Markup.parse mail.html = .ok tree ∧ tree.linkIds.Perm [some "1"] ∧
        tree.pictureSources.Perm
          [some "./images/image-2.png", some "./images/wave.gif"] := by
    intro layout html hdocument
    rcases compose_returns hframe (payForTables_none postcard) rfl hrun hdocument with
      ⟨mail, hmail, hwalk⟩
    rcases compose_references isPlain_default hquotes hids (fun _ => hcodes) hmail with
      ⟨tree, htree, hids', hpictures⟩
    have hnames : mail.pictures.map Asset.name = ["image-2.png"] := by
      have hassets' : mail.assets.map Asset.name = ["bg-image-1.png", "image-2.png"] := by
        rw [hwalk]
        exact hassets
      rw [pictures_names, hassets']
      decide +kernel
    have hrecorded : recordedSources ({} : Config Rat) mail.pictures mail.gifs
        = ["./images/image-2.png", "./images/wave.gif"] := by
      have hpaths : mail.pictures.map (fun a => ({} : Config Rat).assetPath a.name)
          = (mail.pictures.map Asset.name).map ({} : Config Rat).assetPath := by
        rw [List.map_map]
        rfl
      have hwave : mail.gifs = [⟨"wave"⟩] := by
        rw [hwalk]
        exact hgifs
      rw [recordedSources, hpaths, hnames, hwave]
      decide +kernel
    have hlink : (mail.links.map fun link => some link.id) = [some "1"] := by
      rw [hwalk]
      have hsome := congrArg (List.map some) hlinks
      rw [List.map_map] at hsome
      exact hsome
    rw [hrecorded] at hpictures
    rw [hlink] at hids'
    exact ⟨mail, tree, hmail, htree, hids', hpictures⟩
  have hne : w.fragments ≠ [] := by
    intro hempty
    simp [hempty] at hplaced
  have hmodest : Document.IsModestLayout ({} : Config Rat) w.fragments 100 80 :=
    ⟨⟨by decide +kernel, by decide +kernel⟩,
      isModest_fragments (by rw [hplaced]; decide +kernel),
      ⟨_, _, roundHalfUp_rat 100, by decide +kernel, roundInt_rat _⟩, _, roundHalfUp_rat 80⟩
  rcases Document.compileFragments_returns hmodest (walk_drafts isPlain_default hrun).1
    (hquotes _ (List.mem_singleton_self _)) (hcodes _ (List.mem_singleton_self _))
    w.background with ⟨html, hhtml⟩
  rcases Document.absoluteDocument_rat {} w.fragments 100 80 w.background with ⟨html', hhtml'⟩
  rcases hmail ((document_tables hne).trans hhtml) with
    ⟨byTables, tree, hmade, hparse, hlinked, hshown⟩
  rcases hmail (document_absolute hhtml') with
    ⟨byPlace, tree', hmade', hparse', hlinked', hshown'⟩
  exact ⟨byTables, byPlace, s, tree, tree', hmade, hmade', hparse, hparse',
    List.forall_mem_cons.mpr ⟨⟨hlinked, hshown⟩,
      List.forall_mem_singleton.mpr ⟨hlinked', hshown'⟩⟩⟩

end Letterpress.Mail
