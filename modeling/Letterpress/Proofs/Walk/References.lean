import Letterpress.Proofs.Document.References
import Letterpress.Proofs.Walk.Drafts
import Letterpress.Proofs.Walk.Records

/-!
# References and Records of a Walk

A walk writes references into its fragments, and records beside them what they refer to.
The markup of its fragments, when it is read, holds the address of each picture and of each
animation that was recorded, and the name of each link, and nothing else. Pictures that were
not delivered are neither shown nor recorded, and a fragment without its preview stands in
no link.

## Main definitions

* `Walk.IsReferred`: The fragments of a walk refer to its records.

## Theorems

* `visitUnlinked_records`: What is recorded for a child is what it is shown by.
* `visit_referred`, `Visits.referred`: A visit, and a run over children.
* `walk_referred`: The fragments of a walk refer to its records.
-/

namespace Letterpress

open Document (References)

variable {K ω : Type} [Scalar K] {host : Host ω K} {config : Config K} {p : Placed K} {y : K}
  {w w₁ w' : Walk} {made : Option Fragment} {s s' : Session ω K} {sheet : Option Asset}
  {refs : List References} {pictures : List Asset}

/-- The addresses that records of pictures and animations stand for. -/
def recordedSources (config : Config K) (pictures : List Asset) (gifs : List GifPlaceholder) :
    List String :=
  pictures.map (fun a => config.assetPath a.name)
    ++ gifs.map fun gif => config.assetPath (gif.id ++ ".gif")

/-- The fragments of a walk refer to its links, its animations and its pictures but for the
    one in the background. -/
structure Walk.IsReferred (config : Config K) (w : Walk) (sheet : Option Asset)
    (refs : List References) (pictures : List Asset) : Prop where
  fragments : List.Forall₂ Fragment.RefersTo w.fragments refs
  assets : w.assets = sheet.toList ++ pictures
  kinds : ∀ a ∈ pictures, ∃ k, a.name = pictureName "image" k
  sources : (refs.filterMap References.source).Perm (recordedSources config pictures w.gifs)
  links : refs.filterMap References.link = w.links.map LinkPlaceholder.id

/-- Records that were added together with fragments that refer to them. -/
theorem Walk.IsReferred.add (h : w.IsReferred config sheet refs pictures)
    {made : List Fragment} {added : List References} {shown : List Asset}
    {gifs : List GifPlaceholder} {links : List LinkPlaceholder}
    (hfragments : w'.fragments = w.fragments ++ made)
    (hadded : List.Forall₂ Fragment.RefersTo made added)
    (hassets : w'.assets = w.assets ++ shown)
    (hkinds : ∀ a ∈ shown, ∃ k, a.name = pictureName "image" k)
    (hgifs : w'.gifs = w.gifs ++ gifs)
    (hsources : added.filterMap References.source = recordedSources config shown gifs)
    (hlinks : w'.links = w.links ++ links)
    (hids : added.filterMap References.link = links.map LinkPlaceholder.id) :
    w'.IsReferred config sheet (refs ++ added) (pictures ++ shown) where
  fragments := by
    rw [hfragments]
    exact List.rel_append h.fragments hadded
  assets := by rw [hassets, h.assets, List.append_assoc]
  kinds := List.forall_mem_append.mpr ⟨h.kinds, hkinds⟩
  sources := by
    rw [List.filterMap_append, hsources, hgifs]
    refine (h.sources.append_right _).trans ?_
    -- Pictures and animations are listed apart.
    simp only [recordedSources, List.map_append, List.append_assoc]
    exact (List.perm_append_comm_assoc _ _ _).append_left _
  links := by rw [List.filterMap_append, hids, hlinks, List.map_append, h.links]

/-- What is recorded for a child is what it is shown by. -/
theorem visitUnlinked_records (h : visitUnlinked host config p y w s = (.ok (made, w₁), s')) :
    w₁.fragments = w.fragments ∧ w₁.links = w.links ∧
      ∃ shown gifs, w₁.assets = w.assets ++ shown ∧ w₁.gifs = w.gifs ++ gifs ∧
        (∀ a ∈ shown, ∃ k, a.name = pictureName "image" k) ∧
        made.toList.filterMap (fun _ => p.node.manner.source? config w)
          = recordedSources config shown gifs := by
  rcases visitUnlinked_adds h with ⟨hadds, hplain⟩
  rcases hadds.pictures with ⟨shown, hassets, hshown⟩
  rcases hadds.gifs with ⟨gifs, hgifs, hgif⟩
  have hlinks : w₁.links = w.links := by
    rcases hadds.links with ⟨links, _, hlinks, -, -, hin⟩
    have hnone : links = [] := by
      cases made with
      | none => simpa using hin
      | some f => simpa [hplain f rfl] using hin
    rw [hlinks, hnone, List.append_nil]
  refine ⟨(visitUnlinked_step h).2.1, hlinks, ?_⟩
  cases hmanner : p.node.manner with
  | gif id =>
      rcases visitUnlinked_gif hmanner h with ⟨f, rfl, rfl, -⟩
      exact ⟨[], [⟨id⟩], (List.append_nil _).symm, rfl, by simp, rfl⟩
  | picture =>
      rcases visitUnlinked_picture hmanner h with ⟨_, -, rfl, rfl⟩ | ⟨data, f, -, -, rfl, rfl⟩
      · exact ⟨[], [], (List.append_nil _).symm, (List.append_nil _).symm, by simp, rfl⟩
      · exact ⟨[⟨w.nextName "image", data⟩], [], rfl, (List.append_nil _).symm, by simp
          [nextName_eq], rfl⟩
  | table | text | shape =>
      -- Nothing is recorded for what is shown by markup alone.
      have hshown : shown = [] := by simpa [isPictureStep, hmanner] using hshown
      have hgif : gifs = [] := by simpa [isGifStep, hmanner] using hgif
      subst hshown hgif
      exact ⟨[], [], hassets, hgifs, by simp, by cases made <;> rfl⟩

section Visiting

variable [InertText K] {names : List String}

/-- A visit adds what its fragment refers to. -/
theorem visit_referred (hconfig : config.IsPlain) (hbox : p.node.bounds = some p.box)
    (hnames : ∀ name ∈ p.node.names, name ∈ names) (hquotes : ∀ name ∈ names, '"' ∉ name.toList)
    (hid : '&' ∉ p.node.id.toList) (hw : w.IsReferred config sheet refs pictures)
    (h : visit host config p w s = (.ok w', s')) :
    ∃ refs' pictures', w'.IsReferred config sheet refs' pictures' := by
  rcases visit_cases h with ⟨shift, own, w₁, s₁, -, hown, hlink⟩
  rcases visitUnlinked_records hown with
    ⟨hfragments, hlinks, shown, gifs, hassets, hgifs, hkinds, hsources⟩
  have hdraft := visitUnlinked_draft (fun _ => hconfig) hbox hnames hown
  -- A fragment that stays as it is, whether or not it should have been in a link.
  have hunlinked : ∀ named, ∃ refs' pictures',
      Walk.IsReferred config { w₁.addFragment own with named } sheet refs' pictures' := by
    have hadded : List.Forall₂ Fragment.RefersTo own.toList
        (own.toList.map fun _ => ⟨p.node.manner.source? config w, none⟩) := by
      cases own with
      | none => exact .nil
      | some f =>
          rcases hdraft f rfl with ⟨t, ht, hnone⟩
          have href := Document.refersTo_draft ht.draft hquotes ht.shows (by simp [hnone])
          rw [hnone] at href
          exact .cons href .nil
    have hshown : (own.toList.map fun _ => References.mk (p.node.manner.source? config w)
        none).filterMap References.source = recordedSources config shown gifs := by
      rw [List.filterMap_map, ← hsources]
      rfl
    have hids : (own.toList.map fun _ => References.mk (p.node.manner.source? config w)
        none).filterMap References.link = ([] : List LinkPlaceholder).map LinkPlaceholder.id := by
      cases own <;> rfl
    exact fun named => ⟨_, _, hw.add (congrArg (· ++ own.toList) hfragments) hadded hassets hkinds
      hgifs hshown (hlinks.trans (List.append_nil _).symm) hids⟩
  rcases hlink with ⟨rfl, -⟩ | ⟨fragment, target, wrapped, w₂, rfl, -, hwrapped, rfl⟩
  · exact hunlinked w₁.named
  · rcases visitLink_cases hwrapped with ⟨rfl, rfl⟩ | ⟨data, rfl, rfl⟩
    · exact hunlinked (w₁.named + 1)
    · rcases hdraft fragment rfl with ⟨t, ht, hnone⟩
      have hlinked := Render.link_draft ht.draft hnone (hnames _ (id_names p.node))
      have href := Document.refersTo_draft hlinked hquotes ht.shows fun id hsame => by
        rw [← Option.some.inj hsame]
        exact hid
      have hadded := congrArg
        (· ++ [LinkPlaceholder.mk p.node.id target (w₁.nextName "link-preview")]) hlinks
      exact ⟨_, _, hw.add (congrArg (· ++ [_]) hfragments) (.cons href .nil) hassets hkinds hgifs
        hsources hadded rfl⟩

/-- A run over children adds what its fragments refer to. -/
theorem Visits.referred {steps : List (Placed K × Option Fragment)} (hconfig : config.IsPlain)
    (hquotes : ∀ name ∈ names, '"' ∉ name.toList)
    (hsteps : ∀ step ∈ steps, step.1.node.bounds = some step.1.box ∧
      (∀ name ∈ step.1.node.names, name ∈ names) ∧ '&' ∉ step.1.node.id.toList)
    (hw : w.IsReferred config sheet refs pictures) (h : Visits host config steps w s w' s') :
    ∃ refs' pictures', w'.IsReferred config sheet refs' pictures' := by
  induction h generalizing refs pictures with
  | nil w s => exact ⟨refs, pictures, hw⟩
  | @cons p made rest w w₁ w' s s₁ s' hvisit hmade hrest ih =>
      rw [List.forall_mem_cons] at hsteps
      rcases hsteps.1 with ⟨hbox, hnames, hid⟩
      rcases visit_referred hconfig hbox hnames hquotes hid hw hvisit with ⟨_, _, hw₁⟩
      exact ih hsteps.2 hw₁

/-- The fragments of a walk refer to its records, whatever its host fails to deliver. -/
theorem walk_referred {root : Node K} {frame : Rect K} (hconfig : config.IsPlain)
    (hquotes : ∀ name ∈ root.names, '"' ∉ name.toList)
    (hids : ∀ nodes, root.childList = .ok nodes → ∀ node ∈ nodes, '&' ∉ node.id.toList)
    (hbounds : root.bounds = some frame) (h : walk host config root s = (.ok w, s')) :
    ∃ sheet refs pictures, (∀ a ∈ sheet, a.name = pictureName "bg-image" 1) ∧
      w.IsReferred config sheet refs pictures := by
  rcases walk_visits hbounds h with ⟨nodes, steps, before, s₀, hnodes, hsteps, hbefore, hvisits⟩
  rcases backgroundOf_records hbefore with ⟨-, hlinks, hgifs, -, sheet, hsheet, hname, -⟩
  -- Before the first child nothing is recorded but the picture in the background.
  have hstart : before.IsReferred config sheet [] [] := by
    refine ⟨?_, by rw [hsheet, List.append_nil], by simp, ?_, by rw [hlinks]; rfl⟩
    · rw [(backgroundOf_step hbefore).1]
      exact .nil
    · rw [hgifs]
      exact .nil
  have hchildren : ∀ step ∈ steps, step.1.node.bounds = some step.1.box ∧
      (∀ name ∈ step.1.node.names, name ∈ root.names) ∧ '&' ∉ step.1.node.id.toList := by
    intro step hstep
    have hplaced : step.1 ∈ placedChildren frame nodes :=
      List.mem_of_mem_filter (hsteps ▸ List.mem_map_of_mem hstep)
    rcases mem_placedChildren hplaced with ⟨hchild, -, hbox⟩
    exact ⟨hbox, child_names hnodes hchild, hids nodes hnodes _ hchild⟩
  rcases hvisits.referred hconfig hquotes hchildren hstart with ⟨refs, pictures, hreferred⟩
  exact ⟨sheet, refs, pictures, hname, hreferred⟩

end Visiting

end Letterpress
