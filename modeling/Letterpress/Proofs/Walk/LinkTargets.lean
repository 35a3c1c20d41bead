import Letterpress.Proofs.Style.Reading
import Letterpress.Proofs.Walk.References

/-!
# Targets of Links

A name that starts with the link directive declares a target: the text after the
directive, trimmed, or `#` if that is blank. What the name is read for is less if the
declared target goes over several lines. Then only its first line is taken, and is
trimmed once more, since a line may end in blanks.

A walk takes the target from the name of the child and records it with the link. It does
so once for each fragment that it puts in a link, in the order of the fragments.

## Main definitions

* `declaredTarget`: The target that the text after the directive declares.
* `isLinkStep`: The visit put its fragment in a link.
* `IsLinkOf`: The link is the one that the visit recorded.

## Theorems

* `trim_firstLine`: The first line of a text, found before or after trimming.
* `linkTarget?_eq`: The target is the first line of the declared one.
* `linkTarget?_declared`: Which names have the target that they declare.
* `visit_links`: The link that a visit records.
* `Visits.links`: The links of a run.
* `walk_links`: The links of a walk have the targets in the names of their children.
-/

namespace Letterpress

open Text

section Names

variable {name : String} {after : List Char}

/-- The target that a text declares: the text without blank margins, or `#`. -/
def declaredTarget (after : List Char) : String :=
  if trim after = [] then "#" else String.ofList (trim after)

/-- Blanks at the end of a text are trimmed with its margins. -/
theorem trim_append {s gap : List Char} (hgap : ∀ c ∈ gap, isBlank c = true) :
    trim (s ++ gap) = trim s := by
  have hend : ∀ t : List Char, trimEnd (t ++ gap) = trimEnd t := by
    intro t
    unfold trimEnd
    rw [List.reverse_append, List.dropWhile_append_of_pos]
    intro c hc
    exact hgap c (List.mem_reverse.mp hc)
  rw [trim, trim, trimStart, trimStart, List.dropWhile_append]
  by_cases hblank : (s.dropWhile isBlank).isEmpty = true
  · rw [if_pos hblank, List.isEmpty_iff.mp hblank, List.dropWhile_eq_nil_iff.mpr hgap]
  · rw [if_neg hblank, hend]

/-- A text is what remains of it when it is trimmed at its end, and blanks. -/
theorem trimEnd_parts (s : List Char) :
    ∃ gap, (∀ c ∈ gap, isBlank c = true) ∧ s = trimEnd s ++ gap := by
  rcases trimStart_parts s.reverse with ⟨gap, hgap, hparts⟩
  refine ⟨gap.reverse, fun c hc => hgap c (List.mem_reverse.mp hc), ?_⟩
  rw [← List.reverse_inj, List.reverse_append, List.reverse_reverse, trimEnd,
    List.reverse_reverse]
  exact hparts

/-- The first line of a text that is not blank is the same, up to blanks, whether or not
    the end of the text is trimmed before. -/
theorem trim_firstLine (s : List Char) :
    trim ((trimStart s).takeWhile (· ≠ '\n')) = trim ((trim s).takeWhile (· ≠ '\n')) := by
  rcases trimEnd_parts (trimStart s) with ⟨gap, hgap, hparts⟩
  change trimStart s = trim s ++ gap at hparts
  by_cases hline : '\n' ∈ trim s
  -- The line ends before the margin.
  · have hstop : ((trim s).takeWhile (· ≠ '\n')).length ≠ (trim s).length := by
      intro hlength
      have hall := (List.takeWhile_prefix (l := trim s) (· ≠ '\n')).eq_of_length hlength
      rw [← hall] at hline
      simpa using List.mem_takeWhile_imp hline
    rw [hparts, List.takeWhile_append, if_neg hstop]
  -- The line is the whole text, and perhaps some of the margin.
  · have hall : ∀ c ∈ trim s, decide (c ≠ '\n') = true := by
      intro c hc
      rw [decide_eq_true_eq]
      rintro rfl
      exact hline hc
    rw [hparts, List.takeWhile_append_of_pos hall, List.takeWhile_eq_self_iff.mpr hall]
    exact trim_append fun c hc => hgap c ((List.takeWhile_prefix _).subset hc)

/-- The target of a name is the first line of the target that it declares. -/
theorem linkTarget?_eq (hname : name.toList = Directive.link.toList ++ after) :
    linkTarget? name = some (declaredTarget ((trim after).takeWhile (· ≠ '\n'))) := by
  have hlink : hasDirective name Directive.link = true :=
    (hasDirective_iff (by decide)).mpr ⟨after, hname⟩
  have hafter : name.toList.drop Directive.link.length = after := by
    rw [hname, ← String.length_toList, List.drop_left]
  rw [linkTarget?, if_pos hlink, hafter, declaredTarget]
  simp only [trim_firstLine]

/-- A name has the target that it declares if and only if that is on one line. -/
theorem linkTarget?_declared (hname : name.toList = Directive.link.toList ++ after) :
    linkTarget? name = some (declaredTarget after) ↔ '\n' ∉ trim after := by
  rw [linkTarget?_eq hname, Option.some.injEq]
  constructor
  · intro htarget hline
    have hmem : '\n' ∈ (declaredTarget ((trim after).takeWhile (· ≠ '\n'))).toList := by
      rw [htarget, declaredTarget, if_neg (List.ne_nil_of_mem hline), String.toList_ofList]
      exact hline
    -- There is no line end in a mark, and none in what was taken up to the first one.
    unfold declaredTarget at hmem
    split at hmem
    · exact absurd hmem (by decide)
    · rw [String.toList_ofList] at hmem
      simpa using List.mem_takeWhile_imp (mem_of_mem_trim hmem)
  · intro hline
    have hall : (trim after).takeWhile (· ≠ '\n') = trim after := by
      rw [List.takeWhile_eq_self_iff]
      intro c hc
      rw [decide_eq_true_eq]
      rintro rfl
      exact hline hc
    rw [hall, declaredTarget, declaredTarget, trim_trim]

end Names

variable {K ω : Type} [Scalar K] {host : Host ω K} {config : Config K} {p : Placed K}
  {w w' : Walk} {made : Option Fragment} {s s' : Session ω K}
  {steps : List (Placed K × Option Fragment)}

/-- The visit put its fragment in a link. -/
def isLinkStep (step : Placed K × Option Fragment) : Bool :=
  step.2.any Fragment.linkWrapped

/-- The link belongs to the child of the visit and has the target in its name. -/
structure IsLinkOf (link : LinkPlaceholder) (step : Placed K × Option Fragment) : Prop where
  id : link.id = step.1.node.id
  url : linkTarget? step.1.node.name = some link.url

/-- A visit records a link if and only if it puts its fragment in one. -/
theorem visit_links (h : visit host config p w s = (.ok w', s'))
    (hmade : w'.fragments = w.fragments ++ made.toList) :
    ∃ links, w'.links = w.links ++ links ∧
      List.Forall₂ IsLinkOf links ([(p, made)].filter isLinkStep) := by
  rcases visit_made h hmade with ⟨shift, own, w₁, s₁, -, hown, hlink⟩
  have hplain := (visitUnlinked_adds hown).2
  have hlinks : w₁.links = w.links := (visitUnlinked_records hown).2.1
  -- A fragment that was not put in a link, whatever the name says.
  have hunlinked : ∀ own' : Option Fragment, (∀ f ∈ own', f.linkWrapped = false) →
      List.Forall₂ IsLinkOf [] ([(p, own')].filter isLinkStep) := by
    intro own' hown'
    rw [List.filter_cons_of_neg]
    · exact .nil
    · cases own' with
      | none => simp [isLinkStep]
      | some f => simp [isLinkStep, hown' f rfl]
  rcases hlink with
    ⟨rfl, rfl, -⟩ | ⟨fragment, target, wrapped, w₂, rfl, htarget, hwrapped, rfl, rfl⟩
  · exact ⟨[], by rw [List.append_nil, ← hlinks]; rfl, hunlinked made hplain⟩
  · rcases visitLink_cases hwrapped with ⟨rfl, rfl⟩ | ⟨data, rfl, rfl⟩
    · exact ⟨[], by rw [List.append_nil, ← hlinks]; rfl, hunlinked _ hplain⟩
    · refine ⟨[⟨p.node.id, target, w₁.nextName "link-preview"⟩], by rw [← hlinks]; rfl, ?_⟩
      rw [List.filter_cons_of_pos rfl, List.filter_nil]
      exact .cons ⟨rfl, htarget⟩ .nil

/-- The links that a run records are those of the fragments that it puts in links. -/
theorem Visits.links (h : Visits host config steps w s w' s') :
    ∃ links, w'.links = w.links ++ links ∧
      List.Forall₂ IsLinkOf links (steps.filter isLinkStep) := by
  induction h with
  | nil w s => exact ⟨[], (List.append_nil _).symm, .nil⟩
  | @cons p made rest w w₁ w' s s₁ s' hvisit hmade hrest ih =>
      rcases visit_links hvisit hmade with ⟨first, hfirst, hown⟩
      rcases ih with ⟨links, hlinks, hsteps⟩
      refine ⟨first ++ links, by rw [hlinks, hfirst, List.append_assoc], ?_⟩
      have hsplit : ((p, made) :: rest).filter isLinkStep
          = [(p, made)].filter isLinkStep ++ rest.filter isLinkStep := by
        rw [← List.filter_append]
        rfl
      rw [hsplit]
      exact List.rel_append hown hsteps

/-- A name that starts with the link directive has a target: the first line of the text that
    follows, when that is trimmed, or `#` if it is blank. So the target is all of the trimmed
    text exactly if that is on one line. Whatever else a walk does, it records one link for
    each fragment that it puts in a link, in order, with the target in the name of the
    child. -/
theorem walk_links (host : Host ω K) (config : Config K) :
    (∀ (name : String) (after : List Char), name.toList = Directive.link.toList ++ after →
      linkTarget? name = some (declaredTarget ((trim after).takeWhile (· ≠ '\n'))) ∧
      (linkTarget? name = some (declaredTarget after) ↔ '\n' ∉ trim after)) ∧
    ∀ (root : Node K) (frame : Rect K) (w : Walk) (s s' : Session ω K),
      root.bounds = some frame → walk host config root s = (.ok w, s') →
      ∃ (nodes : List (Node K)) (steps : List (Placed K × Option Fragment)),
        root.childList = .ok nodes ∧
        steps.map Prod.fst
          = (placedChildren frame nodes).filter (fun p => !p.isElided config frame) ∧
        w.fragments = steps.filterMap Prod.snd ∧
        List.Forall₂ IsLinkOf w.links (steps.filter isLinkStep) := by
  refine ⟨fun name after hname => ⟨linkTarget?_eq hname, linkTarget?_declared hname⟩, ?_⟩
  intro root frame w s s' hbounds h
  -- Links are only recorded by visits, since the background records none.
  rcases walk_visits hbounds h with ⟨nodes, steps, before, s₀, hnodes, hsteps, hbefore, hvisits⟩
  rcases hvisits.links with ⟨links, hlinks, hof⟩
  rw [(backgroundOf_records hbefore).2.1, List.nil_append] at hlinks
  refine ⟨nodes, steps, hnodes, hsteps, ?_, hlinks ▸ hof⟩
  rw [hvisits.fragments, (backgroundOf_step hbefore).1]
  rfl

/-- A photo whose name declares a target that goes over two lines. -/
def brokenLink : Node Rat :=
  .container ⟨"0", "Card", true, some ⟨0, 0, 100, 80⟩, []⟩ .frame
    [.image ⟨"1", "[link] https://example.com/a\nb", true, some ⟨0, 0, 100, 60⟩, []⟩ "IMAGE"]

/-- The photo links to the first line of the target that it declares. -/
theorem walk_links_brokenLink :
    ∃ (w : Walk) (s : Session Unit Rat) (steps : List (Placed Rat × Option Fragment)),
      walk fontlessHost {} brokenLink ⟨(), [], []⟩ = (.ok w, s) ∧
      w.links.map LinkPlaceholder.url = ["https://example.com/a"] ∧
      declaredTarget " https://example.com/a\nb".toList = "https://example.com/a\nb" ∧
      linkTarget? "[link] https://example.com/a\nb"
        ≠ some (declaredTarget " https://example.com/a\nb".toList) ∧
      List.Forall₂ IsLinkOf w.links (steps.filter isLinkStep) := by
  have hurls : (walk fontlessHost {} brokenLink ⟨(), [], []⟩).1.toOption.map
      (fun w => w.links.map LinkPlaceholder.url) = some ["https://example.com/a"] := by
    decide +kernel
  rcases walk_links fontlessHost {} with ⟨hnames, hwalks⟩
  rcases hrun : walk fontlessHost {} brokenLink ⟨(), [], []⟩ with ⟨result, s⟩
  rw [hrun] at hurls
  cases result with
  | error fault => exact absurd hurls (by simp [Except.toOption])
  | ok w =>
      rcases hwalks brokenLink ⟨0, 0, 100, 80⟩ w _ s rfl hrun with ⟨nodes, steps, -, -, -, hlinks⟩
      refine ⟨w, s, steps, rfl, Option.some.inj hurls, by decide +kernel, ?_, hlinks⟩
      have hdeclared := (hnames "[link] https://example.com/a\nb"
        " https://example.com/a\nb".toList (by decide +kernel)).2
      rw [ne_eq, hdeclared]
      decide +kernel

end Letterpress
