import Letterpress.Proofs.Render.ReadTexts
import Letterpress.Proofs.Walk.Drafts
import Letterpress.Proofs.Walk.Offset

/-!
# Texts of a Walk

A design cannot bring markup of its own into a document by way of its texts. Whatever the
characters and the runs of a text are, its fragment is read as one element: a table at its
place, or a link around this table. The only cell of the table holds the spans of the
text, and they hold nothing but characters and line breaks.

Two kinds of strings are written without being escaped, the font families and the name of
a link. All this is true of them only as long as they do not end the quotes that they
stand in. What is read in place of them is what their references say.

## Main definitions

* `IsTextContent`: What is read in the cell of a text.

## Theorems

* `visit_text`: A text is always shown.
* `walk_texts`: What the fragments of the texts of a walk are read as.
-/

namespace Letterpress

open Render (PlacedTable IsSpanOf)

variable {K ω : Type} [Scalar K] {host : Host ω K} {config : Config K} {p : Placed K}
  {w w' : Walk} {made : Option Fragment} {s s' : Session ω K} {body : TextBody K}

omit [Scalar K] in
/-- A text is shown as one, unless its name makes it an animation. -/
theorem manner_of_text {node : Node K} (h : node.textBody = .ok body) :
    node.manner = .text ∨ ∃ gif, node.manner = .gif gif := by
  cases node with
  | container _ _ _ | shape _ _ | image _ _ => exact absurd h (by simp [Node.textBody])
  | text c b =>
      unfold Node.manner
      rw [if_neg (by simp [Node.isTableRegion])]
      cases gifId? (Node.text c b).name with
      | none => exact Or.inl rfl
      | some gif => exact Or.inr ⟨gif, rfl⟩

/-- What is read in the cell of a text: one span for each of its pieces, or the picture of
    the animation that its name makes of it. -/
def IsTextContent (config : Config K) (node : Node K) (body : TextBody K)
    (content : List Markup.Node) : Prop :=
  (node.manner = .text ∧ List.Forall₂ IsSpanOf body.pieces content) ∨
    ∃ gif width height, node.manner = .gif gif ∧
      content = [Render.imageNode (config.assetPath (gif ++ ".gif"))
        (Render.imageAlternative (config.assetPath (gif ++ ".gif"))) width height]

/-- A text with bounds is always shown. -/
theorem visit_text (hbody : p.node.textBody = .ok body) (hbox : p.node.bounds = some p.box)
    (h : visit host config p w s = (.ok w', s'))
    (hmade : w'.fragments = w.fragments ++ made.toList) : made.isSome = true := by
  rcases visit_made h hmade with ⟨shift, own, w₁, s₁, -, hown, hlink⟩
  have hsome : own.isSome = true := by
    rcases manner_of_text hbody with htext | ⟨gif, hgif⟩
    · rw [visitUnlinked_manner, htext] at hown
      simp only [Render.text, hbox, Task.bind_ok, Task.lift_ok, Task.number_ok, Task.pure_ok,
        Prod.mk.injEq] at hown
      rcases hown with ⟨_, _, ⟨_, _, -, _, _, -, _, _, -, f, _, -, rfl, -⟩, ⟨rfl, -⟩, -⟩
      rfl
    · rcases visitUnlinked_gif hgif hown with ⟨f, rfl, -, -⟩
      rfl
  rcases hlink with ⟨rfl, -, -⟩ | ⟨fragment, target, wrapped, w₂, -, -, -, rfl, -⟩
  · exact hsome
  · rfl

variable [InertText K]

/-- What the fragments of the texts of a walk are read as. There is one for each text, and
    it is read as a single element: a table at the place of the fragment, in the link that
    is named after the text if the fragment is in a link. -/
theorem walk_texts {root : Node K} {frame : Rect K} (hbounds : root.bounds = some frame)
    (h : walk host config root s = (.ok w, s')) :
    ∃ (nodes : List (Node K)) (steps : List (Placed K × Option Fragment)),
      root.childList = .ok nodes ∧
      steps.map Prod.fst
        = (placedChildren frame nodes).filter (fun p => !p.isElided config frame) ∧
      w.fragments = steps.filterMap Prod.snd ∧
      ∀ p made, (p, made) ∈ steps → ∀ body, p.node.textBody = .ok body →
        (∀ name ∈ p.node.names, '"' ∉ name.toList) →
        (∀ name ∈ p.node.names, Text.hasLongCode name.toList = false) →
        ∃ f link cell content, made = some f ∧
          Markup.parse f.markup = .ok (Markup.Node.root [PlacedTable.node
            ⟨link, f.left, f.top, f.width, some f.height, Render.cellRow cell content⟩]) ∧
          (f.linkWrapped = false → link = none) ∧
          (f.linkWrapped = true → ∃ id, link = some id ∧
            Text.decodeReferences p.node.id.toList = .ok id.toList ∧
            ('&' ∉ p.node.id.toList → id = p.node.id)) ∧
          IsTextContent config p.node body content := by
  rcases walk_visits hbounds h with ⟨nodes, steps, before, s₀, hnodes, hsteps, hbefore, hvisits⟩
  have hfragments : w.fragments = steps.filterMap Prod.snd := by
    rw [hvisits.fragments, (backgroundOf_step hbefore).1]
    rfl
  refine ⟨nodes, steps, hnodes, hsteps, hfragments, ?_⟩
  intro p made hstep body hbody hquotes hcodes
  have hplaced : p ∈ placedChildren frame nodes :=
    List.mem_of_mem_filter (hsteps ▸ List.mem_map_of_mem hstep)
  have hbox := (mem_placedChildren hplaced).2.2
  rcases hvisits.visited hstep with ⟨w₁, s₁, w₂, s₂, hvisit, hmade⟩
  rcases Option.isSome_iff_exists.mp (visit_text hbody hbox hvisit hmade) with ⟨f, rfl⟩
  have hmanner := manner_of_text hbody
  have htable : p.node.manner ≠ .table := by
    rcases hmanner with htext | ⟨gif, hgif⟩
    · rw [htext]
      simp
    · rw [hgif]
      simp
  rcases visit_made_draft (fun hregion => absurd hregion htable) hbox (fun _ hname => hname) hvisit
    hmade f rfl with ⟨t, ht, hid⟩
  rcases Document.readsAs_draft ht.draft hquotes hcodes with ⟨link, rows, hreads, hlink, hrows⟩
  -- The rows of the draft are known, and so is what they are decoded to.
  have hcell : ∃ cell content, rows = Render.cellRow cell content ∧
      IsTextContent config p.node body content := by
    rcases hmanner with htext | ⟨gif, hgif⟩
    · rcases (ht.text body htext hbody).decode hrows with ⟨css, spans, rfl, hspans⟩
      exact ⟨_, spans, rfl, Or.inl ⟨htext, hspans⟩⟩
    · have hshows := ht.shows
      rw [hgif] at hshows
      rcases hshows with ⟨width, height, hrow⟩
      rw [hrow, Render.imageRow_decode] at hrows
      exact ⟨[], _, (Except.ok.inj hrows).symm, Or.inr ⟨gif, width, height, hgif, rfl⟩⟩
  rcases hcell with ⟨cell, content, rfl, hcontent⟩
  have hnode : PlacedTable.mk link f.left f.top f.width (some f.height)
      (Render.cellRow cell content) = { t with link, rows := Render.cellRow cell content } := by
    have hheight : t.height = some f.height := ht.height.trans (if_neg htable)
    rw [hreads.left, hreads.top, hreads.width, ← hheight]
  have hwrapped : f.linkWrapped = link.isSome := hreads.linkWrapped
  refine ⟨f, link, cell, content, rfl, by rw [hnode]; exact hreads.parse, fun hplain => ?_,
    fun hin => ?_, hcontent⟩
  · simpa [hwrapped] using hplain
  · rcases hlink with ⟨-, rfl⟩ | ⟨id, value, hsome, hvalue, rfl⟩
    · exact absurd (hwrapped.symm.trans hin) (by simp)
    · obtain rfl := hid id hsome
      refine ⟨_, rfl, by rw [String.toList_ofList]; exact hvalue, fun hplain => ?_⟩
      rw [Text.decodeReferences_plain hplain] at hvalue
      rw [← Except.ok.inj hvalue, String.ofList_toList]

/-- A text that is a link. Its characters look like markup, and so does its name. -/
def note : Node Rat :=
  .text ⟨"<7>", "[link] tea", true, some ⟨0, 10, 80, 16⟩, []⟩
    ⟨"<b>\n&", [⟨0, 5, ⟨"Tea & Co", "Regular"⟩, 400, 12, [], ⟨.auto, 0⟩, .none⟩], "LEFT", none⟩

/-- A frame with a note. -/
def linkedNote : Node Rat :=
  .container ⟨"0", "Card", true, some ⟨0, 0, 100, 40⟩, []⟩ .frame [note]

/-- The fragment of the note is its table in its link, with a single span. -/
theorem walk_texts_linkedNote :
    ∃ (w : Walk) (s : Session Unit Rat) (f : Fragment) (cell : List Markup.Attribute)
      (content : List Markup.Node),
      walk fontlessHost {} linkedNote ⟨(), [], []⟩ = (.ok w, s) ∧ w.fragments = [f] ∧
      Markup.parse f.markup = .ok (Markup.Node.root [PlacedTable.node
        ⟨some "<7>", 0, 10, 80, some 16, Render.cellRow cell content⟩]) ∧
      List.Forall₂ IsSpanOf ["<b>\n&".toList] content := by
  have hwalked : (walk fontlessHost {} linkedNote ⟨(), [], []⟩).1.toOption.map
      (fun w => w.fragments.map fun f => (f.left, f.top, f.width, f.height, f.linkWrapped))
        = some [(0, 10, 80, 16, true)] := by
    decide +kernel
  rcases Task.returned_of_read hwalked with ⟨w, s, hrun, hread⟩
  simp only [List.map_eq_singleton_iff, Prod.mk.injEq] at hread
  rcases hread with ⟨f, hf, hleft, htop, hwidth, hheight, hlinked⟩
  rcases walk_texts (show linkedNote.bounds = some ⟨0, 0, 100, 40⟩ from rfl) hrun with
    ⟨nodes, steps, hnodes, hsteps, hfragments, htexts⟩
  -- The fragment comes from the only child.
  have hstep : f ∈ steps.filterMap Prod.snd := by
    rw [← hfragments, hf]
    exact List.mem_singleton_self f
  rcases List.mem_filterMap.mp hstep with ⟨⟨p, made⟩, hmem, rfl⟩
  have hplaced := List.mem_of_mem_filter (hsteps ▸ List.mem_map_of_mem hmem)
  have hchild := (mem_placedChildren hplaced).1
  rw [← Except.ok.inj hnodes, List.mem_singleton] at hchild
  have hquotes : ∀ name ∈ note.names, '"' ∉ name.toList := by decide
  have hcodes : ∀ name ∈ note.names, Text.hasLongCode name.toList = false := by decide
  rcases htexts p (some f) hmem _ (by rw [hchild]; rfl) (by rwa [hchild]) (by rwa [hchild]) with
    ⟨g, link, cell, content, hg, hparse, -, hlink, hcontent⟩
  obtain rfl := Option.some.inj hg
  rcases hlink hlinked with ⟨id, rfl, -, hid⟩
  rw [hchild] at hid hcontent
  obtain rfl := hid (by decide)
  rw [hleft, htop, hwidth, hheight] at hparse
  have hmanner : note.manner = .text := by decide
  rcases hcontent with ⟨-, hspans⟩ | ⟨gif, _, _, hgif, -⟩
  · exact ⟨w, s, f, cell, content, hrun, hf, hparse, hspans⟩
  · exact absurd (hmanner.symm.trans hgif) (by simp)

end Letterpress
