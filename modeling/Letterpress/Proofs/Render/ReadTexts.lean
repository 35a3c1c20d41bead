import Letterpress.Proofs.Document.Lifting
import Letterpress.Proofs.Markup.Elements
import Letterpress.Proofs.Markup.Layer
import Letterpress.Proofs.Markup.RunningText
import Letterpress.Proofs.Render.TextDrafts

/-!
# What Texts Are Read as

What a reader gets to see of a tree: its character data with the references decoded, and a
line end for every line break. A text from outside is written so that a reader sees
exactly this text.

A text that was written is read as a single element, whatever its characters are: a placed
table with one cell, or a block. In it are spans and nothing else, one for each piece of
the text that a run covers. A span is read as its piece, and holds no elements but line
breaks. The styles of the spans are read as well, so that this depends on the font
families: they must not end the quotes that they stand in, and must hold no long codes.

## Main definitions

* `Node.characters`, `Node.charactersAll`: The characters that are read in a tree.
* `IsSpanOf`: A span that is read as a piece of a text.

## Theorems

* `decodeAll_runningText`: Decoding leaves the drafts of a text alone.
* `charactersAll_runningText`: The drafts of a text are read as the text.
* `text_readsAs`: What the fragment of a text is read as.
* `textBlock_parsed`: What a text inside of a table cell is read as.
* `characters_spans`: Spans are read as their pieces, one after another.
-/

namespace Letterpress.Markup

namespace Node

mutual

/-- The characters that are read in a node. -/
def characters : Node → Except NumeralError (List Char)
  | element tag _ children => if tag = "br" then return ['\n'] else charactersAll children
  | text data => Text.decodeReferences data.toList
  | comment _ => return []
  | declaration _ => return []

/-- The characters that are read in several nodes, one after another. -/
def charactersAll : List Node → Except NumeralError (List Char)
  | [] => return []
  | n :: ns => do
    let first ← characters n
    let rest ← charactersAll ns
    return first ++ rest

end

end Node

theorem charactersAll_cons {n : Node} {ns : List Node} {s : List Char} :
    Node.charactersAll (n :: ns) = .ok s ↔
      ∃ first rest, n.characters = .ok first ∧ Node.charactersAll ns = .ok rest ∧
        s = first ++ rest := by
  simp only [Node.charactersAll, except_bind_ok, except_pure_ok]
  constructor
  · rintro ⟨first, hfirst, rest, hrest, rfl⟩
    exact ⟨first, rest, hfirst, hrest, rfl⟩
  · rintro ⟨first, rest, hfirst, hrest, rfl⟩
    exact ⟨first, hfirst, rest, hrest, rfl⟩

/-- An element that is no line break is read as its content. -/
theorem characters_element {tag : String} (h : tag ≠ "br") (as : List Attribute)
    (children : List Node) :
    (Node.element tag as children).characters = Node.charactersAll children := by
  rw [Node.characters, if_neg h]

theorem charactersAll_single {n : Node} {s : List Char} (h : n.characters = .ok s) :
    Node.charactersAll [n] = .ok s :=
  charactersAll_cons.mpr ⟨s, [], h, rfl, (List.append_nil s).symm⟩

/-- Decoding leaves the drafts of a text alone: their references are no values. -/
theorem decodeAll_runningText {f : Char → String} {mark? : Char → Option Node}
    (h : IsMarking f mark?) (s : List Char) :
    Node.decodeAll (runningText mark? s) = .ok (runningText mark? s) :=
  decodeAll_inert _ (everywhereAll_runningText h inertAttributes_nil s)

/-- A plain character in front of drafts is read in front of what they are read as. -/
theorem charactersAll_addPlain {c : Char} (hc : isDataChar c = true) {ns : List Node}
    {s : List Char} (h : Node.charactersAll ns = .ok s) :
    Node.charactersAll (addPlain c ns) = .ok (c :: s) := by
  have hampersand : '&' ≠ c := by
    rintro rfl
    exact absurd hc (by decide)
  rcases addPlain_cases c ns with ⟨data, more, rfl, hdata, heq⟩ | ⟨-, heq⟩
  · -- The run that the character joins is plain as well, so both are read as they are.
    rcases charactersAll_cons.mp h with ⟨first, rest, hfirst, hrest, rfl⟩
    have hplain : '&' ∉ data.toList := by
      rw [isPlain, Bool.and_eq_true, List.all_eq_true] at hdata
      exact fun hmem => absurd (hdata.2 '&' hmem) (by decide)
    rw [Node.characters, Text.decodeReferences_plain hplain] at hfirst
    obtain rfl := Except.ok.inj hfirst
    rw [heq]
    refine charactersAll_cons.mpr ⟨c :: data.toList, rest, ?_, hrest, rfl⟩
    rw [Node.characters, String.toList_ofList]
    exact Text.decodeReferences_plain (List.not_mem_cons_of_ne_of_not_mem hampersand hplain)
  · rw [heq]
    refine charactersAll_cons.mpr ⟨[c], s, ?_, h, rfl⟩
    rw [Node.characters, String.toList_ofList]
    exact Text.decodeReferences_plain (by simpa using hampersand)

/-- The mark for a character in a span is read as the character. -/
theorem spanMark?_characters {c : Char} {n : Node} (h : spanMark? c = some n) :
    n.characters = .ok [c] := by
  -- The three marks of characters are references, which read back by themselves.
  have hreference : ∀ {d : Char} (name : List Char),
      (∀ s, Text.readReference? (name ++ s) = some (.ok [d], s)) →
        Text.decodeReferences ('&' :: name) = .ok [d] := by
    intro d name hread
    have hdecode := Text.decodeReferences_reference hread []
    rw [List.append_nil, Text.decodeReferences_nil] at hdecode
    exact hdecode
  unfold spanMark? at h
  by_cases hbreak : c = '\n'
  · rw [if_pos hbreak] at h
    rw [← Option.some.inj h, hbreak, Node.characters, if_pos rfl]
    rfl
  · rw [if_neg hbreak] at h
    unfold textMark? at h
    split at h
    · rw [← Option.some.inj h]
      exact hreference "amp;".toList fun s => rfl
    · rw [← Option.some.inj h]
      exact hreference "lt;".toList fun s => rfl
    · rw [← Option.some.inj h]
      exact hreference "gt;".toList fun s => rfl
    · exact absurd h (by simp)

/-- The drafts of a text in a span are read as the text. -/
theorem charactersAll_runningText (s : List Char) :
    Node.charactersAll (runningText spanMark? s) = .ok s := by
  induction s with
  | nil => rfl
  | cons c s ih =>
      rw [runningText]
      cases hmark : spanMark? c with
      | none => exact charactersAll_addPlain (spanCharacter_marking.plain c hmark).2 ih
      | some n => exact charactersAll_cons.mpr ⟨[c], s, spanMark?_characters hmark, ih, rfl⟩

end Letterpress.Markup

namespace Letterpress.Render

open Markup (Attribute)
open Document (ReadsAs)

/-- The node is a span that is read as a piece of a text, with no elements in it but line
    breaks. -/
structure IsSpanOf (piece : List Char) (n : Markup.Node) : Prop where
  tag : n.tag? = some "span"
  characters : n.characters = .ok piece
  breaks : ∀ e ∈ n.elementsBelow, e.tag? = some "br"

/-- A span is one of the piece that it was written for. -/
theorem isSpanOf_spanNode (css : String) (piece : List Char) :
    IsSpanOf piece (spanNode css piece) := by
  refine ⟨rfl, ?_, ?_⟩
  · rw [spanNode, Markup.characters_element (by decide)]
    exact Markup.charactersAll_runningText piece
  · rw [spanNode, Markup.elementsBelow_element]
    -- A search for elements that are no line breaks finds nothing.
    have hother : (Markup.Node.elementsAll (Markup.runningText Markup.spanMark? piece)).filter
        (fun e => e.tag? ≠ some "br") = [] :=
      Markup.filter_elementsAll (P := fun tag _ => tag = "br")
        (fun tag as children htag => by simp [Markup.Node.tag?, htag]) _
        (Markup.everywhereAll_runningText Markup.spanCharacter_marking rfl piece)
    intro e he
    simpa using List.filter_eq_nil_iff.mp hother e he

theorem forall₂_spanNodes (styled : List (String × List Char)) :
    List.Forall₂ IsSpanOf (styled.map Prod.snd) (spanNodes styled) := by
  rw [spanNodes, List.forall₂_map_left_iff, List.forall₂_map_right_iff]
  exact List.forall₂_same.mpr fun p _ => isSpanOf_spanNode p.1 p.2

/-- Spans are read as their pieces, one after another. -/
theorem characters_spans {pieces : List (List Char)} {spans : List Markup.Node}
    (h : List.Forall₂ IsSpanOf pieces spans) :
    Markup.Node.charactersAll spans = .ok pieces.flatten := by
  induction h with
  | nil => rfl
  | @cons piece span pieces spans hspan _ ih =>
      exact Markup.charactersAll_cons.mpr ⟨piece, _, hspan.characters, ih, rfl⟩

/-- Decoding changes the styles of spans at most. -/
theorem spanNodes_decode {styled : List (String × List Char)} {ms : List Markup.Node}
    (h : Markup.Node.decodeAll (spanNodes styled) = .ok ms) :
    ∃ styled', ms = spanNodes styled' ∧ styled'.map Prod.snd = styled.map Prod.snd := by
  induction styled generalizing ms with
  | nil => exact ⟨[], Markup.decodeAll_nil.mp h, rfl⟩
  | cons p styled ih =>
      rcases Markup.decodeAll_cons.mp h with ⟨m, ms', hm, hms, rfl⟩
      rcases ih hms with ⟨styled', rfl, hpieces⟩
      rcases Markup.decode_element.mp hm with ⟨as, cs, has, hcs, rfl⟩
      -- The characters of a span are no values, so that they stay as they are.
      rw [Markup.decodeAll_runningText Markup.spanCharacter_marking] at hcs
      obtain rfl := Except.ok.inj hcs
      rcases mapM_cons_ok.mp has with ⟨⟨name, value⟩, rest, hstyle, hrest, rfl⟩
      obtain rfl : [] = rest := except_pure_ok.mp hrest
      simp only [Markup.decoded, except_bind_ok, except_pure_ok, Prod.mk.injEq] at hstyle
      rcases hstyle with ⟨css, -, rfl, rfl⟩
      exact ⟨(String.ofList css, p.2) :: styled', rfl, by rw [List.map_cons, hpieces]; rfl⟩

/-- An element with an inert style is decoded in its content. -/
theorem styled_decode {tag css : String} (hcss : Text.IsInert css) {ns : List Markup.Node}
    {m : Markup.Node} (h : (Markup.Node.element tag [("style", some css)] ns).decode = .ok m) :
    ∃ ms, Markup.Node.decodeAll ns = .ok ms ∧ m = .element tag [("style", some css)] ms := by
  have hinert : Markup.InertAttributes tag [("style", some css)] :=
    Markup.inertAttributes_cons hcss Markup.inertAttributes_nil
  rcases Markup.decode_element.mp h with ⟨as, ms, has, hms, rfl⟩
  rw [Markup.decoded_inert hinert] at has
  rw [← Except.ok.inj has]
  exact ⟨ms, hms, rfl⟩

/-- A row with a cell of an inert style is decoded in the content of the cell. -/
theorem cellRow_decode {css : String} (hcss : Text.IsInert css) {ns ms : List Markup.Node}
    (h : Markup.Node.decodeAll (cellRow [("style", some css)] ns) = .ok ms) :
    ∃ ns', Markup.Node.decodeAll ns = .ok ns' ∧ ms = cellRow [("style", some css)] ns' := by
  rcases Markup.decodeAll_single.mp h with ⟨row, hrow, rfl⟩
  rcases Markup.plain_decode hrow with ⟨cells, hcells, rfl⟩
  rcases Markup.decodeAll_single.mp hcells with ⟨cell, hcell, rfl⟩
  rcases styled_decode hcss hcell with ⟨ns', hns, rfl⟩
  exact ⟨ns', hns, rfl⟩

variable {K ω : Type} [Scalar K] [InertText K] {host : Host ω K} {config : Config K}
  {s s' : Session ω K} {body : TextBody K}

/-- The font families of a text stay in their quotes, and hold no long codes. -/
structure HasReadableFamilies (body : TextBody K) : Prop where
  quotes : ∀ family ∈ body.families, '"' ∉ family.toList
  codes : ∀ family ∈ body.families, Text.hasLongCode family.toList = false

omit [Scalar K] [InertText K] in
/-- Rows that show a text are read as rows with its spans. -/
theorem ShowsText.decode {rows ms : List Markup.Node} (h : ShowsText rows body)
    (hdecode : Markup.Node.decodeAll rows = .ok ms) :
    ∃ css spans, ms = cellRow [("style", some css)] spans ∧
      List.Forall₂ IsSpanOf body.pieces spans := by
  rcases h with ⟨css, styled, hcss, rfl, hpieces⟩
  rcases cellRow_decode hcss hdecode with ⟨ns, hns, rfl⟩
  rcases spanNodes_decode hns with ⟨styled', rfl, hsame⟩
  refine ⟨css, _, rfl, ?_⟩
  rw [← hpieces, ← hsame]
  exact forall₂_spanNodes styled'

/-- What the fragment of a text is read as: a placed table of its own height, with the
    spans of the text in its only cell. -/
theorem text_readsAs {node : Node K} {x y : K} {f : Fragment}
    (h : text host config node x y s = (.ok (some f), s')) (hbody : node.textBody = .ok body)
    (hfamilies : HasReadableFamilies body) :
    ∃ (t : PlacedTable) (css : String) (spans : List Markup.Node),
      ReadsAs f t ∧ t.link = none ∧ t.height = some f.height ∧
      t.rows = cellRow [("style", some css)] spans ∧
      List.Forall₂ IsSpanOf body.pieces spans := by
  have hsame : ∀ other, node.textBody = .ok other → other = body := fun other hother =>
    Except.ok.inj (hother.symm.trans hbody)
  have hnames : ∀ other, node.textBody = .ok other →
      ∀ name ∈ other.families, name ∈ body.families := fun other hother name hname => by
    rwa [hsame other hother] at hname
  rcases text_draft h hnames with ⟨t, other, ht, hlink, hheight, hother, hshows⟩
  obtain rfl := hsame other hother
  rcases Document.readsAs_draft ht hfamilies.quotes hfamilies.codes with
    ⟨link, rows, hreads, hsame, hrows⟩
  rcases hshows.decode hrows with ⟨css, spans, rfl, hspans⟩
  -- A link would come from the draft, which has none.
  have hnone : link = none := by
    rcases hsame with ⟨-, hnone⟩ | ⟨id, _, hsome, -, -⟩
    · exact hnone
    · exact absurd (hlink.symm.trans hsome) (by simp)
  exact ⟨_, css, spans, hreads, hnone, hheight, rfl, hspans⟩

/-- What a text inside of a table cell is read as: a block with the spans of the text. -/
theorem textBlock_parsed {markup : String}
    (h : textBlock host config body s = (.ok markup, s')) (hfamilies : HasReadableFamilies body) :
    ∃ (css : String) (spans : List Markup.Node),
      Markup.parse markup
        = .ok (Markup.Node.root [.element "div" [("style", some css)] spans]) ∧
      List.Forall₂ IsSpanOf body.pieces spans := by
  rcases textBlock_content h fun _ hname => hname with ⟨css, styled, hcss, hpieces, hblock⟩
  have hparse := Markup.parse_written hblock.content.writes hblock.content.tidy
    (Markup.inQuotesAll_values hfamilies.quotes hblock.content.values)
  rcases Markup.decodeAll_values hfamilies.codes _ hblock.content.values with ⟨ms, hms⟩
  rw [hms] at hparse
  rcases Markup.decodeAll_single.mp hms with ⟨m, hm, rfl⟩
  rcases styled_decode hcss hm with ⟨spans, hspans, rfl⟩
  rcases spanNodes_decode hspans with ⟨styled', rfl, hsame⟩
  refine ⟨css, _, hparse, ?_⟩
  rw [← hpieces, ← hsame]
  exact forall₂_spanNodes styled'

end Letterpress.Render
