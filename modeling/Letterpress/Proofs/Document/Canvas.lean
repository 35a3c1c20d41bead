import Letterpress.Proofs.Document.Box

/-!
# The Tree of an Absolute Layout

An absolute layout is an area on which every fragment stands at its own place. Around
the area there may be a whole document, with the same box as that of a table layout. None
of this is a positioned table or a link, so what is taken out of either text is what is
taken out of the fragments.

The address of the background is the only escaped value: what is read in its cell is not
what was written.

## Main definitions

* `areaLayer`: The area that the fragments stand on.
* `pictureCell`: The cell around the area.
* `HoldsFragmentsOf`: What is taken out of a text is taken out of some drafts.

## Theorems

* `canvasOf_holds`: The fragments of an area.
* `absoluteDocument_parse`: What a document in absolute layout reads as.
* `absoluteDocument_holds`: The fragments of a document in absolute layout.
-/

namespace Letterpress.Document

open Markup
open Text (IsInert)

variable {K : Type} [Scalar K]

/-- What is taken out of a text is what is taken out of the drafts that it was written
    from, once they are decoded. -/
def HoldsFragmentsOf (config : Config K) (markup : String) (content : List Markup.Node) : Prop :=
  ∀ canvas, extractOn config markup (.ok canvas)
    = ((Node.decodeAll content).mapError fun e => Fault.markup (.numeral e)) >>= fun ns =>
        (extractAll config canvas ns).mapError Fault.numeral

section Area

variable (width height : Int)

/-- The style of an area of the given size. -/
def areaCss : String :=
  "position:relative; width:" ++ toString width ++ "px; height:" ++ toString height ++ "px;"

/-- The area that the fragments stand on. -/
def areaLayer : Layer :=
  ⟨"div", [("style", some (areaCss width height))], [], []⟩

theorem areaCss_inert : IsInert (areaCss width height) := by
  unfold areaCss
  simp only [Text.isInert_append]
  exact ⟨⟨⟨⟨Text.allChars_of_all rfl, Text.isInert_int width⟩, by decide⟩,
    Text.isInert_int height⟩, by decide⟩

-- The area is positioned too, but it is no table.
theorem areaLayer_shell : IsShell (areaLayer width height) := by
  refine isShell_layer (by decide) ?_
    (inertAttributes_cons (areaCss_inert width height) inertAttributes_nil)
    (isSettled_of_tag (by decide) rfl) ?_ isFiller_nil isFiller_nil
  · simp only [List.forall_mem_cons]
    exact ⟨by decide, by simp⟩
  · simp [isLinkWrapper, Markup.Node.tag?, Markup.Node.has, Markup.Node.attributes]

/-- The text of an area. -/
theorem writes_canvasOf {fragments : List Fragment} {pieces : List (List Markup.Node)}
    (h : List.Forall₂ Writes (fragments.map Fragment.markup) pieces) :
    Writes (canvasOf fragments width height) [(areaLayer width height).around (lines pieces)] := by
  have hopen : ("<div style=\"position:relative; width:" : String)
      = "<div style=\"" ++ "position:relative; width:" := by decide
  have hclose : ("px;\">" : String) = "px;" ++ "\">" := by decide
  have hstart : ("<div style=\"" ++ areaCss width height ++ "\">").toList
      = writtenStart "div" [("style", some (areaCss width height))] :=
    toList_styledStart (by decide) _
  have hempty : Writes "" [] := rfl
  have harea := Layer.around_writes (areaLayer width height) _ "</div>"
    (by change voidTags.contains "div" = false; decide) hstart hempty (writes_unlines h) hempty
    (by change _ = writtenEnd "div"; decide)
  unfold canvasOf
  unfold areaCss at harea
  rw [hopen, hclose]
  simp only [String.append_assoc, String.empty_append, String.append_empty] at harea ⊢
  exact harea

variable {config : Config K} {pieces : List (List Markup.Node)}

/-- The fragments of an area are those that stand on it. -/
theorem canvasOf_holds {fragments : List Fragment} {width height : Int}
    (h : List.Forall₂ Writes (fragments.map Fragment.markup) pieces)
    (htidy : Node.TidyAll (lines pieces)) (hends : HasSolidEnds (lines pieces))
    (hquotes : Node.InQuotesAll (lines pieces)) :
    HoldsFragmentsOf config (canvasOf fragments width height) (lines pieces) := by
  intro canvas
  have hlayers : ∀ l ∈ [areaLayer width height], IsShell l := by
    simpa using areaLayer_shell width height
  have hparse := parse_written (writes_canvasOf width height h)
    (tidyAll_inLayers (fun l hl => (hlayers l hl).tidy) htidy hends)
    (everywhereAll_inLayers (fun l hl => (hlayers l hl).inQuotes) hquotes)
  have hdecode := @decodeAll_inLayers _ (lines pieces) fun l hl => (hlayers l hl).inert
  -- The area is no positioned table, and there is no link around the tables in it.
  have hsame : ∀ ns, extractAll config canvas (inLayers [areaLayer width height] ns)
      = extractAll config canvas ns :=
    fun ns => extractAll_inLayers fun l hl => (hlayers l hl).still
  rw [inLayers, inLayers] at hdecode
  rw [hdecode] at hparse
  rw [extractOn_parsed hparse]
  cases Node.decodeAll (lines pieces) with
  | error e => rfl
  | ok ns => exact congrArg (Except.mapError Fault.numeral) (hsame ns)

end Area

section Absolute

variable (width height : Int) (background : Background)

/-- The attributes of the cell around an area, with an address for the background. -/
def pictureAttributes (source : String) : List Attribute :=
  [("background", some source), ("bgcolor", some background.plainColor),
    ("width", some (toString width)), ("height", some (toString height)),
    ("valign", some "top"), ("style", some (backgroundStyle background []))]

/-- The cell around an area. -/
def pictureCell (source : String) : Layer :=
  cellLayer width height background (pictureAttributes width height background source)

theorem pictureAttributes_names (source : String) :
    ∀ a ∈ pictureAttributes width height background source, isName a.1 = true := by
  simp only [pictureAttributes, List.forall_mem_cons]
  exact ⟨by decide, by decide, by decide, by decide, by decide, by decide, by simp⟩

variable {background}

/-- Apart from the address, the attributes of the cell are inert. -/
theorem pictureAttributes_inert (hbackground : background.IsPlain) :
    InertAttributes "td" [("bgcolor", some background.plainColor),
      ("width", some (toString width)), ("height", some (toString height)),
      ("valign", some "top"), ("style", some (backgroundStyle background []))] :=
  inertAttributes_cons hbackground.color <| inertAttributes_cons (Text.isInert_int width) <|
    inertAttributes_cons (Text.isInert_int height) <| inertAttributes_cons (by decide) <|
    inertAttributes_cons (backgroundStyle_inert hbackground (by simp)) inertAttributes_nil

/-- The address is read as it is, whatever was escaped in it. -/
theorem pictureAttributes_decoded (hbackground : background.IsPlain) :
    (pictureAttributes width height background (Text.escapeQuoted background.imagePath)).mapM
        decoded = .ok (pictureAttributes width height background background.imagePath) := by
  rw [pictureAttributes, List.mapM_cons, decoded_escapeQuoted,
    decoded_inert (pictureAttributes_inert width height hbackground)]
  rfl

theorem pictureAttributes_quotes (hbackground : background.IsPlain) :
    AttributesInQuotes
      (pictureAttributes width height background (Text.escapeQuoted background.imagePath)) := by
  have hothers : HasValues [] "td" _ :=
    (pictureAttributes_inert width height hbackground).hasValues
  intro a ha value hvalue
  exact (hasValues_cons (Render.isValue_escapeQuoted background.imagePath) hothers a ha value
    hvalue).inQuotes (by simp)

theorem pictureCell_start (background : Background) (source : String) :
    ("<td background=\"" ++ source ++ "\" bgcolor=\"" ++ background.plainColor ++ "\" width=\""
      ++ toString width ++ "\" height=\"" ++ toString height ++ "\" valign=\"top\" style=\""
      ++ backgroundStyle background [] ++ "\">").toList
        = writtenStart "td" (pictureAttributes width height background source) := by
  unfold pictureAttributes
  simp only [String.toList_append, writtenStart, writtenAttribute, List.flatMap_cons,
    List.flatMap_nil]
  generalize (backgroundStyle background []).toList = style
  repeat rw [String.toList_ofList]
  simp only [List.cons_append, List.nil_append, List.append_assoc]

/-- The layers around the cell of a document in absolute layout. -/
def absoluteLayers (config : Config K) : List Layer :=
  outerLayers config baseStyles width ++ [boxLayer width height, rowLayer [] []]

theorem absoluteLayers_shells {config : Config K} (hconfig : config.IsPlain) :
    ∀ l ∈ absoluteLayers width height config, IsShell l :=
  boxedLayers_shells width width height hconfig baseStyles_sheets

/-- The cell with the area in it, where the address of the background is as given. -/
def pictureNode (background : Background) (areaWidth areaHeight : Int) (source : String)
    (ns : List Markup.Node) : Markup.Node :=
  (pictureCell width height background source).around
    [(areaLayer areaWidth areaHeight).around ns]

variable {config : Config K} {fragments : List Fragment} {pieces : List (List Markup.Node)}

/-- The text of a document in absolute layout. The area in it has a size of its own, since
    it is rounded twice. -/
theorem absoluteDocument_ok {canvasWidth canvasHeight : K} {text : String}
    (h : absoluteDocument config fragments canvasWidth canvasHeight background = .ok text)
    (hpieces : List.Forall₂ Writes (fragments.map Fragment.markup) pieces) :
    ∃ width height areaWidth areaHeight,
      Writes text (page (inLayers (absoluteLayers width height config)
        [pictureNode width height background areaWidth areaHeight
          (Text.escapeQuoted background.imagePath) (lines pieces)])) := by
  simp only [absoluteDocument, canvas, except_bind_ok, except_pure_ok] at h
  rcases h with ⟨width, -, height, -, _, -, _, -, area, ⟨areaWidth, -, areaHeight, -, rfl⟩, rfl⟩
  refine ⟨width, height, areaWidth, areaHeight, ?_⟩
  have hopen : ("<tr><td background=\"" : String) = "<tr>" ++ "<td background=\"" := by decide
  have harea : Writes (Text.unlines [canvasOf fragments areaWidth areaHeight]) _ :=
    writes_canvasOf areaWidth areaHeight hpieces
  have hbox := writes_box width height background
    (pictureCell_start width height background (Text.escapeQuoted background.imagePath))
    (List.cons_ne_nil _ _) harea
  have hdocument := @writes_document _ _ config baseStyles _ _ hbox width
  rw [absoluteLayers, inLayers_append, hopen]
  simp only [String.append_assoc, List.cons_append, List.nil_append] at hdocument ⊢
  exact hdocument

/-- A document in absolute layout reads as the drafts on its area, once they are decoded. -/
theorem absoluteDocument_parse (hconfig : config.IsPlain) (hbackground : background.IsPlain)
    {canvasWidth canvasHeight : K} {text : String}
    (h : absoluteDocument config fragments canvasWidth canvasHeight background = .ok text)
    (hpieces : List.Forall₂ Writes (fragments.map Fragment.markup) pieces)
    (htidy : Node.TidyAll (lines pieces))
    (hends : lines pieces ≠ [] → HasSolidEnds (lines pieces))
    (hquotes : Node.InQuotesAll (lines pieces)) :
    ∃ width height areaWidth areaHeight, Markup.parse text = (Markup.Node.root
      <$> (fun ns => page (inLayers (absoluteLayers width height config)
        [pictureNode width height background areaWidth areaHeight background.imagePath ns]))
      <$> Node.decodeAll (lines pieces)).mapError MarkupError.numeral := by
  rcases absoluteDocument_ok h hpieces with ⟨width, height, areaWidth, areaHeight, hwrites⟩
  refine ⟨width, height, areaWidth, areaHeight, ?_⟩
  have harea := areaLayer_shell areaWidth areaHeight
  -- An area may be empty. There is nothing else on it that could run together.
  have hareaTidy : ((areaLayer areaWidth areaHeight).around (lines pieces)).Tidy := by
    by_cases hne : lines pieces = []
    · rw [hne]
      exact tidy_filled harea.tidy.tag harea.tidy.names trivial
    · exact Layer.around_tidy harea.tidy htidy (hends hne)
  -- The cell is the only part of the box that is not read as it was written, so it is treated
  -- as content of the layers around it.
  have hcell : (pictureNode width height background areaWidth areaHeight
      (Text.escapeQuoted background.imagePath) (lines pieces)).Tidy :=
    Layer.around_tidy (cellLayer_tidy width height background hbackground
        (pictureAttributes_names width height background _))
      ⟨hareaTidy, fun _ => rfl, trivial⟩ (hasSolidEnds_single rfl)
  have hcellQuotes : (pictureNode width height background areaWidth areaHeight
      (Text.escapeQuoted background.imagePath) (lines pieces)).InQuotes :=
    Layer.around_everywhere (cellLayer_bare width height background
        (pictureAttributes_quotes width height hbackground))
      ⟨Layer.around_everywhere harea.inQuotes hquotes, trivial⟩
  -- Decoding gives the cell its address and leaves everything else around the drafts alone.
  have hdecode : Node.decodeAll [pictureNode width height background areaWidth areaHeight
        (Text.escapeQuoted background.imagePath) (lines pieces)]
      = (fun ns => [pictureNode width height background areaWidth areaHeight background.imagePath
          ns]) <$> Node.decodeAll (lines pieces) := by
    have hcellDecode := Layer.around_decoded
      (l := pictureCell width height background (Text.escapeQuoted background.imagePath))
      (pictureAttributes_decoded width height hbackground) ⟨trivial, trivial, trivial, trivial⟩
      ⟨trivial, trivial, trivial, trivial⟩ [(areaLayer areaWidth areaHeight).around (lines pieces)]
    rw [Node.decodeAll, Node.decodeAll, Layer.around_decode harea.inert] at hcellDecode
    rw [Node.decodeAll, Node.decodeAll, pictureNode, hcellDecode]
    cases Node.decodeAll (lines pieces) <;> rfl
  rw [parse_page (absoluteLayers_shells width height hconfig) hwrites ⟨hcell, fun _ => rfl,
    trivial⟩ (hasSolidEnds_single rfl) ⟨hcellQuotes, trivial⟩, hdecode]
  cases Node.decodeAll (lines pieces) <;> rfl

/-- The fragments of a document in absolute layout are those on its area. -/
theorem absoluteDocument_holds (hconfig : config.IsPlain) (hbackground : background.IsPlain)
    {canvasWidth canvasHeight : K} {text : String}
    (h : absoluteDocument config fragments canvasWidth canvasHeight background = .ok text)
    (hpieces : List.Forall₂ Writes (fragments.map Fragment.markup) pieces)
    (htidy : Node.TidyAll (lines pieces)) (hends : HasSolidEnds (lines pieces))
    (hquotes : Node.InQuotesAll (lines pieces)) :
    HoldsFragmentsOf config text (lines pieces) := by
  intro canvas
  rcases absoluteDocument_parse hconfig hbackground h hpieces htidy (fun _ => hends) hquotes with
    ⟨width, height, areaWidth, areaHeight, hparse⟩
  have hinner : ∀ l ∈ [pictureCell width height background background.imagePath,
      areaLayer areaWidth areaHeight], l.IsStill := by
    simp only [List.forall_mem_cons]
    exact ⟨cellLayer_still width height background _, (areaLayer_shell areaWidth areaHeight).still,
      by simp⟩
  -- Nothing around the drafts is positioned.
  have hsame : ∀ ns, extractAll config canvas (page (inLayers (absoluteLayers width height config)
      [pictureNode width height background areaWidth areaHeight background.imagePath ns]))
        = extractAll config canvas ns := fun ns => by
    rw [extractAll_page, extractAll_inLayers fun l hl =>
      (absoluteLayers_shells width height hconfig l hl).still]
    exact extractAll_inLayers hinner
  rw [extractOn_parsed hparse]
  cases Node.decodeAll (lines pieces) with
  | error e => rfl
  | ok ns => exact congrArg (Except.mapError Fault.numeral) (hsame ns)

end Absolute

end Letterpress.Document
