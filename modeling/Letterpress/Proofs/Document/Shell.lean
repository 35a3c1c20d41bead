import Letterpress.Document.Shell
import Letterpress.Proofs.Config
import Letterpress.Proofs.Markup.Content
import Letterpress.Proofs.Markup.Lines
import Letterpress.Proofs.Markup.Reading

/-!
# Document Shells as Layers

What surrounds the content of a document is a few layers: the page with its head, the
body, and the centered part. Whatever comes into them from the settings is inert or
escaped, comments are not ended by what they hold, and no layer takes part in the layout.

## Main definitions

* `IsShell`: A layer that is read as it is written, and takes no part in the layout.
* `pageLayer`, `bodyLayer`, `centerLayer`: The layers of every document.

## Theorems

* `pageLayer_shell`, `bodyLayer_shell`, `centerLayer_shell`: They are shells.
* `writes_document`: The text of a document.
* `parse_page`, `extractAll_page`: What a document reads as, and its fragments.
-/

namespace Letterpress

namespace Document

open Markup
open Text (IsInert)

variable {K : Type} [Scalar K]

/-- A layer that is read as it is written, and takes no part in the layout. -/
structure IsShell (l : Layer) : Prop where
  tidy : l.IsTidy
  inert : l.Everywhere InertAttributes
  settled : l.Everywhere IsSettled
  noLink : isLinkWrapper (.element l.tag l.attributes []) = false

theorem IsShell.still {l : Layer} (h : IsShell l) : l.IsStill :=
  ⟨⟨h.settled.1.still, everywhereAll_mono (fun _ _ => IsSettled.still) l.before h.settled.2.1,
    everywhereAll_mono (fun _ _ => IsSettled.still) l.after h.settled.2.2⟩, h.noLink⟩

theorem IsShell.inQuotes {l : Layer} (h : IsShell l) :
    l.Everywhere fun _ attributes => AttributesInQuotes attributes :=
  ⟨h.inert.1.inQuotes,
    everywhereAll_mono (fun _ _ => InertAttributes.inQuotes) l.before h.inert.2.1,
    everywhereAll_mono (fun _ _ => InertAttributes.inQuotes) l.after h.inert.2.2⟩

/-- Fixed drafts around the content of a layer. -/
structure IsFiller (ns : List Markup.Node) : Prop where
  tidy : Node.TidyAll ns
  inert : Node.EverywhereAll InertAttributes ns
  settled : Node.EverywhereAll IsSettled ns

/-- A layer is a shell if its tag, its attributes and its fillers are as they should be. -/
theorem isShell_layer {tag : String} {as : List Attribute} {before after : List Markup.Node}
    (htag : isFilledTag tag = true) (hnames : ∀ a ∈ as, isName a.1 = true)
    (hinert : InertAttributes tag as) (hsettled : IsSettled tag as)
    (hlink : isLinkWrapper (.element tag as []) = false) (hbefore : IsFiller before)
    (hafter : IsFiller after) : IsShell ⟨tag, as, before, after⟩ :=
  ⟨⟨htag, hnames, hbefore.tidy, hafter.tidy⟩, ⟨hinert, hbefore.inert, hafter.inert⟩,
    ⟨hsettled, hbefore.settled, hafter.settled⟩, hlink⟩

/-- Only two tags make links. -/
theorem noLink_of_tag {tag : String} (ha : tag ≠ "a") (hdiv : tag ≠ "div") (as : List Attribute) :
    isLinkWrapper (.element tag as []) = false := by
  unfold isLinkWrapper
  split
  · rename_i h
    exact absurd (Option.some.inj h) ha
  · rename_i h
    exact absurd (Option.some.inj h) hdiv
  · rfl

theorem isFiller_nil : IsFiller [] :=
  ⟨trivial, trivial, trivial⟩

theorem isFiller_newline : IsFiller [newline] :=
  ⟨tidyAll_newline trivial rfl, ⟨trivial, trivial⟩, ⟨trivial, trivial⟩⟩

/-- A comment between line ends. -/
theorem isFiller_comment {data : String} (h : NoCloser data.toList) :
    IsFiller [newline, .comment data, newline] :=
  ⟨tidyAll_newline (tidyAll_solid (hasNoCommentEnd_of_noCloser h) rfl
    (tidyAll_newline trivial rfl)) rfl, ⟨trivial, trivial, trivial, trivial⟩,
    ⟨trivial, trivial, trivial, trivial⟩⟩

/-- An element without a class that is no table. -/
theorem isSettled_of_tag {tag : String} (h : tag ≠ "table") {as : List Attribute}
    (hclass : as.lookup "class" = none) : IsSettled tag as :=
  ⟨hclass, isStill_of_tag h as⟩

/-- The tag of an element that can be neither a positioned table nor a link. -/
def isPlainTag (tag : String) : Bool :=
  isFilledTag tag && tag != "table" && tag != "a" && tag != "div"

/-- Most layers are shells because of their tags. -/
theorem isShell_plain {tag : String} {as : List Attribute} {before after : List Markup.Node}
    (htag : isPlainTag tag = true) (hnames : ∀ a ∈ as, isName a.1 = true)
    (hinert : InertAttributes tag as) (hclass : as.lookup "class" = none)
    (hbefore : IsFiller before) (hafter : IsFiller after) : IsShell ⟨tag, as, before, after⟩ := by
  have htags : ((isFilledTag tag = true ∧ tag ≠ "table") ∧ tag ≠ "a") ∧ tag ≠ "div" := by
    simpa [isPlainTag] using htag
  rcases htags with ⟨⟨⟨hfilled, htable⟩, ha⟩, hdiv⟩
  exact isShell_layer hfilled hnames hinert (isSettled_of_tag htable hclass)
    (noLink_of_tag ha hdiv as) hbefore hafter

section Head

variable (config : Config K) (styles : List String)

/-- An element of the head that has no content. -/
def metaElement (as : List Attribute) : Markup.Node :=
  .element "meta" as []

/-- The title of a document. -/
def titleElement : Markup.Node :=
  .element "title" [] (runningText quotedMark? (orDefault config.title "Mailer").toList)

/-- The text of the style sheet of a document. -/
def sheet : String :=
  "\n" ++ (Text.unlines (styles ++ [narrowStyles config]) ++ "\n")

/-- What stands in the comment with settings. -/
def officeData : String :=
  "[if gte mso 9]><xml><o:OfficeDocumentSettings><o:AllowPNG/>"
    ++ "<o:PixelsPerInch>96</o:PixelsPerInch></o:OfficeDocumentSettings></xml><![endif]"

/-- The head of a document. -/
def headElement : Markup.Node :=
  .element "head" []
    [newline, metaElement [("charset", some "UTF-8")], newline,
      metaElement [("name", some "viewport"),
        ("content", some "width=device-width, initial-scale=1.0")], newline,
      metaElement [("name", some "x-apple-disable-message-reformatting")], newline,
      titleElement config, newline,
      .comment officeData, newline, .element "style" [] [.text (sheet config styles)], newline]

/-- The text of the head. -/
theorem writes_head :
    Writes ("<head>" ++ ("\n" ++ (head config styles ++ ("\n" ++ "</head>"))))
      [headElement config styles] := by
  have hmeta : ∀ (first : String) (as : List Attribute), first.toList = writtenStart "meta" as →
      Writes first [metaElement as] := fun _ _ hfirst => writes_void (by decide) hfirst
  have htitle : Writes ("<title>" ++ Text.escapeQuoted (orDefault config.title "Mailer")
      ++ "</title>") [titleElement config] := by
    have htext := writes_runningText quotedReference_marking
      (orDefault config.title "Mailer").toList
    rw [String.ofList_toList] at htext
    exact writes_element "title" "<title>" "</title>" [] (by decide) (by decide)
      htext (by decide)
  have hstyle : Writes ("<style>" ++ sheet config styles ++ "</style>")
      [.element "style" [] [.text (sheet config styles)]] :=
    writes_element "style" "<style>" "</style>" [] (by decide) (by decide)
      (writes_text _) (by decide)
  -- Literals are cut where the elements begin.
  have hlines : head config styles
      = "<meta charset=\"UTF-8\">" ++ ("\n"
        ++ ("<meta name=\"viewport\" content=\"width=device-width, initial-scale=1.0\">" ++ ("\n"
        ++ ("<meta name=\"x-apple-disable-message-reformatting\">" ++ ("\n"
        ++ ("<title>" ++ Text.escapeQuoted (orDefault config.title "Mailer") ++ "</title>" ++ ("\n"
        ++ (officeSettings ++ ("\n"
        ++ ("<style>" ++ sheet config styles ++ "</style>")))))))))) := by
    have hsheet : Text.unlines (styles ++ [narrowStyles config, "</style>"])
        = Text.unlines (styles ++ [narrowStyles config]) ++ ("\n" ++ "</style>") := by
      have hsplit : styles ++ [narrowStyles config, "</style>"]
          = (styles ++ [narrowStyles config]) ++ ["</style>"] := by simp
      rw [hsplit, Text.unlines_append (by simp) (by simp), Text.unlines_single]
    unfold head sheet
    rw [List.append_assoc]
    simp only [List.cons_append, List.nil_append]
    repeat rw [Text.unlines_cons _ (by simp)]
    rw [hsheet]
    simp only [String.append_assoc]
  have hoffice : Writes officeSettings [.comment officeData] :=
    writes_comment (by decide +kernel)
  have hcharset := hmeta "<meta charset=\"UTF-8\">"
    [("charset", some "UTF-8")] (by decide)
  have hviewport := hmeta
    "<meta name=\"viewport\" content=\"width=device-width, initial-scale=1.0\">"
    [("name", some "viewport"),
      ("content", some "width=device-width, initial-scale=1.0")] (by decide)
  have hreformatting := hmeta
    "<meta name=\"x-apple-disable-message-reformatting\">"
    [("name", some "x-apple-disable-message-reformatting")] (by decide)
  -- One element a line.
  have hcontent := writes_lines hcharset (writes_lines hviewport (writes_lines hreformatting
    (writes_lines htitle (writes_lines hoffice hstyle))))
  rw [← hlines] at hcontent
  have hhead := writes_element "head" "<head>" "</head>" []
    (by decide) (by decide)
    (writes_newline.append (hcontent.append writes_newline)) (by decide)
  simp only [String.append_assoc] at hhead
  exact hhead

variable {styles}

/-- Style sheets without tags in them. -/
def AreSheets (styles : List String) : Prop :=
  ∀ s ∈ styles, Text.AllChars (fun c => c ≠ '<') s

theorem baseStyles_sheets : AreSheets baseStyles := by
  simp only [AreSheets, baseStyles, List.forall_mem_cons, Text.allChars_append]
  exact ⟨Text.allChars_of_all rfl, Text.allChars_of_all rfl, Text.allChars_of_all rfl,
    ⟨Text.allChars_of_all rfl, Text.allChars_of_all rfl⟩, by simp⟩

theorem containerStyles_sheets : AreSheets containerStyles := by
  simp only [AreSheets, containerStyles, List.forall_mem_cons, Text.allChars_append]
  exact ⟨Text.allChars_of_all rfl, ⟨Text.allChars_of_all rfl, Text.allChars_of_all rfl⟩,
    ⟨Text.allChars_of_all rfl, Text.allChars_of_all rfl⟩, Text.allChars_of_all rfl,
    ⟨Text.allChars_of_all rfl, Text.allChars_of_all rfl⟩, by simp⟩

theorem narrowStyles_sheet : Text.AllChars (fun c => c ≠ '<') (narrowStyles config) := by
  refine Text.allChars_joinWith (Text.allChars_of_all rfl) ?_
  simp only [List.forall_mem_cons]
  refine ⟨?_, Text.allChars_of_all rfl, Text.allChars_of_all rfl, Text.allChars_of_all rfl,
    Text.allChars_of_all rfl, by simp⟩
  rw [Text.allChars_append, Text.allChars_append]
  -- The only part that is not fixed is a number.
  refine ⟨⟨Text.allChars_of_all rfl, fun c hc hless => ?_⟩, Text.allChars_of_all rfl⟩
  have hinert := Text.isInert_int config.mobileBreakpoint c hc
  rw [hless] at hinert
  exact absurd hinert (by decide)

theorem sheet_raw (hstyles : AreSheets styles) : isRaw (sheet config styles) = true := by
  have hchars : Text.AllChars (fun c => c ≠ '<') (sheet config styles) := by
    rw [sheet, Text.allChars_append, Text.allChars_append]
    refine ⟨by decide, Text.allChars_joinWith (by decide) ?_, by decide⟩
    exact List.forall_mem_append.mpr ⟨hstyles, by simpa using narrowStyles_sheet config⟩
  have hne : (sheet config styles).toList ≠ [] := by
    rw [sheet, String.toList_append]
    exact List.append_ne_nil_of_left_ne_nil (by decide) _
  -- Without an opening bracket no end tag is in the sheet.
  have hless : '<' ∉ (sheet config styles).toList := fun hmem => hchars '<' hmem rfl
  simpa [isRaw, hne] using hless

theorem officeData_noCloser : NoCloser officeData.toList := by
  unfold officeData
  simp only [String.toList_append]
  exact noCloser_append (noCloser_ofList (by decide +kernel))
    (noCloser_ofList (by decide +kernel)) (by simp)

theorem headElement_tidy (hstyles : AreSheets styles) : (headElement config styles).Tidy := by
  have htitle : (titleElement config).Tidy := by
    exact tidy_filled (by decide) (by simp) (tidyAll_runningText quotedReference_marking _)
  have hstyle : (Markup.Node.element "style" [] [.text (sheet config styles)]).Tidy := by
    rw [Markup.Node.Tidy, if_neg (by decide), if_pos (by decide)]
    exact ⟨by decide, by simp, _, rfl, sheet_raw config hstyles⟩
  have hmeta : ∀ {as : List Attribute}, (∀ a ∈ as, isName a.1 = true) →
      (metaElement as).Tidy := fun hnames =>
    tidy_void (by decide) (by decide) hnames
  have hoffice : (Markup.Node.comment officeData).Tidy :=
    hasNoCommentEnd_of_noCloser officeData_noCloser
  refine tidy_filled (by decide) (by simp) ?_
  refine tidyAll_newline (tidyAll_solid (hmeta (by decide)) rfl ?_) rfl
  refine tidyAll_newline (tidyAll_solid (hmeta (by decide)) rfl ?_) rfl
  refine tidyAll_newline (tidyAll_solid (hmeta (by decide)) rfl ?_) rfl
  -- Line ends are the only character data, and elements are between them.
  refine tidyAll_newline (tidyAll_solid htitle rfl ?_) rfl
  refine tidyAll_newline (tidyAll_solid hoffice rfl ?_) rfl
  refine tidyAll_newline (tidyAll_solid hstyle rfl ?_) rfl
  exact tidyAll_newline trivial rfl

/-- What holds of elements with a few inert attributes holds of the head. -/
theorem headElement_everywhere {P : String → List Attribute → Prop}
    (hplain : ∀ tag ∈ ["head", "title", "style", "br"], P tag [])
    (hmeta : ∀ as ∈ [[("charset", some "UTF-8")], [("name", some "viewport"),
      ("content", some "width=device-width, initial-scale=1.0")],
      [("name", some "x-apple-disable-message-reformatting")]], P "meta" as) :
    (headElement config styles).Everywhere P := by
  simp only [List.forall_mem_cons] at hplain hmeta
  rcases hplain with ⟨hhead, htitle, hstyle, hbreak, -⟩
  rcases hmeta with ⟨hcharset, hviewport, hreformatting, -⟩
  exact ⟨hhead, trivial, ⟨hcharset, trivial⟩, trivial, ⟨hviewport, trivial⟩, trivial,
    ⟨hreformatting, trivial⟩, trivial,
    ⟨htitle, everywhereAll_runningText quotedReference_marking hbreak _⟩, trivial, trivial,
    trivial, ⟨hstyle, trivial, trivial⟩, trivial, trivial⟩

theorem headElement_inert : (headElement config styles).Everywhere InertAttributes := by
  refine headElement_everywhere config (fun tag _ a ha => absurd ha List.not_mem_nil) ?_
  have hfixed : ∀ as ∈ [[("charset", some "UTF-8")], [("name", some "viewport"),
      ("content", some "width=device-width, initial-scale=1.0")],
      [("name", some "x-apple-disable-message-reformatting")]],
      ∀ a ∈ as, ∀ value ∈ a.2, IsInert value := by
    decide
  exact hfixed

theorem headElement_settled : (headElement config styles).Everywhere IsSettled := by
  refine headElement_everywhere config (fun tag htag => isSettled_of_tag ?_ rfl)
    fun as has => isSettled_of_tag (by decide) ?_
  · revert tag
    decide
  · revert as
    decide

end Head

section Layers

variable (config : Config K) {styles : List String}

/-- The page: the head comes before the content. -/
def pageLayer (styles : List String) : Layer where
  tag := "html"
  attributes := [("lang", some (orDefault config.htmlLang "en")), ("dir", some "ltr")]
  before := [newline, headElement config styles, newline]
  after := [newline]

/-- The body. -/
def bodyLayer : Layer where
  tag := "body"
  attributes := [("style", some "margin:0; padding:0; background-color:transparent;")]
  before := [newline]
  after := [newline]

/-- The table of fixed width for one family of clients. -/
def officeTable (width : Int) : String :=
  "[if mso]>" ++ (presentationTable ++ " width=\"") ++ toString width
    ++ "\"><tr><td><![endif]"

/-- The centered part, in a table of fixed width for one family of clients. -/
def centerLayer (width : Int) : Layer where
  tag := "center"
  before := [newline, .comment (officeTable width), newline]
  after := [newline, .comment "[if mso]></td></tr></table><![endif]", newline]

theorem pageLayer_shell (hconfig : config.IsPlain) (hstyles : AreSheets styles) :
    IsShell (pageLayer config styles) := by
  have hlang : IsInert (orDefault config.htmlLang "en") := by
    unfold orDefault
    split
    · decide
    · exact hconfig.htmlLang
  have hhead : IsFiller [newline, headElement config styles, newline] :=
    ⟨tidyAll_newline (tidyAll_solid (headElement_tidy config hstyles) rfl
        (tidyAll_newline trivial rfl)) rfl,
      ⟨trivial, headElement_inert config, trivial, trivial⟩,
      ⟨trivial, headElement_settled config, trivial, trivial⟩⟩
  refine isShell_plain (by decide) ?_ ?_ (by simp [List.lookup_cons]) hhead isFiller_newline
  · simp only [List.forall_mem_cons]
    exact ⟨by decide, by decide, by simp⟩
  · exact inertAttributes_cons hlang (inertAttributes_cons (by decide) inertAttributes_nil)

theorem bodyLayer_shell : IsShell bodyLayer :=
  isShell_plain (by decide) (by decide) (inertAttributes_cons (by decide) inertAttributes_nil) rfl
    isFiller_newline isFiller_newline

theorem officeTable_noCloser (width : Int) : NoCloser (officeTable width).toList := by
  -- A numeral is between the two fixed parts, and it has no bracket.
  rw [officeTable, String.toList_append, String.toList_append, List.append_assoc]
  exact noCloser_between (not_mem_inert (Text.isInert_int width) (by decide))
    (by decide +kernel) (noCloser_ofList (by decide)) (by decide)

theorem centerLayer_shell (width : Int) : IsShell (centerLayer width) :=
  isShell_plain (by decide) (by simp) inertAttributes_nil rfl
    (isFiller_comment (officeTable_noCloser width)) (isFiller_comment (noCloser_ofList (by decide)))

/-- The layers of every document. -/
def outerLayers (styles : List String) (width : Int) : List Layer :=
  [pageLayer config styles, bodyLayer, centerLayer width]

theorem outerLayers_shells (hconfig : config.IsPlain) (hstyles : AreSheets styles) (width : Int) :
    ∀ l ∈ outerLayers config styles width, IsShell l := by
  simp only [outerLayers, List.forall_mem_cons]
  exact ⟨pageLayer_shell config hconfig hstyles, bodyLayer_shell, centerLayer_shell width,
    by simp⟩

/-- A document around its content. -/
def page (nodes : List Markup.Node) : List Markup.Node :=
  .declaration "DOCTYPE html" :: newline :: nodes

variable {body : String} {ns : List Markup.Node}

/-- A line around which there are line ends. -/
theorem writes_between (h : Writes body ns) : Writes ("\n" ++ (body ++ "\n"))
    ([newline] ++ (ns ++ [newline])) :=
  writes_newline.append (h.append writes_newline)

/-- The text of a centered part. -/
theorem writes_centered (h : Writes body ns) (width : Int) :
    Writes (centered width body) [(centerLayer width).around ns] := by
  have hopen : Writes ("\n" ++ ("<!--" ++ officeTable width ++ "-->" ++ "\n"))
      (centerLayer width).before :=
    writes_between (writes_comment rfl)
  have hclose : Writes ("\n" ++ ("<!--[if mso]></td></tr></table><![endif]-->" ++ "\n"))
      (centerLayer width).after :=
    writes_between (writes_comment (by decide))
  have hstart : ("<center>" : String).toList = writtenStart "center" [] := by decide
  have hend : ("</center>" : String).toList = writtenEnd "center" := by decide
  have hvoid : voidTags.contains "center" = false := by decide
  have hall := Layer.around_writes (centerLayer width) _ _ hvoid hstart hopen h hclose hend
  -- The comments are literals up to their brackets.
  have htext : centered width body = "<center>"
      ++ ("\n" ++ ("<!--" ++ officeTable width ++ "-->" ++ "\n")
        ++ (body ++ ("\n" ++ ("<!--[if mso]></td></tr></table><![endif]-->" ++ "\n"))))
      ++ "</center>" := by
    unfold centered officeTable
    simp only [Text.unlines, Text.joinWith]
    generalize presentationTable = start
    rw [← String.toList_inj]
    simp only [String.toList_append]
    repeat rw [String.toList_ofList]
    simp only [List.cons_append, List.nil_append, List.append_assoc]
  rw [htext]
  exact hall

/-- The text of a document. -/
theorem writes_document (h : Writes body ns) (width : Int) :
    Writes (document config (centered width body) styles)
      (page (inLayers (outerLayers config styles width) ns)) := by
  have hbody := Layer.around_writes bodyLayer
    "<body style=\"margin:0; padding:0; background-color:transparent;\">" "</body>"
    (by decide) (by decide) writes_newline (writes_centered h width)
    writes_newline (by decide)
  have hstart : ("<html lang=\"" ++ orDefault config.htmlLang "en" ++ "\" dir=\"ltr\">").toList
      = writtenStart "html"
          [("lang", some (orDefault config.htmlLang "en")), ("dir", some "ltr")] := by
    simp only [String.toList_append, writtenStart, writtenAttribute, List.flatMap_cons,
      List.flatMap_nil]
    repeat rw [String.toList_ofList]
    simp only [List.cons_append, List.nil_append, List.append_assoc]
  have hend : ("</html>" : String).toList = writtenEnd "html" := by decide
  have hvoid : voidTags.contains "html" = false := by decide
  have hpage := Layer.around_writes (pageLayer config styles) _ _ hvoid hstart
    (writes_between (writes_head config styles)) hbody writes_newline hend
  have htype : Writes "<!DOCTYPE html>" [.declaration "DOCTYPE html"] :=
    writes_written _ _ (by decide)
  -- The parts are put together as the writer does it, from the inner layer to the outer one.
  have hall := writes_lines htype hpage
  unfold document
  simp only [Text.unlines, Text.joinWith, String.append_assoc]
  simp only [String.append_assoc] at hall
  exact hall

end Layers

section Reading

variable {layers : List Layer} {content : List Markup.Node} {markup : String}

theorem page_tidy (hlayers : ∀ l ∈ layers, IsShell l) (hcontent : Node.TidyAll content)
    (hends : HasSolidEnds content) : Node.TidyAll (page (inLayers layers content)) := by
  have htype : (Markup.Node.declaration "DOCTYPE html").Tidy := by
    change isDocumentType "DOCTYPE html" = true
    decide
  exact tidyAll_solid htype rfl (tidyAll_newline
    (tidyAll_inLayers (fun l hl => (hlayers l hl).tidy) hcontent hends)
    (hasSolidEnds_inLayers hends).head)

/-- A document reads as the tree of its content in its layers. -/
theorem parse_page (hlayers : ∀ l ∈ layers, IsShell l)
    (hmarkup : Writes markup (page (inLayers layers content)))
    (hcontent : Node.TidyAll content) (hends : HasSolidEnds content)
    (hquotes : Node.InQuotesAll content) :
    parse markup = (Markup.Node.root <$> (fun ns => page (inLayers layers ns))
      <$> Node.decodeAll content).mapError MarkupError.numeral := by
  have hinQuotes : Node.InQuotesAll (page (inLayers layers content)) :=
    ⟨trivial, trivial, everywhereAll_inLayers (fun l hl => (hlayers l hl).inQuotes) hquotes⟩
  -- Only the content can fail to be decoded: the layers are inert.
  have hdecode : Node.decodeAll (page (inLayers layers content))
      = (fun ns => page (inLayers layers ns)) <$> Node.decodeAll content := by
    have hlayered := @decodeAll_inLayers layers content fun l hl => (hlayers l hl).inert
    rw [page, Node.decodeAll, Node.decodeAll, hlayered]
    cases Node.decodeAll content <;> rfl
  rw [parse_written hmarkup (page_tidy hlayers hcontent hends) hinQuotes, hdecode]

variable {config : Config K} {canvas : Int}

theorem extractAll_page (ns : List Markup.Node) :
    extractAll config canvas (page ns) = extractAll config canvas ns := by
  rw [page, extractAll, extractAll, extractIn_leaf rfl, extractIn_leaf rfl]
  cases extractAll config canvas ns <;> rfl

end Reading

end Document

end Letterpress
