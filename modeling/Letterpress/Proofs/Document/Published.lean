import Letterpress.Proofs.Document.Boxed
import Letterpress.Proofs.Layout.Keeping
import Letterpress.Proofs.Number.Exact

/-!
# The Published Background

Both layouts show the picture in the background by three attributes of their cell: its
address, a color below it, and a style. The path of the picture is escaped in only one place,
the address in an absolute layout. Everywhere else it is written as it is. What is read there
is the path with its references decoded, and a path may well hold what reads as a reference:
`w=80&copy=2` has the copyright sign in it.

So the two layouts agree on all paths without references, and on no others. In either layout
the style shows the picture at the decoded path: the bracket after the path ends whatever
reference the path itself leaves open.

## Main definitions

* `pictureStyle`: The style of a picture in the background.
* `ShowsPicture`: A cell shows a picture.
* `PublishesPicture`: Every tree that a text is read as has a cell that shows a picture.

## Theorems

* `decode_pictureStyle`: The path in a style is decoded by itself.
* `valueOf?_pictureStyle`: The picture that a style shows.
* `decoded_pictureAttributes`, `decoded_containerAttributes`: What both cells are read as.
* `absoluteDocument_publishes`, `emailDocument_publishes`: What each layout publishes.
* `background_published`: Both layouts publish the picture in the background.
-/

namespace Letterpress.Document

open Markup
open Text (IsInert)

variable {K : Type} [Scalar K]

section Address

/-- The declarations of a picture in the background, after the given ones. -/
def pictureStyle (address : String) (before : List String) : String :=
  Text.joinWith " " (before ++ ["background-color:#ffffff;",
    "background-image:url(" ++ address ++ ");", "background-position:center center;",
    "background-repeat:no-repeat;", "background-size:cover;"])

theorem backgroundStyle_picture {path : String} (hpath : path ≠ "") (before : List String) :
    backgroundStyle (.image path) before = pictureStyle path before := by
  have hempty : path.isEmpty = false := by
    simpa [String.isEmpty_iff] using hpath
  have hplain : (Background.image path).plainColor = "#ffffff" := rfl
  have hcolor : ("background-color:" ++ "#ffffff" ++ ";" : String)
      = "background-color:#ffffff;" := by
    decide
  rw [backgroundStyle, pictureStyle, hplain, hcolor]
  simp [Background.imagePath, hempty]

/-- The address stands in brackets, between inert text. -/
theorem pictureStyle_parts {before : List String} (hbefore : ∀ s ∈ before, IsInert s) :
    ∃ front back : String, IsInert front ∧ IsInert back ∧ ∀ address,
      (pictureStyle address before).toList
        = front.toList ++ (address.toList ++ ')' :: ';' :: back.toList) := by
  induction before with
  | nil =>
      refine ⟨"background-color:#ffffff;" ++ " " ++ "background-image:url(",
        " " ++ ("background-position:center center;" ++ " " ++ ("background-repeat:no-repeat;"
          ++ " " ++ "background-size:cover;")), by decide, by decide, fun address => ?_⟩
      have hclose : (");" : String).toList = [')', ';'] := by decide
      simp only [pictureStyle, List.nil_append, Text.joinWith, String.toList_append, hclose,
        List.append_assoc, List.cons_append]
  | cons s before ih =>
      rw [List.forall_mem_cons] at hbefore
      rcases ih hbefore.2 with ⟨front, back, hfront, hback, hparts⟩
      -- Joining adds a separator before the rest, which is never empty here.
      have hcons : ∀ address, pictureStyle address (s :: before)
          = s ++ " " ++ pictureStyle address before := fun address => by
        cases before <;> rfl
      refine ⟨s ++ " " ++ front, back, ?_, hback, fun address => ?_⟩
      · simp only [Text.isInert_append]
        exact ⟨⟨hbefore.1, by decide⟩, hfront⟩
      · simp only [hcons, hparts, String.toList_append, List.append_assoc]

/-- An address is decoded by itself. -/
theorem decode_pictureStyle {before : List String} (hbefore : ∀ s ∈ before, IsInert s)
    (address : String) :
    (String.ofList <$> Text.decodeReferences (pictureStyle address before).toList)
      = (fun read => pictureStyle (String.ofList read) before)
        <$> Text.decodeReferences address.toList := by
  rcases pictureStyle_parts hbefore with ⟨front, back, hfront, hback, hparts⟩
  rw [hparts, Text.decodeReferences_after (not_mem_inert hfront (by decide)),
    Text.decodeReferences_bracket address.toList (not_mem_inert hback (by decide))]
  cases Text.decodeReferences address.toList with
  | error e => rfl
  | ok read =>
      refine congrArg Except.ok ?_
      rw [← String.toList_inj, hparts]
      repeat rw [String.toList_ofList]

/-- An address without quotes does not end the value that it stands in. -/
theorem pictureStyle_inQuotes {before : List String} (hbefore : ∀ s ∈ before, IsInert s)
    {address : String} (haddress : '"' ∉ address.toList) :
    '"' ∉ (pictureStyle address before).toList := by
  rcases pictureStyle_parts hbefore with ⟨front, back, hfront, hback, hparts⟩
  rw [hparts]
  simp [haddress, not_mem_inert hfront (c := '"') (by decide),
    not_mem_inert hback (c := '"') (by decide)]

/-- The value of a property is that of its first declaration, without blank margins. -/
theorem valueOf?_written {front back : List Style.Declaration} {d : Style.Declaration}
    {property : String} (hfront : ∀ x ∈ front, x.IsReadable ∧ x.isFor property = false)
    (hd : d.IsReadable) (hself : d.isFor property = true) (hback : ∀ x ∈ back, x.IsReadable) :
    Style.valueOf? (Style.writeDeclarations (front ++ d :: back)) property
      = some (String.ofList (Text.trim d.value.toList)) := by
  have hreadable : ∀ x ∈ front ++ d :: back, x.IsReadable :=
    List.forall_mem_append.mpr
      ⟨fun x hx => (hfront x hx).1, List.forall_mem_cons.mpr ⟨hd, hback⟩⟩
  have hnone : (front.map Style.Declaration.trimmed).find? (fun x => x.isFor property) = none := by
    rw [List.find?_eq_none]
    intro x hx
    rcases List.mem_map.mp hx with ⟨y, hy, rfl⟩
    change ¬ y.isFor property = true
    rw [(hfront y hy).2]
    exact Bool.false_ne_true
  have htrimmed : d.trimmed.isFor property = true := hself
  rw [Style.valueOf?, Style.readStyle_trimmed hreadable, List.map_append, List.find?_append, hnone,
    List.map_cons, List.find?_cons, htrimmed]
  rfl

/-- A declaration of a plain property, with any value in which no declaration ends. -/
theorem isReadable_of_value {property value : String} (hne : property.toList ≠ [])
    (hcolon : ':' ∉ property.toList) (hsemicolon : ';' ∉ property.toList)
    (htrim : Text.trim property.toList = property.toList) (hvalue : ';' ∉ value.toList) :
    Style.Declaration.IsReadable ⟨property, value⟩ :=
  ⟨hne, hcolon, hsemicolon, htrim, hvalue⟩

/-- The declaration of a picture. -/
def pictureDeclaration (address : String) : Style.Declaration :=
  ⟨"background-image", "url(" ++ address ++ ")"⟩

/-- The declarations that show a picture once and over the whole cell. -/
def coverDeclarations : List Style.Declaration :=
  [⟨"background-position", "center center"⟩, ⟨"background-repeat", "no-repeat"⟩,
    ⟨"background-size", "cover"⟩]

theorem coverDeclarations_readable : ∀ d ∈ coverDeclarations, d.IsReadable := by
  simp only [coverDeclarations, List.forall_mem_cons]
  exact ⟨isReadable_of_value (by decide) (by decide) (by decide) (by decide) (by decide),
    isReadable_of_value (by decide) (by decide) (by decide) (by decide) (by decide),
    isReadable_of_value (by decide) (by decide) (by decide) (by decide) (by decide), by simp⟩

/-- The style of a picture as declarations. -/
theorem pictureStyle_written (address : String) (ds : List Style.Declaration) :
    pictureStyle address (ds.map fun d => d.css ++ ";")
      = Style.writeDeclarations ((ds ++ [⟨"background-color", "#ffffff"⟩])
          ++ pictureDeclaration address :: coverDeclarations) := by
  have himage : "background-image:url(" ++ address ++ ");"
      = "background-image" ++ ":" ++ ("url(" ++ address ++ ")") ++ ";" := by
    rw [← String.toList_inj]
    simp only [String.toList_append]
    repeat rw [String.toList_ofList]
    simp only [List.cons_append, List.nil_append, List.append_assoc]
  rw [pictureStyle, Style.writeDeclarations, himage]
  simp only [List.map_append, List.map_cons, List.map_nil, Style.Declaration.css,
    pictureDeclaration, coverDeclarations, List.append_assoc, List.cons_append, List.nil_append]
  rfl

/-- An address in its brackets has no blank margins. -/
theorem trim_url (address : String) :
    Text.trim ("url(" ++ address ++ ")").toList = ("url(" ++ address ++ ")").toList := by
  have hopen : ("url(" : String).toList = ['u', 'r', 'l', '('] := by decide
  have hclose : (")" : String).toList = [')'] := by decide
  rw [String.toList_append, String.toList_append, hopen, hclose]
  refine Text.trim_of_ends (fun c hc => ?_) fun c hc => ?_
  · rw [← Option.some.inj hc]
    decide
  · rw [List.getLast?_append_of_ne_nil _ (List.cons_ne_nil _ _)] at hc
    rw [← Option.some.inj hc]
    decide

/-- The picture of a style is at its address. -/
theorem valueOf?_pictureStyle {ds : List Style.Declaration}
    (hds : ∀ d ∈ ds, d.IsReadable ∧ d.isFor "background-image" = false) {address : String}
    (haddress : ';' ∉ address.toList) :
    Style.valueOf? (pictureStyle address (ds.map fun d => d.css ++ ";")) "background-image"
      = some ("url(" ++ address ++ ")") := by
  have hcolor : Style.Declaration.IsReadable ⟨"background-color", "#ffffff"⟩ :=
    isReadable_of_value (by decide) (by decide) (by decide) (by decide) (by decide)
  have himage : (pictureDeclaration address).IsReadable :=
    isReadable_of_value (by decide) (by decide) (by decide) (by decide)
      (by simp [String.toList_append, haddress])
  have hself : (pictureDeclaration address).isFor "background-image" = true := by
    change decide (Text.lowerString "background-image" = "background-image") = true
    decide
  have hfront : ∀ d ∈ ds ++ [⟨"background-color", "#ffffff"⟩],
      d.IsReadable ∧ d.isFor "background-image" = false :=
    List.forall_mem_append.mpr ⟨hds, by simpa using ⟨hcolor, by decide⟩⟩
  have hvalue := valueOf?_written hfront himage hself coverDeclarations_readable
  rw [pictureStyle_written, hvalue, pictureDeclaration, trim_url, String.ofList_toList]

end Address

section Attributes

/-- The declarations of a background, after the given ones, once its path is read. -/
def shownStyle (path read : String) (before : List String) : String :=
  if path = "" then backgroundStyle (.image "") before else pictureStyle read before

variable {path : String} {before : List String}

theorem backgroundStyle_empty (hbefore : ∀ s ∈ before, IsInert s) :
    IsInert (backgroundStyle (.image "") before) :=
  backgroundStyle_inert (isPlain_image (by decide)) hbefore

/-- A value is read by itself, whatever its name is. -/
theorem decoded_value (name value : String) : decoded (name, some value)
    = (fun read => (name, some read))
      <$> (String.ofList <$> Text.decodeReferences value.toList) := by
  rw [decoded]
  cases Text.decodeReferences value.toList <;> rfl

/-- The style of a background is read as its path is. -/
theorem decoded_backgroundStyle (hbefore : ∀ s ∈ before, IsInert s) :
    decoded ("style", some (backgroundStyle (.image path) before))
      = (fun read => ("style", some (shownStyle path (String.ofList read) before)))
        <$> Text.decodeReferences path.toList := by
  by_cases hpath : path = ""
  · have hempty : Text.decodeReferences ("" : String).toList = .ok [] := rfl
    rw [hpath, decoded_plain "style" (backgroundStyle_empty hbefore), hempty]
    rfl
  · have hshown : ∀ read, shownStyle path read before = pictureStyle read before :=
      fun _ => if_neg hpath
    rw [backgroundStyle_picture hpath, decoded_value, decode_pictureStyle hbefore path]
    simp only [hshown]
    cases Text.decodeReferences path.toList <;> rfl

theorem backgroundStyle_inQuotes (hquote : '"' ∉ path.toList) (hbefore : ∀ s ∈ before, IsInert s) :
    '"' ∉ (backgroundStyle (.image path) before).toList := by
  by_cases hpath : path = ""
  · rw [hpath]
    exact not_mem_inert (backgroundStyle_empty hbefore) (by decide)
  · rw [backgroundStyle_picture hpath]
    exact pictureStyle_inQuotes hbefore hquote

variable (width height : Int)

/-- The cell of an absolute layout, whose address is escaped, once the path is read. -/
theorem decoded_pictureAttributes (path : String) :
    (pictureAttributes width height (.image path) (Text.escapeQuoted path)).mapM decoded
      = (fun read => [("background", some path), ("bgcolor", some "#ffffff"),
          ("width", some (toString width)), ("height", some (toString height)),
          ("valign", some "top"), ("style", some (shownStyle path (String.ofList read) []))])
        <$> Text.decodeReferences path.toList := by
  have hcolor : decoded ("bgcolor", some "#ffffff") = .ok ("bgcolor", some "#ffffff") :=
    decoded_plain "bgcolor" (by decide)
  have hvalign : decoded ("valign", some "top") = .ok ("valign", some "top") :=
    decoded_plain "valign" (by decide)
  have hplain : (Background.image path).plainColor = "#ffffff" := rfl
  have hstyle := @decoded_backgroundStyle path [] (by simp)
  simp only [pictureAttributes, List.mapM_cons, List.mapM_nil, decoded_escapeQuoted, hplain, hcolor,
    decoded_plain _ (Text.isInert_int width), decoded_plain _ (Text.isInert_int height), hvalign,
    hstyle]
  cases Text.decodeReferences path.toList <;> rfl

theorem pictureAttributes_inQuotes (hquote : '"' ∉ path.toList) : AttributesInQuotes
    (pictureAttributes width height (.image path) (Text.escapeQuoted path)) :=
  attributesInQuotes_cons ((@Render.isValue_escapeQuoted [] path).inQuotes (by simp)) <|
    attributesInQuotes_plain (show IsInert "#ffffff" by decide) <|
    attributesInQuotes_plain (Text.isInert_int width) <|
    attributesInQuotes_plain (Text.isInert_int height) <| attributesInQuotes_plain (by decide) <|
    attributesInQuotes_cons (backgroundStyle_inQuotes hquote (by simp)) attributesInQuotes_nil

variable (config : Config K)

/-- The declarations of the border and the size of a container. -/
def containerDeclarations : List Style.Declaration :=
  [⟨"border", toString config.containerBorder ++ "px solid #dddddd"⟩, ⟨"box-sizing", "border-box"⟩,
    ⟨"width", toString (width - 2 * config.containerBorder) ++ "px"⟩,
    ⟨"height", toString (height - 2 * config.containerBorder) ++ "px"⟩]

/-- The declarations that stand before those of the background. -/
def containerFront : List String :=
  (containerDeclarations width height config).map fun d => d.css ++ ";"

theorem containerStyle_front (background : Background) :
    containerStyle config width height background
      = backgroundStyle background (containerFront width height config) := by
  refine congrArg (backgroundStyle background) ?_
  simp only [containerFront, containerDeclarations, List.map_cons, List.map_nil,
    Style.Declaration.css, List.cons.injEq, and_true]
  refine ⟨?_, by decide, ?_, ?_⟩
  all_goals
    rw [← String.toList_inj]
    simp only [String.toList_append]
    repeat rw [String.toList_ofList]
    simp only [List.cons_append, List.nil_append, List.append_assoc]

theorem containerFront_inert : ∀ s ∈ containerFront width height config, IsInert s := by
  simp only [containerFront, containerDeclarations, List.map_cons, List.map_nil,
    Style.Declaration.css, List.forall_mem_cons, Text.isInert_append]
  exact ⟨⟨⟨⟨by decide, by decide⟩, Text.isInert_int _, by decide⟩, by decide⟩, by decide,
    ⟨⟨⟨by decide, by decide⟩, Text.isInert_int _, by decide⟩, by decide⟩,
    ⟨⟨⟨by decide, by decide⟩, Text.isInert_int _, by decide⟩, by decide⟩, by simp⟩

/-- The cell of a table layout, none of whose values is escaped, once the path is read. -/
theorem decoded_containerAttributes (path : String) :
    (containerAttributes config width height (.image path)).mapM decoded
      = (fun read => [("bgcolor", some "#ffffff"), ("background", some (String.ofList read)),
          ("width", some (toString width)), ("height", some (toString height)),
          ("valign", some "top"), ("class", some "email-container"),
          ("style", some (shownStyle path (String.ofList read)
            (containerFront width height config)))])
        <$> Text.decodeReferences path.toList := by
  have hcolor : decoded ("bgcolor", some "#ffffff") = .ok ("bgcolor", some "#ffffff") :=
    decoded_plain "bgcolor" (by decide)
  have hvalign : decoded ("valign", some "top") = .ok ("valign", some "top") :=
    decoded_plain "valign" (by decide)
  have hclass : decoded ("class", some "email-container") = .ok ("class", some "email-container") :=
    decoded_plain "class" (by decide)
  have hplain : (Background.image path).plainColor = "#ffffff" := rfl
  have hpath : (Background.image path).imagePath = path := rfl
  have hbackground := decoded_value "background" path
  have hstyle := @decoded_backgroundStyle path _ (containerFront_inert width height config)
  simp only [containerAttributes, containerStyle_front, List.mapM_cons, List.mapM_nil, hplain,
    hpath, hcolor, hbackground, decoded_plain _ (Text.isInert_int width),
    decoded_plain _ (Text.isInert_int height), hvalign, hclass, hstyle]
  cases Text.decodeReferences path.toList <;> rfl

theorem containerAttributes_inQuotes (hquote : '"' ∉ path.toList) :
    AttributesInQuotes (containerAttributes config width height (.image path)) := by
  rw [containerAttributes, containerStyle_front]
  exact attributesInQuotes_plain (show IsInert "#ffffff" by decide) <|
    attributesInQuotes_cons hquote <| attributesInQuotes_plain (Text.isInert_int width) <|
    attributesInQuotes_plain (Text.isInert_int height) <| attributesInQuotes_plain (by decide) <|
    attributesInQuotes_plain (by decide) <| attributesInQuotes_cons
      (backgroundStyle_inQuotes hquote (containerFront_inert width height config))
      attributesInQuotes_nil

/-- The declarations before those of the background are of other properties. -/
theorem containerDeclarations_readable : ∀ d ∈ containerDeclarations width height config,
    d.IsReadable ∧ d.isFor "background-image" = false := by
  have hsize : ∀ (n : Int) (unit : String),
      ';' ∉ unit.toList → ';' ∉ (toString n ++ unit).toList := by
    intro n unit hunit
    rw [String.toList_append, List.mem_append, not_or]
    have hnumeral : isNumeralChar ';' = false := by decide
    exact ⟨fun hmem => by simp [numeral_chars n ';' hmem] at hnumeral, hunit⟩
  have hother : ∀ property value, Text.lowerString property ≠ "background-image" →
      Style.Declaration.isFor ⟨property, value⟩ "background-image" = false :=
    fun _ _ h => decide_eq_false h
  simp only [containerDeclarations, List.forall_mem_cons]
  exact ⟨⟨isReadable_of_value (by decide) (by decide) (by decide) (by decide)
      (hsize _ _ (by decide)), hother _ _ (by decide)⟩,
    ⟨isReadable_of_value (by decide) (by decide) (by decide) (by decide) (by decide),
      hother _ _ (by decide)⟩,
    ⟨isReadable_of_value (by decide) (by decide) (by decide) (by decide)
      (hsize _ _ (by decide)), hother _ _ (by decide)⟩,
    ⟨isReadable_of_value (by decide) (by decide) (by decide) (by decide)
      (hsize _ _ (by decide)), hother _ _ (by decide)⟩, by simp⟩

end Attributes

/-- A cell shows the picture at a path whose address is read as `address`. Its own address is
    `source`. -/
structure ShowsPicture (cell : Markup.Node) (path source address : String) : Prop where
  source : cell.get? "background" = some source
  color : cell.get? "bgcolor" = some "#ffffff"
  picture : path ≠ "" → ';' ∉ address.toList →
    (cell.get? "style").bind (fun style => Style.valueOf? style "background-image")
      = some ("url(" ++ address ++ ")")

/-- Whenever a text is read as a tree, the path of the picture is read as an address, and the
    cell with a color shows the picture at that address. -/
def PublishesPicture (text path : String) (sourceOf : String → String) : Prop :=
  ∀ tree, parse text = .ok tree → ∃ address : String,
    Text.decodeReferences path.toList = .ok address.toList ∧
    ∃ cell, coloredCell? tree = some cell ∧ ShowsPicture cell path (sourceOf address) address

section Pictures

variable {config : Config K} {styles : List String} {pageWidth width height : Int} {path : String}

/-- The picture is that of the style of its cell. -/
theorem valueOf?_shownStyle {ds : List Style.Declaration}
    (hds : ∀ d ∈ ds, d.IsReadable ∧ d.isFor "background-image" = false) {address : String}
    (hpath : path ≠ "") (haddress : ';' ∉ address.toList) :
    Style.valueOf? (shownStyle path address (ds.map fun d => d.css ++ ";")) "background-image"
      = some ("url(" ++ address ++ ")") := by
  rw [shownStyle, if_neg hpath]
  exact valueOf?_pictureStyle hds haddress

/-- A document around a cell with a background publishes it. -/
theorem publishesPicture_boxed (hconfig : config.IsPlain) (hstyles : AreSheets styles)
    {start : String} {as : List Attribute} (hstart : start.toList = writtenStart "td" as)
    {inner : List String} (hne : inner ≠ []) (hnames : ∀ a ∈ as, isName a.1 = true)
    (hquotes : AttributesInQuotes as) {values : List Char → List Attribute}
    (hvalues : as.mapM decoded = values <$> Text.decodeReferences path.toList)
    {sourceOf : String → String}
    (hshows : ∀ read children, ShowsPicture (.element "td" (values read) children) path
      (sourceOf (String.ofList read)) (String.ofList read)) :
    PublishesPicture
      (document config (centered pageWidth (boxText width height start inner)) styles) path
      sourceOf := by
  intro tree hparse
  have hcolor : ∀ vs, as.mapM decoded = .ok vs → (vs.lookup "bgcolor").isSome = true := by
    intro vs hvs
    rw [hvalues, except_map_ok] at hvs
    rcases hvs with ⟨read, -, rfl⟩
    have hself := (hshows read []).color
    rw [Markup.Node.get?, Option.map_eq_some_iff] at hself
    rcases hself with ⟨value, hself, -⟩
    exact Option.isSome_of_eq_some hself
  rcases coloredCell?_boxed hconfig hstyles hstart hne hnames hquotes hcolor hparse with
    ⟨vs, cell, hvs, hcell, hattributes⟩
  rw [hvalues, except_map_ok] at hvs
  rcases hvs with ⟨read, hread, rfl⟩
  refine ⟨String.ofList read, by rw [hread, String.toList_ofList], cell, hcell, ?_⟩
  -- All that is said about the cell is about its attributes.
  rcases hshows read [] with ⟨hsource, hbgcolor, hpicture⟩
  have hget : ∀ name, cell.get? name = (Markup.Node.element "td" (values read) []).get? name :=
    fun name => by rw [Markup.Node.get?, hattributes]; rfl
  exact ⟨by rw [hget, hsource], by rw [hget, hbgcolor], by rw [hget]; exact hpicture⟩

end Pictures

section Layouts

variable {config : Config K} {fragments : List Fragment} {path text : String}

theorem plainColor_inert (path : String) : IsInert (Background.image path).plainColor := by
  change IsInert "#ffffff"
  decide

/-- An absolute layout publishes the picture with its path as the address of the cell. -/
theorem absoluteDocument_publishes (hconfig : config.IsPlain) (hquote : '"' ∉ path.toList)
    {canvasWidth canvasHeight : K}
    (h : absoluteDocument config fragments canvasWidth canvasHeight (.image path) = .ok text) :
    PublishesPicture text path (fun _ => path) ∧
    ((∀ f ∈ fragments, IsReadableFragment f) →
      (Returns (parse text) ↔ Returns (Text.decodeReferences path.toList))) := by
  rcases absoluteDocument_boxed h with ⟨width, height, areaWidth, areaHeight, start, hstart, rfl⟩
  change start.toList = writtenStart "td"
    (pictureAttributes width height (.image path) (Text.escapeQuoted path)) at hstart
  have hvalues := decoded_pictureAttributes width height path
  have hnames := pictureAttributes_names width height (.image path) (Text.escapeQuoted path)
  have hquotes := pictureAttributes_inQuotes width height hquote
  constructor
  · refine publishesPicture_boxed hconfig baseStyles_sheets hstart (List.cons_ne_nil _ _) hnames
      hquotes hvalues fun read children => ⟨rfl, rfl, fun hpath haddress => ?_⟩
    -- Nothing is declared before the background of this cell.
    have hnone : ∀ d ∈ ([] : List Style.Declaration),
        d.IsReadable ∧ d.isFor "background-image" = false := by
      simp
    exact valueOf?_shownStyle hnone hpath haddress
  · intro hfragments
    rcases writes_readableArea hfragments areaWidth areaHeight with ⟨area, harea, hreadable⟩
    rw [boxed_returns hconfig baseStyles_sheets (plainColor_inert path) hstart hnames hquotes
      (.cons harea .nil) (by simpa), hvalues, returns_map]

/-- A table layout publishes the picture with its path as it is read as the address. -/
theorem emailDocument_publishes (hconfig : config.IsPlain) (hquote : '"' ∉ path.toList)
    {canvasWidth pageWidth : K} {body : String}
    (hcontainer : container config fragments canvasWidth (.image path) = .ok body)
    (hdocument : emailDocument config body pageWidth = .ok text) :
    PublishesPicture text path id ∧
    ((∀ f ∈ fragments, IsReadableFragment f ∧ IsAligned f) →
      (Returns (parse text) ↔ Returns (Text.decodeReferences path.toList))) := by
  rcases emailDocument_boxed hcontainer hdocument with
    ⟨width, page, start, tables, hstart, htables, rfl⟩
  -- The proof uses nothing of the height, and it would otherwise be unfolded.
  generalize containerHeight config fragments = height at hstart
  have hvalues := decoded_containerAttributes width height config path
  have hnames := @containerAttributes_names _ _ config width height (.image path)
  have hquotes := containerAttributes_inQuotes width height config hquote
  have hsheets : AreSheets (baseStyles ++ containerStyles) :=
    List.forall_mem_append.mpr ⟨baseStyles_sheets, containerStyles_sheets⟩
  constructor
  · refine publishesPicture_boxed hconfig hsheets hstart (List.cons_ne_nil _ _) hnames hquotes
      hvalues fun read children => ⟨rfl, rfl, fun hpath haddress => ?_⟩
    exact valueOf?_shownStyle (containerDeclarations_readable width height config) hpath haddress
  · intro hfragments
    have hordered : ∀ f ∈ inReadingOrder fragments, IsReadableFragment f ∧ IsAligned f :=
      fun f hf => hfragments f (Layout.mem_sortOn hf)
    rcases writes_readableTables hordered htables with ⟨drafts, hwrites, hreadable⟩
    rw [boxed_returns hconfig hsheets (plainColor_inert path) hstart hnames hquotes hwrites
      hreadable, hvalues, returns_map]

end Layouts

/-- Both layouts publish the picture in the background, and the only difference is in the
    address of their cells. Nothing but a path that cannot be read keeps a document of readable
    fragments from being read. -/
theorem background_published {config : Config K} (hconfig : config.IsPlain) {path : String}
    (hquote : '"' ∉ path.toList) :
    (∀ fragments (width height : K) text,
      absoluteDocument config fragments width height (.image path) = .ok text →
        PublishesPicture text path (fun _ => path) ∧
        ((∀ f ∈ fragments, IsReadableFragment f) →
          (Returns (parse text) ↔ Returns (Text.decodeReferences path.toList)))) ∧
    ∀ fragments (width pageWidth : K) body text,
      container config fragments width (.image path) = .ok body →
      emailDocument config body pageWidth = .ok text →
        PublishesPicture text path id ∧
        ((∀ f ∈ fragments, IsReadableFragment f ∧ IsAligned f) →
          (Returns (parse text) ↔ Returns (Text.decodeReferences path.toList))) := by
  constructor
  · intro fragments width height text h
    exact absoluteDocument_publishes hconfig hquote h
  · intro fragments width pageWidth body text hcontainer hdocument
    exact emailDocument_publishes hconfig hquote hcontainer hdocument

/-- A fragment in bold type. -/
def boldFragment : Fragment :=
  ⟨"<b>Tea</b>", 10, 10, 100, 20, false, "left", "top"⟩

theorem boldFragment_readable : IsReadableFragment boldFragment := by
  have hdraft : Node.TidyAll [.element "b" [] [.text "Tea"]] :=
    ⟨tidy_filled (by decide) (by simp) ⟨Or.inl (by decide), fun _ => rfl, trivial⟩, fun _ => rfl,
      trivial⟩
  refine ⟨.element "b" [] [.text "Tea"], ?_, hdraft, hasSolidEnds_single rfl,
    ⟨⟨attributesInQuotes_nil, ⟨trivial, trivial⟩⟩, trivial⟩, _, rfl⟩
  change boldFragment.markup.toList = _
  decide

/-- The size of a photo is a part of its address. In a table layout it is lost. -/
theorem background_published_resizedPhoto : ∃ body text tree cell,
    container ({} : Config Rat) [boldFragment] 500 (.image "photo.png?w=80&copy=2") = .ok body ∧
    emailDocument ({} : Config Rat) body (500 : Rat) = .ok text ∧ parse text = .ok tree ∧
    coloredCell? tree = some cell ∧ cell.get? "background" = some "photo.png?w=80©=2" := by
  have hread : Text.decodeReferences ("photo.png?w=80&copy=2" : String).toList
      = .ok ("photo.png?w=80©=2" : String).toList := by
    decide +kernel
  have hreturns : ∀ {ε α : Type} (x : Except ε α), x.isOk = true → ∃ a, x = .ok a := by
    intro ε α x hx
    cases x with
    | error e => exact absurd hx Bool.false_ne_true
    | ok a => exact ⟨a, rfl⟩
  rcases hreturns (container ({} : Config Rat) [boldFragment] 500
    (.image "photo.png?w=80&copy=2")) (by decide +kernel) with ⟨body, hbody⟩
  have htext : ∃ text, emailDocument ({} : Config Rat) body (500 : Rat) = .ok text := by
    rw [emailDocument, roundHalfUp_rat]
    exact ⟨_, rfl⟩
  rcases htext with ⟨text, htext⟩
  have hquote : '"' ∉ ("photo.png?w=80&copy=2" : String).toList := by decide
  have hpublished := (background_published (K := Rat) isPlain_default hquote).2 [boldFragment] 500
    500 body text hbody htext
  rcases (hpublished.2 (by simpa using ⟨boldFragment_readable, by decide, by decide⟩)).mpr
    ⟨_, hread⟩ with ⟨tree, htree⟩
  rcases hpublished.1 tree htree with ⟨address, haddress, cell, hcell, hshows⟩
  obtain rfl : address = "photo.png?w=80©=2" := by
    rw [hread] at haddress
    exact (String.toList_inj.mp (Except.ok.inj haddress)).symm
  exact ⟨body, text, tree, cell, hbody, htext, htree, hcell, hshows.source⟩

end Letterpress.Document
