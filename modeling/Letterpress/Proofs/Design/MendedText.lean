import Letterpress.Proofs.Design.Mending

/-!
# Mended Texts

A text is styled in runs, or by a style of its own if it has no runs. Its line height is
its own or that of its style. So what is wrong with a style shows in some texts and not in
others, and mending must not change which of the two is looked at.

## Main definitions

* `mendRun`, `mendStyle`: How a run and a style are mended.
* `nodeMending`, `mendNode`: How the members of a node are mended.
* `IsTolerableRun`, `IsTolerableText`: Runs and texts that can be read.

## Theorems

* `heals_run`, `heals_segment`: Mending runs.
* `styleLineHeight_mended`, `declaredLineHeight_mendNode`: The line height of a mended text.
* `readText_eq`: A text is read in one go if nothing is wrong with its style.
* `heals_text`: Mending texts.
-/

namespace Letterpress.Design

/-! ### Runs -/

def runMending (length : Nat) : List (String × (Json → Json)) :=
  [("start", mendWhole 0), ("end", mendWhole length), ("fontName", mendObject),
    ("fontWeight", mendWhole 400), ("fontSize", mendReal 16.0), ("fills", mendPaints),
    ("lineHeight", mendLineHeight)]

/-- The values of a run are tolerable. -/
structure IsTolerableRun (segment : Members) : Prop where
  first : IsTolerableWhole (memberOf segment "start")
  last : IsTolerableWhole (memberOf segment "end")
  font : IsTolerableObject (memberOf segment "fontName")
  fontWeight : IsTolerableWhole (memberOf segment "fontWeight")
  fontSize : IsTolerableReal (memberOf segment "fontSize")
  fills : AreTolerablePaints (memberOf segment "fills")
  lineHeight : IsTolerableLineHeight (memberOf segment "lineHeight")

theorem readRun_returns {segment : Members} {length : Nat} :
    Returns (readRun segment length) ↔ IsTolerableRun segment := by
  -- No member is read in the light of another, and so the reads of the record return one by one.
  have hparts : Returns (readRun segment length) ↔
      Returns (readWhole (memberOf segment "start") 0) ∧
        Returns (readWhole (memberOf segment "end") length) ∧
        Returns (optionalMembers (memberOf segment "fontName")) ∧
        Returns (readWhole (memberOf segment "fontWeight") 400) ∧
        Returns (readReal (memberOf segment "fontSize") 16.0) ∧
        Returns (readPaints (memberOf segment "fills")) ∧
        Returns (readLineHeight (memberOf segment "lineHeight")) := by
    simp only [← returns_number]
    refine returns_bind fun _ _ => returns_bind fun _ _ => returns_bind fun _ _ =>
      returns_bind fun _ _ => returns_bind fun _ _ => returns_bind fun _ _ => ?_
    rw [bind_pure_comp, returns_map]
  rw [hparts, (heals_whole 0).tolerable, (heals_whole length).tolerable, heals_object.tolerable,
    (heals_whole 400).tolerable, (heals_real 16.0).tolerable, heals_paints.tolerable,
    heals_lineHeight.tolerable]
  constructor
  · rintro ⟨h₁, h₂, h₃, h₄, h₅, h₆, h₇⟩
    exact ⟨h₁, h₂, h₃, h₄, h₅, h₆, h₇⟩
  · rintro ⟨h₁, h₂, h₃, h₄, h₅, h₆, h₇⟩
    exact ⟨h₁, h₂, h₃, h₄, h₅, h₆, h₇⟩

/-- The members of the two runs are read alike. -/
structure AreReadAlike (segment segment' : Members) (length : Nat) : Prop where
  first : readWhole (memberOf segment' "start") 0 = readWhole (memberOf segment "start") 0
  last : readWhole (memberOf segment' "end") length = readWhole (memberOf segment "end") length
  font : optionalMembers (memberOf segment' "fontName")
    = optionalMembers (memberOf segment "fontName")
  fontWeight : readWhole (memberOf segment' "fontWeight") 400
    = readWhole (memberOf segment "fontWeight") 400
  fontSize : readReal (memberOf segment' "fontSize") 16.0
    = readReal (memberOf segment "fontSize") 16.0
  fills : readPaints (memberOf segment' "fills") = readPaints (memberOf segment "fills")
  lineHeight : readLineHeight (memberOf segment' "lineHeight")
    = readLineHeight (memberOf segment "lineHeight")
  decoration : memberOf segment' "textDecoration" = memberOf segment "textDecoration"

theorem AreReadAlike.readRun_eq {segment segment' : Members} {length : Nat}
    (h : AreReadAlike segment segment' length) :
    readRun segment' length = readRun segment length := by
  simp only [readRun, h.first, h.last, h.font, h.fontWeight, h.fontSize, h.fills, h.lineHeight,
    h.decoration]

theorem heals_run (length : Nat) :
    Heals (fun segment => readRun segment length) (mendMembers (runMending length))
      IsTolerableRun where
  returns segment := by
    exact readRun_returns.mpr {
      first := (heals_whole 0).member_tolerable rfl trivial
      last := (heals_whole length).member_tolerable rfl trivial
      font := heals_object.member_tolerable rfl rfl
      fontWeight := (heals_whole 400).member_tolerable rfl trivial
      fontSize := (heals_real 16.0).member_tolerable rfl trivial
      fills := heals_paints.member_tolerable rfl fun _ h => absurd h List.not_mem_nil
      lineHeight := heals_lineHeight.member_tolerable rfl trivial }
  tolerable segment := readRun_returns
  same segment h := AreReadAlike.readRun_eq {
    first := (heals_whole 0).member_same rfl h.first
    last := (heals_whole length).member_same rfl h.last
    font := heals_object.member_same rfl h.font
    fontWeight := (heals_whole 400).member_same rfl h.fontWeight
    fontSize := (heals_real 16.0).member_same rfl h.fontSize
    fills := heals_paints.member_same rfl h.fills
    lineHeight := heals_lineHeight.member_same rfl h.lineHeight
    decoration := memberOf_mendMembers rfl }

/-- A run of a text, if the value is one. -/
def readSegment (length : Nat) : Json → Except Fault (Option (TextRun Float))
  | .obj segment => some <$> readRun segment length
  | _ => pure none

/-- A run that can be read. -/
def mendRun (length : Nat) : Json → Json
  | .obj segment => .obj (mendMembers (runMending length) segment)
  | v => v

/-- The values of the run are tolerable, if the value is one. -/
def IsTolerableSegment : Json → Prop
  | .obj segment => IsTolerableRun segment
  | _ => True

theorem heals_segment (length : Nat) :
    Heals (readSegment length) (mendRun length) IsTolerableSegment where
  returns v := by
    cases v with
    | obj segment => exact returns_map.mpr ((heals_run length).returns segment)
    | null | bool _ | int _ | real _ | str _ | arr _ => exact ⟨_, rfl⟩
  tolerable v := by
    cases v with
    | obj segment => exact returns_map.trans readRun_returns
    | null | bool _ | int _ | real _ | str _ | arr _ => exact iff_of_true ⟨_, rfl⟩ trivial
  same v hv := by
    cases v with
    | obj segment => exact congrArg (some <$> ·) ((heals_run length).same segment hv)
    | null | bool _ | int _ | real _ | str _ | arr _ => rfl

/-! ### The run of a text without runs -/

section WholeText

variable {members members' style style' : Members} {length : Nat}

theorem isTolerable_wholeText :
    IsTolerableSegment (wholeTextSegment members style length) ↔
      IsTolerableWhole (memberOr style "fontWeight" (.int 400)) ∧
        IsTolerableReal (memberOr style "fontSize" (.int 16)) ∧
        AreTolerablePaints (memberOf members "fills") ∧
        IsTolerableLineHeight (styleLineHeight style) := by
  rw [wholeTextSegment, IsTolerableSegment]
  constructor
  · intro h
    have hweight := h.fontWeight
    have hsize := h.fontSize
    have hfills := h.fills
    have hline := h.lineHeight
    simp only [memberOf_cons, String.reduceEq, if_true, if_false] at hweight hsize hfills hline
    exact ⟨hweight, hsize, hfills, hline⟩
  · rintro ⟨hweight, hsize, hfills, hline⟩
    constructor
    all_goals simp only [memberOf_cons, String.reduceEq, if_true, if_false]
    exacts [trivial, trivial, trivial, hweight, hsize, hfills, hline]

/-- Texts whose styles are read alike are read alike. -/
theorem readSegment_wholeText
    (hfamily : memberOr style' "fontFamily" (.str "Inter")
      = memberOr style "fontFamily" (.str "Inter"))
    (hstyle : memberOr style' "fontStyle" (.str "Regular")
      = memberOr style "fontStyle" (.str "Regular"))
    (hweight : readWhole (memberOr style' "fontWeight" (.int 400)) 400
      = readWhole (memberOr style "fontWeight" (.int 400)) 400)
    (hsize : readReal (memberOr style' "fontSize" (.int 16)) 16.0
      = readReal (memberOr style "fontSize" (.int 16)) 16.0)
    (hfills : readPaints (memberOf members' "fills") = readPaints (memberOf members "fills"))
    (hline : readLineHeight (styleLineHeight style') = readLineHeight (styleLineHeight style))
    (hdecoration : memberOf style' "textDecoration" = memberOf style "textDecoration") :
    readSegment length (wholeTextSegment members' style' length)
      = readSegment length (wholeTextSegment members style length) := by
  refine congrArg (some <$> ·) (AreReadAlike.readRun_eq ?_)
  constructor
  all_goals simp only [memberOf_cons, String.reduceEq, if_true, if_false]
  · rw [hfamily, hstyle]
  · exact hweight
  · exact hsize
  · exact hfills
  · exact hline
  · exact hdecoration

end WholeText

/-! ### Texts -/

def styleMending : List (String × (Json → Json)) :=
  [("fontWeight", mendWhole 400), ("fontSize", mendReal 16.0), ("lineHeightPx", mendReal 0.0),
    ("lineHeightPercentFontSize", mendReal 0.0)]

/-- The members of an object; other values have none. -/
def membersOf : Json → Members
  | .obj members => members
  | _ => []

/-- A style that can be read. -/
def mendStyle (v : Json) : Json :=
  .obj (mendMembers styleMending (membersOf v))

/-- How the members of a node are mended. -/
def nodeMending (children : Json → Json) (length : Nat) : List (String × (Json → Json)) :=
  [("children", children), ("absoluteBoundingBox", mendNumbers ["x", "y", "width", "height"]),
    ("fills", mendPaints), ("strokes", mendPaints), ("strokeWeight", mendReal 1.0),
    ("rectangleCornerRadii", mendRadii), ("cornerRadius", mendRadius), ("style", mendStyle),
    ("lineHeight", mendLineHeight), ("styledTextSegments", mendItems (mendRun length))]

/-- The number of characters that a node says. -/
def characterCount (members : Members) : Nat :=
  (textOf members "characters" "").length

/-- The members of a node whose looks can be read. -/
def mendNode (children : Json → Json) (members : Members) : Members :=
  mendMembers (nodeMending children (characterCount members)) members

/-- The style of a text. -/
def styleOf (members : Members) : Members :=
  membersOf (memberOf members "style")

/-- The line height of a text: its own, or that of its style. -/
def declaredLineHeight (members : Members) : Json :=
  let declared := memberOf members "lineHeight"
  if declared.truthy then declared else styleLineHeight (styleOf members)

/-- The runs of a text, or the single one that it has if it has none of its own. -/
def segmentsOf (members : Members) : List Json :=
  match itemsOf (memberOf members "styledTextSegments") with
  | [] => [wholeTextSegment members (styleOf members) (characterCount members)]
  | segments => segments

/-- The style of a text is looked at. -/
def ReadsStyle (members : Members) : Prop :=
  (memberOf members "lineHeight").truthy = false ∨
    itemsOf (memberOf members "styledTextSegments") = []

/-- The style, the runs and the line height of a text are tolerable. -/
structure IsTolerableText (members : Members) : Prop where
  style : ReadsStyle members → IsTolerableObject (memberOf members "style")
  segments : ∀ segment ∈ segmentsOf members, IsTolerableSegment segment
  lineHeight : IsTolerableLineHeight (declaredLineHeight members)

/-- A text whose style can be looked at. -/
def readStyledText (members : Members) : Except Fault (TextBody Float) := do
  let runs ← (segmentsOf members).mapM (readSegment (characterCount members))
  let lineHeight ← readLineHeight (declaredLineHeight members)
  return {
    characters := textOf members "characters" ""
    runs := runs.filterMap id
    align := keywordOf members "textAlignHorizontal" "LEFT"
    lineHeight }

theorem optionalMembers_ok {v : Json} (h : IsTolerableObject v) :
    optionalMembers v = .ok (membersOf v) := by
  cases v with
  | obj members => rfl
  | null | bool _ | int _ | real _ | str _ | arr _ =>
      simp only [optionalMembers, membersOf]
      rw [if_neg (by simpa [IsTolerableObject] using h)]
      rfl

/-- The parts of a text, one after another. -/
theorem readText_parts (members : Members) :
    readText members = (do
      let lineHeight ← (if (memberOf members "lineHeight").truthy
        then pure (memberOf members "lineHeight")
        else styleLineHeight <$> optionalMembers (memberOf members "style") : Except Fault Json)
      let runs ← readRuns members (characterCount members)
      let lineHeight ← readLineHeight lineHeight
      return {
        characters := textOf members "characters" ""
        runs
        align := keywordOf members "textAlignHorizontal" "LEFT"
        lineHeight }) := by
  unfold readText
  by_cases hdeclared : (memberOf members "lineHeight").truthy = true
  · simp only [if_pos hdeclared]
    rfl
  · simp only [if_neg hdeclared]
    rfl

/-- The runs of a text with runs of its own, and of a text without. -/
theorem readRuns_parts (members : Members) (length : Nat) :
    readRuns members length = (do
      let segments ← match itemsOf (memberOf members "styledTextSegments") with
        | [] => (fun style => [wholeTextSegment members style length])
            <$> optionalMembers (memberOf members "style")
        | segments => pure segments
      List.filterMap id <$> segments.mapM (readSegment length)) := by
  unfold readRuns
  have hruns : ∀ segments : List Json, (segments.mapM (readSegment length) >>= fun runs =>
      pure (runs.filterMap id) : Except Fault (List (TextRun Float)))
      = List.filterMap id <$> segments.mapM (readSegment length) := fun _ => bind_pure_comp _ _
  cases itemsOf (memberOf members "styledTextSegments") with
  | nil =>
      cases optionalMembers (memberOf members "style") with
      | error fault => rfl
      | ok style => exact hruns _
  | cons segment rest => exact hruns _

/-- A text is read in one go if nothing is wrong with its style. -/
theorem readText_eq {members : Members}
    (h : ReadsStyle members → IsTolerableObject (memberOf members "style")) :
    readText members = readStyledText members := by
  -- The style is looked at in two places: for want of runs, and for want of a line height.
  have hruns : readRuns members (characterCount members)
      = List.filterMap id <$> (segmentsOf members).mapM (readSegment (characterCount members)) := by
    rw [readRuns_parts, segmentsOf]
    cases hsegments : itemsOf (memberOf members "styledTextSegments") with
    | nil =>
        rw [optionalMembers_ok (h (Or.inr hsegments))]
        rfl
    | cons segment rest => rfl
  have hline : (if (memberOf members "lineHeight").truthy then pure (memberOf members "lineHeight")
      else styleLineHeight <$> optionalMembers (memberOf members "style"))
      = (.ok (declaredLineHeight members) : Except Fault Json) := by
    unfold declaredLineHeight
    by_cases hdeclared : (memberOf members "lineHeight").truthy = true
    · simp only [if_pos hdeclared]
      rfl
    · rw [Bool.not_eq_true] at hdeclared
      rw [optionalMembers_ok (h (Or.inl hdeclared))]
      simp only [hdeclared]
      rfl
  rw [readText_parts, hline, hruns, readStyledText]
  cases (segmentsOf members).mapM (readSegment (characterCount members)) <;> rfl

/-- A text whose style is looked at can only be read if that is an object or missing. -/
theorem style_of_readText {members : Members} (h : Returns (readText members))
    (hstyle : ReadsStyle members) : IsTolerableObject (memberOf members "style") := by
  rw [readText_parts] at h
  rcases h with ⟨body, hbody⟩
  simp only [except_bind_ok] at hbody
  rcases hbody with ⟨line, hline, runs, hruns, -⟩
  rw [← optionalMembers_returns]
  rcases hstyle with hdeclared | hsegments
  · rw [hdeclared] at hline
    exact returns_map.mp ⟨line, hline⟩
  · rw [readRuns_parts, hsegments] at hruns
    rcases except_bind_ok.mp hruns with ⟨segments, hwhole, -⟩
    exact returns_map.mp ⟨segments, hwhole⟩

theorem readStyledText_returns {members : Members} :
    Returns (readStyledText members) ↔
      (∀ segment ∈ segmentsOf members, IsTolerableSegment segment) ∧
        IsTolerableLineHeight (declaredLineHeight members) := by
  unfold readStyledText
  rw [returns_bind fun runs _ => by rw [bind_pure_comp, returns_map, returns_number,
    heals_lineHeight.tolerable], returns_mapM]
  simp only [(heals_segment (characterCount members)).tolerable]

theorem readText_returns {members : Members} :
    Returns (readText members) ↔ IsTolerableText members := by
  constructor
  · intro h
    have hstyle := style_of_readText h
    rw [readText_eq hstyle, readStyledText_returns] at h
    exact ⟨hstyle, h.1, h.2⟩
  · intro h
    rw [readText_eq h.style, readStyledText_returns]
    exact ⟨h.segments, h.lineHeight⟩

section Mended

variable {children : Json → Json} (members : Members)

theorem characterCount_mendNode :
    characterCount (mendNode children members) = characterCount members :=
  congrArg String.length (textOf_mendMembers rfl "")

theorem styleOf_mendNode :
    styleOf (mendNode children members) = mendMembers styleMending (styleOf members) := by
  have htable : (nodeMending children (characterCount members)).lookup "style" = some mendStyle :=
    rfl
  exact read_mended members htable membersOf _ (fun _ => rfl) rfl

/-- The line height of a mended style is its line height, mended. -/
theorem styleLineHeight_mended (style : Members) :
    styleLineHeight (mendMembers styleMending style) = mendLineHeight (styleLineHeight style) := by
  have hunit : keywordOf (mendMembers styleMending style) "lineHeightUnit" "PIXELS"
      = keywordOf style "lineHeightUnit" "PIXELS" := keywordOf_mendMembers rfl _
  -- Both units that a style may have are known, whatever the value is.
  have hvalue : ∀ unit value, (LineHeightUnit.ofName? (Text.upperString unit)).isSome = true →
      mendLineHeight (.obj [("unit", .str unit), ("value", value)])
        = .obj [("unit", .str unit), ("value", mendReal 0.0 value)] := by
    intro unit value hknown
    exact if_pos hknown
  unfold styleLineHeight
  simp only [hunit, lookup_mendMembers]
  by_cases hpixels : keywordOf style "lineHeightUnit" "PIXELS" = "PIXELS"
  · rw [if_pos hpixels, if_pos hpixels]
    cases style.lookup "lineHeightPx" with
    | none => rfl
    | some value => exact (hvalue "PIXELS" value (by decide +kernel)).symm
  · rw [if_neg hpixels, if_neg hpixels]
    by_cases hpercent : keywordOf style "lineHeightUnit" "PIXELS" = "FONT_SIZE_%"
    · rw [if_pos hpercent, if_pos hpercent]
      cases style.lookup "lineHeightPercentFontSize" with
      | none => rfl
      | some value => exact (hvalue "PERCENT" value (by decide +kernel)).symm
    · rw [if_neg hpercent, if_neg hpercent]
      rfl

theorem truthy_lineHeight_mendNode :
    (memberOf (mendNode children members) "lineHeight").truthy
      = (memberOf members "lineHeight").truthy := by
  have htable : (nodeMending children (characterCount members)).lookup "lineHeight"
      = some mendLineHeight := rfl
  exact read_mended members htable Json.truthy id truthy_mendLineHeight rfl

theorem declaredLineHeight_mendNode :
    declaredLineHeight (mendNode children members)
      = mendLineHeight (declaredLineHeight members) := by
  unfold declaredLineHeight
  simp only [truthy_lineHeight_mendNode, styleOf_mendNode, styleLineHeight_mended]
  by_cases hdeclared : (memberOf members "lineHeight").truthy = true
  · rw [if_pos hdeclared, if_pos hdeclared]
    have htable : (nodeMending children (characterCount members)).lookup "lineHeight"
        = some mendLineHeight := rfl
    rcases memberOr_mended members htable .null with hmended | ⟨-, hsame⟩
    · exact hmended
    · rw [memberOf, hsame] at hdeclared
      exact absurd hdeclared (by decide)
  · rw [if_neg hdeclared, if_neg hdeclared]

theorem segments_mendNode :
    itemsOf (memberOf (mendNode children members) "styledTextSegments")
      = (itemsOf (memberOf members "styledTextSegments")).map
        (mendRun (characterCount members)) := by
  have htable : (nodeMending children (characterCount members)).lookup "styledTextSegments"
      = some (mendItems (mendRun (characterCount members))) := rfl
  exact read_mended members htable itemsOf _ (fun _ => rfl) rfl

/-- The single run of a mended text can be read. -/
theorem whole_tolerable (length : Nat) :
    IsTolerableSegment (wholeTextSegment (mendNode children members)
      (mendMembers styleMending (styleOf members)) length) := by
  have hline : IsTolerableLineHeight (mendLineHeight (styleLineHeight (styleOf members))) :=
    (heals_lineHeight.tolerable _).mp (heals_lineHeight.returns _)
  refine isTolerable_wholeText.mpr ⟨?_, ?_, ?_, ?_⟩
  · exact (heals_whole 400).member_tolerable rfl trivial
  · exact (heals_real 16.0).member_tolerable rfl ⟨16, by decide +kernel⟩
  · exact heals_paints.member_tolerable rfl fun _ h => absurd h List.not_mem_nil
  · rw [styleLineHeight_mended]
    exact hline

/-- It is read as it was before, if it could be read before. -/
theorem whole_same {length : Nat}
    (h : IsTolerableSegment (wholeTextSegment members (styleOf members) length)) :
    readSegment length (wholeTextSegment (mendNode children members)
        (mendMembers styleMending (styleOf members)) length)
      = readSegment length (wholeTextSegment members (styleOf members) length) := by
  obtain ⟨hweight, hsize, hfills, hline⟩ := isTolerable_wholeText.mp h
  refine readSegment_wholeText (memberOr_mendMembers rfl _) (memberOr_mendMembers rfl _)
    ((heals_whole 400).member_same rfl hweight) ((heals_real 16.0).member_same rfl hsize)
    (heals_paints.member_same rfl hfills) ?_ (memberOf_mendMembers rfl)
  rw [styleLineHeight_mended]
  exact heals_lineHeight.same _ hline

theorem style_mendNode : IsTolerableObject (memberOf (mendNode children members) "style") := by
  have htable : (nodeMending children (characterCount members)).lookup "style" = some mendStyle :=
    rfl
  rcases memberOr_mended members htable .null with hmended | ⟨hmissing, -⟩
  · rw [mendNode, memberOf, hmended]
    trivial
  · rw [mendNode, memberOf, hmissing]
    rfl

/-- The segments of a mended text can be read. -/
theorem segmentsOf_mendNode_tolerable :
    ∀ segment ∈ segmentsOf (mendNode children members), IsTolerableSegment segment := by
  intro segment hsegment
  rw [segmentsOf, segments_mendNode, styleOf_mendNode] at hsegment
  cases hitems : itemsOf (memberOf members "styledTextSegments") with
  | nil =>
      rw [hitems] at hsegment
      obtain rfl := List.mem_singleton.mp hsegment
      exact whole_tolerable members _
  | cons item rest =>
      rw [hitems] at hsegment
      rcases List.mem_map.mp hsegment with ⟨item', -, rfl⟩
      exact ((heals_segment _).tolerable _).mp ((heals_segment _).returns item')

/-- They are read as they were before, if they could be read before. -/
theorem segmentsOf_mendNode_same
    (h : ∀ segment ∈ segmentsOf members, IsTolerableSegment segment) :
    (segmentsOf (mendNode children members)).mapM (readSegment (characterCount members))
      = (segmentsOf members).mapM (readSegment (characterCount members)) := by
  rw [segmentsOf, segments_mendNode, styleOf_mendNode, characterCount_mendNode]
  rw [segmentsOf] at h ⊢
  -- Without segments of its own the text is one segment, made from the mended style.
  cases hitems : itemsOf (memberOf members "styledTextSegments") with
  | nil =>
      rw [hitems] at h
      have hwhole : ∀ rest : List Json, (wholeTextSegment (mendNode children members)
          (mendMembers styleMending (styleOf members)) (characterCount members) :: rest).mapM
            (readSegment (characterCount members))
          = (wholeTextSegment members (styleOf members) (characterCount members) :: rest).mapM
            (readSegment (characterCount members)) := by
        intro rest
        rw [List.mapM_cons, List.mapM_cons, whole_same members (h _ List.mem_cons_self)]
      exact hwhole []
  | cons item rest =>
      rw [hitems] at h
      exact (heals_segment (characterCount members)).items.same (.arr (item :: rest)) h

end Mended

theorem heals_text (children : Json → Json) :
    Heals readText (mendNode children) IsTolerableText where
  returns members := by
    refine readText_returns.mpr ⟨fun _ => style_mendNode members,
      segmentsOf_mendNode_tolerable members, ?_⟩
    rw [declaredLineHeight_mendNode]
    exact (heals_lineHeight.tolerable _).mp (heals_lineHeight.returns _)
  tolerable members := readText_returns
  same members h := by
    have hcharacters : textOf (mendNode children members) "characters" ""
        = textOf members "characters" "" := textOf_mendMembers rfl ""
    have halign : keywordOf (mendNode children members) "textAlignHorizontal" "LEFT"
        = keywordOf members "textAlignHorizontal" "LEFT" := keywordOf_mendMembers rfl "LEFT"
    rw [readText_eq h.style, readText_eq fun _ => style_mendNode members, readStyledText,
      readStyledText, characterCount_mendNode, segmentsOf_mendNode_same members h.segments,
      declaredLineHeight_mendNode, heals_lineHeight.same _ h.lineHeight, hcharacters, halign]

end Letterpress.Design
