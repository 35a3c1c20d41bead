import Letterpress.CommandLine.Run
import Letterpress.Proofs.CommandLine.Arguments
import Letterpress.Proofs.Number.Finite
import Letterpress.Proofs.Session.Calls

/-!
# Reports of Exports and Inspections

An export ends in a report whatever its files hold: all that it does is done in one
attempt. An inspection attempts only to load the design. The summary of the design is made
afterwards, and rounds whatever numbers the design has led to. So an inspection ends in a
report as long as these numbers are finite, and otherwise stops with a fault of arithmetic.

## Main definitions

* `shownNumbers`: The numbers that the summary of a frame shows.
* `Report.IsProper`: A report of success, or of a failure with its reason.
* `IsInspectable`: What is shown of the design in a file is finite.

## Theorems

* `summarize_cases`: A frame has a summary if all numbers in it can be rounded.
* `exportDesign_reports`, `inspectDesign_run`: What comes of the commands.
* `run_reports`: What comes of the command line.
-/

namespace Letterpress

section Summaries

variable {K : Type} [Scalar K]

/-- The children of a frame that a summary shows. -/
def shownChildren (root : Node K) : List (Placed K) :=
  match root.bounds with
  | none => []
  | some frame => placedChildren frame root.children

/-- The numbers that a summary shows of a row. -/
def rowNumbers (row : Layout.Row (Placed K) K) : List K :=
  row.y :: row.height :: row.items.map Placed.x

/-- The numbers that the summary of a frame shows: its size, and where its rows and its
    children are. -/
def shownNumbers (config : Config K) (root : Node K) : List K :=
  (root.bounds.elim [] fun frame => [frame.width, frame.height])
    ++ (placedRows config (shownChildren root)).flatMap rowNumbers

theorem pixelSize_returns {frame : Rect K} :
    Returns (pixelSize frame) ↔ ∀ x ∈ [frame.width, frame.height],
      Returns (Scalar.roundHalfUp x) := by
  unfold pixelSize
  rw [returns_bind fun _ _ => by rw [bind_pure_comp, returns_map]]
  simp

theorem summaryRow_returns {row : Layout.Row (Placed K) K} :
    Returns (summaryRow row) ↔ ∀ x ∈ rowNumbers row, Returns (Scalar.roundHalfUp x) := by
  have hnode : ∀ p : Placed K, Returns (summaryNode p) ↔ Returns (Scalar.roundHalfUp p.x) := by
    intro p
    unfold summaryNode
    rw [bind_pure_comp, returns_map]
  unfold summaryRow rowNumbers
  rw [returns_bind fun _ _ => returns_bind fun _ _ => by
    rw [bind_pure_comp, returns_map, returns_mapM]]
  simp [hnode]

/-- The parts of a summary, of which only the sizes and the rows can fail. -/
theorem summarize_container (config : Config K) {root : Node K} {children : List (Node K)}
    (h : root.childList = .ok children) :
    ∃ warnings : List String, summarize config root = (do
      let size ← root.bounds.mapM fun frame => (pixelSize frame).mapError Fault.number
      let rows ← ((placedRows config (shownChildren root)).mapM summaryRow).mapError Fault.number
      return {
        name := root.name
        size
        tableRegions := root.countTableRegions
        rows
        warnings }) := by
  have hchildren : root.children = children := Node.childList_ok h
  -- Without bounds no child is looked at, so a list of children is not asked for.
  have hexported : exportedChildren root = .ok (shownChildren root) := by
    unfold exportedChildren shownChildren
    cases root.bounds with
    | none => rfl
    | some frame => rw [h, hchildren]; rfl
  have hwarnings : ∃ warnings, boundsWarnings root = .ok warnings := by
    unfold boundsWarnings
    cases root.bounds with
    | none => exact ⟨_, rfl⟩
    | some frame => rw [h, hexported]; exact ⟨_, rfl⟩
  rcases hwarnings with ⟨warnings, hwarnings⟩
  refine ⟨warnings ++ tableWarnings (shownChildren root), ?_⟩
  rw [summarize, hwarnings, hexported]
  rfl

/-- A frame has a summary if all numbers in it can be rounded, and otherwise it is rounding
    that fails. -/
theorem summarize_cases (config : Config K) {root : Node K} {children : List (Node K)}
    (h : root.childList = .ok children) :
    ((∀ x ∈ shownNumbers config root, Returns (Scalar.roundHalfUp x)) ∧
        ∃ summary, summarize config root = .ok summary) ∨
      ((¬ ∀ x ∈ shownNumbers config root, Returns (Scalar.roundHalfUp x)) ∧
        ∃ e, summarize config root = .error (.number e)) := by
  rcases summarize_container config h with ⟨warnings, hsummary⟩
  -- The numbers that are shown are those of the frame, and those of the rows.
  have hsize : (∀ x ∈ root.bounds.elim [] fun frame => [frame.width, frame.height],
      Returns (Scalar.roundHalfUp x)) ↔ Returns (root.bounds.mapM pixelSize) := by
    cases root.bounds with
    | none => exact iff_of_true (by simp) ⟨none, rfl⟩
    | some frame =>
        rw [Option.elim_some, ← pixelSize_returns]
        exact (returns_map (f := some)).symm
  have hrows : (∀ x ∈ (placedRows config (shownChildren root)).flatMap rowNumbers,
      Returns (Scalar.roundHalfUp x))
      ↔ Returns ((placedRows config (shownChildren root)).mapM summaryRow) := by
    rw [returns_mapM]
    simp only [summaryRow_returns, List.mem_flatMap]
    exact ⟨fun h row hrow x hx => h x ⟨row, hrow, hx⟩, fun h x ⟨row, hrow, hx⟩ => h row hrow x hx⟩
  have hlifted : (root.bounds.mapM fun frame => (pixelSize frame).mapError Fault.number)
      = (root.bounds.mapM pixelSize).mapError Fault.number := by
    cases root.bounds with
    | none => rfl
    | some frame =>
        change some <$> (pixelSize frame).mapError Fault.number
          = (some <$> pixelSize frame).mapError Fault.number
        cases pixelSize frame <;> rfl
  rw [hsummary, hlifted, shownNumbers, List.forall_mem_append, hsize, hrows]
  -- The first of the two that fails is the fault.
  generalize root.bounds.mapM pixelSize = size
  generalize (placedRows config (shownChildren root)).mapM summaryRow = rows
  cases size with
  | error e => exact Or.inr ⟨fun h => not_returns_error e h.1, e, rfl⟩
  | ok size =>
      cases rows with
      | error e => exact Or.inr ⟨fun h => not_returns_error e h.2, e, rfl⟩
      | ok rows => exact Or.inl ⟨⟨returns_ok _, returns_ok _⟩, _, rfl⟩

end Summaries

namespace CommandLine

/-- A report of success, or of a failure with its reason. -/
def Report.IsProper (r : Report) : Prop :=
  r.code = 0 ∨ r.code = 1 ∧ ∃ reason, r.errors = ["Error: " ++ reason]

theorem failure_isProper (text : String) : (failure text).IsProper :=
  Or.inr ⟨rfl, text, rfl⟩

variable {s : Session FileTree Float}

/-- Whether or not a fault is noted, it is reported. -/
theorem faultReport_run (notice : String) (fault : Fault) (s : Session FileTree Float) :
    (faultReport notice fault s).1 = .ok (failure (Mail.faultText fault)) := by
  unfold faultReport
  cases fault.isReported <;> rfl

/-- An export ends in a report. -/
theorem exportDesign_reports (o : ExportOptions) (s : Session FileTree Float) :
    ∃ report, (exportDesign o s).1 = .ok report ∧ report.IsProper := by
  have hfiles : currentFiles s = (.ok s.world, s) := rfl
  unfold exportDesign
  rw [Task.bind_run, hfiles]
  dsimp only
  cases hthere : s.world.has (Path.ofText o.input) with
  | false => exact ⟨_, rfl, failure_isProper _⟩
  | true =>
      simp only [Bool.not_true, Bool.false_eq_true, if_false]
      rw [Task.bind_run]
      rcases hrun : composeAndStore o s with ⟨result, after⟩
      have hattempt : (composeAndStore o).attempt s = (.ok result, after) := by
        simp only [Task.attempt, hrun]
      rw [hattempt]
      cases result with
      | ok stored => exact ⟨_, rfl, Or.inl rfl⟩
      | error fault =>
          exact ⟨_, faultReport_run "Unexpected export failure" fault after, failure_isProper _⟩

/-- What comes of an inspection: a report, unless there is a frame that has no summary. -/
theorem inspectDesign_run (o : InspectOptions) (s : Session FileTree Float) :
    (inspectDesign o s).1 =
      match DesignFile.load s.world (.ofText o.input) with
      | .error fault => .ok (failure (Mail.faultText fault))
      | .ok design =>
        if isContainer design.root then
          (summarize {} design.root).map fun summary =>
            if o.json then { code := 0, output := [Json.pretty .unicode summary.json] }
            else { code := 0, output := summaryLines summary }
        else .ok (failure "the design root is not a frame") := by
  have hfiles : currentFiles s = (.ok s.world, s) := rfl
  unfold inspectDesign
  rw [Task.bind_run, hfiles]
  dsimp only
  cases hload : DesignFile.load s.world (.ofText o.input) with
  | error fault => exact faultReport_run "Unexpected failure reading design" fault s
  | ok design =>
      dsimp only
      cases hcontainer : isContainer design.root with
      | false => rfl
      | true =>
          -- From here on nothing is attempted any more.
          change ((liftM (summarize {} design.root) >>= fun summary =>
            if o.json then pure { code := 0, output := [Json.pretty .unicode summary.json] }
            else pure { code := 0, output := summaryLines summary } : Work Report) s).1 = _
          rw [Task.bind_run]
          cases hsummary : summarize {} design.root with
          | error fault => rfl
          | ok summary => cases o.json <;> rfl

/-- What an inspection shows of the design at a path is finite. -/
def IsInspectable (t : FileTree) (path : String) : Prop :=
  ∀ design, DesignFile.load t (.ofText path) = .ok design → isContainer design.root = true →
    ∀ x ∈ shownNumbers {} design.root, IsFinite x

theorem roundHalfUp_float {x : Float} : Returns (Scalar.roundHalfUp x) ↔ IsFinite x :=
  ⟨fun h => Binary64.isFinite_of_add_half (floor_returns.mp h), roundHalfUp_returns⟩

theorem childList_container {root : Node Float} (h : isContainer root = true) :
    root.childList = .ok root.children := by
  cases root with
  | container _ _ _ => rfl
  | text _ _ | shape _ _ | image _ _ => exact absurd h (by simp [isContainer])

/-- An inspection of finite numbers ends in a report. -/
theorem inspectDesign_reports {o : InspectOptions} {s : Session FileTree Float}
    (h : IsInspectable s.world o.input) :
    ∃ report, (inspectDesign o s).1 = .ok report ∧ report.IsProper := by
  rw [inspectDesign_run]
  cases hload : DesignFile.load s.world (.ofText o.input) with
  | error fault => exact ⟨_, rfl, failure_isProper _⟩
  | ok design =>
      dsimp only
      by_cases hcontainer : isContainer design.root = true
      · rw [if_pos hcontainer]
        have hfinite := h design hload hcontainer
        rcases summarize_cases ({} : Config Float) (childList_container hcontainer) with
          ⟨-, summary, hsummary⟩ | ⟨hno, -⟩
        · rw [hsummary]
          cases o.json <;> exact ⟨_, rfl, Or.inl rfl⟩
        · exact absurd (fun x hx => roundHalfUp_float.mpr (hfinite x hx)) hno
      · rw [if_neg hcontainer]
        exact ⟨_, rfl, failure_isProper _⟩

/-- An inspection of other numbers stops where it would have to round them. -/
theorem inspectDesign_stops {o : InspectOptions} {s : Session FileTree Float}
    (h : ¬ IsInspectable s.world o.input) :
    ∃ e, (inspectDesign o s).1 = .error (.number e) := by
  unfold IsInspectable at h
  push Not at h
  rcases h with ⟨design, hload, hcontainer, x, hx, hinfinite⟩
  rw [inspectDesign_run, hload]
  dsimp only
  rw [if_pos hcontainer]
  rcases summarize_cases ({} : Config Float) (childList_container hcontainer) with
    ⟨hfinite, -⟩ | ⟨-, e, hsummary⟩
  · exact absurd (roundHalfUp_float.mp (hfinite x hx)) hinfinite
  · exact ⟨e, by rw [hsummary]; rfl⟩

/-- Setting up the usual log changes nothing, and then the command is performed. -/
theorem run_command {arguments : List String} {command : Command}
    (h : Options.read arguments = .ok (.of command)) (s : Session FileTree Float) :
    run arguments s = perform command s := by
  rw [run, h]
  rfl

/-- The text of a design file with a frame of a height. -/
def frameText (height : String) : String :=
  "\x7b\"type\": \"FRAME\", \"absoluteBoundingBox\": \x7b\"x\": 0, \"y\": 0, \"width\": 600, "
    ++ "\"height\": " ++ height ++ "\x7d\x7d"

/-- A frame that is finite, and one that never ends. -/
def twoFrames : FileTree :=
  ⟨[(["frame.json"], .file (.ofText (frameText "80"))),
    (["endless.json"], .file (.ofText (frameText "Infinity")))]⟩

end CommandLine

end Letterpress
