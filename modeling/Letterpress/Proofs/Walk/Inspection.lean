import Letterpress.Proofs.CommandLine.Reports
import Letterpress.Proofs.Walk.Failures
import Letterpress.Proofs.Walk.Rows

/-!
# Summaries Predict Walks

A summary is made before an export, and says what the export will do. It accounts for every
child that is shown: the child is in one row, or there is one warning that it has no bounds.
The children in the rows are those that a walk places. There is a warning for each child
that a walk hands to the synthesis of tables, and for no other.

What a walk hands over is noted while the walk is made, and a summary is held against these
notes. The warnings of a summary are told apart by their endings, which no name can change.

## Main definitions

* `SummaryNode.Shows`: A node in a summary stands for a child.
* `endsIn`: The warning ends in a text.
* `Summary.Predicts`: The summary accounts for all children, and predicts the walk.

## Theorems

* `analyze_eq`: An analyzer makes the summary of its frame, whatever it has kept.
* `summarize_parts`: The parts of a summary.
* `visible_perm`: The children that are shown, with bounds or without.
* `filter_warnings`, `filter_other_warnings`: Warnings are told apart by their endings.
* `analyze_predicts`: A summary accounts for all children, and predicts the walk.
-/

namespace Letterpress

section Summaries

variable {K : Type} [Scalar K] {config : Config K} {root : Node K} {frame : Rect K}
  {summary : Summary}

/-- The warnings that an analyzer has kept after it tried to make a summary. -/
def keptWarnings (root : Node K) : List String :=
  match boundsWarnings root, exportedChildren root with
  | .ok warnings, .ok children => warnings ++ tableWarnings children
  | .ok warnings, .error _ => warnings
  | .error _, _ => []

/-- An analyzer makes the summary of its frame and keeps the warnings in it. What it has kept
    before makes no difference. -/
theorem analyze_eq (config : Config K) (root : Node K) (kept : List String) :
    analyze config root kept = (summarize config root, keptWarnings root) := by
  unfold analyze summarize keptWarnings checkBounds checkTables keepWarnings
  cases boundsWarnings root with
  | error fault => rfl
  | ok warnings =>
      cases hchildren : exportedChildren root with
      | error fault => rfl
      | ok children =>
          have hrows : shownRows config root
              = ((placedRows config children).mapM summaryRow).mapError Fault.number := by
            rw [shownRows, hchildren]
            rfl
          rw [hrows]
          change _ = ((shownSize root >>= fun size =>
            ((placedRows config children).mapM summaryRow).mapError Fault.number >>= fun rows =>
              pure _ : Except Fault Summary), _)
          -- Whatever fails from here on, the warnings are kept already.
          cases shownSize root with
          | error fault => rfl
          | ok size =>
              cases ((placedRows config children).mapM summaryRow).mapError Fault.number with
              | error fault => rfl
              | ok rows => rfl

/-- What is said of a node without bounds. -/
def skippedText : String := " has no bounds and will be skipped"

/-- What is said of a child that reaches beyond the frame. -/
def outsideText : String := " extends outside the frame"

/-- What is said of a region that is rebuilt as a table. -/
def tableText : String := " is re-synthesized as a table; later siblings may shift down"

/-- A warning says something of a node. -/
def warningOf (text : String) (n : Node K) : String :=
  Text.quoted n.name ++ text

/-- The children that reach beyond the frame. -/
def outsideNodes (frame : Rect K) (children : List (Placed K)) : List (Node K) :=
  (children.filter fun p => p.overflows frame).map Placed.node

/-- The parts of the summary of a frame with bounds. -/
theorem summarize_parts (hbounds : root.bounds = some frame)
    (h : summarize config root = .ok summary) :
    ∃ children, root.childList = .ok children ∧
      (placedRows config (placedChildren frame children)).mapM summaryRow = .ok summary.rows ∧
      summary.warnings = (children.filter Node.isUnplaced).map (warningOf skippedText)
        ++ (outsideNodes frame (placedChildren frame children)).map (warningOf outsideText)
        ++ (regionNodes (placedChildren frame children)).map (warningOf tableText) := by
  simp only [summarize, boundsWarnings, exportedChildren, hbounds, except_bind_ok,
    except_pure_ok, mapError_ok] at h
  rcases h with ⟨_, ⟨children, hchildren, _, ⟨_, hagain, rfl⟩, rfl⟩, _, ⟨_, hthird, rfl⟩, size, -,
    rows, hrows, rfl⟩
  obtain rfl := Except.ok.inj (hchildren.symm.trans hagain)
  obtain rfl := Except.ok.inj (hchildren.symm.trans hthird)
  refine ⟨children, hchildren, hrows, ?_⟩
  simp only [outsideNodes, regionNodes, List.map_map]
  rfl

/-- The node in a summary stands for the child. -/
structure SummaryNode.Shows (n : SummaryNode) (p : Placed K) : Prop where
  name : n.name = p.node.name
  kind : n.kind = p.node.kind
  x : Scalar.roundHalfUp p.x = .ok n.x

theorem summaryNodes_show {ps : List (Placed K)} {ns : List SummaryNode}
    (h : ps.mapM summaryNode = .ok ns) : List.Forall₂ SummaryNode.Shows ns ps := by
  induction ps generalizing ns with
  | nil =>
      rw [List.mapM_nil, except_pure_ok] at h
      rw [← h]
      exact .nil
  | cons p ps ih =>
      rcases mapM_cons_ok.mp h with ⟨n, rest, hn, hrest, rfl⟩
      simp only [summaryNode, except_bind_ok, except_pure_ok] at hn
      rcases hn with ⟨x, hx, rfl⟩
      exact .cons ⟨rfl, rfl, hx⟩ (ih hrest)

/-- The nodes of all rows stand for the children in the rows, in order. -/
theorem summaryRows_show {rows : List (Layout.Row (Placed K) K)} {shown : List SummaryRow}
    (h : rows.mapM summaryRow = .ok shown) :
    List.Forall₂ SummaryNode.Shows (shown.flatMap SummaryRow.nodes)
      (rows.flatMap Layout.Row.items) := by
  induction rows generalizing shown with
  | nil =>
      rw [List.mapM_nil, except_pure_ok] at h
      rw [← h]
      exact .nil
  | cons row rows ih =>
      rcases mapM_cons_ok.mp h with ⟨r, rest, hr, hrest, rfl⟩
      simp only [summaryRow, except_bind_ok, except_pure_ok] at hr
      rcases hr with ⟨y, -, height, -, nodes, hnodes, rfl⟩
      rw [List.flatMap_cons, List.flatMap_cons]
      exact List.rel_append (summaryNodes_show hnodes) (ih hrest)

omit [Scalar K] in
/-- The children that are shown, with bounds or without. -/
theorem visible_perm (children : List (Node K)) :
    (children.filter Node.isPlaced ++ children.filter Node.isUnplaced).Perm
      (children.filter Node.visible) := by
  have hplaced : children.filter Node.isPlaced
      = (children.filter Node.visible).filter fun n => n.bounds.isSome := by
    rw [List.filter_filter]
    exact List.filter_congr fun n _ => Bool.and_comm _ _
  have hunplaced : children.filter Node.isUnplaced
      = (children.filter Node.visible).filter fun n => !n.bounds.isSome := by
    rw [List.filter_filter]
    refine List.filter_congr fun n _ => ?_
    rw [Node.isUnplaced, Bool.and_comm]
    cases n.bounds <;> rfl
  rw [hplaced, hunplaced]
  exact List.filter_append_perm _ _

end Summaries

section Warnings

variable {K : Type} {text other : String}

/-- The warning ends in a text. -/
def endsIn (text : String) (warning : String) : Bool :=
  text.toList.isSuffixOf warning.toList

theorem endsIn_warningOf (text : String) (n : Node K) : endsIn text (warningOf text n) = true := by
  rw [endsIn, List.isSuffixOf_iff_suffix, warningOf, String.toList_append]
  exact List.suffix_append _ _

/-- A warning does not end in a text that ends in another letter. -/
theorem not_endsIn_warningOf {c d : Char} (hc : text.toList.getLast? = some c)
    (hd : other.toList.getLast? = some d) (h : c ≠ d) (n : Node K) :
    endsIn text (warningOf other n) = false := by
  rw [Bool.eq_false_iff, ne_eq, endsIn, List.isSuffixOf_iff_suffix]
  rintro ⟨before, hbefore⟩
  have hlast := congrArg List.getLast? hbefore
  rw [warningOf, String.toList_append, List.getLast?_append, List.getLast?_append, hc, hd] at hlast
  exact h (Option.some.inj hlast)

theorem filter_warnings (ns : List (Node K)) :
    (ns.map (warningOf text)).filter (endsIn text) = ns.map (warningOf text) := by
  rw [List.filter_eq_self]
  intro warning hwarning
  rcases List.mem_map.mp hwarning with ⟨n, -, rfl⟩
  exact endsIn_warningOf text n

theorem filter_other_warnings {c d : Char} (hc : text.toList.getLast? = some c)
    (hd : other.toList.getLast? = some d) (h : c ≠ d) (ns : List (Node K)) :
    (ns.map (warningOf other)).filter (endsIn text) = [] := by
  rw [List.filter_eq_nil_iff]
  intro warning hwarning
  rcases List.mem_map.mp hwarning with ⟨n, -, rfl⟩
  rw [not_endsIn_warningOf hc hd h n]
  exact Bool.false_ne_true

end Warnings

variable {ω K : Type} [Scalar K]

/-- The summary accounts for the children of a frame, and predicts what a walk over it does
    with them. -/
structure Summary.Predicts (summary : Summary) (host : Host ω K) (config : Config K)
    (root : Node K) (frame : Rect K) (children : List (Node K)) : Prop where
  /-- The nodes of all rows stand for the children that a walk places. With the children that
      have no bounds they are all that is shown. -/
  rows : ∃ shown : List (Placed K),
    List.Forall₂ SummaryNode.Shows (summary.rows.flatMap SummaryRow.nodes) shown ∧
    shown.Perm (placedChildren frame children) ∧
    (shown.map Placed.node ++ children.filter Node.isUnplaced).Perm
      (children.filter Node.visible)
  /-- There is one warning for each child that is shown but has no bounds. -/
  skipped : summary.warnings.filter (endsIn skippedText)
    = (children.filter Node.isUnplaced).map (warningOf skippedText)
  /-- There is one warning for each child that a walk hands to the synthesis of tables. -/
  tables : ∀ s w s', walk host config root s = (.ok w, s') →
    summary.warnings.filter (endsIn tableText)
      = (walkNoted host config root s).1.map (warningOf tableText)
  /-- A walk that is stopped hands over the first of them. -/
  begun : ∀ s, (walkNoted host config root s).1.map (warningOf tableText)
    <+: summary.warnings.filter (endsIn tableText)

/-- A summary accounts for all children, and predicts any walk. -/
theorem predicts_of_summarize (host : Host ω K) (config walkConfig : Config K)
    {root : Node K} {frame : Rect K} {children : List (Node K)} {summary : Summary}
    (hbounds : root.bounds = some frame) (hchildren : root.childList = .ok children)
    (h : summarize config root = .ok summary) :
    summary.Predicts host walkConfig root frame children := by
  rcases summarize_parts hbounds h with ⟨found, hfound, hrows, hwarnings⟩
  obtain rfl := Except.ok.inj (hchildren.symm.trans hfound)
  have hplaced := Layout.clusterRows_perm placedExtent config.rowTolerance
    (placedChildren frame children)
  -- The three kinds of warnings end in different letters, so each can be filtered out.
  have hskipped : skippedText.toList.getLast? = some 'd' := by decide +kernel
  have houtside : outsideText.toList.getLast? = some 'e' := by decide +kernel
  have htable : tableText.toList.getLast? = some 'n' := by decide +kernel
  have htables : summary.warnings.filter (endsIn tableText)
      = (regionNodes (placedChildren frame children)).map (warningOf tableText) := by
    rw [hwarnings, List.filter_append, List.filter_append,
      filter_other_warnings htable hskipped (by decide),
      filter_other_warnings htable houtside (by decide), filter_warnings]
    rfl
  have hnotes : (walkNoted host walkConfig root).Notes
      (regionNodes (placedChildren frame children)) := by
    rw [← Node.childList_ok hchildren]
    exact walkNoted_notes hbounds
  refine ⟨⟨_, summaryRows_show hrows, hplaced, ?_⟩, ?_, fun s w s' hwalk => ?_, fun s => ?_⟩
  -- The rows hold the placed children, and the rest of the visible ones have no bounds.
  · refine .trans (List.Perm.append_right _ ?_) (visible_perm children)
    exact (hplaced.map Placed.node).trans (placedChildren_nodes frame children)
  · rw [hwarnings, List.filter_append, List.filter_append,
      filter_warnings, filter_other_warnings hskipped houtside (by decide),
      filter_other_warnings hskipped htable (by decide), List.append_nil, List.append_nil]
  · rw [← walkNoted_task] at hwalk
    rw [htables, (hnotes s).2 w s' hwalk]
  · rw [htables]
    exact (hnotes s).1.map _

/-- A frame with a region, a child that is not shown, one without bounds, and one that
    reaches beyond the frame. -/
def marketCard : Node Rat :=
  .container ⟨"0", "Market", true, some ⟨0, 0, 200, 100⟩, []⟩ .frame
    [.shape ⟨"1", "Line", true, some ⟨0, 80, 300, 2⟩, []⟩ ⟨.rectangle, none, none⟩,
      .container ⟨"2", "[table] Prices", true, some ⟨0, 10, 100, 20⟩, []⟩ .group
        [.text ⟨"3", "Price", true, some ⟨0, 10, 50, 20⟩, []⟩ ⟨"12", [], "LEFT", none⟩],
      .image ⟨"4", "Draft", false, some ⟨0, 0, 10, 10⟩, []⟩ "IMAGE",
      .image ⟨"5", "Logo", true, none, []⟩ "IMAGE"]

end Letterpress
