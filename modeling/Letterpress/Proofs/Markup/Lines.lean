import Letterpress.Proofs.Markup.Layer

/-!
# Lines of Markup

Documents are written line by line. The line ends are texts of their own in what is
read, so no line may start or end with text.

## Main definitions

* `newline`: A line end.
* `lines`: Drafts with line ends between them.

## Theorems

* `writes_lines`, `writes_unlines`: Texts that are written line by line.
* `tidyAll_lines`, `everywhereAll_lines`, `decodeAll_lines`, `extractAll_lines`: Properties
  of lines from those of each line.
-/

namespace Letterpress

namespace Text

theorem unlines_single (s : String) : unlines [s] = s :=
  rfl

theorem unlines_cons (s : String) {rest : List String} (h : rest ≠ []) :
    unlines (s :: rest) = s ++ ("\n" ++ unlines rest) := by
  cases rest with
  | nil => exact absurd rfl h
  | cons t rest =>
      rw [unlines, joinWith, String.append_assoc]
      rfl

/-- Lines before and after a line end. -/
theorem unlines_append {l m : List String} (hl : l ≠ []) (hm : m ≠ []) :
    unlines (l ++ m) = unlines l ++ ("\n" ++ unlines m) := by
  induction l with
  | nil => exact absurd rfl hl
  | cons s l ih =>
      cases l with
      | nil => rw [List.singleton_append, unlines_cons s hm, unlines_single]
      | cons t l =>
          have hrest := ih (List.cons_ne_nil t l)
          rw [List.cons_append, unlines_cons s (List.append_ne_nil_of_left_ne_nil
            (List.cons_ne_nil t l) m), hrest, unlines_cons s (List.cons_ne_nil t l)]
          simp only [String.append_assoc]

end Text

namespace Markup

/-- A line end. -/
def newline : Node :=
  .text "\n"

theorem writes_newline : Writes "\n" [newline] :=
  writes_text "\n"

/-- Two lines. -/
theorem writes_lines {s t : String} {ns ms : List Node} (hs : Writes s ns)
    (ht : Writes t ms) : Writes (s ++ ("\n" ++ t)) (ns ++ newline :: ms) :=
  hs.append (writes_newline.append ht)

theorem newline_tidy : newline.Tidy :=
  Or.inl (by decide)

/-- A line end before drafts. -/
theorem tidyAll_newline {ns : List Node} (h : Node.TidyAll ns)
    (hhead : ns.head?.any Node.isPlainText = false) : Node.TidyAll (newline :: ns) :=
  ⟨newline_tidy, fun _ => hhead, h⟩

/-- A solid draft before others. -/
theorem tidyAll_solid {n : Node} {ns : List Node} (hn : n.Tidy)
    (hsolid : n.isPlainText = false) (h : Node.TidyAll ns) : Node.TidyAll (n :: ns) :=
  ⟨hn, fun hplain => absurd hplain (by rw [hsolid]; exact Bool.false_ne_true), h⟩

/-- Drafts with line ends between them. -/
def lines : List (List Node) → List Node
  | [] => []
  | [ns] => ns
  | ns :: ms :: rest => ns ++ newline :: lines (ms :: rest)

theorem lines_cons (ns : List Node) {rest : List (List Node)} (h : rest ≠ []) :
    lines (ns :: rest) = ns ++ newline :: lines rest := by
  cases rest with
  | nil => exact absurd rfl h
  | cons ms rest => rfl

/-- Lines of text are the drafts of the lines with line ends between them. -/
theorem writes_unlines {pieces : List String} {drafts : List (List Node)}
    (h : List.Forall₂ Writes pieces drafts) : Writes (Text.unlines pieces) (lines drafts) := by
  induction h with
  | nil => rfl
  | @cons s ns pieces drafts hs hrest ih =>
      cases hrest with
      | nil => exact hs
      | cons _ _ =>
          rw [Text.unlines_cons s (List.cons_ne_nil _ _), lines_cons ns (List.cons_ne_nil _ _)]
          exact writes_lines hs ih

section Lines

variable {pieces : List (List Node)}

theorem hasSolidEnds_lines (hne : pieces ≠ []) (h : ∀ ns ∈ pieces, HasSolidEnds ns) :
    HasSolidEnds (lines pieces) := by
  induction pieces with
  | nil => exact absurd rfl hne
  | cons ns pieces ih =>
      rw [List.forall_mem_cons] at h
      cases pieces with
      | nil => exact h.1
      | cons ms pieces =>
          have hrest := ih (List.cons_ne_nil ms pieces) h.2
          rw [lines_cons ns (List.cons_ne_nil ms pieces)]
          refine ⟨List.append_ne_nil_of_left_ne_nil h.1.ne _, ?_, ?_⟩
          · rw [List.head?_append_of_ne_nil _ h.1.ne]
            exact h.1.head
          · rw [List.getLast?_append_of_ne_nil _ (List.cons_ne_nil _ _),
              List.getLast?_cons_of_ne_nil hrest.ne]
            exact hrest.last

/-- Lines are tidy if each line is. -/
theorem tidyAll_lines (htidy : ∀ ns ∈ pieces, Node.TidyAll ns)
    (hends : ∀ ns ∈ pieces, HasSolidEnds ns) : Node.TidyAll (lines pieces) := by
  induction pieces with
  | nil => trivial
  | cons ns pieces ih =>
      rw [List.forall_mem_cons] at htidy hends
      cases pieces with
      | nil => exact htidy.1
      | cons ms pieces =>
          have hrest := hasSolidEnds_lines (List.cons_ne_nil ms pieces) hends.2
          rw [lines_cons ns (List.cons_ne_nil ms pieces)]
          exact tidyAll_append htidy.1 (tidyAll_newline (ih htidy.2 hends.2) hrest.head)
            fun hlast => absurd hlast (by rw [hends.1.last]; exact Bool.false_ne_true)

theorem everywhereAll_lines {P : String → List Attribute → Prop}
    (h : ∀ ns ∈ pieces, Node.EverywhereAll P ns) : Node.EverywhereAll P (lines pieces) := by
  induction pieces with
  | nil => trivial
  | cons ns pieces ih =>
      rw [List.forall_mem_cons] at h
      cases pieces with
      | nil => exact h.1
      | cons ms pieces =>
          rw [lines_cons ns (List.cons_ne_nil ms pieces)]
          exact everywhereAll_append.mpr ⟨h.1, trivial, ih h.2⟩

/-- Lines are decoded line by line. -/
theorem decodeAll_lines (pieces : List (List Node)) :
    Node.decodeAll (lines pieces) = lines <$> pieces.mapM Node.decodeAll := by
  induction pieces with
  | nil => rfl
  | cons ns pieces ih =>
      cases pieces with
      | nil =>
          rw [lines, List.mapM_cons, List.mapM_nil]
          cases Node.decodeAll ns <;> rfl
      | cons ms pieces =>
          -- Decoded lines are as many as before, and so the break between the first two stays.
          have hne : ∀ {out : List (List Node)},
              (ms :: pieces).mapM Node.decodeAll = .ok out → out ≠ [] := by
            intro out hout
            rcases mapM_cons_ok.mp hout with ⟨_, _, -, -, rfl⟩
            exact List.cons_ne_nil _ _
          rw [lines_cons ns (List.cons_ne_nil ms pieces), decodeAll_append, Node.decodeAll,
            List.mapM_cons, ih]
          cases Node.decodeAll ns with
          | error e => rfl
          | ok first =>
              cases hrest : (ms :: pieces).mapM Node.decodeAll with
              | error e => rfl
              | ok out => exact congrArg Except.ok (lines_cons first (hne hrest)).symm

variable {K : Type} [Scalar K] {config : Config K} {canvas : Int}

/-- The fragments of lines are those of each line. -/
theorem extractAll_lines (pieces : List (List Node)) :
    Document.extractAll config canvas (lines pieces)
      = List.flatten <$> pieces.mapM (Document.extractAll config canvas) := by
  induction pieces with
  | nil => rfl
  | cons ns pieces ih =>
      cases pieces with
      | nil =>
          rw [lines, List.mapM_cons, List.mapM_nil]
          cases Document.extractAll config canvas ns with
          | error e => rfl
          | ok fs => exact congrArg Except.ok (by simp)
      | cons ms pieces =>
          rw [lines_cons ns (List.cons_ne_nil ms pieces), Document.extractAll_append,
            Document.extractAll, Document.extractIn_leaf rfl, List.mapM_cons, ih]
          cases Document.extractAll config canvas ns with
          | error e => rfl
          | ok first =>
              cases (ms :: pieces).mapM (Document.extractAll config canvas) with
              | error e => rfl
              | ok rest => rfl

end Lines

end Markup

end Letterpress
