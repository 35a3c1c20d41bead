import Letterpress.Proofs.Layout.Keeping
import Letterpress.Proofs.Session.Calls
import Letterpress.Proofs.Walk.Visit

/-!
# Tables of a Walk

Whom a walk hands to the synthesis of tables cannot be told from what it returns: a table
without text shows nothing, and a walk that is stopped returns nothing at all. So the nodes
are noted while the walk is made. A *noted* task is a task with a list of nodes beside it,
which stays when the task is stopped. The notes take no part in the task, which is the same
without them. A *counted* task has only their number.

A walk hands over every child that is a region for a table, and nothing else. The regions
that are paid for are those of the whole tree, so a walk makes no more tables than are paid
for.

## Main definitions

* `Noted`, `Counted`: A task that notes nodes, or counts them.
* `Noted.Notes`: What a task notes if it returns, and the beginning of it if not.
* `walkNoted`: A walk that notes what it hands to the synthesis of tables.
* `walkCounted`: A walk that counts its tables.

## Theorems

* `walkNoted_task`, `walkCounted_task`: Noting and counting change nothing.
* `walkNoted_notes`: What a walk hands to the synthesis of tables.
* `countP_placedChildren`: The children of a frame that are regions.
* `walkCounted_eq`: The count is the number of notes.
* `walkCounted_atMost`: A walk makes at most one table for each region of the tree.
-/

namespace Letterpress

variable {ω K α β : Type}

/-- A task that counts, whether or not it is stopped. -/
abbrev Counted (ω K α : Type) := Session ω K → Nat × (Except Fault α × Session ω K)

namespace Counted

/-- The task without the count. -/
def task (t : Counted ω K α) : Task ω K α := fun s =>
  (t s).2

/-- A task that counts for nothing. -/
def uncounted (t : Task ω K α) : Counted ω K α := fun s =>
  (0, t s)

/-- A task that counts for one, as soon as it is begun. -/
def once (t : Task ω K α) : Counted ω K α := fun s =>
  (1, t s)

/-- A task after another. If the first is stopped, only the first counts. -/
def andThen (t : Counted ω K α) (f : α → Counted ω K β) : Counted ω K β := fun s =>
  match t s with
  | (n, .ok a, s₁) => (n + (f a s₁).1, (f a s₁).2)
  | (n, .error fault, s₁) => (n, .error fault, s₁)

/-- A task counts for one however it is taken apart. -/
theorem once_bind (t : Task ω K α) (f : α → Task ω K β) :
    once (t >>= f) = (once t).andThen fun a => uncounted (f a) := by
  funext s
  simp only [once, andThen, uncounted, Task.bind_run]
  rcases t s with ⟨result, s₁⟩
  cases result <;> rfl

theorem andThen_returned {t : Task ω K α} {f : α → Counted ω K β} {s s₁ : Session ω K} {a : α}
    (h : t s = (.ok a, s₁)) : (uncounted t).andThen f s = f a s₁ := by
  simp only [andThen, uncounted, h, Nat.zero_add]

theorem andThen_stopped {t : Task ω K α} {f : α → Counted ω K β} {s s₁ : Session ω K}
    {fault : Fault} (h : t s = (.error fault, s₁)) :
    (uncounted t).andThen f s = (0, .error fault, s₁) := by
  simp only [andThen, uncounted, h]

/-- Counting takes no part in what is done. -/
theorem andThen_task (t : Counted ω K α) (f : α → Counted ω K β) :
    (t.andThen f).task = t.task >>= fun a => (f a).task := by
  funext s
  rw [Task.bind_run]
  simp only [task, andThen]
  rcases t s with ⟨n, result, s₁⟩
  cases result <;> rfl

/-- The task never counts to more than a number. -/
def AtMost (n : Nat) (t : Counted ω K α) : Prop :=
  ∀ s, (t s).1 ≤ n

theorem atMost_uncounted (t : Task ω K α) : (uncounted t).AtMost 0 :=
  fun _ => Nat.le_refl 0

theorem AtMost.mono {t : Counted ω K α} {m n : Nat} (ht : t.AtMost m) (h : m ≤ n) :
    t.AtMost n :=
  fun s => Nat.le_trans (ht s) h

theorem AtMost.andThen {t : Counted ω K α} {f : α → Counted ω K β} {m n : Nat}
    (ht : t.AtMost m) (hf : ∀ a, (f a).AtMost n) : (t.andThen f).AtMost (m + n) := by
  intro s
  have hfirst := ht s
  simp only [Counted.andThen]
  rcases hrun : t s with ⟨count, result, s₁⟩
  rw [hrun] at hfirst
  cases result with
  | error fault => exact Nat.le_add_right_of_le hfirst
  | ok a => exact Nat.add_le_add hfirst (hf a s₁)

end Counted

/-- A task that notes nodes, whether or not it is stopped. -/
abbrev Noted (ω K α : Type) := Session ω K → List (Node K) × (Except Fault α × Session ω K)

namespace Noted

variable {xs ys : List (Node K)}

/-- The task without the notes. -/
def task (t : Noted ω K α) : Task ω K α := fun s =>
  (t s).2

/-- A task that notes nothing. -/
def silent (t : Task ω K α) : Noted ω K α := fun s =>
  ([], t s)

/-- A task that notes a node, as soon as it is begun. -/
def noting (n : Node K) (t : Task ω K α) : Noted ω K α := fun s =>
  ([n], t s)

/-- A task after another. If the first is stopped, there are only its notes. -/
def andThen (t : Noted ω K α) (f : α → Noted ω K β) : Noted ω K β := fun s =>
  match t s with
  | (xs, .ok a, s₁) => (xs ++ (f a s₁).1, (f a s₁).2)
  | (xs, .error fault, s₁) => (xs, .error fault, s₁)

/-- Noting takes no part in what is done. -/
theorem andThen_task (t : Noted ω K α) (f : α → Noted ω K β) :
    (t.andThen f).task = t.task >>= fun a => (f a).task := by
  funext s
  rw [Task.bind_run]
  simp only [task, andThen]
  rcases t s with ⟨xs, result, s₁⟩
  cases result <;> rfl

/-- The task with the number of its notes. -/
def counted (t : Noted ω K α) : Counted ω K α := fun s =>
  ((t s).1.length, (t s).2)

theorem counted_andThen (t : Noted ω K α) (f : α → Noted ω K β) :
    (t.andThen f).counted = t.counted.andThen fun a => (f a).counted := by
  funext s
  simp only [counted, andThen, Counted.andThen]
  rcases t s with ⟨xs, result, s₁⟩
  cases result with
  | error fault => rfl
  | ok a => simp only [List.length_append]

/-- The nodes are what the task notes if it returns. If it is stopped, it notes the first of
    them. -/
def Notes (t : Noted ω K α) (xs : List (Node K)) : Prop :=
  ∀ s, (t s).1 <+: xs ∧ ∀ a s', (t s).2 = (.ok a, s') → (t s).1 = xs

theorem notes_silent (t : Task ω K α) : (silent t).Notes [] :=
  fun _ => ⟨List.prefix_refl [], fun _ _ _ => rfl⟩

theorem notes_noting (n : Node K) (t : Task ω K α) : (noting n t).Notes [n] :=
  fun _ => ⟨List.prefix_refl [n], fun _ _ _ => rfl⟩

/-- One task after another, where the second one may rely on what the first one returns. -/
theorem Notes.andThen {t : Noted ω K α} {f : α → Noted ω K β} (ht : t.Notes xs)
    (hf : ∀ s a s', (t s).2 = (.ok a, s') → (f a).Notes ys) : (t.andThen f).Notes (xs ++ ys) := by
  intro s
  have hfirst := ht s
  simp only [Noted.andThen]
  rcases hrun : t s with ⟨noted, result, s₁⟩
  rw [hrun] at hfirst
  cases result with
  | error fault => exact ⟨hfirst.1.trans (List.prefix_append _ _), fun a s' h => by simp at h⟩
  | ok a =>
      have hall : noted = xs := hfirst.2 a s₁ rfl
      have hmore := hf s a s₁ (by rw [hrun]) s₁
      dsimp only
      rw [hall]
      exact ⟨(List.prefix_append_right_inj xs).mpr hmore.1,
        fun b s' h => congrArg _ (hmore.2 b s' h)⟩

/-- After a task that notes nothing. -/
theorem Notes.after {t : Task ω K α} {f : α → Noted ω K β}
    (hf : ∀ s a s', t s = (.ok a, s') → (f a).Notes xs) : ((silent t).andThen f).Notes xs :=
  (notes_silent t).andThen hf

/-- A task that notes some of the nodes counts to their number at most. -/
theorem Notes.counted {t : Noted ω K α} (ht : t.Notes xs) : t.counted.AtMost xs.length :=
  fun s => (ht s).1.length_le

end Noted

section Regions

/-- The regions among children. -/
def regionNodes (children : List (Placed K)) : List (Node K) :=
  (children.filter fun p => p.node.isTableRegion).map Placed.node

theorem regionNodes_cons (p : Placed K) (rest : List (Placed K)) :
    regionNodes (p :: rest)
      = (if p.node.isTableRegion then [p.node] else []) ++ regionNodes rest := by
  unfold regionNodes
  cases hregion : p.node.isTableRegion <;> simp [hregion]

theorem length_regionNodes (children : List (Placed K)) :
    (regionNodes children).length = children.countP fun p => p.node.isTableRegion := by
  rw [regionNodes, List.length_map, List.countP_eq_length_filter]

/-- The nodes of a list stand among all nodes below it. -/
theorem sublist_preorderList (ns : List (Node K)) : ns.Sublist (Node.preorderList ns) := by
  induction ns with
  | nil => exact .slnil
  | cons n ns ih =>
      rw [Node.preorderList, Node.preorder_eq, List.cons_append]
      exact (ih.trans (List.sublist_append_right _ _)).cons_cons n

variable [Scalar K]

theorem placed?_node {frame : Rect K} {child : Node K} {p : Placed K}
    (h : placed? frame child = some p) : p.node = child := by
  unfold placed? at h
  split at h
  · rw [← Option.some.inj h]
  · exact absurd h (by simp)

/-- Placing children makes no regions of them. -/
theorem countP_placed? (frame : Rect K) (children : List (Node K)) :
    (children.filterMap (placed? frame)).countP (fun p => p.node.isTableRegion)
      ≤ children.countP Node.isTableRegion := by
  induction children with
  | nil => exact Nat.le_refl 0
  | cons child rest ih =>
      rw [List.countP_cons]
      cases hchild : placed? frame child with
      | none =>
          rw [List.filterMap_cons_none hchild]
          exact Nat.le_add_right_of_le ih
      | some p =>
          rw [List.filterMap_cons_some hchild, List.countP_cons, placed?_node hchild]
          exact Nat.add_le_add_right ih _

/-- The children of a frame that are regions are among those of the whole tree. -/
theorem countP_placedChildren (frame : Rect K) (root : Node K) :
    (placedChildren frame root.children).countP (fun p => p.node.isTableRegion)
      ≤ root.countTableRegions := by
  calc (placedChildren frame root.children).countP (fun p => p.node.isTableRegion)
      = (root.children.filterMap (placed? frame)).countP fun p => p.node.isTableRegion :=
        Layout.sort_count _ _ _
    _ ≤ root.children.countP Node.isTableRegion := countP_placed? frame root.children
    _ ≤ (Node.preorderList root.children).countP Node.isTableRegion :=
        (sublist_preorderList root.children).countP_le
    _ ≤ root.countTableRegions := by
        rw [Node.countTableRegions, Node.preorder_eq, List.countP_cons]
        exact Nat.le_add_right _ _

end Regions

section Walking

variable [Scalar K] (host : Host ω K) (config : Config K)

/-- The visit of a region, where the node is noted when it is handed to the synthesis. -/
def visitTableNoted (p : Placed K) (y : K) (w : Walk) : Noted ω K (Option Fragment × Walk) :=
  (Noted.noting p.node (Table.synthesize host config p.node p.x y)).andThen fun table =>
    .silent do
      let expected := (table.map Table.Synthesized.expectedHeight).getD 0
      let w := { w with offset := w.offset + (← growth expected p.box.height) }
      match table with
      | none => return (none, w)
      | some ⟨markup, height⟩ =>
        let left ← Scalar.roundHalfUp p.x
        let top ← Scalar.roundHalfUp y
        let width ← Scalar.roundHalfUp p.box.width
        return (some { markup, left, top, width, height }, w)

/-- The visit of a child before its link is wrapped, with what it hands over. -/
def visitUnlinkedNoted (p : Placed K) (y : K) (w : Walk) : Noted ω K (Option Fragment × Walk) :=
  if p.node.isTableRegion then visitTableNoted host config p y w
  else .silent (visitNode host config p y w)

/-- The visit of a child, with what it hands over. -/
def visitNoted (p : Placed K) (w : Walk) : Noted ω K Walk :=
  (Noted.silent (liftM (Scalar.ofInt? w.offset : Except NumberError K))).andThen fun shift =>
    (visitUnlinkedNoted host config p (p.y + shift) w).andThen fun (made, w₁) =>
      .silent <| match made, linkTarget? p.node.name with
        | some fragment, some target => do
          let (wrapped, w₂) ← visitLink host config p.node target fragment w₁
          return w₂.addFragment wrapped
        | _, _ => return w₁.addFragment made

/-- The visits of children, with what they hand over. -/
def visitAllNoted (frame : Rect K) : List (Placed K) → Walk → Noted ω K Walk
  | [], w => .silent (return w)
  | p :: rest, w =>
    (Noted.silent (liftM (p.isPaper config frame))).andThen fun paper =>
      if paper then visitAllNoted frame rest w
      else (visitNoted host config p w).andThen fun w₁ => visitAllNoted frame rest w₁

/-- The walk over a frame, with what it hands over. -/
def walkNoted (root : Node K) : Noted ω K Walk :=
  match root.bounds with
  | none => .silent (throw (.unboundedRoot root.name))
  | some frame =>
    (Noted.silent (backgroundOf host config root {})).andThen fun w =>
      (Noted.silent (liftM root.childList)).andThen fun children =>
        visitAllNoted host config frame (placedChildren frame children) w

variable {host config}

theorem visitUnlinkedNoted_task (p : Placed K) (y : K) (w : Walk) :
    (visitUnlinkedNoted host config p y w).task = visitUnlinked host config p y w := by
  unfold visitUnlinkedNoted visitUnlinked
  cases p.node.isTableRegion with
  | false => rfl
  | true =>
      simp only [if_true]
      rw [visitTableNoted, Noted.andThen_task]
      rfl

theorem visitNoted_task (p : Placed K) (w : Walk) :
    (visitNoted host config p w).task = visit host config p w := by
  rw [visitNoted, Noted.andThen_task, visit_eq]
  refine congrArg _ (funext fun shift => ?_)
  rw [Noted.andThen_task, visitUnlinkedNoted_task]
  rfl

theorem visitAllNoted_task (frame : Rect K) (children : List (Placed K)) (w : Walk) :
    (visitAllNoted host config frame children w).task
      = visitAll host config frame children w := by
  induction children generalizing w with
  | nil => rfl
  | cons p rest ih =>
      rw [visitAllNoted, Noted.andThen_task, visitAll]
      refine congrArg _ (funext fun paper => ?_)
      cases paper with
      | true => exact ih w
      | false =>
          change ((visitNoted host config p w).andThen _).task = _
          rw [Noted.andThen_task, visitNoted_task]
          exact congrArg _ (funext ih)

/-- A walk that notes what it hands over is the walk itself. -/
theorem walkNoted_task (root : Node K) :
    (walkNoted host config root).task = walk host config root := by
  unfold walkNoted walk
  cases root.bounds with
  | none => rfl
  | some frame =>
      dsimp only
      rw [Noted.andThen_task]
      refine congrArg _ (funext fun w => ?_)
      rw [Noted.andThen_task]
      exact congrArg _ (funext fun children => visitAllNoted_task frame _ w)

/-- A visit hands its child over if and only if that is a region. -/
theorem visitNoted_notes (p : Placed K) (w : Walk) :
    (visitNoted host config p w).Notes (if p.node.isTableRegion then [p.node] else []) := by
  have hunlinked : ∀ y, (visitUnlinkedNoted host config p y w).Notes
      (if p.node.isTableRegion then [p.node] else []) := by
    intro y
    unfold visitUnlinkedNoted
    split
    · exact (Noted.notes_noting _ _).andThen fun _ _ _ _ => Noted.notes_silent _
    · exact Noted.notes_silent _
  refine .after fun _ shift _ _ => ?_
  rw [← List.append_nil (if p.node.isTableRegion then [p.node] else [])]
  exact (hunlinked _).andThen fun _ _ _ _ => Noted.notes_silent _

/-- No sheet behind a frame is a region. -/
theorem isTableRegion_of_isPaper {frame : Rect K} {p : Placed K}
    (h : p.isPaper config frame = .ok true) : p.node.isTableRegion = false := by
  unfold Placed.isPaper at h
  split at h
  · rename_i c b hnode
    rw [hnode]
    rfl
  · exact absurd h (by simp [pure, Except.pure])

/-- The visits of children hand over the regions among them. -/
theorem visitAllNoted_notes (frame : Rect K) (children : List (Placed K)) (w : Walk) :
    (visitAllNoted host config frame children w).Notes (regionNodes children) := by
  induction children generalizing w with
  | nil => exact Noted.notes_silent _
  | cons p rest ih =>
      rw [regionNodes_cons]
      refine .after fun s paper s' hpaper => ?_
      cases paper with
      | true =>
          have hregion := isTableRegion_of_isPaper (Task.number_ok.mp hpaper).1
          simp only [hregion, Bool.false_eq_true, if_false, if_true, List.nil_append]
          exact ih w
      | false => exact (visitNoted_notes p w).andThen fun _ w₁ _ _ => ih w₁

/-- A walk over a frame hands over the regions among the children that it places. -/
theorem walkNoted_notes {root : Node K} {frame : Rect K} (hbounds : root.bounds = some frame) :
    (walkNoted host config root).Notes (regionNodes (placedChildren frame root.children)) := by
  unfold walkNoted
  rw [hbounds]
  refine .after fun _ w _ _ => .after fun s children s' hchildren => ?_
  rw [← Node.childList_ok (Task.lift_ok.mp hchildren).1]
  exact visitAllNoted_notes frame _ w

end Walking

section Counting

variable [Scalar K] (host : Host ω K) (config : Config K)

/-- The visit of a child before its link is wrapped, where a table counts. -/
def visitUnlinkedCounted (p : Placed K) (y : K) (w : Walk) :
    Counted ω K (Option Fragment × Walk) :=
  if p.node.isTableRegion then .once (visitTable host config p y w)
  else .uncounted (visitNode host config p y w)

/-- The visit of a child, where a table counts. -/
def visitCounted (p : Placed K) (w : Walk) : Counted ω K Walk :=
  (Counted.uncounted (liftM (Scalar.ofInt? w.offset : Except NumberError K))).andThen fun shift =>
    (visitUnlinkedCounted host config p (p.y + shift) w).andThen fun (made, w₁) =>
      .uncounted <| match made, linkTarget? p.node.name with
        | some fragment, some target => do
          let (wrapped, w₂) ← visitLink host config p.node target fragment w₁
          return w₂.addFragment wrapped
        | _, _ => return w₁.addFragment made

/-- The visits of children, where tables count. -/
def visitAllCounted (frame : Rect K) : List (Placed K) → Walk → Counted ω K Walk
  | [], w => .uncounted (return w)
  | p :: rest, w =>
    (Counted.uncounted (liftM (p.isPaper config frame))).andThen fun paper =>
      if paper then visitAllCounted frame rest w
      else (visitCounted host config p w).andThen fun w₁ => visitAllCounted frame rest w₁

/-- The walk over a frame, where tables count. -/
def walkCounted (root : Node K) : Counted ω K Walk :=
  match root.bounds with
  | none => .uncounted (throw (.unboundedRoot root.name))
  | some frame =>
    (Counted.uncounted (backgroundOf host config root {})).andThen fun w =>
      (Counted.uncounted (liftM root.childList)).andThen fun children =>
        visitAllCounted host config frame (placedChildren frame children) w

variable {host config}

theorem visitUnlinkedCounted_eq (p : Placed K) (y : K) (w : Walk) :
    visitUnlinkedCounted host config p y w = (visitUnlinkedNoted host config p y w).counted := by
  unfold visitUnlinkedCounted visitUnlinkedNoted
  cases p.node.isTableRegion with
  | false => rfl
  | true =>
      simp only [if_true]
      rw [visitTableNoted, Noted.counted_andThen, visitTable, Counted.once_bind]
      rfl

theorem visitCounted_eq (p : Placed K) (w : Walk) :
    visitCounted host config p w = (visitNoted host config p w).counted := by
  rw [visitCounted, visitNoted, Noted.counted_andThen]
  refine congrArg _ (funext fun shift => ?_)
  rw [Noted.counted_andThen, visitUnlinkedCounted_eq]
  rfl

theorem visitAllCounted_eq (frame : Rect K) (children : List (Placed K)) (w : Walk) :
    visitAllCounted host config frame children w
      = (visitAllNoted host config frame children w).counted := by
  induction children generalizing w with
  | nil => rfl
  | cons p rest ih =>
      rw [visitAllCounted, visitAllNoted, Noted.counted_andThen]
      refine congrArg _ (funext fun paper => ?_)
      cases paper with
      | true => exact ih w
      | false =>
          change (visitCounted host config p w).andThen _
            = ((visitNoted host config p w).andThen _).counted
          rw [Noted.counted_andThen, ← visitCounted_eq]
          exact congrArg _ (funext ih)

/-- A walk that counts its tables counts the nodes that it hands over. -/
theorem walkCounted_eq (root : Node K) :
    walkCounted host config root = (walkNoted host config root).counted := by
  unfold walkCounted walkNoted
  cases root.bounds with
  | none => rfl
  | some frame =>
      dsimp only
      rw [Noted.counted_andThen]
      refine congrArg _ (funext fun w => ?_)
      rw [Noted.counted_andThen]
      exact congrArg _ (funext fun children => visitAllCounted_eq frame _ w)

/-- A walk that counts its tables is the walk itself. -/
theorem walkCounted_task (root : Node K) :
    (walkCounted host config root).task = walk host config root := by
  rw [walkCounted_eq]
  exact walkNoted_task root

/-- A walk makes at most one table for each region of the whole tree. -/
theorem walkCounted_atMost (root : Node K) :
    (walkCounted host config root).AtMost root.countTableRegions := by
  rw [walkCounted_eq]
  cases hbounds : root.bounds with
  | none =>
      rw [walkNoted, hbounds]
      exact (Noted.notes_silent _).counted.mono (Nat.zero_le _)
  | some frame =>
      refine (walkNoted_notes hbounds).counted.mono ?_
      rw [length_regionNodes]
      exact countP_placedChildren frame root

end Counting

end Letterpress
