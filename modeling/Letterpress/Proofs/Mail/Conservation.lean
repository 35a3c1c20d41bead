import Letterpress.Proofs.Mail.Payment
import Letterpress.Proofs.Walk.Faults
import Letterpress.Proofs.Walk.Tables

/-!
# Credits over Many Jobs

Once its tables are paid for, a job is stopped by arithmetic, by numerals and markup that
cannot be read or written, and by a part that its frame lacks. None of these is trouble
with credits. So a job that is stopped by trouble with credits has not asked the design
tool for anything.

Jobs that are done one after another share the credits in memory. Each of them has a
selection, a layout and a design tool of its own. A job is *admitted* if one frame is
selected and the balance covers its tables; its price is then one credit for each region
of the frame. What is left at the end is what there was at the start, less the prices of
the jobs that were admitted, and it never falls below zero.

The price is taken at once, before the design tool is asked for anything, and no job that
is refused asks it at all. A job makes at most as many tables as its price, so no table is
made that is not paid for.

## Main definitions

* `Fault.isCredit`: The fault is trouble with credits.
* `Job`: Something to be composed.
* `Job.admitted`, `Job.price`: The frame that a job is admitted for, and what it costs.
* `Job.composeCounted`: A job that counts its tables.
* `runJobs`, `spent`: Jobs one after another, and what they cost together.
* `Job.IsAccounted`: The rules that a job keeps.

## Theorems

* `document_failsIn`: Writing the document of a walk.
* `composed_stops`: A job after its payment.
* `payForTables_covered`, `payForTables_refused`: Paying out of credits in memory.
* `composeCounted_cases`: The three ways of a job.
* `isAccounted`: A job keeps the rules.
* `jobs_accounted`: Credits over many jobs.
-/

namespace Letterpress

/-- The fault is trouble with credits: there are too few, or they cannot be had. -/
def Fault.isCredit : Fault → Bool
  | .insufficientCredits _ _ | .creditStorage => true
  | _ => false

section Stopping

variable {K ω : Type} [Scalar K] {P : Fault → Prop}

namespace Document

variable (hnumber : ∀ e, P (.number e)) (hnumeral : ∀ e, P (.numeral e))
  (hmarkup : ∀ e, P (.markup e))

include hnumber hnumeral hmarkup

theorem extractOn_failsIn (config : Config K) (markup : String)
    (canvas : Except NumberError Int) : FailsIn P (extractOn config markup canvas) :=
  (failsIn_mapError hmarkup).bind fun _ => (failsIn_mapError hnumber).bind fun _ =>
    failsIn_mapError hnumeral

theorem lift_failsIn (config : Config K) (fragments : List Fragment) (width : K) :
    FailsIn P (lift config fragments width) := by
  refine (failsIn_mapError hnumber).bind fun canvas => ?_
  refine (failsIn_mapM (fun f => ?_) fragments).bind fun _ => failsIn_pure _
  exact (extractOn_failsIn hnumber hnumeral hmarkup config f.markup _).bind fun _ => failsIn_pure _

/-- A document in table layout is written unless a number, a numeral or the markup of a
    fragment is at fault. -/
theorem compileFragments_failsIn (config : Config K) (fragments : List Fragment)
    (width height : K) (background : Background) :
    FailsIn P (compileFragments config fragments width height background) := by
  refine (lift_failsIn hnumber hnumeral hmarkup config fragments width).bind fun lifted => ?_
  have hcontainer : FailsIn P (container config lifted width background) :=
    (failsIn_mapError hnumber).bind fun _ => failsIn_mapError hnumeral
  exact hcontainer.bind fun _ => (failsIn_mapError hnumber).bind fun _ =>
    failsIn_mapError hnumber

end Document

namespace Mail

theorem document_failsIn (hnumber : ∀ e, P (.number e)) (hnumeral : ∀ e, P (.numeral e))
    (hmarkup : ∀ e, P (.markup e)) (config : Config K) (layout : MailLayout) (frame : Rect K)
    (w : Walk) : FailsIn P (document config layout frame w) := by
  unfold document
  split
  · exact Document.compileFragments_failsIn hnumber hnumeral hmarkup config _ _ _ _
  · exact failsIn_mapError hnumber

/-- Once its tables are paid for, a job has no trouble with credits. -/
theorem composed_stops (host : Host ω K) (config : Config K) (layout : MailLayout)
    (root : Node K) :
    Task.StopsIn (fun fault => fault.isCredit = false) (composed host config layout root) := by
  have hlist : FailsIn (fun fault => fault.isCredit = false) root.childList := by
    cases root with
    | container _ _ _ => exact failsIn_ok _
    | text _ _ | shape _ _ | image _ _ => exact failsIn_error rfl
  have hwalk : Task.StopsIn (fun fault => fault.isCredit = false) (walk host config root) :=
    walk_stops (failsIn_any config) host root (fun fault ⟨_, _, hfault⟩ => hfault ▸ rfl)
      (fun _ => rfl) hlist
  unfold composed
  split
  · exact Task.stopsIn_throw rfl
  · refine hwalk.bind fun w => Task.StopsIn.bind ?_ fun _ => Task.stopsIn_pure _
    exact Task.stopsIn_lift (document_failsIn (fun _ => rfl) (fun _ => rfl) (fun _ => rfl) config
      layout _ w)

end Mail

end Stopping

variable {π K : Type}

/-- Credits in memory, beside the world of a design tool. -/
def memoryCredits (π : Type) : Ledger (Int × π) :=
  memoryLedger.within .first

/-- Something to be composed: a selection, how it is laid out, and whom to ask. -/
structure Job (π K : Type) [Scalar K] where
  host : Host π K
  config : Config K
  layout : MailLayout
  selection : List (Node K)

/-- The design tool of a job, beside the credits. -/
def Job.hostBeside [Scalar K] (job : Job π K) : Host (Int × π) K :=
  job.host.within .second

section Paying

variable (root : Node K) (s : Session (Int × π) K)

/-- What is asked of the ledger for the tables of a frame. -/
def payment (balance : Int) : List (Request K) :=
  if root.countTableRegions = 0 then []
  else [.balance, .setBalance (balance - root.countTableRegions)]

/-- The session after the tables of a frame are paid for. -/
def Session.paid : Session (Int × π) K where
  world := (s.world.1 - root.countTableRegions, s.world.2)
  requests := s.requests ++ payment root s.world.1
  journal := s.journal

/-- The session after the balance has been read. -/
def Session.told : Session (Int × π) K :=
  { s with requests := s.requests ++ [.balance] }

theorem readBalance_memory : readBalance (memoryCredits π) s = (.ok s.world.1, s.told) := by
  change (_, (⟨s.world, s.requests ++ [.balance], s.journal ++ []⟩ : Session (Int × π) K)) = _
  rw [List.append_nil]
  rfl

theorem writeBalance_memory (value : Int) :
    writeBalance (memoryCredits π) value s
      = (.ok (), ⟨(value, s.world.2), s.requests ++ [.setBalance value], s.journal⟩) := by
  change (_, (⟨_, _, s.journal ++ []⟩ : Session (Int × π) K)) = _
  rw [List.append_nil]
  rfl

theorem reserve_covered {required : Int} (h : ¬ s.world.1 < required) :
    reserve (memoryCredits π) required s
      = (.ok (s.world.1 - required), ⟨(s.world.1 - required, s.world.2),
          s.requests ++ [.balance, .setBalance (s.world.1 - required)], s.journal⟩) := by
  rw [reserve, Task.bind_run, readBalance_memory]
  simp only [h, if_false]
  rw [Task.bind_run, writeBalance_memory, Session.told, List.append_assoc]
  rfl

theorem reserve_refused {required : Int} (h : s.world.1 < required) :
    reserve (memoryCredits π) required s
      = (.error (.insufficientCredits required s.world.1), s.told) := by
  rw [reserve, Task.bind_run, readBalance_memory]
  simp only [h, if_true]
  rfl

variable {root s}

/-- If there are tables, they are paid for by reserving credits. -/
theorem payForTables_reserve (hcount : root.countTableRegions ≠ 0) (ledger : Ledger (Int × π)) :
    (Mail.payForTables (some ledger) root : Task (Int × π) K Unit)
      = reserve ledger root.countTableRegions >>= fun _ => pure () := by
  unfold Mail.payForTables
  cases hregions : root.countTableRegions with
  | zero => exact absurd hregions hcount
  | succ count => rfl

/-- A balance that covers the tables of a frame pays for them. -/
theorem payForTables_covered
    (h : root.countTableRegions = 0 ∨ (root.countTableRegions : Int) ≤ s.world.1) :
    Mail.payForTables (some (memoryCredits π)) root s = (.ok (), s.paid root) := by
  by_cases hcount : root.countTableRegions = 0
  · -- Nothing is asked, and nothing is taken.
    have hpaid : s.paid root = s := by
      rw [Session.paid, payment, if_pos hcount, hcount, List.append_nil, Int.natCast_zero,
        Int.sub_zero]
    rw [hpaid]
    unfold Mail.payForTables
    rw [hcount]
    rfl
  · rw [payForTables_reserve hcount, Task.bind_run,
      reserve_covered s (by omega : ¬ s.world.1 < root.countTableRegions), Session.paid, payment,
      if_neg hcount]
    rfl

/-- A balance that does not cover the tables is only read. -/
theorem payForTables_refused (hcount : root.countTableRegions ≠ 0)
    (h : s.world.1 < root.countTableRegions) :
    Mail.payForTables (some (memoryCredits π)) root s
      = (.error (.insufficientCredits root.countTableRegions s.world.1), s.told) := by
  rw [payForTables_reserve hcount, Task.bind_run, reserve_refused s h]

end Paying

namespace Mail

variable [Scalar K] {ω : Type} (host : Host ω K) (config : Config K) (layout : MailLayout)

/-- What is left of a job once its tables are paid for, where tables count. -/
def composedCounted (root : Node K) : Counted ω K Mail :=
  match root.bounds with
  | none => .uncounted (throw .unboundedFrame)
  | some frame => (walkCounted host config root).andThen fun w => .uncounted do
    let html ← document config layout frame w
    return { html, fileName := Text.slug root.name, assets := w.assets,
             previews := w.previews, links := w.links, gifs := w.gifs }

variable {host config layout}

theorem composedCounted_task (root : Node K) :
    (composedCounted host config layout root).task = composed host config layout root := by
  unfold composedCounted composed
  cases root.bounds with
  | none => rfl
  | some frame =>
      dsimp only
      rw [Counted.andThen_task, walkCounted_task]
      rfl

theorem composedCounted_atMost (root : Node K) :
    (composedCounted host config layout root).AtMost root.countTableRegions := by
  unfold composedCounted
  split
  · exact (Counted.atMost_uncounted _).mono (Nat.zero_le _)
  · exact (walkCounted_atMost root).andThen fun _ => Counted.atMost_uncounted _

end Mail

namespace Job

variable [Scalar K] (job : Job π K) (s : Session (Int × π) K)

/-- Composing what a job asks for, with credits in memory. -/
def compose : Task (Int × π) K Mail :=
  Mail.compose job.hostBeside (some (memoryCredits π)) job.config job.layout job.selection

/-- A job that counts its tables. -/
def composeCounted : Counted (Int × π) K Mail :=
  (Counted.uncounted (liftM (Mail.selectedFrame job.selection))).andThen fun root =>
    (Counted.uncounted (Mail.payForTables (some (memoryCredits π)) root)).andThen fun _ =>
      Mail.composedCounted job.hostBeside job.config job.layout root

theorem composeCounted_task : job.composeCounted.task = job.compose := by
  rw [composeCounted, Counted.andThen_task, compose, Mail.compose_eq]
  refine congrArg _ (funext fun root => ?_)
  rw [Counted.andThen_task]
  exact congrArg _ (funext fun _ => Mail.composedCounted_task root)

/-- The frame that a job is admitted for: it is selected, and its tables are paid for. -/
def admitted : Option (Node K) :=
  match Mail.selectedFrame job.selection with
  | .error _ => none
  | .ok root =>
    match (Mail.payForTables (some (memoryCredits π)) root s).1 with
    | .error _ => none
    | .ok _ => some root

/-- What a job costs: one credit for each region of the frame that it is admitted for. -/
def price : Nat :=
  ((job.admitted s).map Node.countTableRegions).getD 0

/-- There are three ways for a job to go: its selection is no frame, the balance does not
    cover its tables, or they are paid for and the job goes on. -/
theorem composeCounted_cases :
    (∃ fault, Mail.selectedFrame job.selection = .error fault ∧ job.admitted s = none ∧
      job.composeCounted s = (0, .error fault, s)) ∨
    (∃ root, Mail.selectedFrame job.selection = .ok root ∧ root.countTableRegions ≠ 0 ∧
      job.admitted s = none ∧ job.composeCounted s
        = (0, .error (.insufficientCredits root.countTableRegions s.world.1), s.told)) ∨
    (∃ root, Mail.selectedFrame job.selection = .ok root ∧
      (root.countTableRegions = 0 ∨ (root.countTableRegions : Int) ≤ s.world.1) ∧
      job.admitted s = some root ∧ job.composeCounted s
        = Mail.composedCounted job.hostBeside job.config job.layout root (s.paid root)) := by
  -- The selection comes first, then the payment; what admits a job is that both succeed.
  cases hselected : Mail.selectedFrame job.selection with
  | error fault =>
      refine Or.inl ⟨fault, rfl, ?_, ?_⟩
      · rw [admitted, hselected]
      · rw [composeCounted, hselected]
        rfl
  | ok root =>
      refine Or.inr ?_
      have hrun : job.composeCounted s = ((Counted.uncounted (Mail.payForTables
          (some (memoryCredits π)) root)).andThen fun _ =>
            Mail.composedCounted job.hostBeside job.config job.layout root) s := by
        rw [composeCounted, hselected]
        exact Counted.andThen_returned rfl
      by_cases hcovered : root.countTableRegions = 0 ∨ (root.countTableRegions : Int) ≤ s.world.1
      · have hpaid : Mail.payForTables (some (memoryCredits π)) root s = (.ok (), s.paid root) :=
          payForTables_covered hcovered
        refine Or.inr ⟨root, rfl, hcovered, ?_, ?_⟩
        · rw [admitted, hselected]
          dsimp only
          rw [hpaid]
        · rw [hrun]
          exact Counted.andThen_returned hpaid
      · have hcount : root.countTableRegions ≠ 0 := fun h => hcovered (Or.inl h)
        have hrefused := payForTables_refused hcount
          (by omega : s.world.1 < root.countTableRegions)
        refine Or.inl ⟨root, rfl, hcount, ?_, ?_⟩
        · rw [admitted, hselected]
          dsimp only
          rw [hrefused]
        · rw [hrun]
          exact Counted.andThen_stopped hrefused

/-- The rules that a job keeps, from the session in which it starts. -/
structure IsAccounted : Prop where
  /-- What is taken is the price. -/
  balance : (job.compose s).2.world.1 = s.world.1 - job.price s
  /-- No more is taken than there is. -/
  nonneg : 0 ≤ (job.compose s).2.world.1
  /-- A selection that is no frame costs nothing. -/
  invalid : ∀ fault, Mail.selectedFrame job.selection = .error fault →
    (job.compose s).2.world.1 = s.world.1
  /-- A frame without regions costs nothing. -/
  free : ∀ root, Mail.selectedFrame job.selection = .ok root → root.countTableRegions = 0 →
    (job.compose s).2.world.1 = s.world.1
  /-- Trouble with credits costs nothing, and the design tool is not asked. -/
  refused : ∀ fault, (job.compose s).1 = .error fault → fault.isCredit = true →
    (job.compose s).2.world.1 = s.world.1 ∧
      ∃ requests, (job.compose s).2.requests = s.requests ++ requests ∧
        ∀ r ∈ requests, r.toHost = false
  /-- An admitted job pays once, before it asks the design tool, and asks nothing else. -/
  admitted : ∀ root, job.admitted s = some root →
    ∃ calls, (job.compose s).2.requests = s.requests ++ payment root s.world.1 ++ calls ∧
      ∀ r ∈ calls, r.toHost = true
  /-- Every table that is made is paid for. -/
  tables : (job.composeCounted s).2 = job.compose s ∧ (job.composeCounted s).1 ≤ job.price s

variable {job s}

/-- A job that is not admitted keeps the rules if it is stopped before anything but the
    balance is asked for. -/
theorem isAccounted_refused (hs : 0 ≤ s.world.1) (hadmitted : job.admitted s = none)
    {fault : Fault} {s₁ : Session (Int × π) K} (hrun : job.compose s = (.error fault, s₁))
    (hcount : (job.composeCounted s).1 = 0) (hworld : s₁.world = s.world)
    {requests : List (Request K)} (hrequests : s₁.requests = s.requests ++ requests)
    (hledger : ∀ r ∈ requests, r.toHost = false) : job.IsAccounted s := by
  have hkept : (job.compose s).2.world.1 = s.world.1 := by
    rw [hrun, hworld]
  have hprice : job.price s = 0 := by
    rw [price, hadmitted]
    rfl
  exact {
    balance := by rw [hkept, hprice, Int.natCast_zero, Int.sub_zero]
    nonneg := hkept ▸ hs
    invalid := fun _ _ => hkept
    free := fun _ _ _ => hkept
    refused := fun _ _ _ => ⟨hkept, requests, by rw [hrun, hrequests], hledger⟩
    admitted := fun root hroot => absurd (hadmitted.symm.trans hroot) (by simp)
    tables := ⟨congrFun job.composeCounted_task s, by rw [hcount, hprice]⟩ }

/-- A job that is admitted keeps the rules: after its payment only the design tool is
    asked. -/
theorem isAccounted_admitted {root : Node K}
    (hselected : Mail.selectedFrame job.selection = .ok root)
    (hcovered : root.countTableRegions = 0 ∨ (root.countTableRegions : Int) ≤ s.world.1)
    (hs : 0 ≤ s.world.1) (hadmitted : job.admitted s = some root)
    (hrun : job.composeCounted s
      = Mail.composedCounted job.hostBeside job.config job.layout root (s.paid root)) :
    job.IsAccounted s := by
  have hcompose : job.compose s
      = Mail.composed job.hostBeside job.config job.layout root (s.paid root) := by
    rw [← composeCounted_task, ← Mail.composedCounted_task]
    exact congrArg Prod.snd hrun
  have hprice : job.price s = root.countTableRegions := by
    rw [price, hadmitted]
    rfl
  have hasks : Task.Asks job.hostBeside
      (Mail.composed job.hostBeside job.config job.layout root) := Mail.composed_asks root
  have hbalance : (job.compose s).2.world.1 = s.world.1 - root.countTableRegions := by
    rw [hcompose]
    exact hasks.spares (within_spares job.host id) (s.paid root)
  exact {
    balance := by rw [hbalance, hprice]
    nonneg := by omega
    invalid := fun _ hinvalid => absurd (hselected.symm.trans hinvalid) (by simp)
    free := by
      intro frame hframe hfree
      obtain rfl := Except.ok.inj (hselected.symm.trans hframe)
      rw [hbalance, hfree, Int.natCast_zero, Int.sub_zero]
    refused := by
      -- Trouble with credits would have come before the payment.
      intro fault hfault hcredit
      rw [hcompose] at hfault
      have hother := Mail.composed_stops job.hostBeside job.config job.layout root (s.paid root)
        fault hfault
      rw [hother] at hcredit
      exact absurd hcredit (by simp)
    admitted := by
      intro frame hframe
      obtain rfl := Option.some.inj (hadmitted.symm.trans hframe)
      rcases hasks (s.paid root) with ⟨calls, hrequests, hcalls⟩
      rw [hcompose]
      exact ⟨calls, hrequests, hcalls.toHost⟩
    tables := by
      refine ⟨congrFun job.composeCounted_task s, ?_⟩
      rw [hrun, hprice]
      exact Mail.composedCounted_atMost root (s.paid root) }

/-- Every job keeps the rules. -/
theorem isAccounted (job : Job π K) (hs : 0 ≤ s.world.1) : job.IsAccounted s := by
  have hsame : job.compose s = (job.composeCounted s).2 :=
    congrFun job.composeCounted_task.symm s
  rcases job.composeCounted_cases s with ⟨fault, -, hadmitted, hrun⟩ |
    ⟨root, -, -, hadmitted, hrun⟩ | ⟨root, hselected, hcovered, hadmitted, hrun⟩
  · exact isAccounted_refused hs hadmitted (hsame.trans (congrArg Prod.snd hrun))
      (congrArg Prod.fst hrun) rfl (List.append_nil _).symm
      fun _ hr => absurd hr List.not_mem_nil
  · refine isAccounted_refused hs hadmitted (hsame.trans (congrArg Prod.snd hrun))
      (congrArg Prod.fst hrun) rfl rfl ?_
    intro r hr
    rw [List.mem_singleton.mp hr]
    rfl
  · exact isAccounted_admitted hselected hcovered hs hadmitted hrun

end Job

section Running

variable [Scalar K]

/-- The session after jobs that are done one after another, whatever comes of them. -/
def runJobs : List (Job π K) → Session (Int × π) K → Session (Int × π) K
  | [], s => s
  | job :: rest, s => runJobs rest (job.compose s).2

/-- What jobs cost that are done one after another. -/
def spent : List (Job π K) → Session (Int × π) K → Nat
  | [], _ => 0
  | job :: rest, s => job.price s + spent rest (job.compose s).2

/-- After any jobs, the balance is what it was less what they cost. -/
theorem runJobs_balance (jobs : List (Job π K)) {s : Session (Int × π) K} (hs : 0 ≤ s.world.1) :
    0 ≤ (runJobs jobs s).world.1 ∧ (runJobs jobs s).world.1 = s.world.1 - spent jobs s := by
  induction jobs generalizing s with
  | nil => exact ⟨hs, (Int.sub_zero _).symm⟩
  | cons job rest ih =>
      have hjob := job.isAccounted hs
      rcases ih hjob.nonneg with ⟨hnonneg, hrest⟩
      refine ⟨hnonneg, ?_⟩
      rw [runJobs, hrest, hjob.balance, spent]
      push_cast
      omega

/-- Jobs that share the credits in memory take their prices and no more, and each of them
    keeps the rules where it starts. -/
theorem jobs_accounted (jobs : List (Job π K)) (s : Session (Int × π) K) (hs : 0 ≤ s.world.1) :
    0 ≤ (runJobs jobs s).world.1 ∧ (runJobs jobs s).world.1 = s.world.1 - spent jobs s ∧
      ∀ earlier job later, jobs = earlier ++ job :: later →
        job.IsAccounted (runJobs earlier s) := by
  rcases runJobs_balance jobs hs with ⟨hnonneg, hbalance⟩
  exact ⟨hnonneg, hbalance, fun earlier job _ _ =>
    job.isAccounted (runJobs_balance earlier hs).1⟩

/-- A job with a single region for a table. -/
def pricesJob : Job Unit Rat :=
  ⟨picturelessHost, {}, .absolute, [priceList]⟩

/-- One credit pays for the table of the first job. The second job is not admitted. -/
theorem jobs_accounted_pricesJob :
    (runJobs [pricesJob, pricesJob] ⟨(1, ()), [], []⟩).world.1
        = 1 - spent [pricesJob, pricesJob] ⟨(1, ()), [], []⟩ ∧
      pricesJob.IsAccounted ⟨(1, ()), [], []⟩ ∧
      pricesJob.IsAccounted (runJobs [pricesJob] ⟨(1, ()), [], []⟩) ∧
      (pricesJob.composeCounted ⟨(1, ()), [], []⟩).1 = 1 ∧
      pricesJob.price ⟨(1, ()), [], []⟩ = 1 ∧
      pricesJob.price (runJobs [pricesJob] ⟨(1, ()), [], []⟩) = 0 := by
  rcases jobs_accounted [pricesJob, pricesJob] ⟨(1, ()), [], []⟩ (by decide) with
    ⟨-, hbalance, hjobs⟩
  exact ⟨hbalance, hjobs [] pricesJob [pricesJob] rfl, hjobs [pricesJob] pricesJob [] rfl,
    by decide +kernel, by decide +kernel, by decide +kernel⟩

end Running

end Letterpress
