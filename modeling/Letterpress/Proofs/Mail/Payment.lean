import Letterpress.Mail.Compose
import Letterpress.Proofs.Walk.Calls
import Letterpress.Proofs.Walk.Offset

/-!
# Payment for Mails

The tables of a mail are paid for once, before anything else is asked of the world, and
nothing is paid back. So what a job costs is known from the selection and the balance
alone, whatever comes of it later: nothing if the selection cannot be composed or the
balance does not cover its tables, and otherwise one credit for every table.

## Main definitions

* `Ledger.Tells`: A ledger whose balance can be read and replaced.
* `Mail.charge`: What composing a selection costs.
* `Mail.composed`: The rest of a job after its payment.

## Theorems

* `reserve_run`: What comes of reserving credits.
* `compose_charge`: The balance after a job.
* `compose_failed`: The balance after a job that fails.
* `failed_job_charges`: A job that fails may have charged.
-/

namespace Letterpress

variable {K ω : Type}

/-- The balance in a world can be read from the ledger, and replaced in it. Nothing is
    said of worlds where there is no balance. -/
structure Ledger.Tells (ledger : Ledger ω) (credits : ω → Option Int) : Prop where
  balance : ∀ w b, credits w = some b →
    (ledger.balance w).result = .ok b ∧ credits (ledger.balance w).world = some b
  setBalance : ∀ w b value, credits w = some b →
    (ledger.setBalance value w).result = .ok () ∧
      credits (ledger.setBalance value w).world = some value

/-- Credits in memory can be read and replaced, whatever else is in the world. -/
theorem memoryLedger_tells (π : Type) :
    (memoryLedger.within (View.first : View (Int × π) Int)).Tells fun w => some w.1 := by
  refine ⟨fun w b h => ?_, fun w b value _ => ⟨rfl, rfl⟩⟩
  obtain rfl := Option.some.inj h
  exact ⟨rfl, rfl⟩

/-- A design tool in one part of a world leaves the other part alone. -/
theorem within_spares {π ν : Type} (host : Host π K) (view : ω → ν) :
    (host.within (View.second : View (ω × π) π)).Spares fun w => view w.1 :=
  ⟨fun _ _ => rfl, fun _ _ _ => rfl, fun _ _ => rfl⟩

section Reserving

variable {ledger : Ledger ω} {credits : ω → Option Int} {s : Session ω K} {b : Int}

theorem useLedger_run {α : Type} (request : Request K) {use : ω → Outcome ω α} {a : α}
    (h : (use s.world).result = .ok a) :
    ∃ s', useLedger request use s = (.ok a, s') ∧ s'.world = (use s.world).world := by
  refine ⟨⟨(use s.world).world, s.requests ++ [request], s.journal ++ (use s.world).notices⟩,
    ?_, rfl⟩
  rw [useLedger, Task.bind_run]
  simp only [Task.attempt, Task.ask, h]
  rfl

theorem readBalance_run (hledger : ledger.Tells credits) (hb : credits s.world = some b) :
    ∃ s', readBalance ledger s = (.ok b, s') ∧ credits s'.world = some b := by
  rcases hledger.balance s.world b hb with ⟨hresult, hafter⟩
  rcases useLedger_run .balance hresult with ⟨s', hrun, hworld⟩
  exact ⟨s', hrun, hworld ▸ hafter⟩

theorem writeBalance_run (hledger : ledger.Tells credits) (hb : credits s.world = some b)
    (value : Int) :
    ∃ s', writeBalance ledger value s = (.ok (), s') ∧ credits s'.world = some value := by
  rcases hledger.setBalance s.world b value hb with ⟨hresult, hafter⟩
  rcases useLedger_run (.setBalance value) hresult with ⟨s', hrun, hworld⟩
  exact ⟨s', hrun, hworld ▸ hafter⟩

/-- Credits are reserved if there are enough of them, all at once. -/
theorem reserve_run (hledger : ledger.Tells credits) (hb : credits s.world = some b)
    (required : Int) :
    ∃ s', (if b < required then
        reserve ledger required s = (.error (.insufficientCredits required b), s') ∧
          credits s'.world = some b
      else reserve ledger required s = (.ok (b - required), s') ∧
          credits s'.world = some (b - required)) := by
  rcases readBalance_run hledger hb with ⟨s₁, hread, hb₁⟩
  by_cases hless : b < required
  · refine ⟨s₁, ?_⟩
    rw [if_pos hless, reserve, Task.bind_run, hread]
    simp only [hless, if_true]
    exact ⟨rfl, hb₁⟩
  · rcases writeBalance_run hledger hb₁ (b - required) with ⟨s₂, hwrite, hb₂⟩
    refine ⟨s₂, ?_⟩
    rw [if_neg hless, reserve, Task.bind_run, hread]
    simp only [hless, if_false]
    refine ⟨?_, hb₂⟩
    rw [Task.bind_run, hwrite]
    rfl

end Reserving

namespace Mail

/-- Exactly one frame is selected. -/
theorem selectedFrame_ok {selection : List (Node K)} {root : Node K} :
    selectedFrame selection = .ok root ↔ selection = [root] ∧ isFrame root = true := by
  constructor
  · intro h
    unfold selectedFrame at h
    split at h
    · split at h
      · obtain rfl := Except.ok.inj h
        exact ⟨rfl, by assumption⟩
      · exact absurd h (by simp [throw, throwThe, MonadExceptOf.throw])
    · exact absurd h (by simp [throw, throwThe, MonadExceptOf.throw])
  · rintro ⟨rfl, hframe⟩
    rw [selectedFrame, if_pos hframe]
    rfl

/-- What the tables of a frame cost, out of a balance: nothing if it does not cover
    them. -/
def tableCharge (root : Node K) (b : Int) : Int :=
  if b < root.countTableRegions then 0 else root.countTableRegions

/-- What composing a selection costs, out of a balance: nothing if it is no frame. -/
def charge (selection : List (Node K)) (b : Int) : Int :=
  match selectedFrame selection with
  | .ok root => tableCharge root b
  | .error _ => 0

variable {ledger : Ledger ω} {credits : ω → Option Int} {s : Session ω K} {b : Int}

/-- Paying takes what the tables cost, and stops the job if the balance does not cover
    them. -/
theorem payForTables_run (hledger : ledger.Tells credits) (hb : credits s.world = some b)
    (root : Node K) :
    ∃ result s', payForTables (some ledger) root s = (result, s') ∧
      credits s'.world = some (b - tableCharge root b) ∧
      (tableCharge root b ≠ 0 → result = .ok ()) := by
  rw [tableCharge]
  -- Without tables nothing is asked of the ledger at all.
  cases hcount : root.countTableRegions with
  | zero =>
      refine ⟨.ok (), s, ?_, ?_, fun _ => rfl⟩
      · unfold payForTables
        rw [hcount]
        rfl
      · by_cases hless : b < (0 : Nat)
        · rw [if_pos hless, hb, Int.sub_zero]
        · rw [if_neg hless, hb, Int.natCast_zero, Int.sub_zero]
  | succ count =>
      rcases reserve_run hledger hb ((count : Int) + 1) with ⟨s', hrun⟩
      have hpay : payForTables (some ledger) root
          = reserve ledger ((count : Int) + 1) >>= fun _ => pure () := by
        unfold payForTables
        rw [hcount]
      rw [hpay, Task.bind_run]
      push_cast
      by_cases hless : b < (count : Int) + 1
      · rw [if_pos hless] at hrun
        rw [if_pos hless, hrun.1]
        exact ⟨_, s', rfl, by rw [hrun.2, Int.sub_zero], fun h => absurd rfl h⟩
      · rw [if_neg hless] at hrun
        rw [if_neg hless, hrun.1]
        exact ⟨.ok (), s', rfl, hrun.2, fun _ => rfl⟩

variable [Scalar K] {host : Host ω K} {config : Config K} {layout : MailLayout}
  {selection : List (Node K)}

/-- What is left of a job once its tables are paid for. -/
def composed (host : Host ω K) (config : Config K) (layout : MailLayout) (root : Node K) :
    Task ω K Mail :=
  match root.bounds with
  | none => throw .unboundedFrame
  | some frame => do
    let w ← walk host config root
    let html ← document config layout frame w
    return { html, fileName := Text.slug root.name, assets := w.assets,
             previews := w.previews, links := w.links, gifs := w.gifs }

theorem compose_eq (host : Host ω K) (ledger : Option (Ledger ω)) (config : Config K)
    (layout : MailLayout) (selection : List (Node K)) :
    compose host ledger config layout selection = (do
      let root ← selectedFrame selection
      payForTables ledger root
      composed host config layout root) :=
  rfl

/-- Once the tables are paid for, the design tool is all that is asked. -/
theorem composed_asks (root : Node K) : Task.Asks host (composed host config layout root) := by
  unfold composed
  split
  · exact Task.asks_throw _
  · exact (walk_asks root).bind fun _ => (Task.asks_lift _).bind fun _ => Task.asks_pure _

/-- After a job the balance has been charged for the tables, whatever has come of it. -/
theorem compose_charge (hledger : ledger.Tells credits) (hhost : host.Spares credits)
    (hb : credits s.world = some b) :
    credits (compose host (some ledger) config layout selection s).2.world
      = some (b - charge selection b) := by
  rw [compose_eq, Task.bind_run, charge]
  cases hselected : selectedFrame selection with
  | error fault =>
      change credits s.world = _
      rw [hb, Int.sub_zero]
  | ok root =>
      -- The rest of the job only asks the design tool, so the balance stays as the payment left it.
      rcases payForTables_run hledger hb root with ⟨result, paid, hpay, hcredits, -⟩
      change credits ((payForTables (some ledger) root >>= fun _ => _) s).2.world = _
      rw [Task.bind_run, hpay]
      cases result with
      | error fault => exact hcredits
      | ok _ => exact ((composed_asks root).spares hhost paid).trans hcredits

omit [Scalar K] in
/-- What is charged is the price of the tables of a frame that the balance covers. -/
theorem charge_ne_zero (h : charge selection b ≠ 0) :
    ∃ root, selectedFrame selection = .ok root ∧ 0 < root.countTableRegions ∧
      (root.countTableRegions : Int) ≤ b ∧ charge selection b = root.countTableRegions := by
  rw [charge] at h ⊢
  cases hselected : selectedFrame selection with
  | error fault =>
      rw [hselected] at h
      exact absurd rfl h
  | ok root =>
      rw [hselected] at h
      dsimp only at h ⊢
      rw [tableCharge] at h ⊢
      by_cases hless : b < root.countTableRegions
      · rw [if_pos hless] at h
        exact absurd rfl h
      · rw [if_neg hless] at h ⊢
        exact ⟨root, rfl, by omega, by omega, rfl⟩

/-- After a job that failed, the balance is as it was, unless the tables had been paid
    for: then the job failed after its payment, which is not taken back. -/
theorem compose_failed (hledger : ledger.Tells credits) (hhost : host.Spares credits)
    (hb : credits s.world = some b) {fault : Fault} {s' : Session ω K}
    (h : compose host (some ledger) config layout selection s = (.error fault, s')) :
    credits s'.world = some (b - charge selection b) ∧
      (credits s'.world ≠ some b → ∃ root, selection = [root] ∧ isFrame root = true ∧
        0 < root.countTableRegions ∧ (root.countTableRegions : Int) ≤ b ∧
        (∃ paid, payForTables (some ledger) root s = (.ok (), paid)) ∧
        credits s'.world = some (b - root.countTableRegions)) := by
  have hcharged : credits s'.world = some (b - charge selection b) := by
    have hrun : credits (compose host (some ledger) config layout selection s).2.world
        = some (b - charge selection b) := compose_charge hledger hhost hb
    rwa [h] at hrun
  refine ⟨hcharged, fun hchanged => ?_⟩
  -- A changed balance shows that there was a charge, and a charge that payment was admitted.
  have hcost : charge selection b ≠ 0 := by
    intro hzero
    rw [hcharged, hzero, Int.sub_zero] at hchanged
    exact hchanged rfl
  rcases charge_ne_zero hcost with ⟨root, hselected, hcount, hcovered, hcharge⟩
  rcases selectedFrame_ok.mp hselected with ⟨hsingle, hframe⟩
  rcases payForTables_run hledger hb root with ⟨result, paid, hpay, -, hadmitted⟩
  have htables : tableCharge root b ≠ 0 := by
    rw [charge, hselected] at hcost
    exact hcost
  rw [hadmitted htables] at hpay
  exact ⟨root, hsingle, hframe, hcount, hcovered, ⟨paid, hpay⟩, hcharge ▸ hcharged⟩

/-- A frame without bounds that has a region for a table. -/
def unboundedPrices : Node Rat :=
  .container ⟨"0", "Prices", true, none, []⟩ .frame
    [.container ⟨"1", "[table] Prices", true, none, []⟩ .group []]

/-- Before the bounds of the frame are missed, its table has been paid for. -/
theorem compose_failed_unboundedPrices :
    ∃ s' : Session (Int × Unit) Rat,
      compose (picturelessHost.within .second) (some (memoryLedger.within .first)) {} .tables
        [unboundedPrices] ⟨(5, ()), [], []⟩ = (.error .unboundedFrame, s') ∧
      some s'.world.1 = some (5 - charge [unboundedPrices] 5) ∧
      charge [unboundedPrices] 5 = 1 := by
  rcases hrun : compose (picturelessHost.within .second) (some (memoryLedger.within .first)) {}
    .tables [unboundedPrices] ⟨(5, ()), [], []⟩ with ⟨result, s'⟩
  have hfault : result = .error .unboundedFrame := congrArg Prod.fst hrun.symm
  rw [hfault] at hrun ⊢
  exact ⟨s', rfl, (compose_failed (memoryLedger_tells Unit) (within_spares picturelessHost some)
    rfl hrun).1, by decide⟩

/-- A job that fails may have charged. -/
theorem failed_job_charges :
    ¬ ∀ (selection : List (Node Rat)) (fault : Fault) (s s' : Session (Int × Unit) Rat),
      compose (picturelessHost.within .second) (some (memoryLedger.within .first)) {} .tables
        selection s = (.error fault, s') → s'.world.1 = s.world.1 := by
  intro h
  have hkept := h [unboundedPrices] .unboundedFrame ⟨(5, ()), [], []⟩ _ (Prod.ext rfl rfl)
  exact absurd hkept (by decide)

end Mail

end Letterpress
