import Letterpress.Proofs.Session.Calls

/-!
# What Can Stop a Task

A task stops with a fault of one of its parts, so the faults that it can stop with are
read off its text. A task whose parts cannot fail returns.

Two tasks *agree* when they come out the same way from any sessions. What a design tool
answers may be noted on the way, but no part of the result is taken from it. This is the
only relation here between tasks in different worlds: it says nothing of what they ask.

## Main definitions

* `FailsIn`: The faults of a computation.
* `Task.StopsIn`: The faults of a task.
* `Task.Agree`: Two tasks with the same result.

## Theorems

* `FailsIn.bind`, `failsIn_mapM`, `FailsIn.mapError`: The faults of computations.
* `StopsIn.bind`, `stopsIn_attempt`: The faults of tasks.
* `Agree.bind`, `Agree.after`: Tasks that agree, from parts that agree.
-/

namespace Letterpress

section Computations

variable {ε ε' α β : Type} {Q : ε → Prop}

/-- The computation fails with faults of one kind only. -/
def FailsIn (Q : ε → Prop) (x : Except ε α) : Prop :=
  ∀ e, x = .error e → Q e

theorem failsIn_ok (a : α) : FailsIn Q (.ok a : Except ε α) := by
  intro e h
  exact absurd h (by simp)

theorem failsIn_error {e : ε} (h : Q e) : FailsIn Q (.error e : Except ε α) := by
  intro e' he
  rw [← Except.error.inj he]
  exact h

theorem failsIn_pure (a : α) : FailsIn Q (pure a : Except ε α) :=
  failsIn_ok a

theorem FailsIn.bind {x : Except ε α} {f : α → Except ε β} (hx : FailsIn Q x)
    (hf : ∀ a, FailsIn Q (f a)) : FailsIn Q (x >>= f) := by
  cases x with
  | error e => exact failsIn_error (hx e rfl)
  | ok a => exact hf a

theorem FailsIn.map {x : Except ε α} (f : α → β) (hx : FailsIn Q x) : FailsIn Q (f <$> x) := by
  cases x with
  | error e => exact failsIn_error (hx e rfl)
  | ok a => exact failsIn_ok (f a)

/-- A computation over a list fails as one of its places does. -/
theorem failsIn_mapM {f : α → Except ε β} (hf : ∀ a, FailsIn Q (f a)) (as : List α) :
    FailsIn Q (as.mapM f) := by
  induction as with
  | nil => exact failsIn_pure []
  | cons a as ih =>
      rw [List.mapM_cons]
      exact (hf a).bind fun b => ih.bind fun bs => failsIn_pure (b :: bs)

theorem failsIn_optionMapM {f : α → Except ε β} (hf : ∀ a, FailsIn Q (f a)) (o : Option α) :
    FailsIn Q (o.mapM f) := by
  cases o with
  | none => exact failsIn_pure none
  | some a => exact (hf a).map some

/-- A fault that is told in other words. -/
theorem FailsIn.mapError {x : Except ε α} {f : ε → ε'} {P : ε' → Prop} (hx : FailsIn Q x)
    (hf : ∀ e, Q e → P (f e)) : FailsIn P (x.mapError f) := by
  cases x with
  | error e => exact failsIn_error (hf e (hx e rfl))
  | ok a => exact failsIn_ok a

/-- A fault that is told in other words, whatever it is. -/
theorem failsIn_mapError {x : Except ε α} {f : ε → ε'} {P : ε' → Prop} (hf : ∀ e, P (f e)) :
    FailsIn P (x.mapError f) :=
  FailsIn.mapError (fun e _ => hf e) fun _ => id

theorem FailsIn.mono {x : Except ε α} {P : ε → Prop} (hx : FailsIn Q x)
    (hP : ∀ e, Q e → P e) : FailsIn P x :=
  fun e he => hP e (hx e he)

/-- A computation that has no fault to fail with returns. -/
theorem FailsIn.returns {x : Except ε α} (hx : FailsIn (fun _ => False) x) :
    ∃ a, x = .ok a := by
  cases x with
  | error e => exact absurd (hx e rfl) id
  | ok a => exact ⟨a, rfl⟩

end Computations

namespace Task

variable {ω ω' K α α' β : Type} {P : Fault → Prop}

/-- The task stops with faults of one kind only. -/
def StopsIn (P : Fault → Prop) (t : Task ω K α) : Prop :=
  ∀ s, FailsIn P (t s).1

theorem StopsIn.bind {t : Task ω K α} {f : α → Task ω K β} (ht : StopsIn P t)
    (hf : ∀ a, StopsIn P (f a)) : StopsIn P (t >>= f) := by
  intro s
  have hfirst := ht s
  rw [bind_run]
  rcases hrun : t s with ⟨result, s₁⟩
  rw [hrun] at hfirst
  cases result with
  | error fault => exact failsIn_error (hfirst fault rfl)
  | ok a => exact hf a s₁

theorem stopsIn_lift {x : Except Fault α} (h : FailsIn P x) :
    StopsIn P (liftM x : Task ω K α) :=
  fun _ => h

theorem stopsIn_pure (a : α) : StopsIn P (pure a : Task ω K α) :=
  fun _ => failsIn_ok a

theorem stopsIn_throw {fault : Fault} (h : P fault) : StopsIn P (throw fault : Task ω K α) :=
  fun _ => failsIn_error h

theorem stopsIn_number {Q : NumberError → Prop} {x : Except NumberError α} (hx : FailsIn Q x)
    (hQ : ∀ e, Q e → P (.number e)) : StopsIn P (liftM x : Task ω K α) :=
  fun _ => hx.mapError hQ

theorem stopsIn_warn (text : String) : StopsIn P (warn text : Task ω K Unit) :=
  fun _ => failsIn_ok ()

/-- An attempt is never stopped. -/
theorem stopsIn_attempt (t : Task ω K α) : StopsIn P t.attempt :=
  fun s => failsIn_ok (t s).1

/-- A task that nothing can stop returns. -/
theorem StopsIn.returns {t : Task ω K α} (ht : StopsIn (fun _ => False) t)
    (s : Session ω K) : ∃ a s', t s = (.ok a, s') := by
  rcases (ht s).returns with ⟨a, ha⟩
  exact ⟨a, (t s).2, Prod.ext ha rfl⟩

/-- The tasks come out the same way from any sessions, and stop with faults of one kind
    only. -/
def Agree (P : Fault → Prop) (t : Task ω K α) (t' : Task ω' K α) : Prop :=
  ∀ s s', (t' s').1 = (t s).1 ∧ FailsIn P (t s).1

theorem Agree.stopsIn {t : Task ω K α} (h : Agree P t t) : StopsIn P t :=
  fun s => (h s s).2

/-- Tasks that agree return the same if they return. -/
theorem Agree.same {t : Task ω K α} {t' : Task ω' K α} (h : Agree P t t')
    {s s₁ : Session ω K} {s' s₁' : Session ω' K} {a a' : α} (ht : t s = (.ok a, s₁))
    (ht' : t' s' = (.ok a', s₁')) : a' = a := by
  have hresult := (h s s').1
  rw [ht, ht'] at hresult
  exact Except.ok.inj hresult

theorem Agree.bind {t : Task ω K α} {t' : Task ω' K α} {f : α → Task ω K β}
    {f' : α → Task ω' K β} (ht : Agree P t t') (hf : ∀ a, Agree P (f a) (f' a)) :
    Agree P (t >>= f) (t' >>= f') := by
  intro s s'
  rcases ht s s' with ⟨hsame, hfails⟩
  rw [bind_run, bind_run]
  rcases hrun : t s with ⟨result, s₁⟩
  rcases hrun' : t' s' with ⟨result', s₁'⟩
  rw [hrun] at hsame hfails
  rw [hrun'] at hsame
  obtain rfl : result' = result := hsame
  -- Either both first tasks stop with one fault, or both hand on one result.
  cases result' with
  | error fault => exact ⟨rfl, failsIn_error (hfails fault rfl)⟩
  | ok a => exact hf a s₁ s₁'

/-- Tasks agree if what comes first in them always returns, and what it returns makes no
    difference. -/
theorem Agree.after {t : Task ω K α} {t' : Task ω' K α'} {f : α → Task ω K β}
    {f' : α' → Task ω' K β} (ht : StopsIn (fun _ => False) t)
    (ht' : StopsIn (fun _ => False) t') (hf : ∀ a a', Agree P (f a) (f' a')) :
    Agree P (t >>= f) (t' >>= f') := by
  intro s s'
  rcases ht.returns s with ⟨a, s₁, hrun⟩
  rcases ht'.returns s' with ⟨a', s₁', hrun'⟩
  rw [bind_run, bind_run, hrun, hrun']
  exact hf a a' s₁ s₁'

theorem agree_pure (a : α) : Agree P (pure a : Task ω K α) (pure a : Task ω' K α) :=
  fun _ _ => ⟨rfl, failsIn_ok a⟩

theorem agree_lift {x : Except Fault α} (h : FailsIn P x) :
    Agree P (liftM x : Task ω K α) (liftM x : Task ω' K α) :=
  fun _ _ => ⟨rfl, h⟩

theorem agree_number {Q : NumberError → Prop} {x : Except NumberError α} (hx : FailsIn Q x)
    (hQ : ∀ e, Q e → P (.number e)) :
    Agree P (liftM x : Task ω K α) (liftM x : Task ω' K α) :=
  fun _ _ => ⟨rfl, hx.mapError hQ⟩

end Task

end Letterpress
