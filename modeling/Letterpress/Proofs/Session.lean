import Letterpress.Session
import Mathlib.Tactic.Common

/-!
# What a Successful Task Has Done

A task or a computation that returns has returned in each of its parts. These
equivalences take a result apart into the results of the parts, so that what a
function does is read off its text without unfolding the machinery of failing.

## Main definitions

* `Returns`: A computation comes to a result.

## Theorems

* `except_bind_ok`, `except_map_ok`, `mapError_ok`: Computations that return.
* `returns_bind`, `returns_mapM`, `returns_number`: When computations return.
* `stateful_bind_ok`: Computations that change a state and return.
* `lookup_of_set`: What is found among entries after one of them was set.
* `Task.bind_ok`, `Task.pure_ok`, `Task.lift_ok`, `Task.attempt_ok`: Tasks that return.
* `Task.returned_of_read`: A task of which a result was read.
-/

namespace Letterpress

section Computations

variable {ε ε' α β : Type}

theorem except_bind_ok {x : Except ε α} {f : α → Except ε β} {b : β} :
    x >>= f = .ok b ↔ ∃ a, x = .ok a ∧ f a = .ok b := by
  cases x <;> simp [bind, Except.bind]

theorem except_map_ok {x : Except ε α} {f : α → β} {b : β} :
    f <$> x = .ok b ↔ ∃ a, x = .ok a ∧ f a = b := by
  cases x <;> simp [Functor.map, Except.map]

theorem except_pure_ok {a b : α} : (pure a : Except ε α) = .ok b ↔ a = b := by
  simp [pure, Except.pure]

theorem except_throw_ok {e : ε} {a : α} : (throw e : Except ε α) = .ok a ↔ False := by
  simp [throw, throwThe, MonadExceptOf.throw]

theorem mapM_cons_ok {f : α → Except ε β} {a : α} {as : List α} {bs : List β} :
    (a :: as).mapM f = .ok bs ↔ ∃ b bs', f a = .ok b ∧ as.mapM f = .ok bs' ∧ bs = b :: bs' := by
  rw [List.mapM_cons]
  simp only [except_bind_ok, except_pure_ok]
  constructor
  · rintro ⟨b, hb, bs', hbs, rfl⟩
    exact ⟨b, bs', hb, hbs, rfl⟩
  · rintro ⟨b, bs', hb, hbs, rfl⟩
    exact ⟨b, hb, bs', hbs, rfl⟩

/-- Every result over a list is that of one of its members. -/
theorem mem_mapM_ok {f : α → Except ε β} {as : List α} {bs : List β} (h : as.mapM f = .ok bs)
    {b : β} (hb : b ∈ bs) : ∃ a ∈ as, f a = .ok b := by
  induction as generalizing bs with
  | nil =>
      rw [List.mapM_nil, except_pure_ok] at h
      rw [← h] at hb
      exact absurd hb List.not_mem_nil
  | cons a as ih =>
      rcases mapM_cons_ok.mp h with ⟨first, rest, hfirst, hrest, rfl⟩
      rcases List.mem_cons.mp hb with rfl | hb
      · exact ⟨a, List.mem_cons_self, hfirst⟩
      · rcases ih hrest hb with ⟨a', ha', hself⟩
        exact ⟨a', List.mem_cons_of_mem a ha', hself⟩

/-- Every member of a list has its result. -/
theorem mapM_ok_mem {f : α → Except ε β} {as : List α} {bs : List β} (h : as.mapM f = .ok bs)
    {a : α} (ha : a ∈ as) : ∃ b ∈ bs, f a = .ok b := by
  induction as generalizing bs with
  | nil => exact absurd ha List.not_mem_nil
  | cons a' as ih =>
      rcases mapM_cons_ok.mp h with ⟨first, rest, hfirst, hrest, rfl⟩
      rcases List.mem_cons.mp ha with rfl | ha
      · exact ⟨first, List.mem_cons_self, hfirst⟩
      · rcases ih hrest ha with ⟨b, hb, hself⟩
        exact ⟨b, List.mem_cons_of_mem first hb, hself⟩

/-- What holds of every single result holds of all results. -/
theorem except_mapM_all {f : α → Except ε β} {P : β → Prop}
    (hf : ∀ a b, f a = .ok b → P b) {as : List α} {bs : List β} (h : as.mapM f = .ok bs) :
    ∀ b ∈ bs, P b := by
  intro b hb
  rcases mem_mapM_ok h hb with ⟨a, -, hself⟩
  exact hf a b hself

/-- A computation over a list returns if it returns at each place. -/
theorem except_mapM_returns {f : α → Except ε β} {as : List α}
    (h : ∀ a ∈ as, ∃ b, f a = .ok b) : ∃ bs, as.mapM f = .ok bs := by
  induction as with
  | nil => exact ⟨[], rfl⟩
  | cons a as ih =>
      rw [List.forall_mem_cons] at h
      rcases h.1 with ⟨b, hb⟩
      rcases ih h.2 with ⟨bs, hbs⟩
      exact ⟨b :: bs, mapM_cons_ok.mpr ⟨b, bs, hb, hbs, rfl⟩⟩

theorem mapError_ok {x : Except ε α} {f : ε → ε'} {a : α} :
    x.mapError f = .ok a ↔ x = .ok a := by
  cases x <;> simp [Except.mapError]

/-- Arithmetic inside of a larger operation returns what it returns by itself. -/
theorem number_ok {x : Except NumberError α} {a : α} :
    (liftM x : Except Fault α) = .ok a ↔ x = .ok a :=
  mapError_ok

theorem numeral_ok {x : Except NumeralError α} {a : α} :
    (liftM x : Except Fault α) = .ok a ↔ x = .ok a :=
  mapError_ok

/-- The computation comes to a result. -/
def Returns (x : Except ε α) : Prop :=
  ∃ a, x = .ok a

@[simp]
theorem returns_ok (a : α) : Returns (.ok a : Except ε α) :=
  ⟨a, rfl⟩

@[simp]
theorem returns_pure (a : α) : Returns (pure a : Except ε α) :=
  ⟨a, rfl⟩

@[simp]
theorem not_returns_error (e : ε) : ¬ Returns (.error e : Except ε α) :=
  fun ⟨_, h⟩ => absurd h (by simp)

/-- A computation in two parts returns if both do, where the second always returns or never
    does. -/
theorem returns_bind {x : Except ε α} {f : α → Except ε β} {P : Prop}
    (h : ∀ a, x = .ok a → (Returns (f a) ↔ P)) : Returns (x >>= f) ↔ Returns x ∧ P := by
  cases x with
  | error e => simp [bind, Except.bind]
  | ok a => simpa [bind, Except.bind] using h a rfl

theorem returns_map {x : Except ε α} {f : α → β} : Returns (f <$> x) ↔ Returns x := by
  cases x <;> simp [Functor.map, Except.map]

theorem returns_mapError {x : Except ε α} {f : ε → ε'} : Returns (x.mapError f) ↔ Returns x := by
  cases x <;> simp [Except.mapError]

/-- Arithmetic inside of a larger operation returns when it does by itself. -/
theorem returns_number {x : Except NumberError α} :
    Returns (liftM x : Except Fault α) ↔ Returns x :=
  returns_mapError

theorem returns_mapM {f : α → Except ε β} {as : List α} :
    Returns (as.mapM f) ↔ ∀ a ∈ as, Returns (f a) := by
  constructor
  · rintro ⟨bs, hbs⟩ a ha
    rcases mapM_ok_mem hbs ha with ⟨b, -, hb⟩
    exact ⟨b, hb⟩
  · exact except_mapM_returns

end Computations

section Stateful

variable {ε σ α β : Type} {s s' : σ}

/-- A computation in two parts that changes a state returns if both parts do, the second one
    in the state that the first one leaves. -/
theorem stateful_bind_ok {t : ExceptT ε (StateM σ) α} {f : α → ExceptT ε (StateM σ) β} {b : β} :
    (t >>= f) s = (.ok b, s') ↔ ∃ a s₁, t s = (.ok a, s₁) ∧ f a s₁ = (.ok b, s') := by
  constructor
  · intro h
    rcases ht : t s with ⟨result, s₁⟩
    have hrun : (t >>= f) s = (ExceptT.bindCont f result) s₁ := by
      change (ExceptT.bindCont f (t s).1) (t s).2 = _
      rw [ht]
    rw [hrun] at h
    cases result with
    | error e =>
        change (Except.error e, s₁) = (Except.ok b, s') at h
        simp at h
    | ok a => exact ⟨a, s₁, rfl, h⟩
  · rintro ⟨a, s₁, ht, hf⟩
    change (ExceptT.bindCont f (t s).1) (t s).2 = _
    rw [ht]
    exact hf

theorem stateful_pure_ok {a b : α} :
    (pure a : ExceptT ε (StateM σ) α) s = (.ok b, s') ↔ a = b ∧ s = s' := by
  change (Except.ok a, s) = (Except.ok b, s') ↔ _
  simp

end Stateful

section Entries

variable {κ ν : Type} [BEq κ] [LawfulBEq κ] [DecidableEq κ]

/-- Setting an entry, at its place or at the end, changes what is found under its name only. -/
theorem lookup_of_set {name : κ} {value : ν} (set : List (κ × ν) → List (κ × ν))
    (hnil : set [] = [(name, value)])
    (hcons : ∀ n v rest, set ((n, v) :: rest)
      = if n = name then (name, value) :: rest else (n, v) :: set rest)
    (entries : List (κ × ν)) (other : κ) :
    (set entries).lookup other = if other = name then some value else entries.lookup other := by
  induction entries with
  | nil =>
      rw [hnil, List.lookup_cons]
      by_cases hother : other = name
      · rw [if_pos hother, hother, beq_self_eq_true]
      · rw [if_neg hother, beq_eq_false_iff_ne.mpr hother]
  | cons first rest ih =>
      rcases first with ⟨n, v⟩
      rw [hcons]
      by_cases hn : n = name
      · rw [if_pos hn, hn, List.lookup_cons, List.lookup_cons]
        by_cases hother : other = name
        · rw [if_pos hother, hother, beq_self_eq_true]
        · rw [if_neg hother, beq_eq_false_iff_ne.mpr hother]
      · rw [if_neg hn, List.lookup_cons, List.lookup_cons, ih]
        by_cases hself : other = n
        · rw [hself, if_neg hn, if_neg hn, beq_self_eq_true]
        · rw [beq_eq_false_iff_ne.mpr hself]

end Entries

namespace Task

variable {ω K α β : Type} {s s' : Session ω K}

theorem bind_ok {t : Task ω K α} {f : α → Task ω K β} {b : β} :
    (t >>= f) s = (.ok b, s') ↔ ∃ a s₁, t s = (.ok a, s₁) ∧ f a s₁ = (.ok b, s') :=
  stateful_bind_ok

theorem pure_ok {a b : α} : (pure a : Task ω K α) s = (.ok b, s') ↔ a = b ∧ s = s' :=
  stateful_pure_ok

theorem ofExcept_ok {x : Except Fault α} {a : α} :
    (ofExcept x : Task ω K α) s = (.ok a, s') ↔ x = .ok a ∧ s = s' :=
  Prod.ext_iff

/-- A computation that needs no world leaves the session as it is. -/
theorem lift_ok {x : Except Fault α} {a : α} :
    (liftM x : Task ω K α) s = (.ok a, s') ↔ x = .ok a ∧ s = s' :=
  ofExcept_ok

/-- So does arithmetic. -/
theorem number_ok {x : Except NumberError α} {a : α} :
    (liftM x : Task ω K α) s = (.ok a, s') ↔ x = .ok a ∧ s = s' := by
  change (ofExcept (x.mapError Fault.number) : Task ω K α) s = (.ok a, s') ↔ _
  rw [ofExcept_ok, mapError_ok]

/-- An attempt returns whatever comes of the task. -/
theorem attempt_ok {t : Task ω K α} {r : Except Fault α} :
    t.attempt s = (.ok r, s') ↔ t s = (r, s') := by
  rcases ht : t s with ⟨result, after⟩
  have hrun : t.attempt s = (.ok result, after) := by
    simp only [attempt, ht]
  rw [hrun, Prod.mk.injEq, Prod.mk.injEq, Except.ok.injEq]

theorem throw_ok {fault : Fault} {a : α} :
    (throw fault : Task ω K α) s = (.ok a, s') ↔ False := by
  change (Except.error fault, s) = (Except.ok a, s') ↔ _
  simp

/-- A task has returned if something can be read off its result. -/
theorem returned_of_read {t : Task ω K α} {read : α → β} {b : β}
    (h : (t s).1.toOption.map read = some b) : ∃ a s', t s = (.ok a, s') ∧ read a = b := by
  rcases ht : t s with ⟨result, s'⟩
  rw [ht] at h
  cases result with
  | error fault => exact absurd h (by simp [Except.toOption])
  | ok a => exact ⟨a, s', rfl, Option.some.inj h⟩

end Task

end Letterpress
