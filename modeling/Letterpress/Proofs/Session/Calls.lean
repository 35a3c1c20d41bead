import Letterpress.Proofs.Session

/-!
# Calls to a Design Tool

Most of what is done in a session touches the world in one way only: by calls to the
design tool, each of which is put on record. This is so whether or not the task
succeeds.

A task is known by its parts here. So that a function *asks* the design tool only is
read off its text, and what the calls of a design tool leave alone is left alone by
every such task.

Which calls a task makes may be known beforehand. Then they are listed, and the task makes
all of them in this order if it returns, and the first of them if it is stopped.

A task may also be run on two designs that differ in something that should not matter.
Then the two runs put different nodes before the design tool, and the worlds drift apart
if the tool remembers them. What has to hold of the tool is that it answers alike: the
same results and the same notices, and worlds that are still related. Alike tasks return
the same from related worlds. This never looks into the record of requests, which tells
the two runs apart by design.

## Main definitions

* `Host.Calls`: What calls to a design tool make of a world.
* `Task.Asks`: A task touches the world by calls to a design tool only.
* `Task.Makes`: The calls that a task makes, whatever is answered.
* `Host.Spares`: The calls to a design tool leave a part of the world alone.
* `Outcome.Alike`, `Session.Alike`: The same except for the record, up to a relation
  between worlds.
* `Task.Alike`: Two tasks return the same from alike sessions.
* `Host.BlindTo`: A design tool that answers alike for nodes that are related.

## Theorems

* `Task.bind_run`, `Task.bind_error`: What comes of a task after another.
* `Asks.bind`, `Asks.attempt`, `asks_lift`: Tasks that ask, from their parts.
* `Asks.spares`: What is left alone.
* `Makes.bind`, `makes_attempt`, `makes_number_bind`: The calls of tasks, from their parts.
* `Alike.bind`, `Alike.attempt`, `alike_lift`: Alike tasks from alike parts.
* `Host.BlindTo.rasterize_alike`: Asking a blind tool for related pictures.
-/

namespace Letterpress

variable {ω K α β : Type}

/-- The calls that are listed, made one after another, lead from one world to another. -/
inductive Host.Calls (host : Host ω K) : ω → List (Request K) → ω → Prop
  | none (w : ω) : Calls host w [] w
  | loadFont {w w' : ω} {rest : List (Request K)} (font : FontName)
      (h : Calls host (host.loadFont font w).world rest w') :
      Calls host w (.loadFont font :: rest) w'
  | rasterize {w w' : ω} {rest : List (Request K)} (node : Node K) (scale : K)
      (h : Calls host (host.rasterize node scale w).world rest w') :
      Calls host w (.rasterize node scale :: rest) w'
  | imageBytes {w w' : ω} {rest : List (Request K)} (ref : String)
      (h : Calls host (host.imageBytes ref w).world rest w') :
      Calls host w (.imageBytes ref :: rest) w'

theorem Host.Calls.append {host : Host ω K} {w₁ w₂ w₃ : ω} {first rest : List (Request K)}
    (h : host.Calls w₁ first w₂) (hrest : host.Calls w₂ rest w₃) :
    host.Calls w₁ (first ++ rest) w₃ := by
  induction h with
  | none w => exact hrest
  | loadFont font _ ih => exact .loadFont font (ih hrest)
  | rasterize node scale _ ih => exact .rasterize node scale (ih hrest)
  | imageBytes ref _ ih => exact .imageBytes ref (ih hrest)

/-- Calls to a design tool are put on record as such. -/
theorem Host.Calls.toHost {host : Host ω K} {w w' : ω} {requests : List (Request K)}
    (h : host.Calls w requests w') : ∀ r ∈ requests, r.toHost = true := by
  induction h with
  | none w => exact fun _ hr => absurd hr List.not_mem_nil
  | loadFont _ _ ih | rasterize _ _ _ ih | imageBytes _ _ ih =>
      exact List.forall_mem_cons.mpr ⟨rfl, ih⟩

/-- The calls to a design tool leave alone what is read off the world. -/
structure Host.Spares {ν : Type} (host : Host ω K) (view : ω → ν) : Prop where
  loadFont : ∀ font w, view (host.loadFont font w).world = view w
  rasterize : ∀ node scale w, view (host.rasterize node scale w).world = view w
  imageBytes : ∀ ref w, view (host.imageBytes ref w).world = view w

theorem Host.Calls.spares {ν : Type} {view : ω → ν} {host : Host ω K} (hhost : host.Spares view)
    {w w' : ω} {requests : List (Request K)} (h : host.Calls w requests w') :
    view w' = view w := by
  induction h with
  | none w => rfl
  | loadFont font _ ih => exact ih.trans (hhost.loadFont font _)
  | rasterize node scale _ ih => exact ih.trans (hhost.rasterize node scale _)
  | imageBytes ref _ ih => exact ih.trans (hhost.imageBytes ref _)

namespace Task

/-- The task touches the world by calls to the design tool only, and puts them on
    record. -/
def Asks (host : Host ω K) (t : Task ω K α) : Prop :=
  ∀ s, ∃ requests, (t s).2.requests = s.requests ++ requests ∧
    host.Calls s.world requests (t s).2.world

/-- What comes of a task after another: the second only starts if the first returns. -/
theorem bind_run (t : Task ω K α) (f : α → Task ω K β) (s : Session ω K) :
    (t >>= f) s = match t s with
      | (.ok a, s₁) => f a s₁
      | (.error fault, s₁) => (.error fault, s₁) := by
  change (ExceptT.bindCont f (t s).1) (t s).2 = _
  rcases t s with ⟨result, s₁⟩
  cases result <;> rfl

/-- A task after another is stopped in the first or in the second. -/
theorem bind_error {t : Task ω K α} {f : α → Task ω K β} {s s' : Session ω K} {fault : Fault} :
    (t >>= f) s = (.error fault, s') ↔
      t s = (.error fault, s') ∨ ∃ a s₁, t s = (.ok a, s₁) ∧ f a s₁ = (.error fault, s') := by
  rw [bind_run]
  rcases hrun : t s with ⟨result, s₁⟩
  cases result with
  | error first =>
      constructor
      · intro h
        rcases Prod.mk.inj h with ⟨hfault, rfl⟩
        exact Or.inl (by rw [Except.error.inj hfault])
      · rintro (h | ⟨a, s₂, hok, -⟩)
        · rcases Prod.mk.inj h with ⟨hfault, rfl⟩
          rw [Except.error.inj hfault]
        · exact absurd (congrArg Prod.fst hok) (by simp)
  | ok a =>
      refine ⟨fun h => Or.inr ⟨a, s₁, rfl, h⟩, fun h => h.elim (fun herror => ?_) ?_⟩
      · exact absurd (congrArg Prod.fst herror) (by simp)
      · rintro ⟨a', s₂, hok, h⟩
        -- The first task runs only one way, and so the given run is this one.
        cases hok
        exact h

variable {host : Host ω K}

theorem Asks.bind {t : Task ω K α} {f : α → Task ω K β} (ht : Asks host t)
    (hf : ∀ a, Asks host (f a)) : Asks host (t >>= f) := by
  intro s
  rcases ht s with ⟨first, hfirst, hcalls⟩
  rw [bind_run]
  rcases hrun : t s with ⟨result, s₁⟩
  rw [hrun] at hfirst hcalls
  cases result with
  | error fault => exact ⟨first, hfirst, hcalls⟩
  | ok a =>
      rcases hf a s₁ with ⟨rest, hrest, hlater⟩
      refine ⟨first ++ rest, ?_, hcalls.append hlater⟩
      rw [hrest, hfirst, List.append_assoc]

/-- A computation that needs no world asks for nothing. -/
theorem asks_ofExcept (result : Except Fault α) : Asks host (ofExcept result : Task ω K α) :=
  fun s => ⟨[], (List.append_nil _).symm, .none s.world⟩

theorem asks_pure (a : α) : Asks host (pure a : Task ω K α) :=
  asks_ofExcept (.ok a)

theorem asks_throw (fault : Fault) : Asks host (throw fault : Task ω K α) :=
  asks_ofExcept (.error fault)

theorem asks_lift (result : Except Fault α) : Asks host (liftM result : Task ω K α) :=
  asks_ofExcept result

theorem asks_number (result : Except NumberError α) : Asks host (liftM result : Task ω K α) :=
  asks_ofExcept (result.mapError Fault.number)

theorem asks_note (severity : Severity) (text : String) :
    Asks host (note severity text : Task ω K Unit) :=
  fun s => ⟨[], (List.append_nil _).symm, .none s.world⟩

theorem asks_warn (text : String) : Asks host (warn text : Task ω K Unit) :=
  asks_note .warning text

/-- An attempt asks what the task asks. -/
theorem Asks.attempt {t : Task ω K α} (h : Asks host t) : Asks host t.attempt :=
  fun s => h s

theorem asks_loadFont (font : FontName) :
    Asks host (ask (.loadFont font) (host.loadFont font)) :=
  fun _ => ⟨[.loadFont font], rfl, .loadFont font (.none _)⟩

theorem asks_rasterize (node : Node K) (scale : K) :
    Asks host (ask (.rasterize node scale) (host.rasterize node scale)) :=
  fun _ => ⟨[.rasterize node scale], rfl, .rasterize node scale (.none _)⟩

theorem asks_imageBytes (ref : String) :
    Asks host (ask (.imageBytes ref) (host.imageBytes ref)) :=
  fun _ => ⟨[.imageBytes ref], rfl, .imageBytes ref (.none _)⟩

/-- A task that asks the design tool only leaves alone what its calls leave alone. -/
theorem Asks.spares {ν : Type} {view : ω → ν} (hhost : host.Spares view) {t : Task ω K α}
    (h : Asks host t) (s : Session ω K) : view (t s).2.world = view s.world := by
  rcases h s with ⟨requests, -, hcalls⟩
  exact hcalls.spares hhost

/-- The task makes the calls that are listed, in order and whatever is answered. A task that
    is stopped has made the first of them. -/
def Makes (t : Task ω K α) (calls : List (Request K)) : Prop :=
  ∀ s, ∃ done, (t s).2.requests = s.requests ++ done ∧ done <+: calls ∧
    (Returns (t s).1 → done = calls)

theorem Makes.returned {t : Task ω K α} {calls : List (Request K)} (h : Makes t calls)
    {s s' : Session ω K} {a : α} (ht : t s = (.ok a, s')) :
    s'.requests = s.requests ++ calls := by
  rcases h s with ⟨done, hdone, -, hall⟩
  rw [ht] at hdone hall
  rw [hdone, hall (returns_ok a)]

theorem Makes.stopped {t : Task ω K α} {calls : List (Request K)} (h : Makes t calls)
    {s s' : Session ω K} {fault : Fault} (ht : t s = (.error fault, s')) :
    ∃ part, part <+: calls ∧ s'.requests = s.requests ++ part := by
  rcases h s with ⟨done, hdone, hpart, -⟩
  rw [ht] at hdone
  exact ⟨done, hpart, hdone⟩

/-- A task without calls leaves the record as it is. -/
theorem Makes.quiet {t : Task ω K α} (h : Makes t []) (s : Session ω K) :
    (t s).2.requests = s.requests := by
  rcases h s with ⟨done, hdone, hpart, -⟩
  rw [hdone, List.prefix_nil.mp hpart, List.append_nil]

/-- A task after another makes its calls after those of the other. -/
theorem Makes.bind {t : Task ω K α} {f : α → Task ω K β} {first rest : List (Request K)}
    (ht : Makes t first) (hf : ∀ a, Makes (f a) rest) : Makes (t >>= f) (first ++ rest) := by
  intro s
  rcases ht s with ⟨done, hdone, hpart, hall⟩
  rw [bind_run]
  rcases hrun : t s with ⟨result, s₁⟩
  rw [hrun] at hdone hall
  cases result with
  | error fault => exact ⟨done, hdone, hpart.trans (List.prefix_append first rest),
      fun hreturns => absurd hreturns (not_returns_error fault)⟩
  | ok a =>
      rcases hf a s₁ with ⟨later, hlater, hlaterPart, hlaterAll⟩
      rw [hall (returns_ok a)] at hdone
      refine ⟨first ++ later, ?_, List.prefix_append_right_inj first |>.mpr hlaterPart, ?_⟩
      · rw [hlater, hdone, List.append_assoc]
      · intro hreturns
        rw [hlaterAll hreturns]

/-- What comes after a task's calls may make none of its own. -/
theorem Makes.bind_quiet {t : Task ω K α} {f : α → Task ω K β} {calls : List (Request K)}
    (ht : Makes t calls) (hf : ∀ a, Makes (f a) []) : Makes (t >>= f) calls := by
  have h := ht.bind hf
  rwa [List.append_nil] at h

/-- A computation that needs no world makes no calls. What comes after it depends on its
    result. -/
theorem makes_ofExcept_bind {x : Except Fault α} {f : α → Task ω K β}
    {calls : List (Request K)} (hf : ∀ a, x = .ok a → Makes (f a) calls) :
    Makes (ofExcept x >>= f) calls := by
  intro s
  rw [bind_run]
  cases x with
  | error fault => exact ⟨[], (List.append_nil _).symm, List.nil_prefix,
      fun hreturns => absurd hreturns (not_returns_error fault)⟩
  | ok a => exact hf a rfl s

theorem makes_lift_bind {x : Except Fault α} {f : α → Task ω K β} {calls : List (Request K)}
    (hf : ∀ a, x = .ok a → Makes (f a) calls) : Makes (liftM x >>= f) calls :=
  makes_ofExcept_bind hf

theorem makes_number_bind {x : Except NumberError α} {f : α → Task ω K β}
    {calls : List (Request K)} (hf : ∀ a, x = .ok a → Makes (f a) calls) :
    Makes (liftM x >>= f) calls :=
  makes_ofExcept_bind fun a ha => hf a (mapError_ok.mp ha)

theorem makes_number (x : Except NumberError α) : Makes (liftM x : Task ω K α) [] :=
  fun _ => ⟨[], (List.append_nil _).symm, List.nil_prefix, fun _ => rfl⟩

theorem makes_lift (x : Except Fault α) : Makes (liftM x : Task ω K α) [] :=
  fun _ => ⟨[], (List.append_nil _).symm, List.nil_prefix, fun _ => rfl⟩

theorem makes_pure (a : α) : Makes (pure a : Task ω K α) [] :=
  fun _ => ⟨[], (List.append_nil _).symm, List.nil_prefix, fun _ => rfl⟩

theorem makes_throw (fault : Fault) : Makes (throw fault : Task ω K α) [] :=
  fun _ => ⟨[], (List.append_nil _).symm, List.nil_prefix, fun _ => rfl⟩

theorem makes_warn (text : String) : Makes (warn text : Task ω K Unit) [] :=
  fun _ => ⟨[], (List.append_nil _).symm, List.nil_prefix, fun _ => rfl⟩

/-- An attempt to ask something is a call, whatever the answer is. -/
theorem makes_attempt (request : Request K) (use : ω → Outcome ω α) :
    Makes (ask request use).attempt [request] :=
  fun _ => ⟨[request], rfl, List.prefix_refl _, fun _ => rfl⟩

end Task

section TwoRuns

variable {R : ω → ω → Prop}

/-- The outcomes have the same result and notices, and related worlds. -/
structure Outcome.Alike (R : ω → ω → Prop) (o o' : Outcome ω α) : Prop where
  result : o'.result = o.result
  notices : o'.notices = o.notices
  world : R o.world o'.world

/-- The sessions have related worlds and the same journal. -/
structure Session.Alike (R : ω → ω → Prop) (s s' : Session ω K) : Prop where
  world : R s.world s'.world
  journal : s'.journal = s.journal

/-- The design tool answers alike for related nodes in related worlds. -/
structure Host.BlindTo (host : Host ω K) (R : ω → ω → Prop) (twins : Node K → Node K → Prop) :
    Prop where
  loadFont : ∀ font w w', R w w' → (host.loadFont font w).Alike R (host.loadFont font w')
  rasterize : ∀ n n' scale w w', twins n n' → R w w' →
    (host.rasterize n scale w).Alike R (host.rasterize n' scale w')
  imageBytes : ∀ ref w w', R w w' → (host.imageBytes ref w).Alike R (host.imageBytes ref w')

namespace Task

/-- The tasks return the same from alike sessions, and leave alike sessions. -/
def Alike (R : ω → ω → Prop) (t t' : Task ω K α) : Prop :=
  ∀ s s', s.Alike R s' → (t' s').1 = (t s).1 ∧ (t s).2.Alike R (t' s').2

theorem Alike.bind {t t' : Task ω K α} {f f' : α → Task ω K β} (ht : Alike R t t')
    (hf : ∀ a, Alike R (f a) (f' a)) : Alike R (t >>= f) (t' >>= f') := by
  intro s s' hs
  rcases ht s s' hs with ⟨hresult, hafter⟩
  rw [bind_run, bind_run]
  rcases hrun : t s with ⟨result, s₁⟩
  rcases hrun' : t' s' with ⟨result', s₁'⟩
  rw [hrun, hrun'] at hresult hafter
  -- Both first tasks fail with the same fault, or both go on with the same result.
  cases result with
  | error fault =>
      obtain rfl : result' = .error fault := hresult
      exact ⟨rfl, hafter⟩
  | ok a =>
      obtain rfl : result' = .ok a := hresult
      exact hf a s₁ s₁' hafter

/-- A computation that needs no world returns the same in any. -/
theorem alike_ofExcept (result : Except Fault α) :
    Alike R (ofExcept result : Task ω K α) (ofExcept result) :=
  fun _ _ hs => ⟨rfl, hs⟩

theorem alike_pure (a : α) : Alike R (pure a : Task ω K α) (pure a) :=
  alike_ofExcept (.ok a)

theorem alike_throw (fault : Fault) : Alike R (throw fault : Task ω K α) (throw fault) :=
  alike_ofExcept (.error fault)

theorem alike_lift (result : Except Fault α) :
    Alike R (liftM result : Task ω K α) (liftM result) :=
  alike_ofExcept result

theorem alike_number (result : Except NumberError α) :
    Alike R (liftM result : Task ω K α) (liftM result) :=
  alike_ofExcept (result.mapError Fault.number)

theorem alike_note (severity : Severity) (text : String) :
    Alike R (note severity text : Task ω K Unit) (note severity text) := by
  intro s s' hs
  refine ⟨rfl, hs.world, ?_⟩
  change s'.journal ++ [⟨severity, text⟩] = s.journal ++ [⟨severity, text⟩]
  rw [hs.journal]

theorem alike_warn (text : String) : Alike R (warn text : Task ω K Unit) (warn text) :=
  alike_note .warning text

/-- Attempts at alike tasks are alike. -/
theorem Alike.attempt {t t' : Task ω K α} (h : Alike R t t') : Alike R t.attempt t'.attempt :=
  fun s s' hs => ⟨congrArg Except.ok (h s s' hs).1, (h s s' hs).2⟩

/-- Asking alike is alike, whatever the requests on record are. -/
theorem alike_ask {request request' : Request K} {use use' : ω → Outcome ω α}
    (h : ∀ w w', R w w' → (use w).Alike R (use' w')) :
    Alike R (ask request use) (ask request' use') := by
  intro s s' hs
  have hused := h s.world s'.world hs.world
  refine ⟨hused.result, hused.world, ?_⟩
  change s'.journal ++ (use' s'.world).notices = s.journal ++ (use s.world).notices
  rw [hs.journal, hused.notices]

end Task

open Letterpress.Task

variable {host : Host ω K} {twins : Node K → Node K → Prop}

theorem Host.BlindTo.loadFont_alike (h : host.BlindTo R twins) (font : FontName) :
    Alike R (ask (.loadFont font) (host.loadFont font) : Task ω K Unit)
      (ask (.loadFont font) (host.loadFont font)) :=
  alike_ask (h.loadFont font)

theorem Host.BlindTo.imageBytes_alike (h : host.BlindTo R twins) (ref : String) :
    Alike R (ask (.imageBytes ref) (host.imageBytes ref) : Task ω K (Option Content))
      (ask (.imageBytes ref) (host.imageBytes ref)) :=
  alike_ask (h.imageBytes ref)

/-- Asking a blind tool for pictures of related nodes. -/
theorem Host.BlindTo.rasterize_alike (h : host.BlindTo R twins) {n n' : Node K}
    (hn : twins n n') (scale : K) :
    Alike R (ask (.rasterize n scale) (host.rasterize n scale))
      (ask (.rasterize n' scale) (host.rasterize n' scale)) :=
  alike_ask fun w w' hw => h.rasterize n n' scale w w' hn hw

end TwoRuns

end Letterpress
