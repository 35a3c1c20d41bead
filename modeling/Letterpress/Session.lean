import Letterpress.Design.Node
import Letterpress.Fault
import Letterpress.Storage.Content

/-!
# Sessions

An export asks a design tool for fonts and pictures and a ledger for credits. Both
live in a world of which nothing is known here but its type. A *session* is that
world together with a record of everything that was asked of it and everything that
was noted on the way.

A *task* is a computation in a session. When a task fails, what it asked and noted
before stays in the record, and the world stays as it left it.

## Main definitions

* `Notice`: Something worth telling.
* `Outcome`: What comes of using the world.
* `Host`: A design tool.
* `Ledger`: A store of credits.
* `Request`: A question to one of them.
* `Session`, `Task`: The record, and computations in it.
-/

namespace Letterpress

/-- How serious a notice is. -/
inductive Severity where
  | warning
  | error
  deriving DecidableEq, Repr

/-- Something worth telling that does not stop a task. -/
structure Notice where
  severity : Severity
  text : String
  deriving DecidableEq, Repr

/-- What comes of using the world: a result or a fault, notices, and the world after. -/
structure Outcome (ω α : Type) where
  result : Except Fault α
  notices : List Notice := []
  world : ω

/-- A design tool. -/
structure Host (ω K : Type) where
  /-- Makes a font available. -/
  loadFont : FontName → ω → Outcome ω Unit
  /-- Takes a picture of a node at a scale. -/
  rasterize : Node K → K → ω → Outcome ω Content
  /-- What is known under a reference, if anything is. -/
  imageBytes : String → ω → Outcome ω (Option Content)

/-- A store of credits. -/
structure Ledger (ω : Type) where
  /-- The credits that are left. -/
  balance : ω → Outcome ω Int
  /-- Replaces the credits that are left. -/
  setBalance : Int → ω → Outcome ω Unit

/-- A question to a design tool or a ledger. -/
inductive Request (K : Type) where
  | loadFont (font : FontName)
  | rasterize (node : Node K) (scale : K)
  | imageBytes (ref : String)
  | balance
  | setBalance (value : Int)

/-- The request goes to the design tool. -/
def Request.toHost {K : Type} : Request K → Bool
  | .loadFont _ | .rasterize _ _ | .imageBytes _ => true
  | .balance | .setBalance _ => false

/-- A world, with all that was asked of it and all that was noted, in order. -/
structure Session (ω K : Type) where
  world : ω
  requests : List (Request K) := []
  journal : List Notice := []

/-- A computation in a session. -/
abbrev Task (ω K : Type) := ExceptT Fault (StateM (Session ω K))

namespace Task

variable {ω K α : Type}

/-- A computation that needs no world. -/
def ofExcept (result : Except Fault α) : Task ω K α := fun s =>
  (result, s)

/-- Asks something of the world. -/
def ask (request : Request K) (use : ω → Outcome ω α) : Task ω K α := fun s =>
  let outcome := use s.world
  (outcome.result,
    { world := outcome.world
      requests := s.requests ++ [request]
      journal := s.journal ++ outcome.notices })

/-- Notes something. -/
def note (severity : Severity) (text : String) : Task ω K Unit := fun s =>
  (.ok (), { s with journal := s.journal ++ [⟨severity, text⟩] })

/-- Notes a warning. -/
def warn (text : String) : Task ω K Unit :=
  note .warning text

/-- The result of a task or the fault that stopped it. -/
def attempt (t : Task ω K α) : Task ω K (Except Fault α) := fun s =>
  let (result, after) := t s
  (.ok result, after)

/-- What comes of a task in a world that nothing was asked of before. -/
def start (t : Task ω K α) (world : ω) : Except Fault α × Session ω K :=
  t ⟨world, [], []⟩

end Task

/-- Computations that need no world. -/
instance {ω K : Type} : MonadLift (Except Fault) (Task ω K) where
  monadLift := Task.ofExcept

/-- Arithmetic inside of a task. -/
instance {ω K : Type} : MonadLift (Except NumberError) (Task ω K) where
  monadLift x := Task.ofExcept (x.mapError Fault.number)

end Letterpress
