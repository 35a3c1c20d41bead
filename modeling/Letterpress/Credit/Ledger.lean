import Letterpress.Json.Writer
import Letterpress.Session
import Letterpress.Storage.Read

/-!
# Credits

Two stores of credits: a number that is kept in memory, and a number in a file. A file
that is missing, or that holds no such number, stands for a default.

A ledger or design tool that uses only a part of the world can be used inside of the
whole.

Every region that is rebuilt as a table costs one credit. All credits of a job are
taken at once before it starts, or none at all.

## Main definitions

* `memoryLedger`: Credits in memory.
* `storedCredits`, `storeCredits`, `fileLedger`: Credits in a file.
* `View`: A part of the world.
* `Ledger.within`, `Host.within`: Using a part of the world.
* `readBalance`, `writeBalance`: Using a ledger, where trouble with its file is
  reported in general terms.
* `reserve`: Taking credits.
-/

namespace Letterpress

/-- The credits of someone who has not used any. -/
def defaultCredits : Int := 5

/-- Credits in memory. -/
def memoryLedger : Ledger Int where
  balance w := { result := .ok w, world := w }
  setBalance value _ := { result := .ok (), world := value }

namespace Ledger

/-- The name of the member that holds the credits. -/
def memberName : String := "tableCredits"

/-- The credits that a value tells, or a default. -/
def creditsOf (default : Int) (j : Json) : Int :=
  match j.get? memberName with
  | some (.int n) => n
  | _ => default

/-- The credits that a file tells. -/
def storedCredits (path : Path) (default : Int) (t : FileTree) : Except Fault Int :=
  if t.has path then creditsOf default <$> t.readJson path else return default

/-- The text of a file that tells the credits, unless their numeral is too long. -/
def fileText (credits : Int) : Except NumeralError String :=
  if Text.isWritable credits then
    return Json.compact .ascii (.obj [(memberName, .int credits)])
  else throw .unwritable

/-- Writes the credits to a file. The directory is made first, even if the credits cannot be
    written. -/
def storeCredits (path : Path) (credits : Int) (t : FileTree) : Except Fault Unit × FileTree :=
  match t.ensureDirectories path.parent with
  | .error e => (.error (.file e), t)
  | .ok t =>
    match fileText credits with
    | .error e => (.error (.numeral e), t)
    | .ok text =>
      match t.write path (.ofText text) with
      | .error e => (.error (.file e), t)
      | .ok t => (.ok (), t)

end Ledger

/-- Credits in a file. -/
def fileLedger (path : Path) (default : Int) : Ledger FileTree where
  balance t := { result := Ledger.storedCredits path default t, world := t }
  setBalance value t :=
    let (result, after) := Ledger.storeCredits path value t
    { result, world := after }

/-- A part of the world, which can be read and replaced. -/
structure View (ω π : Type) where
  get : ω → π
  set : π → ω → ω

variable {ω π α K : Type}

/-- Using a part of the world as a use of the whole. -/
def View.use (v : View ω π) (act : π → Outcome π α) (w : ω) : Outcome ω α :=
  let outcome := act (v.get w)
  { result := outcome.result, notices := outcome.notices, world := v.set outcome.world w }

/-- A ledger in a part of the world. -/
def Ledger.within (v : View ω π) (l : Ledger π) : Ledger ω where
  balance := v.use l.balance
  setBalance value := v.use (l.setBalance value)

/-- A design tool in a part of the world. -/
def Host.within (v : View ω π) (h : Host π K) : Host ω K where
  loadFont font := v.use (h.loadFont font)
  rasterize node scale := v.use (h.rasterize node scale)
  imageBytes ref := v.use (h.imageBytes ref)

/-- The first component of a world of two. -/
def View.first : View (ω × π) ω where
  get := Prod.fst
  set a w := (a, w.2)

/-- The second component of a world of two. -/
def View.second : View (ω × π) π where
  get := Prod.snd
  set b w := (w.1, b)

/-- Uses a ledger. Trouble with its file is noted in full, and reported as trouble with
    the credits. -/
def useLedger (request : Request K) (use : ω → Outcome ω α) : Task ω K α := do
  match ← (Task.ask request use).attempt with
  | .ok a => return a
  | .error fault =>
    if fault.isUnreadable then
      Task.note .error ("Credit storage error: " ++ fault.message)
      throw .creditStorage
    else throw fault

/-- The credits that are left. -/
def readBalance (ledger : Ledger ω) : Task ω K Int :=
  useLedger .balance ledger.balance

/-- Replaces the credits that are left. -/
def writeBalance (ledger : Ledger ω) (value : Int) : Task ω K Unit :=
  useLedger (.setBalance value) (ledger.setBalance value)

/-- Takes credits, if there are enough; the credits that are left. -/
def reserve (ledger : Ledger ω) (required : Int) : Task ω K Int := do
  let balance ← readBalance ledger
  if balance < required then throw (.insufficientCredits required balance)
  writeBalance ledger (balance - required)
  return balance - required

end Letterpress
