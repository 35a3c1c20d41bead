import Letterpress.Credit.Ledger
import Letterpress.Document.TableLayout
import Letterpress.Text.Slug
import Letterpress.Walk.Visit

/-!
# Composing Mails

A mail is composed from a single selected frame: its tables are paid for, its children
are walked, and their fragments are put into a document.

What the user of an interactive tool gets to see of a job is the mail, or a message that
says why there is none. Whatever happens, there is a message.

## Main definitions

* `Mail`: A composed mail.
* `MailLayout`: How the fragments of a mail are put in place.
* `selectedFrame`: The frame to be composed.
* `payForTables`: Paying for the tables of a frame.
* `document`: The document of a walk.
* `compose`: Composing a mail.
* `Message`: The outcome of a job.
* `deliver`: Composing a mail, with any fault turned into a message.
-/

namespace Letterpress

/-- A composed mail: its document, the name of its file, and its records. -/
structure Mail where
  html : String
  fileName : String
  assets : List Asset
  previews : List Asset
  links : List LinkPlaceholder
  gifs : List GifPlaceholder

/-- How the fragments of a mail are put in place. -/
inductive MailLayout where
  /-- By nested tables, for clients that know nothing else. -/
  | tables
  /-- By absolute positions. -/
  | absolute
  deriving DecidableEq, Repr

namespace Mail

variable {K ω : Type} [Scalar K]

/-- The node can be made into a mail. Groups are no frames of their own. -/
def isFrame {K : Type} : Node K → Bool
  | .container _ kind _ => kind ≠ .group
  | _ => false

/-- The frame to be composed, if exactly one is selected. -/
def selectedFrame {K : Type} : List (Node K) → Except Fault (Node K)
  | [root] => if isFrame root then return root else throw .notAFrame
  | _ => throw .notAFrame

/-- Pays for the tables of a frame, if there are any and if they have to be paid for. -/
def payForTables (ledger : Option (Ledger ω)) (root : Node K) : Task ω K Unit := do
  match ledger, root.countTableRegions with
  | some ledger, count + 1 =>
    let _ ← reserve ledger (count + 1)
  | _, _ => return

/-- The document of a walk over a frame. Without fragments there is nothing that tables
    could hold. -/
def document (config : Config K) (layout : MailLayout) (frame : Rect K) (w : Walk) :
    Except Fault String :=
  if layout = .tables && !w.fragments.isEmpty then
    Document.compileFragments config w.fragments frame.width frame.height w.background
  else
    (Document.absoluteDocument config w.fragments frame.width frame.height w.background).mapError
      Fault.number

/-- Composes a mail from a selection. Tables are paid for before anything else is asked
    of the world. -/
def compose (host : Host ω K) (ledger : Option (Ledger ω)) (config : Config K)
    (layout : MailLayout) (selection : List (Node K)) : Task ω K Mail := do
  let root ← selectedFrame selection
  payForTables ledger root
  match root.bounds with
  | none => throw .unboundedFrame
  | some frame =>
    let w ← walk host config root
    let html ← document config layout frame w
    return {
      html
      fileName := Text.slug root.name
      assets := w.assets
      previews := w.previews
      links := w.links
      gifs := w.gifs }

end Mail

/-- The outcome of a job for its user. -/
inductive Message where
  | delivered (mail : Mail)
  | failed (text : String)

namespace Mail

variable {K ω : Type} [Scalar K]

/-- The message about a fault. A fault that is not meant for the user is named as one
    from behind the scenes. -/
def faultText (fault : Fault) : String :=
  if fault.isReported then fault.message else "Backend error: " ++ fault.message

/-- What is noted of a fault. -/
def faultNotice (fault : Fault) : String :=
  if fault.isReported then "Export failed: " ++ fault.message else "Unexpected export failure"

/-- Composes a mail, with any fault turned into a message. -/
def deliver (host : Host ω K) (ledger : Option (Ledger ω)) (config : Config K)
    (layout : MailLayout) (selection : List (Node K)) : Task ω K Message := do
  match ← (compose host ledger config layout selection).attempt with
  | .ok mail => return .delivered mail
  | .error fault =>
    Task.note .error (faultNotice fault)
    return .failed (faultText fault)

end Mail

end Letterpress
