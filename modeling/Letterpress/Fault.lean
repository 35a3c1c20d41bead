import Letterpress.Json.Reader
import Letterpress.Log.Record
import Letterpress.Markup.Event
import Letterpress.Number.Scalar
import Letterpress.Storage.Path
import Letterpress.Text.Utf8

/-!
# Faults

Everything that can stop an operation, as causes. The wording of each is in
`Fault.message`.

Some faults are *reported*: they belong to the job itself, such as a selection
that is not a frame, and their message is meant for the user. All others come
from below, such as arithmetic on a coordinate that is not a number.

## Main definitions

* `Fault`: The causes.
* `Fault.message`: A cause in words.
* `Fault.isReported`: The message is meant for the user.
-/

namespace Letterpress

/-- A cause that stops an operation. -/
inductive Fault where
  /-- Arithmetic failed. -/
  | number (error : NumberError)
  /-- A numeral is too long. -/
  | numeral (error : NumeralError)
  /-- A value or node of a variety lacks a part. -/
  | missingPart (variety part : String)
  /-- Two values cannot be joined to a path. -/
  | notAPath (variety : String)
  /-- The selection is not a single exportable frame. -/
  | notAFrame
  /-- The selected frame has no bounds. -/
  | unboundedFrame
  /-- The credits do not cover the tables. -/
  | insufficientCredits (required balance : Int)
  /-- The credits cannot be read or written. -/
  | creditStorage
  /-- A root to be walked has no bounds. -/
  | unboundedRoot (name : String)
  /-- A node of a design is not an object; the excerpt shows it. -/
  | notANode (excerpt : String)
  /-- A design file cannot be read. -/
  | unreadableDesign (path reason : String)
  /-- A node to be pictured has no bounds. -/
  | unboundedNode (name : String)
  /-- A node cannot be pictured. -/
  | rasterization (name reason : String)
  /-- A file that should hold a picture holds none. -/
  | notAPicture (path : String)
  /-- A font is not available. -/
  | font (family style : String)
  /-- Markup cannot be read. -/
  | markup (error : MarkupError)
  /-- Structured data cannot be read. -/
  | json (error : JsonError)
  /-- Bytes are no text. -/
  | encoding (error : Utf8Error)
  /-- A file operation failed. -/
  | file (error : FileError)
  /-- A log cannot be set up. -/
  | log (error : LogError)
  /-- The design tool failed in a way of its own. -/
  | host (message : String)
  deriving DecidableEq

namespace Fault

/-- The message, followed by details if there are any. -/
def detailed (message details : String) : String :=
  if details.isEmpty then message else message ++ ": " ++ details

/-- The cause in words. -/
def message : Fault → String
  | number e => e.message
  | numeral e => e.message
  | missingPart variety part => "'" ++ variety ++ "' object has no attribute '" ++ part ++ "'"
  | notAPath variety =>
    "unsupported operand type(s) for /: 'PosixPath' and '" ++ variety ++ "'"
  | notAFrame => "Please select a single Frame to export."
  | unboundedFrame => "Could not determine bounds of the selected frame."
  | insufficientCredits required balance =>
    "Insufficient credits. This export requires " ++ toString required
      ++ " credits, but you have " ++ toString balance ++ ". Please purchase more credits."
  | creditStorage => "Error managing credits. Please try again."
  | unboundedRoot name => "Root " ++ Text.quoted name ++ " has no bounding box"
  | notANode excerpt => detailed "Design node must be an object" excerpt
  | unreadableDesign path reason => detailed ("Cannot read design file " ++ path) reason
  | unboundedNode name => "Node " ++ Text.quoted name ++ " has no bounds"
  | rasterization name reason => detailed ("Cannot rasterize " ++ Text.quoted name) reason
  | notAPicture path => "cannot identify image file " ++ Text.quoted path
  | font family style => "Font not available: " ++ family ++ " " ++ style
  | markup e => e.message
  | json e => e.message
  | encoding e => e.message
  | file e => e.message
  | log e => e.message
  | host message => message

/-- The fault belongs to the job itself, and its message is meant for the user. -/
def isReported : Fault → Bool
  | notAFrame | unboundedFrame | insufficientCredits _ _ | creditStorage => true
  | unboundedRoot _ | notANode _ | unreadableDesign _ _ => true
  | unboundedNode _ | rasterization _ _ | font _ _ => true
  | _ => false

end Fault

/-- Arithmetic inside of a larger operation. -/
instance : MonadLift (Except NumberError) (Except Fault) where
  monadLift := Except.mapError Fault.number

/-- Reading and writing numerals inside of a larger operation. -/
instance : MonadLift (Except NumeralError) (Except Fault) where
  monadLift := Except.mapError Fault.numeral

/-- Reading markup inside of a larger operation. -/
instance : MonadLift (Except MarkupError) (Except Fault) where
  monadLift := Except.mapError Fault.markup

end Letterpress
