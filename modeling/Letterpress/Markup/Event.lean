import Letterpress.Text.Digit
import Letterpress.Text.Escape

/-!
# Markup Events

Reading markup yields a sequence of events: tags that open and close elements,
and pieces of content between them. Markup is read leniently. Only a marked section
whose status is unreadable or unknown stops the reader, and a numeric reference that is
too long.

## Main definitions

* `Attribute`: A name with an optional value.
* `Event`: A tag or a piece of content.
* `MarkupError`: Why markup cannot be read.
-/

namespace Letterpress.Markup

/-- An attribute: a name, and a value unless none was given. -/
abbrev Attribute := String × Option String

/-- A tag or a piece of content. -/
inductive Event where
  /-- A start tag. -/
  | start (tag : String) (attributes : List Attribute)
  /-- A start tag that closes its element at once. -/
  | selfClosed (tag : String) (attributes : List Attribute)
  /-- An end tag. -/
  | finish (tag : String)
  /-- Character data. -/
  | data (text : String)
  /-- A named character reference. -/
  | entity (name : String)
  /-- A numeric character reference. -/
  | code (digits : String)
  /-- A comment. -/
  | comment (text : String)
  /-- A document type declaration. -/
  | declaration (text : String)
  deriving DecidableEq, Repr

end Letterpress.Markup

namespace Letterpress

/-- Why markup cannot be read. -/
inductive MarkupError where
  /-- A marked section has no status; the excerpt is its first characters. -/
  | missingStatus (excerpt : String)
  /-- The status of a marked section is unknown. -/
  | unknownStatus (status : String)
  /-- A numeric reference is too long. -/
  | numeral (error : NumeralError)
  deriving DecidableEq, Repr

/-- The error in words. -/
def MarkupError.message : MarkupError → String
  | missingStatus excerpt => "expected name token at " ++ Text.quoted excerpt
  | unknownStatus status =>
    "unknown status keyword " ++ Text.quoted status ++ " in marked section"
  | numeral e => e.message

end Letterpress
