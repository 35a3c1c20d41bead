/-!
# Fragments

A fragment is a piece of markup with its place on the page, in whole pixels
from the page's top left corner. Later stages move fragments and wrap them,
and never look at their inside to change it.

## Main definitions

* `Fragment`: A piece of markup and its place.
* `Background`: The background of the page.
* `Document.presentationTable`: The start of a table that only lays out.
-/

namespace Letterpress

/-- A piece of markup with its place on the page. -/
structure Fragment where
  markup : String
  left : Int
  top : Int
  width : Int
  height : Int
  linkWrapped : Bool := false
  textAlign : String := "left"
  verticalAlign : String := "top"
  deriving DecidableEq, Repr

/-- The lower edge of a fragment. -/
def Fragment.bottom (f : Fragment) : Int :=
  f.top + f.height

/-- The background of the page. -/
inductive Background where
  | color (hex : String)
  | image (path : String)
  | none
  deriving DecidableEq, Repr

/-- The background as a plain color; pictures fall back to the given one. -/
def Background.colorOr (b : Background) (fallback : String) : String :=
  match b with
  | .color hex => hex
  | _ => fallback

/-- The background as a plain color, white by default. -/
def Background.plainColor (b : Background) : String :=
  b.colorOr "#ffffff"

/-- The path of the picture in the background, empty if there is none. -/
def Background.imagePath : Background → String
  | .image path => path
  | _ => ""

end Letterpress

namespace Letterpress.Document

/-- The start of the tag of a table that only lays out its content. -/
def presentationTable : String :=
  "<table role=\"presentation\" border=\"0\" cellpadding=\"0\" cellspacing=\"0\""

end Letterpress.Document
