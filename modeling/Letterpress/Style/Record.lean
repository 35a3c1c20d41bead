import Letterpress.Style.Declaration
import Letterpress.Text.Join

/-!
# Style Records

Each part of a fragment has a fixed set of properties that it may carry. A
record holds them, and is written in the order of its fields with unset ones
left out, so that equal styles have equal text.

## Main definitions

* `css`: Properties and values as an inline style.
* `TableStyle`, `CellStyle`, `BlockStyle`, `SpanStyle`: The records.
-/

namespace Letterpress.Style

/-- The declarations of the properties that are set. -/
def declarations (fields : List (String × Option String)) : List Declaration :=
  fields.filterMap fun (property, value) => value.map fun v => ⟨property, v⟩

/-- The inline style that sets the given properties. -/
def css (fields : List (String × Option String)) : String :=
  Text.joinWith " " ((declarations fields).map fun d => d.css ++ ";")

/-- The style of a fragment's outer table. -/
structure TableStyle where
  position : Option String := none
  left : Option String := none
  top : Option String := none
  width : Option String := none
  height : Option String := none
  borderCollapse : Option String := none
  borderSpacing : Option String := none
  borderRadius : Option String := none
  overflow : Option String := none

/-- The properties of a table style in the order in which they are written. -/
def TableStyle.fields (s : TableStyle) : List (String × Option String) :=
  [("position", s.position), ("left", s.left), ("top", s.top), ("width", s.width),
    ("height", s.height), ("border-collapse", s.borderCollapse),
    ("border-spacing", s.borderSpacing), ("border-radius", s.borderRadius),
    ("overflow", s.overflow)]

/-- The inline style of a table. -/
def TableStyle.css (s : TableStyle) : String :=
  Style.css s.fields

/-- The style of a table cell. -/
structure CellStyle where
  width : Option String := none
  height : Option String := none
  boxSizing : Option String := none
  borderRadius : Option String := none
  background : Option String := none
  backgroundColor : Option String := none
  color : Option String := none
  fontWeight : Option String := none
  border : Option String := none
  padding : Option String := none
  margin : Option String := none
  fontFamily : Option String := none
  fontSize : Option String := none
  textAlign : Option String := none
  whiteSpace : Option String := none
  lineHeight : Option String := none
  msoLineHeightRule : Option String := none

/-- The properties of a cell style in the order in which they are written. -/
def CellStyle.fields (s : CellStyle) : List (String × Option String) :=
  [("width", s.width), ("height", s.height), ("box-sizing", s.boxSizing),
    ("border-radius", s.borderRadius), ("background", s.background),
    ("background-color", s.backgroundColor), ("color", s.color),
    ("font-weight", s.fontWeight), ("border", s.border), ("padding", s.padding),
    ("margin", s.margin), ("font-family", s.fontFamily), ("font-size", s.fontSize),
    ("text-align", s.textAlign), ("white-space", s.whiteSpace),
    ("line-height", s.lineHeight), ("mso-line-height-rule", s.msoLineHeightRule)]

/-- The inline style of a cell. -/
def CellStyle.css (s : CellStyle) : String :=
  Style.css s.fields

/-- The style of the block around a text inside of a table cell. -/
structure BlockStyle where
  padding : Option String := none
  margin : Option String := none
  textAlign : Option String := none
  whiteSpace : Option String := none
  wordWrap : Option String := none
  display : Option String := none
  lineHeight : Option String := none
  msoLineHeightRule : Option String := none

/-- The properties of a block style in the order in which they are written. -/
def BlockStyle.fields (s : BlockStyle) : List (String × Option String) :=
  [("padding", s.padding), ("margin", s.margin), ("text-align", s.textAlign),
    ("white-space", s.whiteSpace), ("word-wrap", s.wordWrap), ("display", s.display),
    ("line-height", s.lineHeight), ("mso-line-height-rule", s.msoLineHeightRule)]

/-- The inline style of a block. -/
def BlockStyle.css (s : BlockStyle) : String :=
  Style.css s.fields

/-- The style of one styled text run. -/
structure SpanStyle where
  fontFamily : Option String := none
  fontSize : Option String := none
  fontWeight : Option String := none
  color : Option String := none
  lineHeight : Option String := none
  textDecoration : Option String := none

/-- The properties of a span style in the order in which they are written. -/
def SpanStyle.fields (s : SpanStyle) : List (String × Option String) :=
  [("font-family", s.fontFamily), ("font-size", s.fontSize), ("font-weight", s.fontWeight),
    ("color", s.color), ("line-height", s.lineHeight), ("text-decoration", s.textDecoration)]

/-- The inline style of a span. -/
def SpanStyle.css (s : SpanStyle) : String :=
  Style.css s.fields

end Letterpress.Style
