import Letterpress.Design.Node
import Letterpress.Fault
import Letterpress.Json.Reader
import Letterpress.Text.Casing
import Letterpress.Text.Numeral

/-!
# Reading Designs

Design trees from structured data. What only affects the looks of a node is read
tolerantly: paints of unknown types are dropped, malformed numbers give way to
defaults, and malformed bounds leave a node without bounds.

A few values are not tolerated: whole numbers beyond all floating point numbers,
infinite offsets of text runs, and styles and fonts that are not objects.

## Main definitions

* `readReal`, `readWhole`: Numbers with defaults.
* `readPaints`, `readBounds`, `readStroke`, `readCornerRadius`: Looks.
* `readRuns`: The styled runs of a text.
* `readNode`: A design tree.
-/

namespace Letterpress.Design

/-- The members of an object in a design file. -/
abbrev Members := List (String × Json)

/-- The value of a member, a default if it is missing. -/
def memberOr (members : Members) (name : String) (default : Json) : Json :=
  (members.lookup name).getD default

/-- The value of a member, null if it is missing. -/
def memberOf (members : Members) (name : String) : Json :=
  memberOr members name .null

/-- A member as text. -/
def textOf (members : Members) (name default : String) : String :=
  (memberOr members name (.str default)).display

/-- A member as text in upper case. -/
def keywordOf (members : Members) (name default : String) : String :=
  Text.upperString (textOf members name default)

/-- The floating point number that a numeral denotes. -/
def floatOfNumeral : Text.Numeral → Float
  | .decimal negative digits exponent => floatOfDecimal negative digits exponent
  | .infinite negative => if negative then -1.0 / 0.0 else 1.0 / 0.0
  | .undefined => 0.0 / 0.0

/-- A value as a floating point number, if it can be one. A whole number beyond all
    of them is an error. -/
def toReal? : Json → Except NumberError (Option Float)
  | .bool b => return some (if b then 1.0 else 0.0)
  | .int n => return some (← Scalar.ofInt? n)
  | .real x => return some x
  | .str s => return (Text.readNumeral? s.toList).map floatOfNumeral
  | _ => return none

/-- The whole part of a floating point number, unless it is not a number. An
    infinity is an error. -/
def wholePart? (x : Float) : Except NumberError (Option Int) :=
  match floatReading x with
  | .exact q => return some (if q < 0 then q.ceil else q.floor)
  | .undefined => return none
  | .infinite _ => throw .infinite

/-- A value as a whole number, if it can be one. -/
def toWhole? : Json → Except NumberError (Option Int)
  | .bool b => return some (if b then 1 else 0)
  | .int n => return some n
  | .real x => wholePart? x
  | .str s => return Text.readInteger? 10 s.toList
  | _ => return none

/-- A number, or a default if the value is malformed. -/
def readReal (j : Json) (default : Float) : Except NumberError Float := do
  return (← toReal? j).getD default

/-- A whole number, or a default if the value is malformed. -/
def readWhole (j : Json) (default : Int) : Except NumberError Int := do
  return (← toWhole? j).getD default

/-- The numbers that an object holds under the given names, unless one of them is
    missing or malformed. -/
def readNumbers? (j : Json) : List String → Except NumberError (Option (List Float))
  | [] => return some []
  | name :: names =>
    match j.get? name with
    | none => return none
    | some value => do
      match ← toReal? value with
      | none => return none
      | some x => return (← readNumbers? j names).map (x :: ·)

/-- The bounds of a node; none if they are missing or malformed. -/
def readBounds (j : Json) : Except NumberError (Option (Rect Float)) := do
  match ← readNumbers? j ["x", "y", "width", "height"] with
  | some [x, y, w, h] => return some ⟨x, y, w, h⟩
  | _ => return none

/-- A color; none if a channel is missing or malformed. -/
def readColor (j : Json) : Except NumberError (Option (Rgb Float)) := do
  match ← readNumbers? j ["r", "g", "b"] with
  | some [r, g, b] => return some ⟨r, g, b⟩
  | _ => return none

/-- The first of two values that counts as present. -/
def firstTruthy (a b : Json) : Json :=
  if a.truthy then a else b

/-- The value is the boolean `false`. -/
def isFalse : Json → Bool
  | .bool b => !b
  | _ => false

/-- A paint; none if it is invisible or of an unknown type. -/
def readPaint : Json → Except NumberError (Option (Paint Float))
  | .obj members => do
    if isFalse (memberOf members "visible") then return none
    let kind := keywordOf members "type" ""
    let opacity ← readReal (memberOf members "opacity") 1.0
    if kind = "SOLID" then
      return (← readColor (memberOf members "color")).map fun c => .solid c opacity
    else if kind = "IMAGE" then
      let ref := firstTruthy (memberOf members "imageRef") (memberOf members "imageHash")
      return if ref.truthy then some (.image ref.display opacity) else none
    else return none
  | _ => return none

/-- The items of a list; other values have none. -/
def itemsOf : Json → List Json
  | .arr items => items
  | _ => []

/-- The paints in a list that can be shown. -/
def readPaints (j : Json) : Except NumberError (List (Paint Float)) := do
  return (← (itemsOf j).mapM readPaint).filterMap id

/-- The outline of a shape: its first stroke. -/
def readStroke (members : Members) : Except NumberError (Option (Stroke Float)) := do
  match ← readPaints (memberOf members "strokes") with
  | [] => return none
  | paint :: _ => return some ⟨paint, ← readReal (memberOf members "strokeWeight") 1.0⟩

/-- The corners of a shape: four radii, or one for all. -/
def readCornerRadius (members : Members) : Except NumberError (Option (CornerRadius Float)) := do
  match memberOf members "rectangleCornerRadii" with
  | .arr [a, b, c, d] =>
    let topLeft ← readReal a 0.0
    let topRight ← readReal b 0.0
    let bottomRight ← readReal c 0.0
    let bottomLeft ← readReal d 0.0
    return some ⟨topLeft, topRight, bottomRight, bottomLeft, true⟩
  | _ =>
    match memberOf members "cornerRadius" with
    | .bool b => return some (.uniform (if b then 1.0 else 0.0))
    | .int n => return some (.uniform (← Scalar.ofInt? n))
    | .real x => return some (.uniform x)
    | _ => return none

/-- A line height; none if it has no known unit. -/
def readLineHeight : Json → Except NumberError (Option (LineHeight Float))
  | .obj members =>
    match LineHeightUnit.ofName? (keywordOf members "unit" "AUTO") with
    | some unit => do return some ⟨unit, ← readReal (memberOf members "value") 0.0⟩
    | none => return none
  | _ => return none

/-- A text decoration; none if it is unknown. -/
def readDecoration (j : Json) : TextDecoration :=
  let name := if j.truthy then Text.upperString j.display else "NONE"
  (TextDecoration.ofName? name).getD .none

/-- The members of an object that may be left out. Values that count as missing have
    none; any other value is an error. -/
def optionalMembers (j : Json) : Except Fault Members :=
  match j with
  | .obj members => return members
  | _ => if j.truthy then throw (.missingPart j.typeName "get") else return []

/-- The line height in a style, as an object with a unit and a value. -/
def styleLineHeight (style : Members) : Json :=
  let unit := keywordOf style "lineHeightUnit" "PIXELS"
  let height (unit : String) (name : String) : Option Json :=
    (style.lookup name).map fun value => .obj [("unit", .str unit), ("value", value)]
  if unit = "PIXELS" then (height "PIXELS" "lineHeightPx").getD .null
  else if unit = "FONT_SIZE_%" then (height "PERCENT" "lineHeightPercentFontSize").getD .null
  else .null

/-- The single run of a text that has no runs of its own: all characters in the
    node's style. -/
def wholeTextSegment (members style : Members) (length : Nat) : Json :=
  .obj [("start", .int 0), ("end", .int length),
    ("fontName", .obj [("family", memberOr style "fontFamily" (.str "Inter")),
      ("style", memberOr style "fontStyle" (.str "Regular"))]),
    ("fontWeight", memberOr style "fontWeight" (.int 400)),
    ("fontSize", memberOr style "fontSize" (.int 16)),
    ("fills", memberOf members "fills"), ("lineHeight", styleLineHeight style),
    ("textDecoration", memberOf style "textDecoration")]

/-- A run of a text with the given number of characters. -/
def readRun (segment : Members) (length : Nat) : Except Fault (TextRun Float) := do
  let font := memberOf segment "fontName"
  let first ← readWhole (memberOf segment "start") 0
  let last ← readWhole (memberOf segment "end") length
  let font ← optionalMembers font
  let fontWeight ← readWhole (memberOf segment "fontWeight") 400
  let fontSize ← readReal (memberOf segment "fontSize") 16.0
  let fills ← readPaints (memberOf segment "fills")
  let lineHeight ← readLineHeight (memberOf segment "lineHeight")
  return {
    first
    last
    font := ⟨textOf font "family" "Inter", textOf font "style" "Regular"⟩
    fontWeight
    fontSize
    fills
    lineHeight := lineHeight.getD ⟨.auto, 0.0⟩
    decoration := readDecoration (memberOf segment "textDecoration") }

/-- The runs of a text with the given number of characters. Segments that are not
    objects are passed over. -/
def readRuns (members : Members) (length : Nat) : Except Fault (List (TextRun Float)) := do
  let segments ← match itemsOf (memberOf members "styledTextSegments") with
    | [] => do
      let style ← optionalMembers (memberOf members "style")
      pure [wholeTextSegment members style length]
    | segments => pure segments
  let runs ← segments.mapM fun
    | .obj segment => some <$> readRun segment length
    | _ => pure none
  return runs.filterMap id

/-- A text and its style. -/
def readText (members : Members) : Except Fault (TextBody Float) := do
  let characters := textOf members "characters" ""
  let declared := memberOf members "lineHeight"
  let lineHeight ←
    if declared.truthy then pure declared
    else styleLineHeight <$> optionalMembers (memberOf members "style")
  let runs ← readRuns members characters.length
  return {
    characters
    runs
    align := keywordOf members "textAlignHorizontal" "LEFT"
    lineHeight := ← readLineHeight lineHeight }

/-- What a node has in common with all others. -/
def readCommon (members : Members) : Except NumberError (Common Float) := do
  let bounds ← readBounds (memberOf members "absoluteBoundingBox")
  let fills ← readPaints (memberOf members "fills")
  return {
    id := textOf members "id" ""
    name := textOf members "name" ""
    visible := (memberOr members "visible" (.bool true)).truthy
    bounds
    fills }

/-- A node without children. -/
def readLeaf (kind : String) (common : Common Float) (members : Members) :
    Except Fault (Node Float) := do
  if kind = "TEXT" then return .text common (← readText members)
  match ShapeKind.ofName? kind with
  | some shape =>
    let stroke ← readStroke members
    return .shape common ⟨shape, stroke, ← readCornerRadius members⟩
  | none => return .image common (if kind.isEmpty then "IMAGE" else kind)

mutual

/-- The design tree that a value describes. -/
def readNode : Json → Except Fault (Node Float)
  | .obj members => do
    let kind := keywordOf members "type" ""
    let common ← readCommon members
    match ContainerKind.ofName? kind with
    | some k => return .container common k (← readChildren members)
    | none => readLeaf kind common members
  | j => throw (.notANode (String.ofList (j.inspect.toList.take 80)))

/-- The children among the members of a container. -/
def readChildren : List (String × Json) → Except Fault (List (Node Float))
  | [] => return []
  | (name, value) :: rest => if name = "children" then readList value else readChildren rest

/-- The nodes in a list; other values hold none. -/
def readList : Json → Except Fault (List (Node Float))
  | .arr items => readNodes items
  | _ => return []

/-- The nodes that values describe. -/
def readNodes : List Json → Except Fault (List (Node Float))
  | [] => return []
  | j :: rest => do return (← readNode j) :: (← readNodes rest)

end

end Letterpress.Design
