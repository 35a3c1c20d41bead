import Letterpress.Config
import Letterpress.Design.Part
import Letterpress.Render.Placement
import Letterpress.Session
import Letterpress.Text.Casing
import Letterpress.Text.Escape
import Letterpress.Text.Join

/-!
# Texts

A text becomes a row of styled spans, one for every run that covers characters. The
spans stand in a table of their own, or in a block inside of a table cell.

Fonts are asked for before a text is written. A font that cannot be had changes
nothing in the markup, since every span names fallbacks.

## Main definitions

* `alignment`, `lineHeightCss`, `paragraphLineHeight`: How a text is set.
* `span`, `spans`: The runs of a text.
* `fonts`, `loadFonts`: The fonts of a text.
* `textBlock`: A text inside of a table cell.
* `text`: The fragment that shows a text.
-/

namespace Letterpress.Render

variable {K : Type} [Scalar K]

/-- How a text is aligned; to the left if its alignment is unknown. -/
def alignment (body : TextBody K) : String :=
  match Text.upperString body.align with
  | "CENTER" => "center"
  | "RIGHT" => "right"
  | "JUSTIFIED" => "justify"
  | _ => "left"

/-- The fonts that are used where a text's own font is not available. -/
def fallbackFonts : String :=
  "Arial, Verdana, sans-serif"

/-- A text decoration as a declared value. -/
def decorationCss : TextDecoration → Option String
  | .underline => some "underline"
  | .strikethrough => some "line-through"
  | .none => none

/-- A line height as a declared value. -/
def lineHeightCss (h : LineHeight K) : Except NumberError (Option String) :=
  match h.unit with
  | .pixels => some <$> Style.pixels h.value
  | .percent => return some (Scalar.format h.value ++ "%")
  | .auto => return none

/-- The line height of a whole text, and the rule that one family of clients needs
    with heights in pixels. -/
def paragraphLineHeight (body : TextBody K) :
    Except NumberError (Option String × Option String) :=
  match body.lineHeight with
  | none => return (none, none)
  | some h => do
    let css ← lineHeightCss h
    return (css, if h.unit = .pixels then some "exactly" else none)

/-- The style of a run. -/
def spanStyle (config : Config K) (run : TextRun K) : Except NumberError Style.SpanStyle := do
  let color ← (run.fills.head?.bind Paint.color?).mapM Style.hex
  let lineHeight ← lineHeightCss run.lineHeight
  return {
    fontFamily := some ("'" ++ run.font.family ++ "', " ++ fallbackFonts)
    fontSize := some (Style.points run.fontSize config.pxToPt)
    fontWeight := some (toString run.fontWeight)
    color
    lineHeight
    textDecoration := decorationCss run.decoration }

/-- How a span writes one character. -/
def spanCharacter : Char → String
  | '\n' => "<br>"
  | c => Text.textReference c

/-- A run of a text as a span; nothing if it covers no characters. -/
def span (config : Config K) (characters : String) (run : TextRun K) :
    Except NumberError String := do
  let covered := Text.slice run.first run.last characters.toList
  if covered = [] then return ""
  let style ← spanStyle config run
  return "<span style=\"" ++ style.css ++ "\">"
    ++ Text.replaceChars spanCharacter (String.ofList covered) ++ "</span>"

/-- The runs of a text as spans. -/
def spans (config : Config K) (body : TextBody K) : Except NumberError String := do
  return Text.concat (← body.runs.mapM (span config body.characters))

/-- The fonts of a text in the order of their first use. -/
def fonts (body : TextBody K) : List FontName :=
  (body.runs.map TextRun.font).eraseDups

variable {ω : Type}

/-- Asks for fonts; those that cannot be had. -/
def missingFonts (host : Host ω K) : List FontName → Task ω K (List FontName)
  | [] => return []
  | font :: rest => do
    let outcome ← (Task.ask (.loadFont font) (host.loadFont font)).attempt
    let missing ← missingFonts host rest
    return match outcome with
      | .ok _ => missing
      | .error _ => font :: missing

/-- Asks for all fonts of a text. All of them can be had, or a warning tells which
    ones cannot. -/
def loadFonts (host : Host ω K) (body : TextBody K) : Task ω K Bool := do
  let missing ← missingFonts host (fonts body)
  if missing = [] then return true
  let names := missing.map fun font => font.family ++ " " ++ font.style
  Task.warn ("Could not load some fonts (" ++ Text.joinWith ", " names ++ "). Using fallbacks.")
  return false

/-- The runs of a text as spans, after asking for their fonts. -/
def loadedSpans (host : Host ω K) (config : Config K) (body : TextBody K) :
    Task ω K String := do
  let _ ← loadFonts host body
  spans config body

/-- A text inside of a table cell. -/
def textBlock (host : Host ω K) (config : Config K) (body : TextBody K) : Task ω K String := do
  let content ← loadedSpans host config body
  let (lineHeight, msoLineHeightRule) ← paragraphLineHeight body
  let style : Style.BlockStyle :=
    { padding := some "0", margin := some "0", textAlign := some (alignment body),
      whiteSpace := some "normal", wordWrap := some "break-word",
      display := some "inline-block", lineHeight, msoLineHeightRule }
  return "<div style=\"" ++ style.css ++ "\">" ++ content ++ "</div>"

/-- The fragment that shows a text; none if its bounds are unknown. -/
def text (host : Host ω K) (config : Config K) (node : Node K) (x y : K) :
    Task ω K (Option Fragment) :=
  match node.bounds with
  | none => return none
  | some box => do
    let body ← node.textBody
    let content ← loadedSpans host config body
    let (lineHeight, msoLineHeightRule) ← paragraphLineHeight body
    let style : Style.CellStyle :=
      { padding := some "0", margin := some "0", textAlign := some (alignment body),
        whiteSpace := some "nowrap", lineHeight, msoLineHeightRule }
    return some (← placedFragment x y box.width box.height (singleCell style content))

end Letterpress.Render
