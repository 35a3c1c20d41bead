import Letterpress.Config
import Letterpress.Fragment
import Letterpress.Text.Escape

/-!
# Document Shells

What surrounds the content of a mail: the head with its styles, the fixed-width
table for one family of clients, and the background in three notations.

## Main definitions

* `canvas`: Fragments on a relatively positioned area.
* `backgroundStyle`: The background as declarations.
* `vectorBackground`: The background as a vector shape.
* `absoluteDocument`: The document of an absolutely positioned layout.
* `emailDocument`: The document of a table layout.
-/

namespace Letterpress.Document

variable {K : Type} [Scalar K]

/-- Settings that one family of clients reads from a conditional comment. -/
def officeSettings : String :=
  "<!--[if gte mso 9]><xml><o:OfficeDocumentSettings><o:AllowPNG/>"
    ++ "<o:PixelsPerInch>96</o:PixelsPerInch></o:OfficeDocumentSettings></xml><![endif]-->"

/-- The styles of every document. -/
def baseStyles : List String :=
  ["body\x7bmargin:0;padding:0;background-color:transparent;\x7d",
    "table\x7bborder-collapse:collapse;mso-table-lspace:0pt;mso-table-rspace:0pt;\x7d",
    "td\x7bpadding:0;vertical-align:top;\x7d",
    "img\x7b-ms-interpolation-mode:bicubic;border:0;display:block;outline:none;"
      ++ "text-decoration:none;height:auto;\x7d"]

/-- The styles of a document in table layout. -/
def containerStyles : List String :=
  [".email-container span\x7bline-height:1.2 !important;\x7d",
    ".email-container td\x7bpadding-bottom:5px !important;vertical-align:top !important;"
      ++ "text-align:inherit !important;\x7d",
    ".email-container a\x7bdisplay:block !important;text-decoration:none !important;"
      ++ "pointer-events:auto !important;\x7d",
    ".email-container\x7bborder:1px solid #dddddd !important;box-sizing:border-box;\x7d",
    ".email-container td, .email-container table\x7btext-align:inherit !important;"
      ++ "vertical-align:inherit !important;\x7d"]

/-- The start of the vector shape that shows the background. -/
def vectorBackground (width height : Int) (background : Background) : String :=
  "<!--[if gte mso 9]><v:rect xmlns:v=\"urn:schemas-microsoft-com:vml\" fill=\"true\" "
    ++ "stroke=\"false\" style=\"width:" ++ toString width ++ "px;height:" ++ toString height
    ++ "px;\"><v:fill type=\"frame\" src=\"" ++ Text.escapeQuoted background.imagePath
    ++ "\" color=\"" ++ background.plainColor ++ "\"/>"
    ++ "<v:textbox inset=\"0,0,0,0\"><![endif]-->"

/-- The end of the vector shape. -/
def vectorBackgroundEnd : String :=
  "<!--[if gte mso 9]></v:textbox></v:rect><![endif]-->"

/-- Declarations of the background, after the given ones. -/
def backgroundStyle (background : Background) (before : List String) : String :=
  let picture :=
    if background.imagePath.isEmpty then []
    else
      ["background-image:url(" ++ background.imagePath ++ ");",
        "background-position:center center;", "background-repeat:no-repeat;",
        "background-size:cover;"]
  Text.joinWith " " (before ++ ["background-color:" ++ background.plainColor ++ ";"] ++ picture)

/-- A centered body, in a table of fixed width for one family of clients. -/
def centered (width : Int) (body : String) : String :=
  Text.unlines
    ["<center>",
      "<!--[if mso]>" ++ presentationTable ++ " width=\"" ++ toString width
        ++ "\"><tr><td><![endif]-->",
      body, "<!--[if mso]></td></tr></table><![endif]-->", "</center>"]

/-- The rules for narrow screens. -/
def narrowStyles (config : Config K) : String :=
  Text.unlines
    ["@media screen and (max-width:" ++ toString config.mobileBreakpoint ++ "px)\x7b",
      "    .email-container td\x7bpadding:0 10px !important;text-align:center !important;\x7d",
      "    td\x7btext-align:center !important;\x7d",
      "    img\x7bwidth:100% !important;height:auto !important;\x7d", "\x7d"]

/-- The text, or a default if it is empty. -/
def orDefault (s fallback : String) : String :=
  if s.isEmpty then fallback else s

/-- The head of a document. -/
def head (config : Config K) (styles : List String) : String :=
  Text.unlines
    (["<meta charset=\"UTF-8\">",
      "<meta name=\"viewport\" content=\"width=device-width, initial-scale=1.0\">",
      "<meta name=\"x-apple-disable-message-reformatting\">",
      "<title>" ++ Text.escapeQuoted (orDefault config.title "Mailer") ++ "</title>",
      officeSettings, "<style>"] ++ styles ++ [narrowStyles config, "</style>"])

/-- A document with the given body. -/
def document (config : Config K) (body : String) (styles : List String) : String :=
  Text.unlines
    ["<!DOCTYPE html>",
      "<html lang=\"" ++ orDefault config.htmlLang "en" ++ "\" dir=\"ltr\">", "<head>",
      head config styles, "</head>",
      "<body style=\"margin:0; padding:0; background-color:transparent;\">", body, "</body>",
      "</html>"]

/-- The fragments on a relatively positioned area of the given size. -/
def canvasOf (fragments : List Fragment) (width height : Int) : String :=
  "<div style=\"position:relative; width:" ++ toString width ++ "px; height:" ++ toString height
    ++ "px;\">" ++ Text.unlines (fragments.map Fragment.markup) ++ "</div>"

/-- The fragments on an area whose size is rounded to pixels. -/
def canvas (fragments : List Fragment) (width height : K) : Except NumberError String := do
  let w ← Scalar.roundHalfUp width
  let h ← Scalar.roundHalfUp height
  return canvasOf fragments w h

/-- The document of an absolutely positioned layout. -/
def absoluteDocument (config : Config K) (fragments : List Fragment) (width height : K)
    (background : Background) : Except NumberError String := do
  let w ← Scalar.roundHalfUp width
  let h ← Scalar.roundHalfUp height
  let area ← canvas fragments (← Scalar.ofInt? w : K) (← Scalar.ofInt? h : K)
  let cell :=
    "<tr><td background=\"" ++ Text.escapeQuoted background.imagePath ++ "\" bgcolor=\""
      ++ background.plainColor ++ "\" width=\"" ++ toString w ++ "\" height=\"" ++ toString h
      ++ "\" valign=\"top\" style=\"" ++ backgroundStyle background [] ++ "\">"
  let table :=
    Text.unlines
      [presentationTable ++ " width=\"" ++ toString w ++ "\" style=\"width:" ++ toString w
          ++ "px; height:" ++ toString h ++ "px;\">",
        cell, vectorBackground w h background, area, vectorBackgroundEnd, "</td></tr>",
        "</table>"]
  return document config (centered w table) baseStyles

/-- The document of a table layout around its container. -/
def emailDocument (config : Config K) (container : String) (width : K) :
    Except NumberError String := do
  let w ← Scalar.roundHalfUp width
  return document config (centered w container) (baseStyles ++ containerStyles)

end Letterpress.Document
