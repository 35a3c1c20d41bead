import Letterpress.Number.Scalar

/-!
# Export Settings

## Main definitions

* `Config`: The settings of an export, with their defaults.
* `Config.assetPath`: Where the document finds an asset.
-/

namespace Letterpress

/-- The settings of an export. -/
structure Config (K : Type) [Scalar K] where
  /-- The title of the document. -/
  title : String := "Mailer"
  /-- The language of the document. -/
  htmlLang : String := "en"
  /-- The directory in which the document finds its pictures. -/
  assetDir : String := "./images"
  /-- The scale of pictures that stand for nodes. -/
  rasterScale : K := 2.0
  /-- The scale of pictures that preview links. -/
  previewScale : K := 1.0
  /-- Above this value a channel of a background rectangle is nearly white. -/
  nearWhiteChannel : K := 0.95
  /-- The gap that may lie below a row of the layout summary. -/
  rowTolerance : K := 10.0
  /-- The grid on which table rows are told apart. -/
  rowBucket : K := 5.0
  /-- How far beyond its edge a shape still colors the cells above it. -/
  donorMargin : K := 5.0
  /-- From this brightness on, a shape does not color cells. -/
  nearWhiteBrightness : K := 240.0
  /-- Below this brightness a color is dark. -/
  darkBrightness : K := 128.0
  /-- The color of table headers and borders. -/
  accentColor : String := "#f06522"
  /-- The radius of a table's outer corners. -/
  cornerRadius : Int := 7
  /-- The height that one row of a table takes. -/
  tableRowHeight : Int := 34
  /-- The height that a table takes beyond its rows. -/
  tableBorderOverhead : Int := 14
  /-- Points per pixel. -/
  pxToPt : K := 0.75
  /-- The border of the container that holds all fragments. -/
  containerBorder : Int := 1
  /-- The space below the last fragment. -/
  containerPadding : Int := 10
  /-- The height of a fragment that declares none. -/
  fallbackFragmentHeight : Int := 100
  /-- The width up to which a screen is narrow. -/
  mobileBreakpoint : Int := 480

/-- The path of an asset in the document. -/
def Config.assetPath {K : Type} [Scalar K] (config : Config K) (name : String) : String :=
  let dir := (config.assetDir.toList.reverse.dropWhile (· = '/')).reverse
  String.ofList dir ++ "/" ++ name

end Letterpress
