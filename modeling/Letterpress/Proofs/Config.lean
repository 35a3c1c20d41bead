import Letterpress.Config
import Letterpress.Fragment
import Letterpress.Proofs.Text.Inert

/-!
# Plain Settings

Some settings are written into the document as they are, and so is the background of a
page. Plain ones are inert.

## Main definitions

* `Config.IsPlain`: The settings that are written unescaped are inert.
* `Background.IsPlain`: The color or the path of a background is inert.

## Theorems

* `isPlain_default`: The default settings are plain.
* `assetPath_inert`: The paths of pictures.
-/

namespace Letterpress

open Text (IsInert)

variable {K : Type} [Scalar K]

/-- The settings that are written into the document as they are hold no markup. -/
structure Config.IsPlain (config : Config K) : Prop where
  htmlLang : IsInert config.htmlLang
  assetDir : IsInert config.assetDir
  accentColor : IsInert config.accentColor

theorem isPlain_default : ({} : Config K).IsPlain := by
  refine ⟨?_, ?_, ?_⟩
  · change IsInert "en"
    decide
  · change IsInert "./images"
    decide
  · change IsInert "#f06522"
    decide

/-- The color or the path of the background holds no markup. -/
structure Background.IsPlain (background : Background) : Prop where
  color : IsInert background.plainColor
  path : IsInert background.imagePath

theorem isPlain_color {hex : String} (h : IsInert hex) : (Background.color hex).IsPlain :=
  ⟨h, by change IsInert ""; decide⟩

theorem isPlain_image {path : String} (h : IsInert path) : (Background.image path).IsPlain :=
  ⟨by change IsInert "#ffffff"; decide, h⟩

theorem isPlain_none : Background.none.IsPlain :=
  ⟨by change IsInert "#ffffff"; decide, by change IsInert ""; decide⟩

/-- The path of a picture with an inert name. -/
theorem assetPath_inert {config : Config K} (h : config.IsPlain) {name : String}
    (hname : IsInert name) : IsInert (config.assetPath name) := by
  rw [Config.assetPath, Text.isInert_append, Text.isInert_append, Text.isInert_ofList]
  refine ⟨⟨fun c hc => ?_, by decide⟩, hname⟩
  rw [List.mem_reverse] at hc
  exact h.assetDir c (List.mem_reverse.mp (List.dropWhile_subset _ hc))

end Letterpress
