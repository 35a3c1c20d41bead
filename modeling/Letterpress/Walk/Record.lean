import Letterpress.Fragment
import Letterpress.Storage.Content

/-!
# Records of a Walk

What an export produces beside its document: pictures to be stored with it, and
notes on links and animations for whoever sends the mail.

## Main definitions

* `Asset`, `LinkPlaceholder`, `GifPlaceholder`: The records.
* `Walk`: All that a walk over a frame has produced.
* `Walk.nextName`: The name of the next picture.
-/

namespace Letterpress

/-- A named picture that is stored with the document. -/
structure Asset where
  name : String
  data : Content

/-- A link that is filled in later, with the picture that previews it. -/
structure LinkPlaceholder where
  id : String
  url : String
  previewAssetName : String
  deriving DecidableEq, Repr

/-- An animation that is filled in later. -/
structure GifPlaceholder where
  id : String
  deriving DecidableEq, Repr

/-- All that a walk over a frame has produced so far. -/
structure Walk where
  fragments : List Fragment := []
  background : Background := .none
  assets : List Asset := []
  previews : List Asset := []
  links : List LinkPlaceholder := []
  gifs : List GifPlaceholder := []
  /-- How far the following fragments are shifted down. -/
  offset : Int := 0
  /-- The number of names given to pictures. -/
  named : Nat := 0

namespace Walk

/-- The name of the next picture. All kinds of pictures are counted together. -/
def nextName (w : Walk) (kind : String) : String :=
  kind ++ "-" ++ toString (w.named + 1) ++ ".png"

/-- The next name has been given. -/
def countName (w : Walk) : Walk :=
  { w with named := w.named + 1 }

/-- One more picture to be stored. -/
def addAsset (w : Walk) (asset : Asset) : Walk :=
  { w with assets := w.assets ++ [asset] }

/-- One more link, with the picture that previews it. -/
def addLink (w : Walk) (link : LinkPlaceholder) (preview : Asset) : Walk :=
  { w with links := w.links ++ [link], previews := w.previews ++ [preview] }

/-- One more animation. -/
def addGif (w : Walk) (gif : GifPlaceholder) : Walk :=
  { w with gifs := w.gifs ++ [gif] }

/-- One more fragment, if there is one. -/
def addFragment (w : Walk) (fragment : Option Fragment) : Walk :=
  { w with fragments := w.fragments ++ fragment.toList }

end Walk

end Letterpress
