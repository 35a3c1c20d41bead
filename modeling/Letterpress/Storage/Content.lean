import Letterpress.Picture
import Letterpress.Text.Utf8

/-!
# Contents

What a file or an asset holds: bytes, or a picture in its usual encoding. The
encoding of pictures is left open; all that is known of it is how it starts,
which is enough to tell that it is no text.

## Main definitions

* `Content`: What a file holds.
* `Content.ofText`, `Content.text`: Contents as text.
-/

namespace Letterpress

/-- What a file holds. -/
inductive Content where
  | bytes (data : List UInt8)
  | picture (picture : Picture)

namespace Content

/-- A text as the content of a file. -/
def ofText (s : String) : Content :=
  .bytes (Text.encodeUtf8 s)

/-- The first byte of every encoded picture. -/
def pictureMark : UInt8 := 0x89

/-- The content read as text. -/
def text : Content → Except Utf8Error String
  | .bytes data => Text.decodeUtf8 data
  | .picture _ => Text.decodeUtf8 [pictureMark]

end Content

end Letterpress
