import Letterpress.Json.Writer
import Letterpress.Mail.Compose
import Letterpress.Storage.FileTree

/-!
# Storing Mails

A mail is stored as a document with its pictures in directories beside it, and a list
of the links and animations that are still to be filled in.

## Main definitions

* `Mail.documentName`: The name of the document's file.
* `Mail.placeholders`: The list of links and animations.
* `Mail.store`: Storing a mail in a directory.
-/

namespace Letterpress

/-- A link as structured data. -/
def LinkPlaceholder.json (l : LinkPlaceholder) : Json :=
  .obj [("id", .str l.id), ("originalUrl", .str l.url),
    ("previewAssetName", .str l.previewAssetName)]

/-- An animation as structured data. -/
def GifPlaceholder.json (g : GifPlaceholder) : Json :=
  .obj [("id", .str g.id)]

namespace Mail

/-- The first text that is not empty. -/
def firstNonempty : List String → String
  | [] => ""
  | s :: rest => if s.isEmpty then firstNonempty rest else s

/-- The name of the document's file: a given one, the name of the frame, or a default. -/
def documentName (m : Mail) (given : Option String) : String :=
  firstNonempty [given.getD "", m.fileName, "export"] ++ ".html"

/-- The list of links and animations. -/
def placeholders (m : Mail) : Json :=
  .obj [("linkPlaceholders", .arr (m.links.map LinkPlaceholder.json)),
    ("gifPlaceholders", .arr (m.gifs.map GifPlaceholder.json))]

/-- Stores pictures in a directory. -/
def storeAssets (directory : Path) : List Asset → Filing Unit
  | [] => return
  | asset :: rest => do
    Filing.write (directory.join (.ofText asset.name)) asset.data
    storeAssets directory rest

/-- Stores pictures in a new or existing directory, unless there are none. -/
def storePictures (directory : Path) (assets : List Asset) : Filing Unit := do
  if assets.isEmpty then return
  Filing.ensureDirectory directory
  storeAssets directory assets

/-- Stores a mail in a directory; the path of its document. -/
def store (m : Mail) (directory : Path) (given : Option String) : Filing Path := do
  Filing.ensureDirectories directory
  let document := directory.join (.ofText (m.documentName given))
  Filing.write document (.ofText m.html)
  storePictures (directory.join (.ofText "images")) m.assets
  storePictures (directory.join (.ofText "previews")) m.previews
  let list := Json.pretty .ascii m.placeholders
  Filing.write (directory.join (.ofText "placeholders.json")) (.ofText list)
  return document

end Mail

end Letterpress
