import Letterpress.Picture
import Letterpress.Picture.Deflate
import Letterpress.Storage.Content

/-!
# Encoded Pictures

A picture is encoded as a mark and a series of chunks: a header, the pixels, and an
end. The pixels are written line by line and deflated. Each line starts with a
number that says from which neighbors its bytes are predicted; what is written are the
differences.

Pictures are written with four channels of one byte and without predictions. All
pictures are read, except those whose lines are interlaced.

## Main definitions

* `Encoding.encode`: A picture as bytes.
* `Encoding.decode?`: Bytes as a picture.
* `Content.ofFile`, `Content.toFile`: The content of a file from its bytes, and the bytes.
-/

namespace Letterpress.Encoding

open Deflate (bigEndian ofBigEndian)

/-- What all encoded pictures start with. -/
def mark : List UInt8 :=
  [Content.pictureMark, 0x50, 0x4E, 0x47, 0x0D, 0x0A, 0x1A, 0x0A]

/-- A part of an encoded picture. -/
structure Chunk where
  kind : String
  data : List UInt8
  deriving DecidableEq, Repr

namespace Chunk

/-- What the checksum of a chunk is of. -/
def body (c : Chunk) : List UInt8 :=
  Text.encodeUtf8 c.kind ++ c.data

/-- A chunk with its length and its checksum. -/
def bytes (c : Chunk) : List UInt8 :=
  bigEndian 4 c.data.length ++ c.body ++ bigEndian 4 (Checksum.cyclic c.body).toNat

/-- The chunk at the start of bytes, and the bytes after it. -/
def read? (s : List UInt8) : Option (Chunk × List UInt8) := do
  let size := ofBigEndian (s.take 4)
  let body := (s.drop 4).take (4 + size)
  let rest := s.drop (8 + size)
  let kind ← (Text.decodeUtf8 (body.take 4)).toOption
  if ofBigEndian (rest.take 4) = (Checksum.cyclic body).toNat then
    some (⟨kind, body.drop 4⟩, rest.drop 4)
  else none

/-- The chunks before the end, of which there are at most so many. -/
def readAll? : Nat → List UInt8 → Option (List Chunk)
  | 0, _ => none
  | fuel + 1, s => do
    let (chunk, rest) ← read? s
    if chunk.kind = "IEND" then return [] else return chunk :: (← readAll? fuel rest)

end Chunk

/-- How pixels are written: the kind of their channels, and the bits in a channel. -/
structure Format where
  kind : Nat
  depth : Nat
  deriving DecidableEq, Repr

namespace Format

/-- Four channels of one byte. -/
def full : Format := ⟨6, 8⟩

/-- The number of channels. -/
def channels (f : Format) : Nat :=
  match f.kind with
  | 2 => 3
  | 4 => 2
  | 6 => 4
  | _ => 1

/-- Pixels can be written so. -/
def isKnown (f : Format) : Bool :=
  [0, 2, 3, 4, 6].contains f.kind && [1, 2, 4, 8, 16].contains f.depth

/-- The bytes of a line of pixels. -/
def lineBytes (f : Format) (width : Nat) : Nat :=
  (width * f.channels * f.depth + 7) / 8

/-- How far the byte to the left is, from which others are predicted. -/
def reach (f : Format) : Nat :=
  max 1 (f.channels * f.depth / 8)

/-- The numbers that the bits of a byte stand for, the highest bits first. -/
def split (f : Format) (byte : UInt8) : List Nat :=
  (List.range (8 / f.depth)).reverse.map fun i =>
    byte.toNat / Nat.pow 2 (f.depth * i) % Nat.pow 2 f.depth

/-- The numbers in a line. Of two bytes the first one is enough. -/
def samples (f : Format) (line : List UInt8) : List Nat :=
  if f.depth = 16 then
    (line.zipIdx.filter fun (_, i) => i % 2 = 0).map fun (byte, _) => byte.toNat
  else line.flatMap f.split

/-- A number in the range of a channel as one from 0 to 255. -/
def level (f : Format) (n : Nat) : Nat :=
  if f.depth < 8 then n * 255 / (Nat.pow 2 f.depth - 1) else n

end Format

/-- The colors that numbers stand for. -/
abbrev Palette := Array Pixel

/-- The palette in its chunks: three bytes for each color, and how opaque the first ones
    are. -/
def palette (colors opacities : List UInt8) : Palette :=
  let channel (i : Nat) : Nat := (colors[i]?.getD 0).toNat
  ((List.range (colors.length / 3)).map fun i =>
    ⟨channel (3 * i), channel (3 * i + 1), channel (3 * i + 2),
      (opacities[i]?.getD 255).toNat⟩).toArray

/-- The pixel that the numbers in its channels stand for. -/
def pixelOf (f : Format) (p : Palette) : List Nat → Pixel
  | [n] =>
    if f.kind = 3 then p[n]?.getD .clear else ⟨f.level n, f.level n, f.level n, 255⟩
  | [n, alpha] => ⟨f.level n, f.level n, f.level n, f.level alpha⟩
  | [r, g, b] => ⟨f.level r, f.level g, f.level b, 255⟩
  | [r, g, b, alpha] => ⟨f.level r, f.level g, f.level b, f.level alpha⟩
  | _ => .clear

/-- The pixels of a line. -/
def linePixels (f : Format) (p : Palette) (width : Nat) (line : List UInt8) : Array Pixel :=
  let numbers := (f.samples line).toArray
  ((List.range width).map fun x =>
    pixelOf f p ((List.range f.channels).map fun i =>
      numbers[x * f.channels + i]?.getD 0)).toArray

/-- Which of three neighbors is nearest to the sum of two of them without the third. -/
def nearestNeighbor (left above corner : UInt8) : UInt8 :=
  let goal : Int := left.toNat + above.toNat - corner.toNat
  let distance (byte : UInt8) : Nat := (goal - byte.toNat).natAbs
  if distance left ≤ distance above && distance left ≤ distance corner then left
  else if distance above ≤ distance corner then above
  else corner

/-- What a byte is predicted to be. -/
def predicted (filter : UInt8) (left above corner : UInt8) : UInt8 :=
  match filter.toNat with
  | 1 => left
  | 2 => above
  | 3 => ((left.toNat + above.toNat) / 2).toUInt8
  | 4 => nearestNeighbor left above corner
  | _ => 0

/-- A line from its differences and the line above it. -/
def restoredLine (reach : Nat) (filter : UInt8) (above : Array UInt8) (line : List UInt8) :
    Array UInt8 :=
  line.foldl (fun done byte =>
    let back (a : Array UInt8) : UInt8 :=
      if reach ≤ done.size then a[done.size - reach]?.getD 0 else 0
    let guess := predicted filter (back done) (above[done.size]?.getD 0) (back above)
    done.push (byte + guess)) #[]

/-- So many lines from their differences. -/
def restored (f : Format) (width : Nat) :
    Nat → Array UInt8 → List UInt8 → Option (List (List UInt8))
  | 0, _, _ => some []
  | _ + 1, _, [] => none
  | n + 1, above, filter :: data =>
    let size := f.lineBytes width
    let line := restoredLine f.reach filter above (data.take size)
    if line.size < size then none
    else (restored f width n line (data.drop size)).map (line.toList :: ·)

/-- A picture with known pixels. -/
def ofPixels (width height : Nat) (rows : Array (Array Pixel)) : Picture :=
  ⟨width, height, fun x y => ((rows[y.toNat]?.bind fun row => row[x.toNat]?)).getD .clear⟩

/-- The data of the chunks of a kind. -/
def dataOf (chunks : List Chunk) (kind : String) : List UInt8 :=
  (chunks.filter fun c => c.kind = kind).flatMap Chunk.data

/-- A picture from its chunks. -/
def ofChunks? (chunks : List Chunk) : Option Picture := do
  let header := dataOf chunks "IHDR"
  let [depth, kind, _, _, interlaced] := header.drop 8 | none
  let f : Format := ⟨kind.toNat, depth.toNat⟩
  let width := ofBigEndian (header.take 4)
  let height := ofBigEndian ((header.drop 4).take 4)
  if !f.isKnown || interlaced ≠ 0 then none
  let data ← Deflate.unpack? (dataOf chunks "IDAT")
  let lines ← restored f width height #[] data
  let colors := palette (dataOf chunks "PLTE") (dataOf chunks "tRNS")
  return ofPixels width height (lines.map (linePixels f colors width)).toArray

/-- The picture that bytes encode. -/
def decode? (s : List UInt8) : Option Picture :=
  if s.take mark.length = mark then
    (Chunk.readAll? s.length (s.drop mark.length)).bind ofChunks?
  else none

/-- A pixel as bytes. -/
def pixelBytes (p : Pixel) : List UInt8 :=
  [p.red, p.green, p.blue, p.alpha].map Nat.toUInt8

/-- The lines of a picture, each of which starts with the number for no prediction. -/
def lineData (p : Picture) : List UInt8 :=
  p.rows.flatMap fun row => 0 :: row.flatMap pixelBytes

/-- The header of a picture. -/
def header (p : Picture) : Chunk :=
  ⟨"IHDR", bigEndian 4 p.width ++ bigEndian 4 p.height
    ++ [Format.full.depth.toUInt8, Format.full.kind.toUInt8, 0, 0, 0]⟩

/-- A picture as bytes. -/
def encode (p : Picture) : List UInt8 :=
  mark ++ [header p, ⟨"IDAT", Deflate.pack (lineData p)⟩, ⟨"IEND", []⟩].flatMap Chunk.bytes

end Letterpress.Encoding

namespace Letterpress.Content

/-- The content of a file with the given bytes. -/
def ofFile (data : List UInt8) : Content :=
  match Encoding.decode? data with
  | some p => .picture p
  | none => .bytes data

/-- The bytes of a file with the content. -/
def toFile : Content → List UInt8
  | .bytes data => data
  | .picture p => Encoding.encode p

end Letterpress.Content
