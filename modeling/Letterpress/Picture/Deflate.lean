/-!
# Deflated Data

Data is deflated into blocks. A block is stored as it is, or it is a series of symbols
with codes of different lengths. A symbol is a byte, or tells how much of what came
before is to be repeated and how far back it is.

What is written here is stored as it is. All that can be written is read. Beside the data
stand its checksums.

## Main definitions

* `Checksum.cyclic`: The remainder of the data as a polynomial over two elements.
* `Checksum.weighted`: A sum of the bytes, and the sum of all such sums on the way.
* `Deflate.BitReader`: A reader that takes bits, and fails where there are no more.
* `Deflate.Code`: Symbols with codes of different lengths.
* `Deflate.inflate?`: Reading deflated data.
* `Deflate.stored`: Writing data as it is.
* `Deflate.pack`, `Deflate.unpack?`: The same with the header and the checksum around.
-/

namespace Letterpress.Checksum

/-- The polynomial that divides, with its lowest power first. -/
def divisor : UInt32 := 0xEDB88320

/-- A remainder after so many more places. -/
def shifted : Nat → UInt32 → UInt32
  | 0, r => r
  | n + 1, r => shifted n (if r &&& 1 = 1 then (r >>> 1) ^^^ divisor else r >>> 1)

/-- The checksum by division. -/
def cyclic (data : List UInt8) : UInt32 :=
  data.foldl (fun r byte => shifted 8 (r ^^^ byte.toUInt32)) 0xFFFFFFFF ^^^ 0xFFFFFFFF

/-- The number by which sums are reduced: the greatest prime with sixteen digits in base
    two. -/
def modulus : Nat := 65521

/-- The sum of bytes, and the sum of all sums on the way. -/
def sums (data : List UInt8) : Nat × Nat :=
  data.foldl (fun (a, b) byte =>
    let a := (a + byte.toNat) % modulus
    (a, (b + a) % modulus)) (1, 0)

/-- The checksum by sums. -/
def weighted (data : List UInt8) : Nat :=
  let (a, b) := sums data
  65536 * b + a

end Letterpress.Checksum

namespace Letterpress.Deflate

/-- A reader of bits, from the lowest bit of each byte to the highest. -/
abbrev BitReader := ReaderT ByteArray (StateT Nat Option)

/-- The next bit. -/
def bit : BitReader Nat := fun data position =>
  data[position / 8]?.map fun byte => (byte.toNat / Nat.pow 2 (position % 8) % 2, position + 1)

/-- The next bits as a number, the lowest bit first. -/
def bits : Nat → BitReader Nat
  | 0 => return 0
  | n + 1 => do
    let low ← bit
    return low + 2 * (← bits n)

/-- Goes on to the next whole byte. -/
def align : BitReader Unit :=
  modify fun position => (position + 7) / 8 * 8

/-- The number in a list at a place. -/
def entryOf (table : List Nat) (i : Nat) : BitReader Nat :=
  fun _ position => table[i]?.map fun n => (n, position)

/-- Symbols with codes: how many codes there are of each length from one on, and the
    symbols by the order of their codes. -/
structure Code where
  counts : List Nat
  symbols : Array Nat

namespace Code

/-- The greatest length of a code. -/
def longest : Nat := 15

/-- The numbers with a length. -/
def withLength (lengths : List Nat) (n : Nat) : List Nat :=
  lengths.zipIdx.filterMap fun (length, i) => if length = n then some i else none

/-- The code in which the symbols have given lengths. A symbol of length zero has no
    code. -/
def ofLengths (lengths : List Nat) : Code :=
  let sizes := List.range' 1 longest
  { counts := sizes.map lengths.count
    symbols := (sizes.flatMap (withLength lengths)).toArray }

/-- Finds a symbol bit by bit. Of the codes of each length it is known which is the
    first one, and how many symbols have shorter codes. -/
def find (symbols : Array Nat) : List Nat → Nat → Nat → Nat → BitReader Nat
  | [], _, _, _ => failure
  | count :: rest, code, first, shorter => do
    let code := code + (← bit)
    if code < first + count then
      match symbols[shorter + (code - first)]? with
      | some symbol => return symbol
      | none => failure
    else find symbols rest (2 * code) (2 * (first + count)) (shorter + count)

/-- The next symbol. -/
def next (c : Code) : BitReader Nat :=
  find c.symbols c.counts 0 0 0

end Code

/-- The shortest repeats that the symbols above the end of a block stand for. -/
def repeatLengths : List Nat :=
  [3, 4, 5, 6, 7, 8, 9, 10, 11, 13, 15, 17, 19, 23, 27, 31, 35, 43, 51, 59, 67, 83, 99, 115,
    131, 163, 195, 227, 258]

/-- How many bits say how much longer a repeat is. -/
def repeatExtras : List Nat :=
  [0, 0, 0, 0, 0, 0, 0, 0, 1, 1, 1, 1, 2, 2, 2, 2, 3, 3, 3, 3, 4, 4, 4, 4, 5, 5, 5, 5, 0]

/-- The shortest distances that symbols stand for. -/
def distances : List Nat :=
  [1, 2, 3, 4, 5, 7, 9, 13, 17, 25, 33, 49, 65, 97, 129, 193, 257, 385, 513, 769, 1025, 1537,
    2049, 3073, 4097, 6145, 8193, 12289, 16385, 24577]

/-- How many bits say how much longer a distance is. -/
def distanceExtras : List Nat :=
  [0, 0, 0, 0, 1, 1, 2, 2, 3, 3, 4, 4, 5, 5, 6, 6, 7, 7, 8, 8, 9, 9, 10, 10, 11, 11, 12, 12,
    13, 13]

/-- The number that a symbol and the bits after it stand for. -/
def extended (bases extras : List Nat) (i : Nat) : BitReader Nat := do
  return (← entryOf bases i) + (← bits (← entryOf extras i))

/-- Repeats bytes from so far back, one by one. -/
def repeatBytes (distance : Nat) : Nat → ByteArray → BitReader ByteArray
  | 0, out => return out
  | n + 1, out =>
    if distance ≤ out.size then
      match out[out.size - distance]? with
      | some byte => repeatBytes distance n (out.push byte)
      | none => failure
    else failure

/-- The symbol that ends a block. -/
def endOfBlock : Nat := 256

/-- The bytes of a block of symbols, of which there are at most so many. -/
def readSymbols (literals distanceCode : Code) : Nat → ByteArray → BitReader ByteArray
  | 0, _ => failure
  | fuel + 1, out => do
    let symbol ← literals.next
    if symbol < endOfBlock then readSymbols literals distanceCode fuel (out.push symbol.toUInt8)
    else if symbol = endOfBlock then return out
    else
      let length ← extended repeatLengths repeatExtras (symbol - endOfBlock - 1)
      let distance ← extended distances distanceExtras (← distanceCode.next)
      readSymbols literals distanceCode fuel (← repeatBytes distance length out)

/-- So many bytes. -/
def readBytes : Nat → ByteArray → BitReader ByteArray
  | 0, out => return out
  | n + 1, out => do readBytes n (out.push (← bits 8).toUInt8)

/-- The bytes of a block that is stored as it is. -/
def readStored (out : ByteArray) : BitReader ByteArray := do
  align
  let length ← bits 16
  let complement ← bits 16
  if length + complement = 65535 then readBytes length out else failure

/-- The code of bytes and repeats in a block without a code of its own. -/
def fixedLiterals : Code :=
  .ofLengths (.replicate 144 8 ++ .replicate 112 9 ++ .replicate 24 7 ++ .replicate 8 8)

/-- The code of distances in a block without a code of its own. -/
def fixedDistances : Code :=
  .ofLengths (.replicate 30 5)

/-- The order in which the lengths for the code of lengths are written. -/
def lengthOrder : List Nat :=
  [16, 17, 18, 0, 8, 7, 9, 6, 10, 5, 11, 4, 12, 3, 13, 2, 14, 1, 15]

/-- So many lengths of three bits. -/
def readShortLengths : Nat → BitReader (List Nat)
  | 0 => return []
  | n + 1 => do
    let length ← bits 3
    return length :: (← readShortLengths n)

/-- The code of lengths, from the lengths in the order in which they are written. -/
def lengthCode (written : List Nat) : Code :=
  .ofLengths ((List.range 19).map fun symbol =>
    ((lengthOrder.zip written).lookup symbol).getD 0)

/-- Lengths until there are so many, in at most so many steps. The list grows at its
    front. -/
def readLengths (code : Code) (total : Nat) : Nat → List Nat → BitReader (List Nat)
  | 0, known => if known.length = total then return known.reverse else failure
  | fuel + 1, known => do
    if total ≤ known.length then readLengths code total 0 known
    else
      match ← code.next, known with
      | 16, [] => failure
      | 16, last :: _ =>
        readLengths code total fuel (.replicate (3 + (← bits 2)) last ++ known)
      | 17, _ => readLengths code total fuel (.replicate (3 + (← bits 3)) 0 ++ known)
      | 18, _ => readLengths code total fuel (.replicate (11 + (← bits 7)) 0 ++ known)
      | length, _ => readLengths code total fuel (length :: known)

/-- The codes that a block starts with. -/
def readCodes : BitReader (Code × Code) := do
  let literals := 257 + (← bits 5)
  let distances := 1 + (← bits 5)
  let written ← readShortLengths (4 + (← bits 4))
  let total := literals + distances
  let lengths ← readLengths (lengthCode written) total total []
  return (.ofLengths (lengths.take literals), .ofLengths (lengths.drop literals))

/-- The bytes of a block of the given kind. -/
def readBlock (kind : Nat) (out : ByteArray) : BitReader ByteArray := do
  let fuel := 8 * (← read).size
  match kind with
  | 0 => readStored out
  | 1 => readSymbols fixedLiterals fixedDistances fuel out
  | 2 =>
    let (literals, distanceCode) ← readCodes
    readSymbols literals distanceCode fuel out
  | _ => failure

/-- The bytes of all blocks, of which there are at most so many. -/
def readBlocks : Nat → ByteArray → BitReader ByteArray
  | 0, _ => failure
  | fuel + 1, out => do
    let isLast := (← bit) = 1
    let out ← readBlock (← bits 2) out
    if isLast then return out else readBlocks fuel out

/-- Deflated data from a byte on, and how many bytes are read then. -/
def inflate? (data : ByteArray) (first : Nat) : Option (ByteArray × Nat) := do
  let (out, position) ← readBlocks (8 * data.size) ByteArray.empty data (8 * first)
  return (out, (position + 7) / 8)

/-- A number as so many bytes, the lowest one first. -/
def littleEndian : Nat → Nat → List UInt8
  | 0, _ => []
  | n + 1, k => k.toUInt8 :: littleEndian n (k / 256)

/-- A number as so many bytes, the highest one first. -/
def bigEndian (n k : Nat) : List UInt8 :=
  (littleEndian n k).reverse

/-- The number that bytes stand for, the highest one first. -/
def ofBigEndian (bytes : List UInt8) : Nat :=
  bytes.foldl (fun k byte => 256 * k + byte.toNat) 0

/-- A block that is stored as it is. -/
def storedBlock (isLast : Bool) (data : List UInt8) : List UInt8 :=
  (if isLast then 1 else 0)
    :: littleEndian 2 data.length ++ littleEndian 2 (65535 - data.length) ++ data

/-- Data as blocks that are stored as they are, in at most so many more blocks than
    one. -/
def storedBlocks : Nat → List UInt8 → List UInt8
  | 0, data => storedBlock true data
  | more + 1, data =>
    if data.length ≤ 65535 then storedBlock true data
    else storedBlock false (data.take 65535) ++ storedBlocks more (data.drop 65535)

/-- Data as blocks that are stored as they are. -/
def stored (data : List UInt8) : List UInt8 :=
  storedBlocks (data.length / 65535) data

/-- Deflated data between its header and its checksum. -/
def pack (data : List UInt8) : List UInt8 :=
  [0x78, 0x01] ++ stored data ++ bigEndian 4 (Checksum.weighted data)

/-- Data that is deflated between its header and its checksum. -/
def unpack? (packed : List UInt8) : Option (List UInt8) := do
  let (out, read) ← inflate? ⟨packed.toArray⟩ 2
  let data := out.toList
  if ofBigEndian ((packed.drop read).take 4) = Checksum.weighted data then some data else none

end Letterpress.Deflate
