import Letterpress.Text.Escape

/-!
# Decoding UTF-8

Text from bytes, with errors that say which bytes do not fit and why.

## Main definitions

* `Utf8Problem`, `Utf8Error`: What is wrong with which bytes.
* `Lead`: What a first byte announces.
* `decodeUtf8`: The text that bytes encode.
* `encodeUtf8`: The bytes of a text.
-/

namespace Letterpress

/-- What is wrong with a sequence of bytes. -/
inductive Utf8Problem where
  | badStart
  | badContinuation
  | truncated
  deriving DecidableEq, Repr

/-- A problem with the bytes at the positions from `first` to `last`; `byte` is
    the one at `first`. -/
structure Utf8Error where
  problem : Utf8Problem
  first : Nat
  last : Nat
  byte : Nat
  deriving DecidableEq, Repr

/-- The problem in words. -/
def Utf8Problem.message : Utf8Problem → String
  | badStart => "invalid start byte"
  | badContinuation => "invalid continuation byte"
  | truncated => "unexpected end of data"

/-- The error in words. -/
def Utf8Error.message (e : Utf8Error) : String :=
  let place :=
    if e.first = e.last then
      "byte 0x" ++ Text.hexDigits 2 e.byte ++ " in position " ++ toString e.first
    else "bytes in position " ++ toString e.first ++ "-" ++ toString e.last
  "'utf-8' codec can't decode " ++ place ++ ": " ++ e.problem.message

namespace Text

/-- What a first byte announces: how many bytes follow, the value of its own bits,
    and the range in which the second byte must lie. -/
structure Lead where
  following : Nat
  bits : Nat
  low : Nat
  high : Nat

/-- The meaning of a first byte. -/
def lead? (b : Nat) : Option Lead :=
  if b < 0x80 then some ⟨0, b, 0x80, 0xBF⟩
  else if b < 0xC2 then none
  else if b < 0xE0 then some ⟨1, b - 0xC0, 0x80, 0xBF⟩
  else if b < 0xF0 then
    some ⟨2, b - 0xE0, if b = 0xE0 then 0xA0 else 0x80, if b = 0xED then 0x9F else 0xBF⟩
  else if b < 0xF5 then
    some ⟨3, b - 0xF0, if b = 0xF0 then 0x90 else 0x80, if b = 0xF4 then 0x8F else 0xBF⟩
  else none

/-- Reads continuation bytes, the first of which must lie in the given range. The
    result is the value so far and what follows, or the problem and the number of
    bytes that did fit. -/
def continuation (low high : Nat) :
    Nat → Nat → Nat → List UInt8 → Except (Utf8Problem × Nat) (Nat × List UInt8)
  | 0, _, value, rest => .ok (value, rest)
  | _ + 1, read, _, [] => .error (.truncated, read)
  | n + 1, read, value, b :: rest =>
    if low ≤ b.toNat ∧ b.toNat ≤ high then
      continuation 0x80 0xBF n (read + 1) (64 * value + (b.toNat - 0x80)) rest
    else .error (.badContinuation, read)

/-- The characters that bytes encode, starting at a position; `fuel` bounds their
    number. -/
def decodeFrom : Nat → Nat → List UInt8 → Except Utf8Error (List Char)
  | 0, _, _ => .ok []
  | _ + 1, _, [] => .ok []
  | fuel + 1, position, b :: rest =>
    match lead? b.toNat with
    | none => .error ⟨.badStart, position, position, b.toNat⟩
    | some l =>
      match continuation l.low l.high l.following 0 l.bits rest with
      | .error (problem, read) => .error ⟨problem, position, position + read, b.toNat⟩
      | .ok (value, more) => do
        let cs ← decodeFrom fuel (position + 1 + l.following) more
        return Char.ofNat value :: cs

/-- The text that bytes encode. -/
def decodeUtf8 (bytes : List UInt8) : Except Utf8Error String :=
  String.ofList <$> decodeFrom bytes.length 0 bytes

/-- The bytes of a text. -/
def encodeUtf8 (s : String) : List UInt8 :=
  s.toUTF8.toList

end Text

end Letterpress
