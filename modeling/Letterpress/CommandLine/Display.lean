import Letterpress.Text.Emoji

/-!
# Texts on a Terminal

Texts of a design are shown as they are, with four exceptions. Codes of pictographs are
replaced, but none reaches over what looks like a mark for a style, such as `[bold]`. A
backslash before a bracket that starts no such mark is lost. A backslash at the end is
shown twice. Controls that would ring or move are left out.

## Main definitions

* `Piece`, `pieces`: A text cut at what looks like a mark.
* `shown`: A text as it is shown.
-/

namespace Letterpress.CommandLine

/-- A part of a text. -/
inductive Piece where
  /-- Text without marks. -/
  | plain (s : List Char)
  /-- What looks like a mark, with the backslashes before it. -/
  | mark (backslashes : Nat) (s : List Char)
  deriving DecidableEq, Repr

/-- The first character of a mark after its bracket. -/
def startsMark (c : Char) : Bool :=
  c.isLower || c = '#' || c = '/' || c = '@'

/-- What looks like a mark at the start of a text, and the rest: a bracket, and all up to
    the next one if that closes it. -/
def readMark? : List Char → Option (List Char × List Char)
  | '[' :: c :: more =>
    if startsMark c then
      let body := more.takeWhile fun c => c ≠ '[' && c ≠ ']'
      match more.drop body.length with
      | ']' :: rest => some ('[' :: c :: body ++ [']'], rest)
      | _ => none
    else none
  | _ => none

/-- What looks like a mark after backslashes at the start of a text, and the rest. -/
def readEscapedMark? (s : List Char) : Option (Piece × List Char) :=
  let backslashes := (s.takeWhile (· = '\\')).length
  (readMark? (s.drop backslashes)).map fun (mark, rest) => (.mark backslashes mark, rest)

/-- Pieces with a character of plain text before them. -/
def withPlain (c : Char) : List Piece → List Piece
  | .plain s :: rest => .plain (c :: s) :: rest
  | rest => .plain [c] :: rest

/-- The pieces of a text of at most `fuel` characters. -/
def piecesWithin : Nat → List Char → List Piece
  | 0, _ => []
  | _, [] => []
  | fuel + 1, c :: rest =>
    match readEscapedMark? (c :: rest) with
    | some (mark, rest) => mark :: piecesWithin fuel rest
    | none => withPlain c (piecesWithin fuel rest)

/-- A text cut at what looks like a mark. -/
def pieces (s : List Char) : List Piece :=
  piecesWithin s.length s

/-- Text without the backslashes before brackets. -/
def unescaped : List Char → List Char
  | '\\' :: '[' :: rest => '[' :: unescaped rest
  | c :: rest => c :: unescaped rest
  | [] => []

/-- A piece as it is shown. -/
def Piece.shown : Piece → List Char
  | plain s => Text.replaceCodes (unescaped s)
  | mark backslashes s => List.replicate backslashes '\\' ++ Text.replaceCodes s

/-- The backslash at the end of a text is shown twice, unless there are two. -/
def ending (s : List Char) : List Char :=
  match s.reverse with
  | '\\' :: '\\' :: _ => []
  | '\\' :: _ => ['\\']
  | _ => []

/-- The character does not ring or move. -/
def isShown (c : Char) : Bool :=
  !([7, 8, 11, 12, 13].contains c.toNat)

/-- A text as it is shown. -/
def shown (s : String) : String :=
  let text := (pieces s.toList).flatMap Piece.shown ++ ending s.toList
  String.ofList (text.filter isShown)

end Letterpress.CommandLine
