/-!
# Joining Text

Strings put together from pieces, as plain recursions on the list of pieces, and parts
that are cut out of them: lines, and parts that are given by two positions. A negative
position counts from the end, and positions beyond the text stand for its ends.

## Main definitions

* `concat`: The pieces one after another.
* `joinWith`: The pieces with a separator between them.
* `unlines`: The pieces as lines.
* `slice`: The part between two positions.
* `unifyLineEnds`: A text with all line ends written the same way.
* `isLineBreak`: A character that ends a line, in the widest sense.
* `splitLines`: The lines of a text.
-/

namespace Letterpress.Text

/-- The pieces one after another. -/
def concat : List String → String
  | [] => ""
  | s :: rest => s ++ concat rest

/-- The pieces with a separator between neighbours. -/
def joinWith (separator : String) : List String → String
  | [] => ""
  | [s] => s
  | s :: t :: rest => s ++ separator ++ joinWith separator (t :: rest)

/-- The pieces as lines, with no line end after the last. -/
def unlines (pieces : List String) : String :=
  joinWith "\n" pieces

/-- The parts of a text between the characters that satisfy a test. -/
def splitOn (p : Char → Bool) : List Char → List (List Char)
  | [] => [[]]
  | c :: rest =>
    if p c then [] :: splitOn p rest
    else match splitOn p rest with
      | [] => [[c]]
      | part :: parts => (c :: part) :: parts

/-- The text with every occurrence of a character written differently. -/
def replaceChars (f : Char → String) (s : String) : String :=
  String.ofList (s.toList.flatMap fun c => (f c).toList)

/-- The text starts with another one. -/
def startsWith (start s : String) : Bool :=
  start.toList.isPrefixOf s.toList

/-- A position in a text of the given length, as a count from its start. -/
def position (length : Nat) (i : Int) : Nat :=
  if i < 0 then (i + length).toNat else min i.toNat length

/-- The part of a text from the first position up to the last. -/
def slice (first last : Int) (s : List Char) : List Char :=
  (s.take (position s.length last)).drop (position s.length first)

/-- The text with every line end, be it a line feed, a carriage return or both, as a
    line feed. -/
def unifyLineEnds : List Char → List Char
  | [] => []
  | '\r' :: '\n' :: rest => '\n' :: unifyLineEnds rest
  | '\r' :: rest => '\n' :: unifyLineEnds rest
  | c :: rest => c :: unifyLineEnds rest

/-- The character ends a line: a feed, a return, a separator of files, groups, records,
    lines or paragraphs, or the control for the next line. -/
def isLineBreak (c : Char) : Bool :=
  let n := c.toNat
  (0x0A ≤ n && n ≤ 0x0D) || (0x1C ≤ n && n ≤ 0x1E) || n = 0x85 || n = 0x2028 || n = 0x2029

/-- The lines of a text, without what ends them. There is none after the last end. -/
def splitLines : List Char → List (List Char)
  | [] => []
  | '\r' :: '\n' :: rest => [] :: splitLines rest
  | c :: rest =>
    if isLineBreak c then [] :: splitLines rest
    else match splitLines rest with
      | [] => [[c]]
      | line :: lines => (c :: line) :: lines

end Letterpress.Text
