import Letterpress.Json.Value
import Letterpress.Text.Digit

/-!
# Reading Structured Data

The reader of the data format, with errors that name the place where reading
stopped. Besides the standard values it reads `NaN`, `Infinity` and
`-Infinity`. If an object names a member twice, the first place and the last
value count.

Every function consumes the front of the remaining text. An error carries the
text that remained where it occurred, from which the place follows.

## Main definitions

* `JsonProblem`: What can be wrong with a text.
* `JsonError`: A problem and its place.
* `Json.read`: The value that a text denotes.
-/

namespace Letterpress

/-- What can be wrong with a text of structured data. -/
inductive JsonProblem where
  | value
  | comma
  | colon
  | name
  | trailing
  | control
  | unterminated
  | badEscape
  | badCodePoint
  | byteOrderMark
  | numeral (error : NumeralError)
  deriving DecidableEq, Repr

/-- The problem in words. -/
def JsonProblem.message : JsonProblem → String
  | value => "Expecting value"
  | comma => "Expecting ',' delimiter"
  | colon => "Expecting ':' delimiter"
  | name => "Expecting property name enclosed in double quotes"
  | trailing => "Extra data"
  | control => "Invalid control character at"
  | unterminated => "Unterminated string starting at"
  | badEscape => "Invalid \\escape"
  | badCodePoint => "Invalid \\uXXXX escape"
  | byteOrderMark => "Unexpected UTF-8 BOM (decode using utf-8-sig)"
  | numeral e => e.message

/-- The place of the problem is told with it. A numeral that is too long is not bad
    form, and is reported without its place. -/
def JsonProblem.isPlaced : JsonProblem → Bool
  | numeral _ => false
  | _ => true

/-- A problem and its place: lines and columns count from one, offsets from
    zero. -/
structure JsonError where
  problem : JsonProblem
  line : Nat
  column : Nat
  offset : Nat
  deriving DecidableEq, Repr

/-- The error in words. -/
def JsonError.message (e : JsonError) : String :=
  if e.problem.isPlaced then
    e.problem.message ++ ": line " ++ toString e.line ++ " column " ++ toString e.column
      ++ " (char " ++ toString e.offset ++ ")"
  else e.problem.message

/-- The error at an offset of a text. -/
def JsonError.ofOffset (text : List Char) (problem : JsonProblem) (offset : Nat) : JsonError :=
  let before := text.take offset
  { problem
    line := before.count '\n' + 1
    column := (before.reverse.takeWhile (· ≠ '\n')).length + 1
    offset }

namespace Json

/-- A problem and the text that remained where it occurred. -/
abbrev Stop := JsonProblem × List Char

/-- The blanks of the format. -/
def isSpace (c : Char) : Bool :=
  c = ' ' || c = '\t' || c = '\n' || c = '\r'

/-- The text without leading blanks. -/
def skip (s : List Char) : List Char :=
  s.dropWhile isSpace

/-- The value of four hexadecimal digits at the front of a text. -/
def fourHex? : List Char → Option (Nat × List Char)
  | a :: b :: c :: d :: rest => do
    let digit (x : Char) : Option Nat :=
      if x.isDigit then some (x.toNat - 48)
      else if 'a' ≤ x ∧ x ≤ 'f' then some (x.toNat - 87)
      else if 'A' ≤ x ∧ x ≤ 'F' then some (x.toNat - 55)
      else none
    let w ← digit a
    let x ← digit b
    let y ← digit c
    let z ← digit d
    return (4096 * w + 256 * x + 16 * y + z, rest)
  | _ => none

/-- The character for a letter after a backslash. -/
def escapeLetter? : Char → Option Char
  | '"' => some '"'
  | '\\' => some '\\'
  | '/' => some '/'
  | 'b' => some '\x08'
  | 'f' => some '\x0c'
  | 'n' => some '\n'
  | 'r' => some '\r'
  | 't' => some '\t'
  | _ => none

/-- The character for a code unit; units that are no characters of their own are
    shown as replacement characters. -/
def ofUnit (n : Nat) : Char :=
  if 0xD800 ≤ n ∧ n < 0xE000 then '\uFFFD' else Char.ofNat n

/-- The second unit of a surrogate pair at the front of a text. It is looked for
    only if more text follows it. -/
def lowSurrogate? (s : List Char) : Except Unit (Option (Nat × List Char)) :=
  match s with
  | '\\' :: 'u' :: digits =>
    if digits.length ≤ 4 then .ok none
    else match fourHex? digits with
      | none => .error ()
      | some (n, rest) =>
        if 0xDC00 ≤ n ∧ n < 0xE000 then .ok (some (n, rest)) else .ok none
  | _ => .ok none

/-- The character for an escaped code unit, whose digits start the text;
    `escape` is the text from the backslash on. -/
def readUnit (escape digits : List Char) : Except Stop (Char × List Char) :=
  if digits.length ≤ 4 then .error (.badCodePoint, escape.drop 1)
  else match fourHex? digits with
    | none => .error (.badCodePoint, escape.drop 1)
    | some (n, rest) =>
      if 0xD800 ≤ n ∧ n < 0xDC00 then
        match lowSurrogate? rest with
        | .error _ => .error (.badCodePoint, rest.drop 1)
        | .ok none => .ok (ofUnit n, rest)
        | .ok (some (m, more)) =>
          .ok (Char.ofNat (0x10000 + (n - 0xD800) * 0x400 + (m - 0xDC00)), more)
      else .ok (ofUnit n, rest)

/-- The characters of a string up to its closing quote. `start` is the text from
    the opening quote on, `fuel` bounds the number of characters. -/
def readChars (start : List Char) :
    Nat → List Char → List Char → Except Stop (List Char × List Char)
  | 0, _, _ => .error (.unterminated, start)
  | fuel + 1, done, s =>
    match s with
    | [] => .error (.unterminated, start)
    | '"' :: rest => .ok (done.reverse, rest)
    | '\\' :: rest =>
      match rest with
      | [] => .error (.unterminated, start)
      | 'u' :: digits => do
        let (c, more) ← readUnit s digits
        readChars start fuel (c :: done) more
      | c :: more =>
        match escapeLetter? c with
        | none => .error (.badEscape, s)
        | some d => readChars start fuel (d :: done) more
    | c :: rest =>
      if c.toNat < 0x20 then .error (.control, s) else readChars start fuel (c :: done) rest

/-- The string whose opening quote starts the text. -/
def readString (s : List Char) : Except Stop (String × List Char) := do
  let (cs, rest) ← readChars s (s.length + 1) [] (s.drop 1)
  return (String.ofList cs, rest)

/-- The number at the front of a text. A point counts only with a digit after it,
    and an exponent only with a digit in it. -/
def readNumber (s : List Char) : Except Stop (Json × List Char) :=
  let (minus, unsigned) : Bool × List Char :=
    match s with
    | '-' :: rest => (true, rest)
    | _ => (false, s)
  let whole : List Char :=
    match unsigned with
    | '0' :: _ => ['0']
    | _ => unsigned.takeWhile Char.isDigit
  if whole = [] then .error (.value, s)
  else
    let rest := unsigned.drop whole.length
    let places : List Char :=
      match rest with
      | '.' :: more => more.takeWhile Char.isDigit
      | _ => []
    let rest := if places = [] then rest else rest.drop (places.length + 1)
    let exponent? : Option (Int × List Char) :=
      match rest with
      | e :: more =>
        if e = 'e' ∨ e = 'E' then
          let (negative, digits) : Bool × List Char :=
            match more with
            | '+' :: ds => (false, ds)
            | '-' :: ds => (true, ds)
            | ds => (false, ds)
          let ds := digits.takeWhile Char.isDigit
          if ds = [] then none
          else
            let n : Int := Text.numeralValue ds
            some (if negative then -n else n, digits.drop ds.length)
        else none
      | [] => none
    let digits := Text.numeralValue (whole ++ places)
    match exponent? with
    | some (e, rest) => .ok (.real (floatOfDecimal minus digits (e - places.length)), rest)
    | none =>
      if places = [] then
        match Text.readWhole whole with
        | .error e => .error (.numeral e, s)
        | .ok n => .ok (.int (if minus then -n else n), rest)
      else .ok (.real (floatOfDecimal minus digits (-places.length)), rest)

/-- The words of the format and their values. -/
def words : List (String × Json) :=
  [("null", .null), ("true", .bool true), ("false", .bool false),
    ("NaN", .real (0.0 / 0.0)), ("Infinity", .real (1.0 / 0.0)),
    ("-Infinity", .real (-1.0 / 0.0))]

/-- The word at the front of a text. -/
def readWord? (s : List Char) : Option (Json × List Char) :=
  (words.find? fun (w, _) => w.toList.isPrefixOf s).map fun (w, j) => (j, s.drop w.length)

mutual

/-- The value at the front of a text; `fuel` bounds the steps taken. -/
def readValue : Nat → List Char → Except Stop (Json × List Char)
  | 0, s => .error (.value, s)
  | fuel + 1, s =>
    match s with
    | [] => .error (.value, s)
    | '"' :: _ => do
      let (t, rest) ← readString s
      return (.str t, rest)
    | '{' :: rest =>
      match skip rest with
      | '}' :: more => .ok (.obj [], more)
      | members => readMembers fuel [] members
    | '[' :: rest =>
      match skip rest with
      | ']' :: more => .ok (.arr [], more)
      | items => readItems fuel [] items
    | _ =>
      match readWord? s with
      | some r => .ok r
      | none => readNumber s

/-- The items of a list up to its closing bracket; those read so far are
    reversed. -/
def readItems : Nat → List Json → List Char → Except Stop (Json × List Char)
  | 0, _, s => .error (.value, s)
  | fuel + 1, done, s => do
    let (j, rest) ← readValue fuel s
    match skip rest with
    | ']' :: more => return (.arr (j :: done).reverse, more)
    | ',' :: more => readItems fuel (j :: done) (skip more)
    | other => throw (.comma, other)

/-- The members of an object up to its closing brace. -/
def readMembers : Nat → List (String × Json) → List Char → Except Stop (Json × List Char)
  | 0, _, s => .error (.name, s)
  | fuel + 1, done, s =>
    match s with
    | '"' :: _ => do
      let (name, rest) ← readString s
      match skip rest with
      | ':' :: more =>
        let (j, rest) ← readValue fuel (skip more)
        let done := putMember name j done
        match skip rest with
        | '}' :: more => return (.obj done, more)
        | ',' :: more => readMembers fuel done (skip more)
        | other => throw (.comma, other)
      | other => throw (.colon, other)
    | _ => .error (.name, s)

end

/-- The value that makes up a whole text, blanks around it aside. -/
def readAll (s : List Char) : Except Stop Json := do
  if s.head? = some '\uFEFF' then throw (.byteOrderMark, s)
  let (j, rest) ← readValue (2 * s.length + 2) (skip s)
  match skip rest with
  | [] => return j
  | other => throw (.trailing, other)

/-- The value that a text denotes. -/
def read (text : String) : Except JsonError Json :=
  let s := text.toList
  (readAll s).mapError fun (problem, remaining) =>
    JsonError.ofOffset s problem (s.length - remaining.length)

end Json

end Letterpress
