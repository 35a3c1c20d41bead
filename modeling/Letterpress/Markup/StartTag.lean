import Letterpress.Markup.Event
import Letterpress.Text.Blank
import Letterpress.Text.Casing
import Letterpress.Text.Reference

/-!
# Start Tags

Reading a start tag: its name, its attributes and its end.

The rules are lenient. Attributes may be separated by blanks or slashes; a value
may stand in either kind of quotes or in none; several equality signs count as
one. A value that opens with a quote and never closes it is no value, unless a
blank or a further equality sign lets it begin earlier. An attribute begins only
after a blank, a slash or a quote.

## Main definitions

* `readValue?`: The value of an attribute.
* `readAttribute?`: An attribute.
* `readAttributes`: All attributes of a tag.
* `StartTag`: What a tag turns out to be.
* `readStartTag`: The tag at the start of a text.
-/

namespace Letterpress.Markup

/-- The characters that can be part of a tag name after its first letter. -/
def isTagChar (c : Char) : Bool :=
  !(c = '\t' || c = '\n' || c = '\r' || c = '\x0c' || c = ' ' || c = '/' || c = '>' || c = '\x00')

/-- An attribute may begin after this character. -/
def opensAttribute (c : Char) : Bool :=
  c = '\'' || c = '"' || c = '/' || Text.isBlank c

/-- The first character of an attribute's name. -/
def isAttributeStart (c : Char) : Bool :=
  !(c = '/' || c = '>' || Text.isBlank c)

/-- The further characters of an attribute's name. -/
def isAttributeChar (c : Char) : Bool :=
  isAttributeStart c && c ≠ '='

/-- The characters of a value without quotes. -/
def isBareChar (c : Char) : Bool :=
  !(c = '>' || Text.isBlank c)

/-- The rest of a text after blanks, and after slashes that do not stand right
    before the end of the tag; with it the last character passed, which is
    `before` if there is none. -/
def skipSeparators (before : Char) : List Char → Char × List Char
  | [] => (before, [])
  | c :: rest =>
    if Text.isBlank c then skipSeparators c rest
    else if c = '/' && rest.head? ≠ some '>' then skipSeparators c rest
    else (before, c :: rest)

/-- A value, the last character of its written form, and what follows it. -/
structure Value where
  text : List Char
  last : Char
  rest : List Char

/-- The value without quotes at the start of a text, which follows an equality
    sign. -/
def bareValue (s : List Char) : Value :=
  let text := s.takeWhile isBareChar
  ⟨text, text.getLast?.getD '=', s.dropWhile isBareChar⟩

/-- The value in a text that starts with an equality sign, blanks aside. -/
def readValue? (s : List Char) : Option Value :=
  let signs := Text.trimStart s
  let afterSigns := signs.dropWhile (· = '=')
  if signs.head? ≠ some '=' then none
  else
    match Text.trimStart afterSigns with
    | [] => some (bareValue [])
    | q :: inner =>
      if q = '\'' || q = '"' then
        match inner.dropWhile (· ≠ q) with
        | _ :: rest => some ⟨inner.takeWhile (· ≠ q), q, rest⟩
        | [] =>
          if afterSigns.head?.any Text.isBlank then some (bareValue afterSigns)
          else if signs.tail.head? = some '=' then some (bareValue ('=' :: afterSigns))
          else none
      else some (bareValue (q :: inner))

/-- The attribute at the start of a text that follows the character `before`, the
    last character passed, and the rest. The references in its value are left as they
    are. -/
def readAttribute? (before : Char) (s : List Char) : Option (Attribute × Char × List Char) :=
  match s with
  | [] => none
  | c :: more =>
    if opensAttribute before && isAttributeStart c then
      let name := c :: more.takeWhile isAttributeChar
      let afterName := more.dropWhile isAttributeChar
      let key := String.ofList (Text.lower name)
      match readValue? afterName with
      | some v => some ((key, some (String.ofList v.text)), skipSeparators v.last v.rest)
      | none => some ((key, none), skipSeparators (name.getLast?.getD c) afterName)
    else none

/-- The attributes at the start of a text that follows the character `before`, and
    the rest; `fuel` bounds their number. -/
def readAttributes : Nat → Char → List Char → List Attribute × List Char
  | 0, _, s => ([], s)
  | fuel + 1, before, s =>
    match readAttribute? before s with
    | none => ([], s)
    | some (first, last, rest) =>
      let (others, rest) := readAttributes fuel last rest
      (first :: others, rest)

/-- The attribute with the references in its value decoded. -/
def decoded (a : Attribute) : Except NumeralError Attribute :=
  match a with
  | (name, none) => return (name, none)
  | (name, some value) =>
    return (name, some (String.ofList (← Text.decodeReferences value.toList)))

/-- What a tag turns out to be. -/
inductive StartTag where
  /-- A tag, and the text after it. -/
  | tag (name : String) (attributes : List Attribute) (selfClosed : Bool) (rest : List Char)
  /-- No tag: the text up to `rest` is data. -/
  | noTag (rest : List Char)
  /-- The tag does not end. -/
  | incomplete

/-- The tag whose name starts the text, which follows the opening bracket. The
    attributes of a tag that does not end are not decoded; all others are, even if they
    turn out to be data. -/
def readStartTag (s : List Char) : Except NumeralError StartTag := do
  let name := s.takeWhile isTagChar
  let (last, rest) := skipSeparators (name.getLast?.getD '<') (s.drop name.length)
  let (attributes, rest) := readAttributes s.length last rest
  let tag := String.ofList (Text.lower name)
  match rest with
  | [] => return .incomplete
  | '>' :: more => return .tag tag (← attributes.mapM decoded) false more
  | '/' :: '>' :: more => return .tag tag (← attributes.mapM decoded) true more
  | c :: _ =>
    if c.isAlpha || c = '=' || c = '/' then return .incomplete
    else
      let _ ← attributes.mapM decoded
      return .noTag rest

end Letterpress.Markup
