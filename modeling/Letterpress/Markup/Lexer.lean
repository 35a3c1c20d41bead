import Letterpress.Markup.Event
import Letterpress.Markup.StartTag
import Letterpress.Text.Casing

/-!
# Reading Markup

From text to events, leniently: what is no markup is data.

Text is read in two passes. The first one stops at a construct that more text
might still complete, such as a tag without its end. The second pass knows that
nothing follows; it resumes there, and takes what is still incomplete as data.
Inside of a `script` or `style` element only the matching end tag is markup.

## Main definitions

* `Step`: The result of reading one construct.
* `readMarkup`, `readAmpersand`: A construct that starts with `<` or `&`.
* `step`: Any construct.
* `pass`: The events up to where reading stops.
* `events`: The events of a text.
-/

namespace Letterpress.Markup

/-- The elements whose content is no markup. -/
def rawTags : List String :=
  ["script", "style"]

/-- Where reading goes on: the element whose raw content is being read, if any,
    and the remaining text. -/
structure Position where
  raw : Option String
  rest : List Char

/-- The result of reading one construct. -/
inductive Step where
  /-- Some events, and where to go on. -/
  | go (events : List Event) (next : Position)
  /-- Some events; reading stops. -/
  | stop (events : List Event) (rest : List Char)

/-- The result of reading a construct that starts with `<`. -/
inductive Construct where
  /-- Some events, and where to go on. -/
  | found (events : List Event) (next : Position)
  /-- The construct does not end. -/
  | unfinished
  /-- Reading stops before the construct. -/
  | waiting

/-- A string as an event of character data. -/
def dataEvent (s : List Char) : Event :=
  .data (String.ofList s)

/-- The text before the first place where `after?` succeeds, and what follows that
    place. `done` holds the characters passed, backwards. -/
def breakAt (after? : List Char → Option (List Char)) (done : List Char) :
    List Char → Option (List Char × List Char)
  | [] => (after? []).map fun rest => (done.reverse, rest)
  | c :: s =>
    match after? (c :: s) with
    | some rest => some (done.reverse, rest)
    | none => breakAt after? (c :: done) s

/-- The text before and after the next `>`. -/
def breakAtBracket? (s : List Char) : Option (List Char × List Char) :=
  match s.dropWhile (· ≠ '>') with
  | [] => none
  | _ :: rest => some (s.takeWhile (· ≠ '>'), rest)

/-- What follows one character, blanks before it aside. -/
def afterChar? (c : Char) (s : List Char) : Option (List Char) :=
  match Text.trimStart s with
  | [] => none
  | d :: rest => if d = c then some rest else none

/-- What follows the end of a comment. -/
def afterComment? : List Char → Option (List Char)
  | '-' :: '-' :: rest => afterChar? '>' rest
  | _ => none

/-- What follows the end of a standard marked section. -/
def afterSection? : List Char → Option (List Char)
  | ']' :: rest => (afterChar? ']' rest).bind (afterChar? '>')
  | _ => none

/-- What follows the end of a conditional section. -/
def afterCondition? : List Char → Option (List Char)
  | ']' :: rest => afterChar? '>' rest
  | _ => none

/-- The end tag of an element with raw content starts the text. -/
def startsEndTag (tag : String) : List Char → Bool
  | '<' :: '/' :: rest =>
    ((Text.afterWord? tag.toList (Text.trimStart rest)).bind (afterChar? '>')).isSome
  | _ => false

/-- The raw content of an element, and the text from its end tag on. -/
def breakAtEndTag (tag : String) (s : List Char) : Option (List Char × List Char) :=
  breakAt (fun t => if startsEndTag tag t then some t else none) [] s

/-- A character of the name in a regular end tag, after its first letter. -/
def isEndTagChar (c : Char) : Bool :=
  c.isAlphanum || c = '-' || c = '.' || c = ':' || c = '_'

/-- The name in an end tag that holds nothing else, blanks aside. -/
def plainName? (body : List Char) : Option (List Char) :=
  match Text.trimStart body with
  | [] => none
  | c :: more =>
    if c.isAlpha then
      let name := c :: more.takeWhile isEndTagChar
      if Text.trimStart (more.dropWhile isEndTagChar) = [] then some name else none
    else none

/-- Reads an end tag, whose text after `</` is given. -/
def readEndTag (raw : Option String) (s : List Char) : Construct :=
  match breakAtBracket? s with
  | none => .unfinished
  | some (body, rest) =>
    let literally := Construct.found [dataEvent ('<' :: '/' :: body ++ ['>'])] ⟨raw, rest⟩
    match plainName? body, raw with
    | some name, none => .found [.finish (String.ofList (Text.lower name))] ⟨none, rest⟩
    | some name, some tag =>
      if String.ofList (Text.lower name) = tag then .found [.finish tag] ⟨none, rest⟩
      else literally
    | none, some _ => literally
    | none, none =>
      match body with
      | [] => .found [] ⟨none, rest⟩
      | c :: _ =>
        if c.isAlpha then
          .found [.finish (String.ofList (Text.lower (body.takeWhile isTagChar)))] ⟨none, rest⟩
        else .found [.comment (String.ofList body)] ⟨none, rest⟩

/-- A character of a section's status, after its first letter. -/
def isStatusChar (c : Char) : Bool :=
  c.isAlphanum || c = '-' || c = '_' || c = '.'

/-- Reads a marked section, whose text after `<![` is given. Its content is
    passed over. -/
def readSection (raw : Option String) (s : List Char) : Except MarkupError Construct :=
  match s with
  | [] => .ok .unfinished
  | c :: more =>
    if c.isAlpha then
      let status := c :: more.takeWhile isStatusChar
      let afterStatus := more.dropWhile isStatusChar
      let blanks := afterStatus.takeWhile Text.isBlank
      if afterStatus.length = blanks.length then .ok .unfinished
      else
        let name := String.ofList (status.map Char.toLower)
        let finish (after? : List Char → Option (List Char)) : Construct :=
          match breakAt after? [] s with
          | some (_, rest) => .found [] ⟨raw, rest⟩
          | none => .unfinished
        if ["temp", "cdata", "ignore", "include", "rcdata"].contains name then
          .ok (finish afterSection?)
        else if ["if", "else", "endif"].contains name then .ok (finish afterCondition?)
        else .error (.unknownStatus (String.ofList (status ++ blanks)))
    else .error (.missingStatus (String.ofList (('<' :: '!' :: '[' :: s).take 20)))

/-- Reads a declaration, whose text after `<!` is given: a marked section, a
    document type, or a comment in all but name. -/
def readDeclaration (raw : Option String) (s : List Char) : Except MarkupError Construct :=
  match s with
  | '[' :: rest => readSection raw rest
  | _ =>
    let isDocumentType := (s.take 7).map Char.toLower = "doctype".toList
    match breakAtBracket? s with
    | none => .ok .unfinished
    | some (body, rest) =>
      let text := String.ofList body
      .ok (.found [if isDocumentType then .declaration text else .comment text] ⟨raw, rest⟩)

/-- Reads a start tag, whose text after `<` is given. -/
def readStart (raw : Option String) (s : List Char) : Except MarkupError Construct := do
  match ← (readStartTag s).mapError MarkupError.numeral with
  | .incomplete => return .unfinished
  | .noTag rest =>
    return .found [dataEvent ('<' :: s.take (s.length - rest.length))] ⟨raw, rest⟩
  | .tag name attributes true rest => return .found [.selfClosed name attributes] ⟨raw, rest⟩
  | .tag name attributes false rest =>
    return .found [.start name attributes]
      ⟨if rawTags.contains name then some name else raw, rest⟩

/-- Reads a construct whose text after `<` is given. -/
def readConstruct (raw : Option String) (s : List Char) : Except MarkupError Construct :=
  match s with
  | [] => .ok .waiting
  | '/' :: rest => .ok (readEndTag raw rest)
  | '!' :: '-' :: '-' :: rest =>
    match breakAt afterComment? [] rest with
    | some (text, rest) => .ok (.found [.comment (String.ofList text)] ⟨raw, rest⟩)
    | none => .ok .unfinished
  | '!' :: rest => readDeclaration raw rest
  | '?' :: rest =>
    match breakAtBracket? rest with
    | some (_, rest) => .ok (.found [] ⟨raw, rest⟩)
    | none => .ok .unfinished
  | c :: _ =>
    if c.isAlpha then readStart raw s
    else .ok (.found [.data "<"] ⟨raw, s⟩)

/-- The text after `<` that an unfinished construct takes as data: up to the next
    `>`, or else before the next `<`, or else nothing. -/
def unfinishedData (s : List Char) : List Char × List Char :=
  match breakAtBracket? s with
  | some (body, rest) => (body ++ ['>'], rest)
  | none =>
    if '<' ∈ s then (s.takeWhile (· ≠ '<'), s.dropWhile (· ≠ '<')) else ([], s)

/-- Reads what starts with `<`; `s` is the text after it. -/
def readMarkup (closing : Bool) (raw : Option String) (s : List Char) :
    Except MarkupError Step := do
  match ← readConstruct raw s with
  | .found events next => return .go events next
  | .waiting => return .stop [] ('<' :: s)
  | .unfinished =>
    if closing then
      let (body, rest) := unfinishedData s
      return .go [dataEvent ('<' :: body)] ⟨raw, rest⟩
    else return .stop [] ('<' :: s)

/-- The digits of a numeric reference at the start of a text, which follows `&#`,
    and what follows them; some character that is no digit must follow. -/
def readCode? (s : List Char) : Option (List Char × List Char) :=
  let decimal := s.takeWhile Char.isDigit
  match s with
  | [] => none
  | x :: more =>
    let (digits, rest) : List Char × List Char :=
      if decimal ≠ [] then (decimal, s.drop decimal.length)
      else if x = 'x' ∨ x = 'X' then
        let hex := more.takeWhile Text.isHexDigit
        (if hex = [] then [] else x :: hex, more.drop hex.length)
      else ([], s)
    match digits, rest with
    | [], _ => none
    | _, [] => none
    | _, c :: _ => if Text.isHexDigit c then none else some (digits, Text.dropSemicolon rest)

/-- A character of a named reference, after its first letter. -/
def isEntityChar (c : Char) : Bool :=
  c.isAlphanum || c = '-' || c = '.'

/-- The name of a reference at the start of a text, which follows `&`, and what
    follows it. Some character that cannot be part of the name must follow; at the
    end of the text the last dash or point of the name serves. -/
def readEntity? (s : List Char) : Option (List Char × List Char) :=
  match s with
  | [] => none
  | c :: more =>
    if c.isAlpha then
      let tail := more.takeWhile isEntityChar
      match more.drop tail.length with
      | d :: rest => some (c :: tail, Text.dropSemicolon (d :: rest))
      | [] =>
        let kept := (tail.reverse.dropWhile Char.isAlphanum).drop 1
        if tail.all Char.isAlphanum then none
        else some (c :: kept.reverse, tail.drop kept.length)
    else none

/-- Reads what starts with `&`; `s` is the text after it. -/
def readAmpersand (closing : Bool) (s : List Char) : Step :=
  match s with
  | '#' :: rest =>
    match readCode? rest with
    | some (digits, more) => .go [.code (String.ofList digits)] ⟨none, more⟩
    | none => if ';' ∈ rest then .stop [.data "&#"] rest else .stop [] ('&' :: s)
  | _ =>
    match readEntity? s with
    | some (name, more) => .go [.entity (String.ofList name)] ⟨none, more⟩
    | none =>
      match s with
      | [] => .stop [] ['&']
      | c :: more =>
        if c.isAlpha then .stop [] (if closing && more = [] then s else '&' :: s)
        else .go [.data "&"] ⟨none, s⟩

/-- Reads one construct, or the data up to the next one. -/
def step (closing : Bool) (p : Position) : Except MarkupError Step :=
  match p.raw with
  | some tag =>
    match breakAtEndTag tag p.rest with
    | none => .ok (.stop [] p.rest)
    | some ([], s) => readMarkup closing p.raw (s.drop 1)
    | some (before, s) => .ok (.go [dataEvent before] ⟨p.raw, s⟩)
  | none =>
    match p.rest with
    | [] => .ok (.stop [] [])
    | '<' :: s => readMarkup closing none s
    | '&' :: s => .ok (readAmpersand closing s)
    | s =>
      let isData (c : Char) : Bool := c ≠ '<' && c ≠ '&'
      .ok (.go [dataEvent (s.takeWhile isData)] ⟨none, s.dropWhile isData⟩)

/-- The events up to where reading stops, and where that is; `fuel` bounds the
    number of constructs. -/
def pass (closing : Bool) : Nat → Position → Except MarkupError (List Event × Position)
  | 0, p => .ok ([], p)
  | fuel + 1, p => do
    match ← step closing p with
    | .stop events rest => return (events, ⟨p.raw, rest⟩)
    | .go events next =>
      let (others, stopped) ← pass closing fuel next
      return (events ++ others, stopped)

/-- The events of a text. What the second pass leaves is data, unless it is the
    content of a raw element that never ends. -/
def events (s : List Char) : Except MarkupError (List Event) := do
  let (first, p) ← pass false s.length ⟨none, s⟩
  let (second, q) ← pass true p.rest.length p
  let left := if q.raw.isNone && q.rest ≠ [] then [dataEvent q.rest] else []
  return first ++ second ++ left

end Letterpress.Markup
