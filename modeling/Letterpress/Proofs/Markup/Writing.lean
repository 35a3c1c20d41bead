import Letterpress.Markup.Builder
import Letterpress.Proofs.Text.Reference

/-!
# Written Trees

Trees as they are written, before anything is decoded.

The markup of a program is written by hand: its attribute values hold whatever was put
between the quotes, references included, and only reading decodes them. So a tree
serves twice. As a *draft*, its attribute values are what stands between the quotes
(`written`); decoding makes it the tree that is read (`decode`). A tree that was read
is written back through the draft whose values are escaped (`escaped`).

A draft is *tidy* if its text reads as nothing but itself: plain tags and names,
character data without markup in it, references one by one, comments that do not end
early. Tidiness is about everything but the values.

## Main definitions

* `Node.written`: The text of a draft.
* `Node.decode`, `Node.escaped`: Between drafts and trees.
* `Node.Tidy`: The text of a draft reads as the draft.
* `Node.Everywhere`: A property of all elements of a tree.
* `Node.InQuotes`: No value ends its quotes.

## Theorems

* `serialize_eq_written`: A tidy tree is written as its escaped draft.
* `decode_escaped`: The escaped draft is decoded to the tree.
* `Node.Everywhere.decode`: Properties of elements that decoding keeps.
* `tidy_decode`, `tidy_escaped`: Tidiness stays.
-/

namespace Letterpress.Markup

/-- An attribute in a tag, with what stands between its quotes. -/
def writtenAttribute : Attribute → List Char
  | (name, none) => ' ' :: name.toList
  | (name, some value) => ' ' :: (name.toList ++ '=' :: '"' :: (value.toList ++ ['"']))

/-- A start tag, with what stands between the quotes of its attributes. -/
def writtenStart (tag : String) (attributes : List Attribute) : List Char :=
  '<' :: (tag.toList ++ attributes.flatMap writtenAttribute ++ ['>'])

/-- An end tag. -/
def writtenEnd (tag : String) : List Char :=
  '<' :: '/' :: (tag.toList ++ ['>'])

namespace Node

mutual

/-- The text of a draft. -/
def written : Node → List Char
  | element tag attributes children =>
    if voidTags.contains tag then writtenStart tag attributes
    else writtenStart tag attributes ++ (writtenAll children ++ writtenEnd tag)
  | text data => data.toList
  | comment data => '<' :: '!' :: '-' :: '-' :: (data.toList ++ ['-', '-', '>'])
  | declaration data => '<' :: '!' :: (data.toList ++ ['>'])

/-- The text of drafts, one after another. -/
def writtenAll : List Node → List Char
  | [] => []
  | n :: ns => written n ++ writtenAll ns

end

mutual

/-- The tree that a draft is read as. -/
def decode : Node → Except NumeralError Node
  | element tag attributes children => do
    let decodedAttributes ← attributes.mapM decoded
    return element tag decodedAttributes (← decodeAll children)
  | text data => return text data
  | comment data => return comment data
  | declaration data => return declaration data

/-- The trees that drafts are read as. -/
def decodeAll : List Node → Except NumeralError (List Node)
  | [] => return []
  | n :: ns => do
    let first ← decode n
    return first :: (← decodeAll ns)

end

/-- The attribute with its value escaped. -/
def escapedAttribute (a : Attribute) : Attribute :=
  (a.1, a.2.map Text.escapeAttribute)

mutual

/-- The draft that a tree is written as. -/
def escaped : Node → Node
  | element tag attributes children =>
    element tag (attributes.map escapedAttribute) (escapedAll children)
  | text data => text data
  | comment data => comment data
  | declaration data => declaration data

/-- The drafts that trees are written as. -/
def escapedAll : List Node → List Node
  | [] => []
  | n :: ns => escaped n :: escapedAll ns

end

end Node

/-- A lower-case letter or a digit. -/
def isTagLetter (c : Char) : Bool :=
  c.isLower || c.isDigit

/-- A lower-case tag. -/
def isTag (tag : String) : Bool :=
  match tag.toList with
  | [] => false
  | c :: rest => c.isLower && rest.all isTagLetter

/-- A letter of a lower-case name. -/
def isNameLetter (c : Char) : Bool :=
  isTagLetter c || c = '_' || c = ':' || c = '-'

/-- The lower-case name of an attribute. -/
def isName (name : String) : Bool :=
  match name.toList with
  | [] => false
  | c :: rest => c.isLower && rest.all isNameLetter

/-- A character that starts no markup. -/
def isDataChar (c : Char) : Bool :=
  c ≠ '<' && c ≠ '&'

/-- Character data without markup in it. -/
def isPlain (data : String) : Bool :=
  !data.toList.isEmpty && data.toList.all isDataChar

/-- The code in a numeric reference. -/
def isCode : List Char → Bool
  | [] => false
  | x :: rest =>
    (x :: rest).all Char.isDigit
      || ((x = 'x' || x = 'X') && !rest.isEmpty && rest.all Text.isHexDigit)

/-- A single reference. -/
inductive IsReference : List Char → Prop
  | named (c : Char) (name : List Char) (hc : c.isAlpha = true)
      (hname : name.all isEntityChar = true) : IsReference ('&' :: c :: (name ++ [';']))
  | numeric (code : List Char) (hcode : isCode code = true) :
      IsReference ('&' :: '#' :: (code ++ [';']))

/-- No end of a comment starts in the text. -/
def hasNoCommentEnd : List Char → Bool
  | [] => true
  | c :: s => (afterComment? (c :: s)).isNone && hasNoCommentEnd s

/-- The content of a document type declaration. -/
def isDocumentType (data : String) : Bool :=
  (data.toList.take 7).map Char.toLower = "doctype".toList && !data.toList.contains '>'

/-- The content of an element whose content is no markup. -/
def isRaw (data : String) : Bool :=
  !data.toList.isEmpty && !data.toList.contains '<'

namespace Node

/-- The node is character data without markup in it. -/
def isPlainText : Node → Bool
  | text data => isPlain data
  | _ => false

mutual

/-- The text of the draft reads as the draft. -/
def Tidy : Node → Prop
  | element tag attributes children =>
    isTag tag = true ∧ (∀ a ∈ attributes, isName a.1 = true) ∧
      if voidTags.contains tag then children = []
      else if rawTags.contains tag then ∃ data, children = [text data] ∧ isRaw data = true
      else TidyAll children
  | text data => isPlain data = true ∨ IsReference data.toList
  | comment data => hasNoCommentEnd data.toList = true
  | declaration data => isDocumentType data = true

/-- The text of the drafts reads as the drafts. Neighboring data would be read as one. -/
def TidyAll : List Node → Prop
  | [] => True
  | n :: ns =>
    Tidy n ∧ (n.isPlainText = true → ns.head?.any isPlainText = false) ∧ TidyAll ns

end

mutual

/-- All elements of the tree have a property. -/
def Everywhere (P : String → List Attribute → Prop) : Node → Prop
  | element tag attributes children => P tag attributes ∧ EverywhereAll P children
  | text _ => True
  | comment _ => True
  | declaration _ => True

/-- All elements of the trees have a property. -/
def EverywhereAll (P : String → List Attribute → Prop) : List Node → Prop
  | [] => True
  | n :: ns => Everywhere P n ∧ EverywhereAll P ns

end

end Node

/-- No value of the attributes ends its quotes. -/
def AttributesInQuotes (attributes : List Attribute) : Prop :=
  ∀ a ∈ attributes, ∀ value ∈ a.2, '"' ∉ value.toList

namespace Node

/-- No value of the draft ends its quotes. -/
def InQuotes : Node → Prop :=
  Everywhere fun _ attributes => AttributesInQuotes attributes

/-- No value of the drafts ends its quotes. -/
def InQuotesAll : List Node → Prop :=
  EverywhereAll fun _ attributes => AttributesInQuotes attributes

end Node

/-- The tag of an element whose content is markup. -/
def isFilledTag (tag : String) : Bool :=
  isTag tag && (!voidTags.contains tag && !rawTags.contains tag)

theorem isFilledTag_parts {tag : String} (h : isFilledTag tag = true) :
    isTag tag = true ∧ voidTags.contains tag = false ∧ rawTags.contains tag = false := by
  simpa [isFilledTag] using h

/-- An element around tidy content. -/
theorem tidy_filled {tag : String} {as : List Attribute} {children : List Node}
    (htag : isFilledTag tag = true) (hnames : ∀ a ∈ as, isName a.1 = true)
    (hchildren : Node.TidyAll children) : (Node.element tag as children).Tidy := by
  rcases isFilledTag_parts htag with ⟨htag, hvoid, hraw⟩
  rw [Node.Tidy, if_neg (by rw [hvoid]; exact Bool.false_ne_true),
    if_neg (by rw [hraw]; exact Bool.false_ne_true)]
  exact ⟨htag, hnames, hchildren⟩

/-- An element without content. -/
theorem tidy_void {tag : String} {as : List Attribute} (htag : isTag tag = true)
    (hvoid : voidTags.contains tag = true) (hnames : ∀ a ∈ as, isName a.1 = true) :
    (Node.element tag as []).Tidy := by
  rw [Node.Tidy, if_pos hvoid]
  exact ⟨htag, hnames, rfl⟩

/-- An element stays tidy when its attributes keep their names and its content stays
    what its tag allows. -/
theorem Node.Tidy.replaced {tag : String} {as as' : List Attribute} {children children' : List Node}
    (h : (Node.element tag as children).Tidy) (hnames : ∀ a ∈ as', isName a.1 = true)
    (hempty : children = [] → children' = [])
    (hdata : ∀ data, children = [.text data] → children' = [.text data])
    (hall : Node.TidyAll children → Node.TidyAll children') :
    (Node.element tag as' children').Tidy := by
  rw [Node.Tidy] at h ⊢
  refine ⟨h.1, hnames, ?_⟩
  by_cases hvoid : voidTags.contains tag = true
  · rw [if_pos hvoid] at h ⊢
    exact hempty h.2.2
  · rw [if_neg hvoid] at h ⊢
    by_cases hraw : rawTags.contains tag = true
    · rw [if_pos hraw] at h ⊢
      rcases h.2.2 with ⟨data, hchildren, hisRaw⟩
      exact ⟨data, hdata data hchildren, hisRaw⟩
    · rw [if_neg hraw] at h ⊢
      exact hall h.2.2

theorem Node.Tidy.names {tag : String} {as : List Attribute} {children : List Node}
    (h : (Node.element tag as children).Tidy) : ∀ a ∈ as, isName a.1 = true := by
  rw [Node.Tidy] at h
  exact h.2.1

theorem writtenAll_append (ns ms : List Node) :
    Node.writtenAll (ns ++ ms) = Node.writtenAll ns ++ Node.writtenAll ms := by
  induction ns with
  | nil => rfl
  | cons n ns ih => rw [List.cons_append, Node.writtenAll, ih, Node.writtenAll, List.append_assoc]

theorem everywhereAll_iff {P : String → List Attribute → Prop} {ns : List Node} :
    Node.EverywhereAll P ns ↔ ∀ n ∈ ns, n.Everywhere P := by
  induction ns with
  | nil => simp [Node.EverywhereAll]
  | cons n ns ih => simp [Node.EverywhereAll, ih]

theorem decodeAll_append (ns ms : List Node) :
    Node.decodeAll (ns ++ ms) = do
      let before ← Node.decodeAll ns
      return before ++ (← Node.decodeAll ms) := by
  induction ns with
  | nil =>
      cases hms : Node.decodeAll ms with
      | error e => simp [Node.decodeAll, hms]
      | ok ms' => simp [Node.decodeAll, hms]
  | cons n ns ih =>
      rw [List.cons_append, Node.decodeAll, ih, Node.decodeAll]
      cases n.decode with
      | error e => rfl
      | ok n' =>
          cases Node.decodeAll ns with
          | error e => rfl
          | ok ns' =>
              cases Node.decodeAll ms with
              | error e => rfl
              | ok ms' => rfl

theorem decoded_escaped (a : Attribute) : decoded (Node.escapedAttribute a) = .ok a := by
  rcases a with ⟨name, value⟩
  cases value with
  | none => rfl
  | some value =>
      simp only [Node.escapedAttribute, Option.map_some, decoded,
        Text.decodeReferences_escapeAttribute]
      change Except.ok (name, some (String.ofList value.toList)) = _
      rw [String.ofList_toList]

theorem decoded_escapedAttributes (attributes : List Attribute) :
    (attributes.map Node.escapedAttribute).mapM decoded = .ok attributes := by
  induction attributes with
  | nil => rfl
  | cons a rest ih =>
      rw [List.map_cons, List.mapM_cons, decoded_escaped, ih]
      rfl

mutual

/-- The escaped draft is decoded to the tree. -/
theorem decode_escaped : (n : Node) → n.escaped.decode = .ok n
  | .element tag attributes children => by
    rw [Node.escaped, Node.decode, decoded_escapedAttributes, decodeAll_escapedAll children]
    rfl
  | .text data => rfl
  | .comment data => rfl
  | .declaration data => rfl

theorem decodeAll_escapedAll : (ns : List Node) → Node.decodeAll (Node.escapedAll ns) = .ok ns
  | [] => rfl
  | n :: ns => by
    rw [Node.escapedAll, Node.decodeAll, decode_escaped n, decodeAll_escapedAll ns]
    rfl

end

theorem isTag_ne_rootTag {tag : String} (h : isTag tag = true) : tag ≠ rootTag := by
  rintro rfl
  exact absurd h (by decide)

theorem writtenAttribute_escaped (a : Attribute) :
    (attributeText a).toList = writtenAttribute (Node.escapedAttribute a) := by
  rcases a with ⟨name, value⟩
  cases value <;>
    simp [attributeText, writtenAttribute, Node.escapedAttribute, String.toList_append]

theorem writtenStart_escaped (tag : String) (attributes : List Attribute) :
    (startTag tag attributes).toList
      = writtenStart tag (attributes.map Node.escapedAttribute) := by
  have hconcat : (Text.concat (attributes.map attributeText)).toList
      = (attributes.map Node.escapedAttribute).flatMap writtenAttribute := by
    induction attributes with
    | nil => rfl
    | cons a rest ih =>
        rw [List.map_cons, Text.concat, String.toList_append, ih, writtenAttribute_escaped,
          List.map_cons, List.flatMap_cons]
  simp [startTag, writtenStart, String.toList_append, hconcat]

mutual

/-- A tidy tree is written as its escaped draft. -/
theorem serialize_eq_written : (n : Node) → n.Tidy → n.serialize.toList = n.escaped.written
  | .element tag attributes children, h => by
    rw [Node.Tidy] at h
    rw [Node.serialize, if_neg (isTag_ne_rootTag h.1), Node.escaped, Node.written]
    by_cases hvoid : voidTags.contains tag = true
    · rw [if_pos hvoid, if_pos hvoid, writtenStart_escaped]
    · rw [if_neg hvoid] at h
      -- Raw content is written as it is by both.
      have hchildren : (Node.serializeAll children).toList
          = Node.writtenAll (Node.escapedAll children) := by
        by_cases hraw : rawTags.contains tag = true
        · rw [if_pos hraw] at h
          rcases h.2.2 with ⟨data, rfl, -⟩
          simp [Node.serializeAll, Node.serialize, Node.escapedAll, Node.escaped,
            Node.writtenAll, Node.written]
        · rw [if_neg hraw] at h
          exact serializeAll_eq_written children h.2.2
      rw [if_neg hvoid, if_neg hvoid, String.toList_append, String.toList_append,
        writtenStart_escaped, hchildren, List.append_assoc]
      simp [endTag, writtenEnd, String.toList_append]
  | .text data, _ => rfl
  | .comment data, _ => by
    simp [Node.serialize, Node.escaped, Node.written, String.toList_append]
  | .declaration data, _ => by
    simp [Node.serialize, Node.escaped, Node.written, String.toList_append]

theorem serializeAll_eq_written : (ns : List Node) → Node.TidyAll ns →
    (Node.serializeAll ns).toList = Node.writtenAll (Node.escapedAll ns)
  | [], _ => rfl
  | n :: ns, h => by
    rw [Node.TidyAll] at h
    rw [Node.serializeAll, String.toList_append, serialize_eq_written n h.1,
      serializeAll_eq_written ns h.2.2, Node.escapedAll, Node.writtenAll]

end

/-- An attribute keeps its name when its value is decoded. -/
theorem decoded_name {a a' : Attribute} (h : decoded a = .ok a') : a'.1 = a.1 := by
  rcases a with ⟨name, value⟩
  cases value with
  | none =>
      rw [decoded, except_pure_ok] at h
      rw [← h]
  | some value =>
      simp only [decoded, except_bind_ok, except_pure_ok] at h
      rcases h with ⟨text, -, rfl⟩
      rfl

/-- What holds of all names still holds of them when the values are decoded. -/
theorem decoded_names {P : String → Prop} {as as' : List Attribute}
    (h : as.mapM decoded = .ok as') (has : ∀ a ∈ as, P a.1) : ∀ a ∈ as', P a.1 := by
  induction as generalizing as' with
  | nil =>
      rw [List.mapM_nil, except_pure_ok] at h
      simp [← h]
  | cons a as ih =>
      rcases mapM_cons_ok.mp h with ⟨b, bs, hb, hbs, rfl⟩
      intro x hx
      rcases List.mem_cons.mp hx with heq | hmem
      · rw [heq, decoded_name hb]
        exact has a List.mem_cons_self
      · exact ih hbs (fun y hy => has y (List.mem_cons_of_mem a hy)) x hmem

theorem decode_element {tag : String} {attributes : List Attribute} {children : List Node}
    {m : Node} : (Node.element tag attributes children).decode = .ok m ↔
      ∃ as cs, attributes.mapM decoded = .ok as ∧ Node.decodeAll children = .ok cs ∧
        m = .element tag as cs := by
  simp only [Node.decode, except_bind_ok, except_pure_ok]
  constructor
  · rintro ⟨as, has, cs, hcs, rfl⟩
    exact ⟨as, cs, has, hcs, rfl⟩
  · rintro ⟨as, cs, has, hcs, rfl⟩
    exact ⟨as, has, cs, hcs, rfl⟩

theorem decodeAll_cons {n : Node} {ns ms : List Node} : Node.decodeAll (n :: ns) = .ok ms ↔
    ∃ m ms', n.decode = .ok m ∧ Node.decodeAll ns = .ok ms' ∧ ms = m :: ms' := by
  simp only [Node.decodeAll, except_bind_ok, except_pure_ok]
  constructor
  · rintro ⟨m, hm, ms', hms, rfl⟩
    exact ⟨m, ms', hm, hms, rfl⟩
  · rintro ⟨m, ms', hm, hms, rfl⟩
    exact ⟨m, hm, ms', hms, rfl⟩

theorem decodeAll_nil {ms : List Node} : Node.decodeAll [] = .ok ms ↔ ms = [] := by
  rw [Node.decodeAll, except_pure_ok]
  exact eq_comm

theorem decodeAll_single {n : Node} {ms : List Node} :
    Node.decodeAll [n] = .ok ms ↔ ∃ m, n.decode = .ok m ∧ ms = [m] := by
  rw [decodeAll_cons]
  constructor
  · rintro ⟨m, ms', hm, hms, rfl⟩
    rw [decodeAll_nil.mp hms]
    exact ⟨m, hm, rfl⟩
  · rintro ⟨m, hm, rfl⟩
    exact ⟨m, [], hm, rfl, rfl⟩

/-- Drafts are decoded one by one, so that what they show one by one they show decoded. -/
theorem decodeAll_shows {α : Type} {drawn shown : α → Node → Prop}
    (hdecode : ∀ a n m, drawn a n → n.decode = .ok m → shown a m) {as : List α}
    {ns ms : List Node} (h : List.Forall₂ drawn as ns) (hms : Node.decodeAll ns = .ok ms) :
    List.Forall₂ shown as ms := by
  induction h generalizing ms with
  | nil =>
      rw [decodeAll_nil.mp hms]
      exact .nil
  | cons hfirst _ ih =>
      rcases decodeAll_cons.mp hms with ⟨m, ms', hm, hrest, rfl⟩
      exact .cons (hdecode _ _ _ hfirst hm) (ih hrest)

/-- An element without attributes is decoded in its content. -/
theorem plain_decode {tag : String} {ns : List Node} {m : Node}
    (h : (Node.element tag [] ns).decode = .ok m) :
    ∃ ms, Node.decodeAll ns = .ok ms ∧ m = .element tag [] ms := by
  rcases decode_element.mp h with ⟨as, ms, has, hms, rfl⟩
  obtain rfl : [] = as := except_pure_ok.mp has
  exact ⟨ms, hms, rfl⟩

/-- Decoding leaves alone what has no attributes. -/
theorem decode_leaf {n m : Node} (hn : n.isElement = false) (h : n.decode = .ok m) : m = n := by
  cases n with
  | element tag attributes children => exact absurd hn (by simp [Node.isElement])
  | text data | comment data | declaration data =>
      rw [Node.decode, except_pure_ok] at h
      exact h.symm

theorem isPlainText_decode {n m : Node} (h : n.decode = .ok m) :
    m.isPlainText = n.isPlainText := by
  -- Decoding changes attributes only.
  cases n with
  | element tag attributes children =>
      rcases decode_element.mp h with ⟨as, cs, -, -, rfl⟩
      rfl
  | text data | comment data | declaration data => rw [decode_leaf rfl h]

theorem head?_isPlainText_decode {ns ms : List Node} (h : Node.decodeAll ns = .ok ms) :
    ms.head?.any Node.isPlainText = ns.head?.any Node.isPlainText := by
  cases ns with
  | nil => rw [decodeAll_nil.mp h]
  | cons n ns =>
      rcases decodeAll_cons.mp h with ⟨m, ms', hm, -, rfl⟩
      simp [isPlainText_decode hm]

mutual

/-- What a tidy draft is read as is tidy. -/
theorem tidy_decode : (n : Node) → {m : Node} → n.decode = .ok m → n.Tidy → m.Tidy
  | .element tag attributes children, m, h, hn => by
    rcases decode_element.mp h with ⟨as, cs, has, hcs, rfl⟩
    refine hn.replaced (decoded_names (P := fun name => isName name = true) has hn.names) ?_ ?_
      (tidyAll_decode children hcs)
    · rintro rfl
      exact decodeAll_nil.mp hcs
    · rintro data rfl
      rcases decodeAll_single.mp hcs with ⟨m, hm, rfl⟩
      rw [decode_leaf rfl hm]
  | .text _, _, h, hn => by rwa [decode_leaf rfl h]
  | .comment _, _, h, hn => by rwa [decode_leaf rfl h]
  | .declaration _, _, h, hn => by rwa [decode_leaf rfl h]

theorem tidyAll_decode : (ns : List Node) → {ms : List Node} → Node.decodeAll ns = .ok ms →
    Node.TidyAll ns → Node.TidyAll ms
  | [], _, h, _ => by
    rw [decodeAll_nil.mp h]
    trivial
  | n :: ns, _, h, hn => by
    rcases decodeAll_cons.mp h with ⟨m, ms', hm, hms, rfl⟩
    rw [Node.TidyAll] at hn ⊢
    refine ⟨tidy_decode n hm hn.1, ?_, tidyAll_decode ns hms hn.2.2⟩
    rw [isPlainText_decode hm, head?_isPlainText_decode hms]
    exact hn.2.1

end

theorem isPlainText_escaped (n : Node) : n.escaped.isPlainText = n.isPlainText := by
  cases n <;> rfl

mutual

/-- The draft that a tidy tree is written as is tidy. -/
theorem tidy_escaped : (n : Node) → n.Tidy → n.escaped.Tidy
  | .element tag attributes children, hn => by
    rw [Node.escaped]
    refine hn.replaced (fun a ha => ?_) ?_ ?_ (tidyAll_escaped children)
    · rcases List.mem_map.mp ha with ⟨b, hb, rfl⟩
      exact hn.names b hb
    · rintro rfl
      rfl
    · rintro data rfl
      rfl
  | .text _, hn => hn
  | .comment _, hn => hn
  | .declaration _, hn => hn

theorem tidyAll_escaped : (ns : List Node) → Node.TidyAll ns → Node.TidyAll (Node.escapedAll ns)
  | [], _ => trivial
  | n :: ns, hn => by
    rw [Node.TidyAll] at hn
    rw [Node.escapedAll, Node.TidyAll, isPlainText_escaped]
    refine ⟨tidy_escaped n hn.1, fun hplain => ?_, tidyAll_escaped ns hn.2.2⟩
    have hnext := hn.2.1 hplain
    cases ns with
    | nil => rfl
    | cons m ms => simpa [Node.escapedAll, isPlainText_escaped] using hnext

end

mutual

/-- What holds of the attributes of a draft's elements holds of the tree it is read as, as
    far as decoding keeps it. -/
theorem Node.Everywhere.decode {P Q : String → List Attribute → Prop}
    (hPQ : ∀ tag as as', P tag as → as.mapM decoded = .ok as' → Q tag as') :
    (n : Node) → {m : Node} → n.Everywhere P → n.decode = .ok m → m.Everywhere Q
  | .element tag attributes children, m, hn, h => by
    rcases decode_element.mp h with ⟨as, cs, has, hcs, rfl⟩
    rw [Node.Everywhere] at hn ⊢
    exact ⟨hPQ tag attributes as hn.1 has, everywhereAll_decode hPQ children hn.2 hcs⟩
  | .text _, _, _, h => by rw [decode_leaf rfl h]; trivial
  | .comment _, _, _, h => by rw [decode_leaf rfl h]; trivial
  | .declaration _, _, _, h => by rw [decode_leaf rfl h]; trivial

theorem everywhereAll_decode {P Q : String → List Attribute → Prop}
    (hPQ : ∀ tag as as', P tag as → as.mapM decoded = .ok as' → Q tag as') :
    (ns : List Node) → {ms : List Node} → Node.EverywhereAll P ns →
      Node.decodeAll ns = .ok ms → Node.EverywhereAll Q ms
  | [], _, _, h => by
    rw [decodeAll_nil.mp h]
    trivial
  | n :: ns, _, hn, h => by
    rcases decodeAll_cons.mp h with ⟨m, ms', hm, hms, rfl⟩
    rw [Node.EverywhereAll] at hn ⊢
    exact ⟨Node.Everywhere.decode hPQ n hn.1 hm, everywhereAll_decode hPQ ns hn.2 hms⟩

end

theorem escapeAttribute_inQuotes (s : String) : '"' ∉ (Text.escapeAttribute s).toList := by
  rw [Text.escapeAttribute, Text.replaceChars, String.toList_ofList, List.mem_flatMap]
  rintro ⟨c, -, hc⟩
  -- Only a quote could stand for a quote, and it is written as a reference.
  by_cases hamp : c = '&'
  · subst hamp
    exact absurd hc (by decide)
  · by_cases hquote : c = '"'
    · subst hquote
      exact absurd hc (by decide)
    · have hself : (Text.attributeReference c).toList = [c] := by
        have htext : Text.attributeReference c = c.toString := by simp [Text.attributeReference]
        rw [htext]
        exact String.toList_singleton c
      rw [hself, List.mem_singleton] at hc
      exact hquote hc.symm

theorem attributesInQuotes_escaped (attributes : List Attribute) :
    AttributesInQuotes (attributes.map Node.escapedAttribute) := by
  intro a ha value hvalue
  rcases List.mem_map.mp ha with ⟨b, -, rfl⟩
  rcases Option.map_eq_some_iff.mp hvalue with ⟨v, -, rfl⟩
  exact escapeAttribute_inQuotes v

mutual

/-- Escaped values stay in their quotes. -/
theorem inQuotes_escaped : (n : Node) → n.escaped.InQuotes
  | .element tag attributes children => by
    rw [Node.escaped, Node.InQuotes, Node.Everywhere]
    exact ⟨attributesInQuotes_escaped attributes, inQuotesAll_escaped children⟩
  | .text _ => trivial
  | .comment _ => trivial
  | .declaration _ => trivial

theorem inQuotesAll_escaped : (ns : List Node) → Node.InQuotesAll (Node.escapedAll ns)
  | [] => trivial
  | n :: ns => ⟨inQuotes_escaped n, inQuotesAll_escaped ns⟩

end

end Letterpress.Markup
