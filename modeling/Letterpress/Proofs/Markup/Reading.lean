import Letterpress.Proofs.Markup.Tag

/-!
# Reading Written Trees

A tidy draft is read as what its decoding makes of it.

Every construct of a draft is read on its own, whatever stands before it, and
whatever follows it, except that character data ends where markup begins. So the text
of a draft is read construct by construct (`ReadsTo`), and the effects on the tree
that is being built add up. Only decoding can fail, and the reader fails where it
does.

## Main definitions

* `Reads`: The events between two positions.
* `ReadsTo`: The nodes that a text adds before its rest, or the fault it stops at.

## Theorems

* `events_of_reads`: A text that is read to its end.
* `ReadsTo.append`: Reading one text after another.
* `reads_node`, `reads_nodes`: Reading drafts.
* `parse_written`: A tidy draft is read as what it is decoded to.
* `parse_serializeAll`: A tidy tree that is written is read back.
-/

namespace Letterpress.Markup

/-- Reading goes from one position to another, with some events on the way, and leaves
    less of the text at every step. -/
inductive Reads : Position → List Event → Position → Prop
  | refl (p : Position) : Reads p [] p
  | step {p next q : Position} {first rest : List Event}
      (hstep : Markup.step false p = .ok (.go first next))
      (hless : next.rest.length < p.rest.length) (hrest : Reads next rest q) :
      Reads p (first ++ rest) q

theorem Reads.trans {p q r : Position} {first rest : List Event} (h : Reads p first q)
    (hrest : Reads q rest r) : Reads p (first ++ rest) r := by
  induction h with
  | refl p => exact hrest
  | step hstep hless _ ih =>
      rw [List.append_assoc]
      exact Reads.step hstep hless (ih hrest)

theorem Reads.single {p q : Position} {es : List Event}
    (hstep : Markup.step false p = .ok (.go es q)) (hless : q.rest.length < p.rest.length) :
    Reads p es q := by
  have h := Reads.step hstep hless (Reads.refl q)
  rwa [List.append_nil] at h

/-- A pass goes through what is read, and on from there. -/
theorem pass_of_reads {p q : Position} {es : List Event} (h : Reads p es q) (fuel : Nat)
    (hfuel : p.rest.length ≤ fuel) :
    ∃ left, q.rest.length ≤ left ∧
      pass false fuel p = (fun r => (es ++ r.1, r.2)) <$> pass false left q := by
  -- Each step shortens the text, so that fuel for all of it never runs out.
  induction h generalizing fuel with
  | refl p =>
      refine ⟨fuel, hfuel, ?_⟩
      cases pass false fuel p <;> rfl
  | @step p next q first rest hstep hless _ ih =>
      cases fuel with
      | zero => omega
      | succ fuel =>
          rcases ih fuel (by omega) with ⟨left, hleft, hpass⟩
          refine ⟨left, hleft, ?_⟩
          rw [pass, hstep]
          change (pass false fuel next >>= _) = _
          rw [hpass]
          cases pass false left q with
          | error e => rfl
          | ok r =>
              change Except.ok (first ++ (rest ++ r.1), r.2) = _
              rw [← List.append_assoc]
              rfl

/-- A text that is read to its end. -/
theorem events_of_reads {s : List Char} {es : List Event} (h : Reads ⟨none, s⟩ es ⟨none, []⟩) :
    events s = .ok es := by
  rcases pass_of_reads h s.length (Nat.le_refl _) with ⟨left, -, hpass⟩
  have hend : ∀ closing fuel, pass closing fuel ⟨none, []⟩ = .ok ([], ⟨none, []⟩) := by
    intro closing fuel
    cases fuel <;> rfl
  rw [hend] at hpass
  have hfirst : pass false s.length ⟨none, s⟩ = .ok (es ++ [], ⟨none, []⟩) := hpass
  rw [events, hfirst]
  -- Closing the text at its end reads nothing more.
  simp only [bind, Except.bind, hend]
  simp [pure, Except.pure]

/-- A text in which reading stops with a fault. -/
theorem events_of_fault {s : List Char} {es : List Event} {q : Position} {e : MarkupError}
    (h : Reads ⟨none, s⟩ es q) (hrest : q.rest ≠ []) (he : Markup.step false q = .error e) :
    events s = .error e := by
  rcases pass_of_reads h s.length (Nat.le_refl _) with ⟨left, hleft, hpass⟩
  have hpositive : 0 < q.rest.length := List.length_pos_iff.mpr hrest
  cases left with
  | zero => omega
  | succ left =>
      have hfault : pass false (left + 1) q = .error e := by
        rw [pass, he]
        rfl
      rw [hfault] at hpass
      rw [events, hpass]
      rfl

/-- The builder with nodes added one after another. -/
def Builder.addAll (b : Builder) (ns : List Node) : Builder :=
  ns.foldl Builder.add b

/-- Reading a text up to its rest adds nodes to the tree that is built, or stops with a
    fault. -/
def ReadsTo (s : List Char) (result : Except NumeralError (List Node)) (rest : List Char) :
    Prop :=
  match result with
  | .ok ns => ∃ es, Reads ⟨none, s⟩ es ⟨none, rest⟩ ∧ ∀ b, es.foldl Builder.step b = b.addAll ns
  | .error e =>
    ∃ es q, Reads ⟨none, s⟩ es q ∧ q.rest ≠ [] ∧ Markup.step false q = .error (.numeral e)

theorem readsTo_nil (s : List Char) : ReadsTo s (.ok []) s :=
  ⟨[], Reads.refl _, fun _ => rfl⟩

/-- Reading one text after another. -/
theorem ReadsTo.append {s t rest : List Char} {first others : Except NumeralError (List Node)}
    (h : ReadsTo s first t) (hothers : ReadsTo t others rest) :
    ReadsTo s (do let ns ← first; return ns ++ (← others)) rest := by
  cases first with
  | error e => exact h
  | ok ns =>
      rcases h with ⟨es, hreads, heffect⟩
      cases others with
      | error e =>
          rcases hothers with ⟨fs, q, hfault, hne, hstep⟩
          exact ⟨es ++ fs, q, hreads.trans hfault, hne, hstep⟩
      | ok ms =>
          rcases hothers with ⟨fs, hmore, hmoreEffect⟩
          refine ⟨es ++ fs, hreads.trans hmore, fun b => ?_⟩
          rw [List.foldl_append, heffect, hmoreEffect, Builder.addAll, Builder.addAll,
            Builder.addAll, List.foldl_append]

/-- A construct that is read in one step. -/
theorem readsTo_step {s rest : List Char} {e : Event} {n : Node}
    (hstep : Markup.step false ⟨none, s⟩ = .ok (.go [e] ⟨none, rest⟩))
    (hless : rest.length < s.length) (heffect : ∀ b, Builder.step b e = b.add n) :
    ReadsTo s (.ok [n]) rest :=
  ⟨[e], Reads.single hstep hless, heffect⟩

/-- Character data ends here: the text is empty or markup begins. -/
def StopsData (s : List Char) : Prop :=
  ∀ c ∈ s.head?, isDataChar c = false

theorem step_data (closing : Bool) {s rest : List Char} (hne : s ≠ [])
    (hs : ∀ c ∈ s, isDataChar c = true) (hrest : StopsData rest) :
    Markup.step closing ⟨none, s ++ rest⟩ = .ok (.go [dataEvent s] ⟨none, rest⟩) := by
  cases s with
  | nil => exact absurd rfl hne
  | cons c s =>
      have hc := hs c List.mem_cons_self
      simp only [isDataChar, Bool.and_eq_true, decide_eq_true_eq] at hc
      have hcut : ((c :: s) ++ rest).takeWhile isDataChar = c :: s ∧
          ((c :: s) ++ rest).dropWhile isDataChar = rest := by
        cases rest with
        | nil =>
            rw [List.append_nil]
            exact ⟨List.takeWhile_eq_self_iff.mpr hs, List.dropWhile_eq_nil_iff.mpr hs⟩
        | cons d rest => exact takeWhile_stop hs (hrest d rfl)
      -- The first character decides between data and markup.
      have hdata : Markup.step closing ⟨none, (c :: s) ++ rest⟩
          = .ok (.go [dataEvent (((c :: s) ++ rest).takeWhile isDataChar)]
              ⟨none, ((c :: s) ++ rest).dropWhile isDataChar⟩) := by
        simp only [Markup.step, List.cons_append]
        split
        · contradiction
        · rename_i heq
          exact absurd (List.cons.inj heq).1 hc.1
        · rename_i heq
          exact absurd (List.cons.inj heq).1 hc.2
        · rfl
      rw [hdata, hcut.1, hcut.2]

theorem step_entity {c : Char} {name : List Char} (hc : c.isAlpha = true)
    (hname : name.all isEntityChar = true) (rest : List Char) :
    Markup.step false ⟨none, '&' :: c :: (name ++ ';' :: rest)⟩
      = .ok (.go [.entity (String.ofList (c :: name))] ⟨none, rest⟩) := by
  have hstop := takeWhile_stop (p := isEntityChar) (s := name) (c := ';') (t := rest)
    (List.all_eq_true.mp hname) (by decide)
  have hentity : readEntity? (c :: (name ++ ';' :: rest)) = some (c :: name, rest) := by
    rw [readEntity?]
    simp only [hc, if_true, hstop.1, List.drop_left]
    rfl
  -- With a sharp it would be a code.
  have hsharp : c ≠ '#' := by
    rintro rfl
    exact absurd hc (by decide)
  simp only [Markup.step]
  rw [readAmpersand]
  · simp only [hentity]
  · intro more hmore
    exact hsharp (List.cons.inj hmore).1

theorem readCode?_written {code : List Char} (hcode : isCode code = true) (rest : List Char) :
    readCode? (code ++ ';' :: rest) = some (code, rest) := by
  cases code with
  | nil => exact absurd hcode (by decide)
  | cons x more =>
      rw [isCode, Bool.or_eq_true] at hcode
      rcases hcode with hdecimal | hhex
      · have hstop := takeWhile_stop (p := Char.isDigit) (s := x :: more) (c := ';') (t := rest)
          (List.all_eq_true.mp hdecimal) (by decide)
        have hdrop : (x :: more ++ ';' :: rest).drop (x :: more).length = ';' :: rest :=
          List.drop_left
        simp only [List.cons_append] at hstop hdrop
        simp only [readCode?, List.cons_append, hstop.1, hdrop]
        rfl
      · simp only [Bool.and_eq_true, Bool.not_eq_true', Bool.or_eq_true, decide_eq_true_eq,
          List.isEmpty_eq_false_iff] at hhex
        -- Hexadecimal codes are told by their first character, which is no digit.
        have hx : x.isDigit = false := by
          rcases hhex.1.1 with rfl | rfl <;> rfl
        have hstop := takeWhile_stop (p := Text.isHexDigit) (s := more) (c := ';') (t := rest)
          (List.all_eq_true.mp hhex.2) (by decide)
        have hdecimal : (x :: (more ++ ';' :: rest)).takeWhile Char.isDigit = [] :=
          List.takeWhile_cons_of_neg (by simp [hx])
        have hdrop : (more ++ ';' :: rest).drop more.length = ';' :: rest := List.drop_left
        simp only [readCode?, List.cons_append, hdecimal, ne_eq, not_true_eq_false, if_false,
          hhex.1.1, if_true, hstop.1, hhex.1.2, hdrop]
        rfl

theorem step_code {code : List Char} (hcode : isCode code = true) (rest : List Char) :
    Markup.step false ⟨none, '&' :: '#' :: (code ++ ';' :: rest)⟩
      = .ok (.go [.code (String.ofList code)] ⟨none, rest⟩) := by
  simp only [Markup.step, readAmpersand, readCode?_written hcode rest]

/-- What follows the text is no end of a comment that begins in it. -/
theorem afterComment?_append {s : List Char} (hne : s ≠ []) (hs : afterComment? s = none)
    (rest : List Char) : afterComment? (s ++ '-' :: '-' :: '>' :: rest) = none := by
  match s with
  | [] => exact absurd rfl hne
  | [c] =>
      by_cases hc : c = '-'
      · subst hc
        rfl
      · rw [List.singleton_append, afterComment?]
        rintro more hmore
        exact hc (List.cons.inj hmore).1
  | c :: d :: s =>
      -- Two dashes end a comment if only blanks are between them and the bracket.
      by_cases hdashes : c = '-' ∧ d = '-'
      · rcases hdashes with ⟨rfl, rfl⟩
        rw [afterComment?, afterChar?] at hs
        rw [List.cons_append, List.cons_append, afterComment?, afterChar?, Text.trimStart]
        rw [Text.trimStart] at hs
        -- If there are only blanks so far, the next dash is in the way.
        by_cases hblank : s.dropWhile Text.isBlank = []
        · rw [List.dropWhile_append_of_pos (List.dropWhile_eq_nil_iff.mp hblank)]
          rfl
        · cases hcut : s.dropWhile Text.isBlank with
          | nil => exact absurd hcut hblank
          | cons e t =>
              rw [hcut] at hs
              rw [List.dropWhile_append, hcut]
              simpa using hs
      · rw [List.cons_append, List.cons_append, afterComment?]
        intro more hmore
        exact hdashes ⟨(List.cons.inj hmore).1, (List.cons.inj (List.cons.inj hmore).2).1⟩

theorem breakAt_comment {data : List Char} (hdata : hasNoCommentEnd data = true)
    (done rest : List Char) :
    breakAt afterComment? done (data ++ '-' :: '-' :: '>' :: rest)
      = some (done.reverse ++ data, rest) := by
  induction data generalizing done with
  | nil =>
      rw [List.nil_append, List.append_nil, breakAt]
      rfl
  | cons c data ih =>
      rw [hasNoCommentEnd, Bool.and_eq_true, Option.isNone_iff_eq_none] at hdata
      have hnone := afterComment?_append (List.cons_ne_nil c data) hdata.1 rest
      rw [List.cons_append] at hnone ⊢
      rw [breakAt, hnone]
      simp only [ih hdata.2 (c :: done), List.reverse_cons, List.append_assoc,
        List.singleton_append]

theorem step_comment {data : List Char} (hdata : hasNoCommentEnd data = true)
    (rest : List Char) :
    Markup.step false ⟨none, '<' :: '!' :: '-' :: '-' :: (data ++ '-' :: '-' :: '>' :: rest)⟩
      = .ok (.go [.comment (String.ofList data)] ⟨none, rest⟩) := by
  simp only [Markup.step, readMarkup, readConstruct, breakAt_comment hdata [] rest]
  rfl

theorem step_declaration {data : String} (hdata : isDocumentType data = true)
    (rest : List Char) :
    Markup.step false ⟨none, '<' :: '!' :: (data.toList ++ '>' :: rest)⟩
      = .ok (.go [.declaration data] ⟨none, rest⟩) := by
  simp only [isDocumentType, Bool.and_eq_true, decide_eq_true_eq, Bool.not_eq_true',
    List.contains_eq_mem, decide_eq_false_iff_not] at hdata
  rcases hdata with ⟨htype, hbracket⟩
  have hstop := takeWhile_stop (p := fun c => decide (c ≠ '>')) (s := data.toList) (c := '>')
    (t := rest) (fun d hd => decide_eq_true fun h => hbracket (h ▸ hd)) (by decide)
  have hbreak : breakAtBracket? (data.toList ++ '>' :: rest) = some (data.toList, rest) := by
    rw [breakAtBracket?, hstop.2]
    simp only [hstop.1]
  have hstart : ((data.toList ++ '>' :: rest).take 7).map Char.toLower = "doctype".toList := by
    have hlength := congrArg List.length htype
    rw [List.length_map, List.length_take] at hlength
    have hseven : "doctype".toList.length = 7 := rfl
    rw [List.take_append_of_le_length (by omega)]
    exact htype
  cases hlist : data.toList with
  | nil =>
      rw [hlist] at htype
      exact absurd htype (by decide)
  | cons c more =>
      rw [hlist] at htype hbreak hstart
      have hc : c.toLower = 'd' := by
        rw [List.take_succ_cons, List.map_cons] at htype
        exact (List.cons.inj htype).1
      -- The first letter rules out comments and marked sections.
      have hdash : c ≠ '-' := by
        rintro rfl
        exact absurd hc (by decide)
      have hsection : c ≠ '[' := by
        rintro rfl
        exact absurd hc (by decide)
      have hkey : String.ofList (c :: more) = data := by rw [← hlist, String.ofList_toList]
      have hread : readDeclaration none (c :: more ++ '>' :: rest)
          = .ok (.found [.declaration data] ⟨none, rest⟩) := by
        rw [readDeclaration]
        · simp only [hbreak, hstart, if_true, hkey]
        · intro t ht
          exact hsection (List.cons.inj ht).1
      have hconstruct : readConstruct none ('!' :: (c :: more ++ '>' :: rest))
          = .ok (.found [.declaration data] ⟨none, rest⟩) := by
        rw [readConstruct]
        · exact hread
        · intro t ht
          exact hdash (List.cons.inj ht).1
      simp only [Markup.step, readMarkup, hconstruct]
      rfl

theorem writtenStart_append (tag : String) (as : List Attribute) (rest : List Char) :
    writtenStart tag as ++ rest = '<' :: (tag.toList ++ fromAttributes as rest) := by
  simp [writtenStart, fromAttributes]

theorem writtenEnd_append (tag : String) (rest : List Char) :
    writtenEnd tag ++ rest = '<' :: '/' :: (tag.toList ++ '>' :: rest) := by
  simp [writtenEnd]

theorem step_start {tag : String} (htag : isTag tag = true) {as : List Attribute}
    (hnames : ∀ a ∈ as, isName a.1 = true) (hquotes : AttributesInQuotes as)
    (rest : List Char) :
    Markup.step false ⟨none, writtenStart tag as ++ rest⟩ =
      match as.mapM decoded with
      | .ok values =>
        .ok (.go [.start tag values] ⟨if rawTags.contains tag then some tag else none, rest⟩)
      | .error e => .error (.numeral e) := by
  have hread := readStartTag_written htag hnames hquotes rest
  rw [writtenStart_append]
  cases hlist : tag.toList with
  | nil => simp [isTag, hlist] at htag
  | cons c more =>
      rw [hlist] at hread
      have hc : c.isAlpha = true := by
        rw [isTag, hlist, Bool.and_eq_true] at htag
        exact isAlpha_of_isLower htag.1
      -- A letter starts none of the other constructs.
      have hconstruct : readConstruct none (c :: more ++ fromAttributes as rest)
          = readStart none (c :: more ++ fromAttributes as rest) := by
        rw [List.cons_append, readConstruct]
        · rw [if_pos hc]
        all_goals
          intros
          subst_vars
          exact absurd hc (by decide)
      simp only [Markup.step, readMarkup, hconstruct, readStart, hread]
      -- Reading fails where an attribute value cannot be decoded, and nowhere else.
      cases as.mapM decoded <;> rfl

theorem step_end {tag : String} (htag : isTag tag = true) (rest : List Char) :
    Markup.step false ⟨none, writtenEnd tag ++ rest⟩
      = .ok (.go [.finish tag] ⟨none, rest⟩) := by
  rw [writtenEnd_append]
  simp only [Markup.step, readMarkup, readConstruct,
    readEndTag_written htag none (Or.inl rfl) rest]
  rfl

theorem addAll_opened (b : Builder) (o : Open) (os : List Open) (ns : List Node) :
    Builder.addAll { b with opened := o :: os } ns
      = { b with opened := { o with children := ns.reverse ++ o.children } :: os } := by
  induction ns generalizing o with
  | nil => rfl
  | cons n ns ih =>
      rw [Builder.addAll, List.foldl_cons]
      change Builder.addAll { b with opened := { o with children := n :: o.children } :: os } ns = _
      rw [ih]
      simp

/-- An end tag closes the element that was opened last, if it is its own. -/
theorem close_opened (b : Builder) (tag : String) (as : List Attribute) (ns : List Node) :
    (Builder.addAll { b with opened := ⟨tag, as, []⟩ :: b.opened } ns).close tag
      = b.add (.element tag as ns) := by
  rw [addAll_opened, Builder.close]
  simp [List.findIdx?_cons, Builder.closeMany, Builder.closeInnermost, Open.close]

/-- The element around a content that is read. -/
theorem readsTo_element {tag : String} (htag : isTag tag = true)
    (hvoid : voidTags.contains tag = false) (hraw : rawTags.contains tag = false)
    {as : List Attribute} (hnames : ∀ a ∈ as, isName a.1 = true)
    (hquotes : AttributesInQuotes as) {content rest : List Char}
    {children : Except NumeralError (List Node)}
    (hcontent : ReadsTo (content ++ (writtenEnd tag ++ rest)) children
      (writtenEnd tag ++ rest)) :
    ReadsTo (writtenStart tag as ++ (content ++ (writtenEnd tag ++ rest)))
      (do let values ← as.mapM decoded; return [.element tag values (← children)]) rest := by
  have hstart := step_start htag hnames hquotes (content ++ (writtenEnd tag ++ rest))
  have hend := step_end htag rest
  have hlonger : ∀ t : List Char, t.length < (writtenStart tag as ++ t).length := by
    intro t
    simp [writtenStart]
    omega
  have hendLonger : rest.length < (writtenEnd tag ++ rest).length := by
    simp [writtenEnd]
    omega
  cases has : as.mapM decoded with
  | error e =>
      rw [has] at hstart
      exact ⟨[], ⟨none, _⟩, Reads.refl _, by simp [writtenStart], hstart⟩
  -- The tags are one step each, the content is between them.
  | ok values =>
      rw [has, hraw] at hstart
      have hopen : Reads ⟨none, writtenStart tag as ++ (content ++ (writtenEnd tag ++ rest))⟩
          [.start tag values] ⟨none, content ++ (writtenEnd tag ++ rest)⟩ :=
        Reads.single hstart (hlonger _)
      cases children with
      | error e =>
          rcases hcontent with ⟨es, q, hreads, hne, hfault⟩
          exact ⟨_, q, hopen.trans hreads, hne, hfault⟩
      | ok ns =>
          rcases hcontent with ⟨es, hreads, heffect⟩
          refine ⟨_, hopen.trans (hreads.trans (Reads.single hend hendLonger)), fun b => ?_⟩
          have hpush : b.step (.start tag values)
              = { b with opened := ⟨tag, values, []⟩ :: b.opened } := by
            rw [Builder.step, if_neg (by rw [hvoid]; exact Bool.false_ne_true)]
          simp only [List.foldl_append, List.foldl_cons, List.foldl_nil, hpush, heffect]
          exact close_opened b tag values ns

/-- An element without content. -/
theorem readsTo_void {tag : String} (htag : isTag tag = true)
    (hvoid : voidTags.contains tag = true) {as : List Attribute}
    (hnames : ∀ a ∈ as, isName a.1 = true) (hquotes : AttributesInQuotes as)
    (rest : List Char) :
    ReadsTo (writtenStart tag as ++ rest)
      (do let values ← as.mapM decoded; return [.element tag values []]) rest := by
  have hstart := step_start htag hnames hquotes rest
  have hraw : ∀ t ∈ voidTags, rawTags.contains t = false := by decide
  cases has : as.mapM decoded with
  | error e =>
      rw [has] at hstart
      exact ⟨[], ⟨none, _⟩, Reads.refl _, by simp [writtenStart], hstart⟩
  | ok values =>
      rw [has, hraw tag (List.contains_iff_mem.mp hvoid)] at hstart
      refine readsTo_step (e := .start tag values) hstart (by simp [writtenStart]; omega)
        fun b => ?_
      rw [Builder.step, if_pos hvoid]

/-- The end tag of a raw element is where its content ends. -/
theorem startsEndTag_written {tag : String} (htag : isTag tag = true) (rest : List Char) :
    startsEndTag tag (writtenEnd tag ++ rest) = true := by
  rcases isName_parts (isName_of_isTag htag) with ⟨c, more, hlist, hordinary⟩
  have hletters : (tag.toList.all fun d => Text.matchesLetter d d) = true := by
    rw [hlist]
    exact List.all_eq_true.mpr fun d hd => (hordinary d hd).matchesItself
  -- Blanks before the tag would be skipped, but there are none.
  have hblank : Text.trimStart (tag.toList ++ '>' :: rest) = tag.toList ++ '>' :: rest := by
    have hc := hordinary c List.mem_cons_self
    rw [hlist, List.cons_append, Text.trimStart,
      List.dropWhile_cons_of_neg (by simp [hc.notBlank])]
  rw [writtenEnd_append, startsEndTag, hblank, afterWord?_append hletters]
  rfl

theorem breakAtEndTag_written {tag : String} (htag : isTag tag = true) (data : List Char)
    (hdata : '<' ∉ data) (rest : List Char) :
    breakAtEndTag tag (data ++ (writtenEnd tag ++ rest))
      = some (data, writtenEnd tag ++ rest) := by
  have hend := startsEndTag_written htag rest
  have hbreak : ∀ done : List Char,
      breakAt (fun t => if startsEndTag tag t then some t else none) done
        (data ++ (writtenEnd tag ++ rest))
          = some (done.reverse ++ data, writtenEnd tag ++ rest) := by
    induction data with
    | nil =>
        intro done
        rw [writtenEnd_append] at hend ⊢
        rw [List.nil_append, breakAt, if_pos hend, List.append_nil]
    | cons c data ih =>
        intro done
        rw [List.mem_cons, not_or] at hdata
        -- Without an opening bracket there is no end tag.
        have hnot : startsEndTag tag (c :: (data ++ (writtenEnd tag ++ rest))) = false := by
          rw [startsEndTag]
          intro t ht
          exact hdata.1 (List.cons.inj ht).1.symm
        rw [List.cons_append, breakAt, hnot]
        simp only [Bool.false_eq_true, if_false, ih hdata.2 (c :: done), List.reverse_cons,
          List.append_assoc, List.singleton_append]
  exact hbreak []

/-- An element whose content is no markup. -/
theorem readsTo_raw {tag : String} (htag : isTag tag = true)
    (hvoid : voidTags.contains tag = false) (hraw : rawTags.contains tag = true)
    {as : List Attribute} (hnames : ∀ a ∈ as, isName a.1 = true)
    (hquotes : AttributesInQuotes as) {data : String} (hdata : isRaw data = true)
    (rest : List Char) :
    ReadsTo (writtenStart tag as ++ (data.toList ++ (writtenEnd tag ++ rest)))
      (do let values ← as.mapM decoded; return [.element tag values [.text data]]) rest := by
  simp only [isRaw, Bool.and_eq_true, Bool.not_eq_true', List.contains_eq_mem,
    decide_eq_false_iff_not, List.isEmpty_eq_false_iff] at hdata
  have hstart := step_start htag hnames hquotes (data.toList ++ (writtenEnd tag ++ rest))
  cases has : as.mapM decoded with
  | error e =>
      rw [has] at hstart
      exact ⟨[], ⟨none, _⟩, Reads.refl _, by simp [writtenStart], hstart⟩
  | ok values =>
      rw [has] at hstart
      simp only [hraw, if_true] at hstart
      -- Three steps: the start tag, all of the content at once, and the end tag.
      have hcontent : Markup.step false ⟨some tag, data.toList ++ (writtenEnd tag ++ rest)⟩
          = .ok (.go [.data data] ⟨some tag, writtenEnd tag ++ rest⟩) := by
        simp only [Markup.step, breakAtEndTag_written htag data.toList hdata.2 rest]
        cases hlist : data.toList with
        | nil => exact absurd hlist hdata.1
        | cons c more =>
            simp only [dataEvent]
            rw [← hlist, String.ofList_toList]
      have hend : Markup.step false ⟨some tag, writtenEnd tag ++ rest⟩
          = .ok (.go [.finish tag] ⟨none, rest⟩) := by
        have hbreak := breakAtEndTag_written htag [] (by simp) rest
        rw [List.nil_append, writtenEnd_append] at hbreak
        rw [writtenEnd_append]
        simp only [Markup.step, hbreak, List.drop_succ_cons, List.drop_zero,
          readMarkup, readConstruct, readEndTag_written htag (some tag) (Or.inr rfl) rest]
        rfl
      have hne := List.length_pos_iff.mpr hdata.1
      refine ⟨_, (Reads.single hstart ?_).trans ((Reads.single hcontent ?_).trans
        (Reads.single hend ?_)), fun b => ?_⟩
      · simp [writtenStart]
        omega
      · simp only [List.length_append]
        omega
      · simp [writtenEnd]
        omega
      · have hpush : b.step (.start tag values)
            = { b with opened := ⟨tag, values, []⟩ :: b.opened } := by
          rw [Builder.step, if_neg (by rw [hvoid]; exact Bool.false_ne_true)]
        simp only [List.foldl_append, List.foldl_cons, List.foldl_nil, hpush]
        exact close_opened b tag values [.text data]

theorem reference_text (name : List Char) :
    "&" ++ String.ofList name ++ ";" = String.ofList ('&' :: (name ++ [';'])) :=
  String.toList_inj.mp (by simp [String.toList_append])

theorem code_text (code : List Char) :
    "&#" ++ String.ofList code ++ ";" = String.ofList ('&' :: '#' :: (code ++ [';'])) :=
  String.toList_inj.mp (by simp [String.toList_append])

/-- What is no character data begins with markup. -/
theorem stopsData_written {n : Node} (htidy : n.Tidy) (hplain : n.isPlainText = false)
    (rest : List Char) : StopsData (n.written ++ rest) := by
  -- Markup begins with one of two characters, which character data does not have.
  have hstart : ∃ c t, n.written = c :: t ∧ isDataChar c = false := by
    cases n with
    | element tag as children =>
        rw [Node.written]
        split <;> exact ⟨'<', _, rfl, rfl⟩
    | text data =>
        rw [Node.Tidy] at htidy
        rcases htidy with hdata | href
        · exact absurd hdata (by simpa [Node.isPlainText] using hplain)
        · rw [Node.written]
          generalize data.toList = chars at href
          cases href <;> exact ⟨'&', _, rfl, rfl⟩
    | comment data => exact ⟨'<', _, rfl, rfl⟩
    | declaration data => exact ⟨'<', _, rfl, rfl⟩
  rcases hstart with ⟨c, t, hwritten, hc⟩
  intro d hd
  rw [hwritten] at hd
  rw [← Option.some.inj hd]
  exact hc

/-- Character data ends before an end tag. -/
theorem stopsData_end (tag : String) (rest : List Char) : StopsData (writtenEnd tag ++ rest) := by
  intro c hc
  rw [writtenEnd_append] at hc
  rw [← Option.some.inj hc]
  rfl

/-- Reading an element. What is between its tags has to be read first, if it is markup. -/
theorem reads_element {tag : String} {as : List Attribute} {children : List Node}
    (htidy : (Node.element tag as children).Tidy)
    (hquotes : (Node.element tag as children).InQuotes) (rest : List Char)
    (hcontent : voidTags.contains tag = false → rawTags.contains tag = false →
      ReadsTo (Node.writtenAll children ++ (writtenEnd tag ++ rest)) (Node.decodeAll children)
        (writtenEnd tag ++ rest)) :
    ReadsTo ((Node.element tag as children).written ++ rest)
      (do return [← (Node.element tag as children).decode]) rest := by
  rw [Node.Tidy] at htidy
  rw [Node.InQuotes, Node.Everywhere] at hquotes
  rw [Node.decode]
  by_cases hvoid : voidTags.contains tag = true
  · -- There is no end tag, and nothing before it.
    rw [if_pos hvoid] at htidy
    rw [Node.written, if_pos hvoid, htidy.2.2]
    have hread := readsTo_void htidy.1 hvoid htidy.2.1 hquotes.1 rest
    cases has : as.mapM decoded with
    | error e => rwa [has] at hread
    | ok values => rwa [has] at hread
  · rw [if_neg hvoid] at htidy
    rw [Bool.not_eq_true] at hvoid
    rw [Node.written, hvoid, if_neg Bool.false_ne_true, List.append_assoc, List.append_assoc]
    by_cases hraw : rawTags.contains tag = true
    · -- The content is one text, which is no markup.
      rw [if_pos hraw] at htidy
      rcases htidy.2.2 with ⟨data, rfl, hdata⟩
      have hread := readsTo_raw htidy.1 hvoid hraw htidy.2.1 hquotes.1 hdata rest
      rw [Node.writtenAll, Node.writtenAll, Node.written, List.append_nil]
      cases has : as.mapM decoded with
      | error e => rwa [has] at hread
      | ok values => rwa [has] at hread
    · rw [Bool.not_eq_true] at hraw
      have hread := readsTo_element htidy.1 hvoid hraw htidy.2.1 hquotes.1 (hcontent hvoid hraw)
      cases has : as.mapM decoded with
      | error e => rwa [has] at hread
      | ok values =>
          rw [has] at hread
          cases hcs : Node.decodeAll children with
          | error e => rwa [hcs] at hread
          | ok cs => rwa [hcs] at hread

/-- Reading a text: character data or one reference. -/
theorem reads_text {data : String} (htidy : (Node.text data).Tidy) (rest : List Char)
    (hstop : (Node.text data).isPlainText = true → StopsData rest) :
    ReadsTo ((Node.text data).written ++ rest) (.ok [.text data]) rest := by
  rw [Node.Tidy] at htidy
  rw [Node.written]
  rcases htidy with hplain | href
  · have hparts := hplain
    simp only [isPlain, Bool.and_eq_true, Bool.not_eq_true', List.isEmpty_eq_false_iff,
      List.all_eq_true] at hparts
    have hstep := step_data false hparts.1 hparts.2 (hstop hplain)
    have hlonger := List.length_pos_iff.mpr hparts.1
    refine readsTo_step hstep (by rw [List.length_append]; omega) fun b => ?_
    rw [dataEvent, String.ofList_toList, Builder.step]
  · generalize hlist : data.toList = chars at href
    have hdata : data = String.ofList chars := by rw [← hlist, String.ofList_toList]
    subst hdata
    -- A reference stays as it is: the tree holds the text that stands for it.
    cases href with
    | named c name hc hname =>
        simp only [List.cons_append, List.append_assoc, List.nil_append]
        refine readsTo_step (step_entity hc hname rest) (by simp; omega) fun b => ?_
        rw [Builder.step, reference_text]
        rfl
    | numeric code hcode =>
        simp only [List.cons_append, List.append_assoc, List.nil_append]
        refine readsTo_step (step_code hcode rest) (by simp; omega) fun b => ?_
        rw [Builder.step, code_text]

theorem reads_comment {data : String} (htidy : (Node.comment data).Tidy) (rest : List Char) :
    ReadsTo ((Node.comment data).written ++ rest) (.ok [.comment data]) rest := by
  have hstep := step_comment htidy rest
  rw [Node.written]
  simp only [List.cons_append, List.append_assoc, List.nil_append]
  refine readsTo_step hstep (by simp; omega) fun b => ?_
  rw [String.ofList_toList, Builder.step]

theorem reads_declaration {data : String} (htidy : (Node.declaration data).Tidy)
    (rest : List Char) :
    ReadsTo ((Node.declaration data).written ++ rest) (.ok [.declaration data]) rest := by
  have hstep := step_declaration htidy rest
  rw [Node.written]
  simp only [List.cons_append, List.append_assoc, List.nil_append]
  exact readsTo_step hstep (by simp; omega) fun b => rfl

mutual

/-- Reading a draft, where character data is followed by markup. -/
theorem reads_node : (n : Node) → n.Tidy → n.InQuotes → (rest : List Char) →
    (n.isPlainText = true → StopsData rest) →
    ReadsTo (n.written ++ rest) (do return [← n.decode]) rest
  | .element tag as children, htidy, hquotes, rest, _ => by
    refine reads_element htidy hquotes rest fun hvoid hraw => ?_
    rw [Node.Tidy, hvoid, hraw] at htidy
    rw [Node.InQuotes, Node.Everywhere] at hquotes
    exact reads_nodes children htidy.2.2 hquotes.2 (writtenEnd tag ++ rest)
      (stopsData_end tag rest)
  | .text _, htidy, _, rest, hstop => reads_text htidy rest hstop
  | .comment _, htidy, _, rest, _ => reads_comment htidy rest
  | .declaration _, htidy, _, rest, _ => reads_declaration htidy rest

/-- Reading drafts one after another, where markup follows. -/
theorem reads_nodes : (ns : List Node) → Node.TidyAll ns → Node.InQuotesAll ns →
    (rest : List Char) → StopsData rest →
    ReadsTo (Node.writtenAll ns ++ rest) (Node.decodeAll ns) rest
  | [], _, _, rest, _ => readsTo_nil rest
  | n :: ns, htidy, hquotes, rest, hstop => by
    rw [Node.TidyAll] at htidy
    rw [Node.InQuotesAll, Node.EverywhereAll] at hquotes
    have hothers := reads_nodes ns htidy.2.2 hquotes.2 rest hstop
    have hfirst := reads_node n htidy.1 hquotes.1 (Node.writtenAll ns ++ rest) (by
      intro hplain
      -- After character data comes something else, or what follows all nodes.
      have hnext := htidy.2.1 hplain
      cases ns with
      | nil => exact hstop
      | cons m ms =>
          rw [Node.writtenAll, List.append_assoc]
          rw [Node.TidyAll] at htidy
          exact stopsData_written htidy.2.2.1 (by simpa using hnext) _)
    have hboth := hfirst.append hothers
    rw [Node.writtenAll, List.append_assoc, Node.decodeAll]
    cases hn : n.decode with
    | error e => rwa [hn] at hboth
    | ok m =>
        rw [hn] at hboth
        cases hns : Node.decodeAll ns with
        | error e => rwa [hns] at hboth
        | ok ms => rwa [hns] at hboth

end

/-- The tree of nodes that are added to nothing. -/
theorem finish_addAll (ns : List Node) :
    (Builder.addAll Builder.empty ns).finish = Node.root ns := by
  have hadd : ∀ outside, Builder.addAll ⟨[], outside⟩ ns = ⟨[], ns.reverse ++ outside⟩ := by
    induction ns with
    | nil => intro _; rfl
    | cons n ns ih =>
        intro outside
        rw [Builder.addAll, List.foldl_cons]
        change Builder.addAll ⟨[], n :: outside⟩ ns = _
        rw [ih]
        simp
  rw [Builder.empty, hadd]
  simp [Builder.finish, Builder.closeMany]

/-- A tidy draft is read as what it is decoded to. -/
theorem parse_written {markup : String} {ns : List Node}
    (hmarkup : markup.toList = Node.writtenAll ns) (htidy : Node.TidyAll ns)
    (hquotes : Node.InQuotesAll ns) :
    parse markup = (Node.root <$> Node.decodeAll ns).mapError MarkupError.numeral := by
  have hread := reads_nodes ns htidy hquotes [] (by simp [StopsData])
  rw [List.append_nil] at hread
  rw [parse, hmarkup]
  cases hns : Node.decodeAll ns with
  | error e =>
      rw [hns] at hread
      rcases hread with ⟨es, q, hreads, hne, hfault⟩
      rw [events_of_fault hreads hne hfault]
      rfl
  | ok ms =>
      rw [hns] at hread
      rcases hread with ⟨es, hreads, heffect⟩
      rw [events_of_reads hreads]
      change Except.ok (ofEvents es) = .ok (Node.root ms)
      rw [ofEvents, heffect, finish_addAll]

/-- A tidy tree that is written is read back. -/
theorem parse_serializeAll {ns : List Node} (htidy : Node.TidyAll ns) :
    parse (Node.serializeAll ns) = .ok (Node.root ns) := by
  rw [parse_written (serializeAll_eq_written ns htidy) (tidyAll_escaped ns htidy)
    (inQuotesAll_escaped ns), decodeAll_escapedAll]
  rfl

end Letterpress.Markup
