import Letterpress.Proofs.Markup.Layer
import Letterpress.Render.Text

/-!
# Running Text

Texts from outside are written character by character, with references for what markup
would take for its own and with elements for line breaks. As drafts they are runs of
plain characters with these marks between them.

## Main definitions

* `runningText`: A text as drafts, given the marks for some characters.
* `IsMarking`: A way of writing characters makes these marks.
* `spanMark?`, `quotedMark?`: The marks in spans and in titles.

## Theorems

* `writes_runningText`, `tidyAll_runningText`: The drafts of a text.
* `spanCharacter_marking`, `quotedReference_marking`: The two ways of writing.
-/

namespace Letterpress.Markup

/-- A plain character in front of drafts; it joins the run that they start with. -/
def addPlain (c : Char) : List Node → List Node
  | .text data :: ns =>
    if isPlain data then .text (String.ofList (c :: data.toList)) :: ns
    else .text (String.ofList [c]) :: .text data :: ns
  | ns => .text (String.ofList [c]) :: ns

/-- A text as drafts: a mark for every character that has one, and the others in runs. -/
def runningText (mark? : Char → Option Node) : List Char → List Node
  | [] => []
  | c :: s =>
    match mark? c with
    | some n => n :: runningText mark? s
    | none => addPlain c (runningText mark? s)

/-- Characters without marks are written as they are, and the others as their marks, which
    are references or line breaks. -/
structure IsMarking (f : Char → String) (mark? : Char → Option Node) : Prop where
  plain : ∀ c, mark? c = none → (f c).toList = [c] ∧ isDataChar c = true
  written : ∀ c n, mark? c = some n → (f c).toList = n.written
  tidy : ∀ c n, mark? c = some n → n.Tidy
  solid : ∀ c n, mark? c = some n → n.isPlainText = false
  bare : ∀ c n, mark? c = some n → ∀ P : String → List Attribute → Prop, P "br" [] →
    n.Everywhere P

theorem addPlain_cases (c : Char) (ns : List Node) :
    (∃ data more, ns = .text data :: more ∧ isPlain data = true ∧
      addPlain c ns = .text (String.ofList (c :: data.toList)) :: more) ∨
    (ns.head?.any Node.isPlainText = false ∧
      addPlain c ns = .text (String.ofList [c]) :: ns) := by
  cases ns with
  | nil => exact Or.inr ⟨rfl, rfl⟩
  | cons n ns =>
      cases n with
      | text data =>
          by_cases hplain : isPlain data = true
          · exact Or.inl ⟨data, ns, rfl, hplain, by rw [addPlain, if_pos hplain]⟩
          · refine Or.inr ⟨?_, by rw [addPlain, if_neg hplain]⟩
            simpa [Node.isPlainText] using hplain
      | element tag as children => exact Or.inr ⟨rfl, rfl⟩
      | comment data => exact Or.inr ⟨rfl, rfl⟩
      | declaration data => exact Or.inr ⟨rfl, rfl⟩

theorem writtenAll_addPlain (c : Char) (ns : List Node) :
    Node.writtenAll (addPlain c ns) = c :: Node.writtenAll ns := by
  rcases addPlain_cases c ns with ⟨data, more, rfl, -, heq⟩ | ⟨-, heq⟩
  · rw [heq, Node.writtenAll, Node.written, String.toList_ofList, Node.writtenAll, Node.written,
      List.cons_append]
  · rw [heq, Node.writtenAll, Node.written, String.toList_ofList]
    rfl

theorem tidyAll_addPlain {c : Char} (hc : isDataChar c = true) {ns : List Node}
    (h : Node.TidyAll ns) : Node.TidyAll (addPlain c ns) := by
  have hrun : ∀ s : List Char, s.all isDataChar = true →
      isPlain (String.ofList (c :: s)) = true := by
    intro s hs
    rw [isPlain, String.toList_ofList, List.all_cons, hc, hs]
    rfl
  rcases addPlain_cases c ns with ⟨data, more, rfl, hdata, heq⟩ | ⟨hhead, heq⟩
  · rw [heq]
    rw [Node.TidyAll] at h ⊢
    rw [isPlain, Bool.and_eq_true] at hdata
    refine ⟨Or.inl (hrun _ hdata.2), fun _ => h.2.1 ?_, h.2.2⟩
    simpa [Node.isPlainText, isPlain] using hdata
  · rw [heq, Node.TidyAll]
    exact ⟨Or.inl (hrun [] rfl), fun _ => hhead, h⟩

theorem everywhereAll_addPlain {P : String → List Attribute → Prop} (c : Char) {ns : List Node}
    (h : Node.EverywhereAll P ns) : Node.EverywhereAll P (addPlain c ns) := by
  rcases addPlain_cases c ns with ⟨data, more, rfl, -, heq⟩ | ⟨-, heq⟩
  · rw [heq]
    exact ⟨trivial, h.2⟩
  · rw [heq]
    exact ⟨trivial, h⟩

section Marking

variable {f : Char → String} {mark? : Char → Option Node}

/-- The text of a text's drafts is the text, written character by character. -/
theorem writes_runningText (h : IsMarking f mark?) (s : List Char) :
    Writes (Text.replaceChars f (String.ofList s)) (runningText mark? s) := by
  rw [Writes, Text.replaceChars, String.toList_ofList, String.toList_ofList]
  induction s with
  | nil => rfl
  | cons c s ih =>
      rw [List.flatMap_cons, ih, runningText]
      cases hmark : mark? c with
      | none => rw [(h.plain c hmark).1, writtenAll_addPlain, List.singleton_append]
      | some n => rw [h.written c n hmark, Node.writtenAll]

theorem tidyAll_runningText (h : IsMarking f mark?) (s : List Char) :
    Node.TidyAll (runningText mark? s) := by
  induction s with
  | nil => trivial
  | cons c s ih =>
      rw [runningText]
      cases hmark : mark? c with
      | none => exact tidyAll_addPlain (h.plain c hmark).2 ih
      | some n =>
          rw [Node.TidyAll]
          exact ⟨h.tidy c n hmark,
            fun hplain => absurd hplain (by rw [h.solid c n hmark]; exact Bool.false_ne_true), ih⟩

theorem everywhereAll_runningText (h : IsMarking f mark?) {P : String → List Attribute → Prop}
    (hbreak : P "br" []) (s : List Char) : Node.EverywhereAll P (runningText mark? s) := by
  induction s with
  | nil => trivial
  | cons c s ih =>
      rw [runningText]
      cases hmark : mark? c with
      | none => exact everywhereAll_addPlain c ih
      | some n => exact ⟨h.bare c n hmark P hbreak, ih⟩

end Marking

/-- The reference for a character of markup. -/
def textMark? : Char → Option Node
  | '&' => some (.text "&amp;")
  | '<' => some (.text "&lt;")
  | '>' => some (.text "&gt;")
  | _ => none

theorem isReference_named {c : Char} (name : List Char) (hc : c.isAlpha = true)
    (hname : name.all isEntityChar = true) {s : String}
    (hs : s.toList = '&' :: c :: (name ++ [';'])) : (Node.text s).Tidy := by
  rw [Node.Tidy, hs]
  exact Or.inr (IsReference.named c name hc hname)

/-- The references in character data. -/
theorem textReference_marking : IsMarking Text.textReference textMark? := by
  -- There are three marks, and they differ only in their names.
  have hcases : ∀ c n, textMark? c = some n →
      (c = '&' ∧ n = .text "&amp;") ∨ (c = '<' ∧ n = .text "&lt;") ∨
        (c = '>' ∧ n = .text "&gt;") := by
    intro c n h
    unfold textMark? at h
    split at h
    · exact Or.inl ⟨rfl, (Option.some.inj h).symm⟩
    · exact Or.inr (Or.inl ⟨rfl, (Option.some.inj h).symm⟩)
    · exact Or.inr (Or.inr ⟨rfl, (Option.some.inj h).symm⟩)
    · exact absurd h (by simp)
  refine ⟨fun c h => ?_, fun c n h => ?_, fun c n h => ?_, fun c n h => ?_, fun c n h P _ => ?_⟩
  · unfold textMark? at h
    split at h
    iterate 3 exact absurd h (by simp)
    rename_i hamp hless hgreater
    refine ⟨?_, by simpa [isDataChar] using ⟨hless, hamp⟩⟩
    have hself : Text.textReference c = c.toString := by
      simp [Text.textReference]
    rw [hself]
    exact String.toList_singleton c
  · rcases hcases c n h with ⟨rfl, rfl⟩ | ⟨rfl, rfl⟩ | ⟨rfl, rfl⟩ <;> rfl
  · rcases hcases c n h with ⟨-, rfl⟩ | ⟨-, rfl⟩ | ⟨-, rfl⟩
    · exact isReference_named ['m', 'p'] (by decide) (by decide) rfl
    · exact isReference_named ['t'] (by decide) (by decide) rfl
    · exact isReference_named ['t'] (by decide) (by decide) rfl
  · rcases hcases c n h with ⟨-, rfl⟩ | ⟨-, rfl⟩ | ⟨-, rfl⟩ <;> rfl
  · rcases hcases c n h with ⟨-, rfl⟩ | ⟨-, rfl⟩ | ⟨-, rfl⟩ <;> trivial

/-- One more mark. -/
theorem IsMarking.extend {f : Char → String} {mark? : Char → Option Node} (h : IsMarking f mark?)
    (d : Char) {s : String} (mark : Node) (hwritten : s.toList = mark.written)
    (htidy : mark.Tidy) (hsolid : mark.isPlainText = false)
    (hbare : ∀ P : String → List Attribute → Prop, P "br" [] → mark.Everywhere P) :
    IsMarking (fun c => if c = d then s else f c)
      (fun c => if c = d then some mark else mark? c) := by
  -- A mark is the new one or an old one, and in either case it has all the properties.
  have hcases : ∀ c n, (if c = d then some mark else mark? c) = some n →
      (c = d ∧ n = mark) ∨ (c ≠ d ∧ mark? c = some n) := by
    intro c n hc
    by_cases hcd : c = d
    · rw [if_pos hcd] at hc
      exact Or.inl ⟨hcd, (Option.some.inj hc).symm⟩
    · rw [if_neg hcd] at hc
      exact Or.inr ⟨hcd, hc⟩
  refine ⟨fun c hc => ?_, fun c n hc => ?_, fun c n hc => ?_, fun c n hc => ?_,
    fun c n hc P hbreak => ?_⟩
  · by_cases hcd : c = d
    · rw [if_pos hcd] at hc
      exact absurd hc (by simp)
    · rw [if_neg hcd] at hc ⊢
      exact h.plain c hc
  · rcases hcases c n hc with ⟨hcd, rfl⟩ | ⟨hcd, hc⟩
    · rw [if_pos hcd, hwritten]
    · rw [if_neg hcd, h.written c n hc]
  · rcases hcases c n hc with ⟨-, rfl⟩ | ⟨-, hc⟩
    · exact htidy
    · exact h.tidy c n hc
  · rcases hcases c n hc with ⟨-, rfl⟩ | ⟨-, hc⟩
    · exact hsolid
    · exact h.solid c n hc
  · rcases hcases c n hc with ⟨-, rfl⟩ | ⟨-, hc⟩
    · exact hbare P hbreak
    · exact h.bare c n hc P hbreak

/-- The mark for a character in a span. -/
def spanMark? (c : Char) : Option Node :=
  if c = '\n' then some (.element "br" [] []) else textMark? c

/-- The mark for a character in a title, where quotes are referred to as well. -/
def quotedMark? (c : Char) : Option Node :=
  if c = '"' then some (.text "&quot;")
  else if c = '\'' then some (.text "&#x27;")
  else textMark? c

/-- The characters of a span. -/
theorem spanCharacter_marking : IsMarking Render.spanCharacter spanMark? := by
  have heq : Render.spanCharacter = fun c => if c = '\n' then "<br>" else Text.textReference c := by
    funext c
    unfold Render.spanCharacter
    split
    · rfl
    · rename_i hc
      rw [if_neg hc]
  have hbreak : (Node.element "br" [] []).Tidy := by
    rw [Node.Tidy, if_pos (by decide)]
    exact ⟨by decide, by simp, rfl⟩
  rw [heq]
  exact textReference_marking.extend '\n' (.element "br" [] []) rfl hbreak rfl
    fun P h => ⟨h, trivial⟩

/-- The characters of a title. -/
theorem quotedReference_marking : IsMarking Text.quotedReference quotedMark? := by
  have heq : Text.quotedReference = fun c => if c = '"' then "&quot;"
      else if c = '\'' then "&#x27;" else Text.textReference c := by
    funext c
    unfold Text.quotedReference
    split
    · rfl
    · rfl
    · rename_i hdouble hsingle
      rw [if_neg hdouble, if_neg hsingle]
  have hcode : (Node.text "&#x27;").Tidy :=
    Or.inr (IsReference.numeric ['x', '2', '7'] (by decide))
  rw [heq]
  exact (textReference_marking.extend '\'' (.text "&#x27;") rfl hcode rfl
    fun _ _ => trivial).extend '"' (.text "&quot;") rfl
      (isReference_named ['u', 'o', 't'] (by decide) (by decide) rfl) rfl
      fun _ _ => trivial

end Letterpress.Markup
