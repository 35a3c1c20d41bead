import Letterpress.Proofs.Markup.RunningText
import Letterpress.Proofs.Markup.Value
import Letterpress.Proofs.Markup.Writing
import Letterpress.Proofs.Text.Inert
import Mathlib.Data.List.Chain

/-!
# Content of Tables

What the renderers put into the rows of a table. It is written piece by piece, and
every piece comes with its drafts: they are tidy, take no part in the layout, and hold
no values but fixed ones and names.

Some of it refers to nothing outside: it shows no pictures and holds no links that are
filled in later. Only pictures are content that does.

Conditional comments hold markup of their own, with numbers and colors in it. A comment
ends at two dashes that a `>` follows, perhaps after blanks. So it does not end where
every `>` in it follows some other character.

## Main definitions

* `IsContent`: A text with its drafts.
* `IsSolid`: Drafts that do not run together with their neighbors.
* `IsSelfContained`: An element that refers to nothing outside.
* `IsPassage`: Solid content that refers to nothing outside.
* `NoCloser`: No `>` follows a dash or a blank.

## Theorems

* `IsContent.element`, `IsContent.append`: Content that is put together.
* `IsContent.styled`: An element with nothing but a style.
* `isContent_runningText`: A text from outside.
* `IsPassage.append`, `isPassage_concat`: Passages one after another.
* `hasNoCommentEnd_of_noCloser`: Such a text ends no comment.
* `noCloser_append`, `noCloser_between`: Texts that are put together.
-/

namespace Letterpress.Markup

/-- A text with the drafts that it is the text of. -/
structure IsContent (names : List String) (s : String) (ns : List Node) : Prop where
  writes : Writes s ns
  tidy : Node.TidyAll ns
  calm : Node.EverywhereAll IsCalm ns
  values : Node.EverywhereAll (HasValues names) ns

/-- Drafts none of which is plain text. -/
def IsSolid (ns : List Node) : Prop :=
  ∀ n ∈ ns, n.isPlainText = false

/-- An element that shows no picture and is no link that is filled in later. -/
def IsSelfContained (tag : String) (as : List Attribute) : Prop :=
  tag ≠ "img" ∧ as.lookup "data-link-placeholder-id" = none

/-- Content that does not run together with its neighbors and refers to nothing outside. -/
structure IsPassage (names : List String) (s : String) (ns : List Node) : Prop where
  content : IsContent names s ns
  solid : IsSolid ns
  selfContained : Node.EverywhereAll IsSelfContained ns

section Content

variable {names : List String} {s t : String} {ns ms : List Node}

theorem isContent_empty : IsContent names "" [] :=
  ⟨rfl, trivial, trivial, trivial⟩

/-- Content before solid content. -/
theorem IsContent.append (hs : IsContent names s ns) (ht : IsContent names t ms)
    (hsolid : IsSolid ms) : IsContent names (s ++ t) (ns ++ ms) := by
  refine ⟨hs.writes.append ht.writes, tidyAll_append hs.tidy ht.tidy fun _ => ?_,
    everywhereAll_append.mpr ⟨hs.calm, ht.calm⟩, everywhereAll_append.mpr ⟨hs.values, ht.values⟩⟩
  cases ms with
  | nil => rfl
  | cons m ms => exact hsolid m List.mem_cons_self

/-- An element around content. -/
theorem IsContent.element (h : IsContent names s ns) (tag first last : String)
    (as : List Attribute) (htag : isFilledTag tag = true)
    (hnames : ∀ a ∈ as, isName a.1 = true) (hfirst : first.toList = writtenStart tag as)
    (hlast : last.toList = writtenEnd tag) (hcalm : IsCalm tag as)
    (hvalues : HasValues names tag as) :
    IsContent names (first ++ s ++ last) [.element tag as ns] := by
  have hvoid := (isFilledTag_parts htag).2.1
  exact ⟨writes_element tag first last as hvoid hfirst h.writes hlast,
    ⟨tidy_filled htag hnames h.tidy, fun _ => rfl, trivial⟩, ⟨⟨hcalm, h.calm⟩, trivial⟩,
    ⟨⟨hvalues, h.values⟩, trivial⟩⟩

/-- An element without content. -/
theorem isContent_void (tag : String) (as : List Attribute) {first : String}
    (htag : isTag tag = true)
    (hvoid : voidTags.contains tag = true) (hnames : ∀ a ∈ as, isName a.1 = true)
    (hfirst : first.toList = writtenStart tag as) (hcalm : IsCalm tag as)
    (hvalues : HasValues names tag as) : IsContent names first [.element tag as []] :=
  ⟨writes_void hvoid hfirst, ⟨tidy_void htag hvoid hnames, fun _ => rfl, trivial⟩,
    ⟨⟨hcalm, trivial⟩, trivial⟩, ⟨⟨hvalues, trivial⟩, trivial⟩⟩

theorem isSolid_single {n : Node} (h : n.isPlainText = false) : IsSolid [n] := fun m hm => by
  rw [List.mem_singleton.mp hm]
  exact h

theorem isSolid_element (tag : String) (as : List Attribute) :
    IsSolid [.element tag as ns] :=
  isSolid_single rfl

theorem isSolid_append (hns : IsSolid ns) (hms : IsSolid ms) : IsSolid (ns ++ ms) :=
  List.forall_mem_append.mpr ⟨hns, hms⟩

theorem isSelfContained_plain {tag : String} (h : tag ≠ "img") : IsSelfContained tag [] :=
  ⟨h, rfl⟩

theorem isSelfContained_styled {tag : String} (h : tag ≠ "img") (css : String) :
    IsSelfContained tag [("style", some css)] :=
  ⟨h, by simp [List.lookup_cons]⟩

theorem isPassage_empty : IsPassage names "" [] :=
  ⟨isContent_empty, by simp [IsSolid], trivial⟩

/-- Passages one after the other. -/
theorem IsPassage.append (hs : IsPassage names s ns) (ht : IsPassage names t ms) :
    IsPassage names (s ++ t) (ns ++ ms) :=
  ⟨hs.content.append ht.content ht.solid, isSolid_append hs.solid ht.solid,
    everywhereAll_append.mpr ⟨hs.selfContained, ht.selfContained⟩⟩

/-- An element that refers to nothing outside, and neither does its content. -/
theorem isPassage_element {tag : String} {as : List Attribute}
    (h : IsContent names s [.element tag as ns]) (hself : IsSelfContained tag as)
    (hns : Node.EverywhereAll IsSelfContained ns) : IsPassage names s [.element tag as ns] :=
  ⟨h, isSolid_element tag as, ⟨hself, hns⟩, trivial⟩

/-- Several passages one after another, each of a single draft. -/
theorem isPassage_concat {pieces : List String} {ns : List Node}
    (h : List.Forall₂ (fun s n => IsPassage names s [n]) pieces ns) :
    IsPassage names (Text.concat pieces) ns := by
  induction h with
  | nil => exact isPassage_empty
  | cons hfirst _ ih => exact hfirst.append ih

theorem isCalm_of_tag {tag : String} (htag : tag ≠ "table") {as : List Attribute}
    (hclass : as.lookup "class" = none) : IsCalm tag as :=
  ⟨hclass, fun h => absurd h htag⟩

/-- An element without attributes around content. -/
theorem IsContent.plain (h : IsContent names s ns) (tag first last : String)
    (htag : isFilledTag tag = true) (htable : tag ≠ "table")
    (hfirst : first.toList = writtenStart tag []) (hlast : last.toList = writtenEnd tag) :
    IsContent names (first ++ s ++ last) [.element tag [] ns] :=
  h.element tag first last [] htag (by simp) hfirst hlast (isCalm_of_tag htable rfl) hasValues_nil

theorem toList_styledStart {start tag : String} (hstart : start = "<" ++ tag ++ " style=\"")
    (css : String) :
    (start ++ css ++ "\">").toList = writtenStart tag [("style", some css)] := by
  rw [hstart]
  simp only [writtenStart, writtenAttribute, String.toList_append, List.flatMap_cons,
    List.flatMap_nil]
  repeat rw [String.toList_ofList]
  simp only [List.cons_append, List.nil_append, List.append_assoc]

/-- An element with nothing but a style around content. -/
theorem IsContent.styled (h : IsContent names s ns) (start tag last : String) {css : String}
    (hstart : start = "<" ++ tag ++ " style=\"") (htag : isFilledTag tag = true)
    (htable : tag ≠ "table") (hlast : last.toList = writtenEnd tag) (hcss : IsValue names css) :
    IsContent names (start ++ css ++ "\">" ++ s ++ last)
      [.element tag [("style", some css)] ns] := by
  refine h.element tag _ last _ htag (fun a ha => ?_) (toList_styledStart hstart css) hlast
    (isCalm_of_tag htable (by simp [List.lookup_cons])) (hasValues_cons hcss hasValues_nil)
  rw [List.mem_singleton.mp ha]
  change isName "style" = true
  decide

/-- A text from outside. -/
theorem isContent_runningText {f : Char → String} {mark? : Char → Option Node}
    (h : IsMarking f mark?) (s : List Char) :
    IsContent names (Text.replaceChars f (String.ofList s)) (runningText mark? s) :=
  ⟨writes_runningText h s, tidyAll_runningText h s,
    everywhereAll_runningText h (isCalm_of_tag (by decide) rfl) s,
    everywhereAll_runningText h hasValues_nil s⟩

end Content

section Comments

/-- No `>` follows a dash or a blank. -/
abbrev NoCloser (s : List Char) : Prop :=
  s.IsChain fun c d => ¬(d = '>' ∧ (c = '-' ∨ Text.isBlank c = true))

theorem afterChar?_of_noCloser {c : Char} (hc : c = '-' ∨ Text.isBlank c = true) {s : List Char}
    (h : NoCloser (c :: s)) : afterChar? '>' s = none := by
  induction s generalizing c with
  | nil => rfl
  | cons d s ih =>
      rw [NoCloser, List.isChain_cons_cons] at h
      by_cases hd : Text.isBlank d = true
      · have htrim : Text.trimStart (d :: s) = Text.trimStart s := by
          rw [Text.trimStart, List.dropWhile_cons_of_pos hd, Text.trimStart]
        rw [afterChar?, htrim]
        exact ih (Or.inr hd) h.2
      · have htrim : Text.trimStart (d :: s) = d :: s := by
          rw [Text.trimStart, List.dropWhile_cons_of_neg hd]
        have hne : d ≠ '>' := fun heq => h.1 ⟨heq, hc⟩
        rw [afterChar?, htrim]
        exact if_neg hne

/-- A text in which no `>` follows a dash or a blank ends no comment. -/
theorem hasNoCommentEnd_of_noCloser {s : List Char} (h : NoCloser s) :
    hasNoCommentEnd s = true := by
  induction s with
  | nil => rfl
  | cons c s ih =>
      have hhere : afterComment? (c :: s) = none := by
        unfold afterComment?
        split
        · rename_i rest heq
          rcases List.cons.inj heq with ⟨rfl, rfl⟩
          exact afterChar?_of_noCloser (Or.inl rfl) h.tail
        · rfl
      rw [hasNoCommentEnd, hhere, ih h.tail]
      rfl

/-- A text that is spelled out is looked through character by character. -/
theorem noCloser_ofList {s : List Char} (h : NoCloser s) : NoCloser (String.ofList s).toList := by
  rwa [String.toList_ofList]

theorem noCloser_of_not_mem {s : List Char} (h : '>' ∉ s) : NoCloser s := by
  induction s with
  | nil => exact List.isChain_nil
  | cons c s ih =>
      rw [List.mem_cons, not_or] at h
      refine List.isChain_cons.mpr ⟨fun d hd => ?_, ih h.2⟩
      rintro ⟨rfl, -⟩
      exact h.2 (List.mem_of_head? hd)

/-- Two texts can be put together unless the second starts with a `>`. -/
theorem noCloser_append {s t : List Char} (hs : NoCloser s) (ht : NoCloser t)
    (hhead : t.head? ≠ some '>') : NoCloser (s ++ t) := by
  refine hs.append ht fun c _ d hd => ?_
  rintro ⟨rfl, -⟩
  exact hhead hd

/-- A text that starts with some other character than a `>`. -/
theorem head_ne_closer {s : List Char} (h : s.head?.any (fun c => c ≠ '>') = true)
    (t : List Char) : (s ++ t).head? ≠ some '>' := by
  cases s with
  | nil => exact absurd h (by simp)
  | cons c s => simpa using h

/-- A text without a `>` between two others. -/
theorem noCloser_between {s value t : List Char} (hvalue : '>' ∉ value) (hs : NoCloser s)
    (ht : NoCloser t) (hhead : t.head? ≠ some '>') : NoCloser (s ++ (value ++ t)) := by
  refine noCloser_append hs (noCloser_append (noCloser_of_not_mem hvalue) ht hhead)
    fun hfirst => ?_
  cases value with
  | nil => exact hhead hfirst
  | cons c more =>
      rw [List.cons_append, List.head?_cons] at hfirst
      exact hvalue (by rw [Option.some.inj hfirst]; exact List.mem_cons_self)

end Comments

end Letterpress.Markup
