import Letterpress.Proofs.Markup.Layer
import Letterpress.Proofs.Text.Reference

/-!
# Values from Outside

Most attribute values are inert, or their references were written on purpose. Only font
families and the names of links come into a value as they are. What these names are
decides whether a value stays in its quotes, and whether it can be decoded.

## Main definitions

* `IsValue`: A value that is fixed or holds a name.
* `HasValues`: The values of an element are such values.
* `IsCalm`, `IsSettled`: An element that takes no part in the layout of the document,
  before and after decoding.

## Theorems

* `inQuotesAll_values`: Values stay in their quotes if the names do.
* `decodeAll_values`: Values are decoded if the names hold no long codes.
* `IsCalm.settled`: Decoding keeps an element out of the layout.
-/

namespace Letterpress.Markup

open Text (IsInert hasLongCode decodeReferences)

/-- A value that is fixed, or that is a name between inert texts. -/
inductive IsValue (names : List String) : String → Prop
  | fixed {value : String} (hquote : '"' ∉ value.toList)
      (hdecode : ∃ text, decodeReferences value.toList = .ok text) : IsValue names value
  | named {before name after : String} (hname : name ∈ names) (hbefore : IsInert before)
      (hafter : IsInert after) (hend : ∀ c ∈ after.toList.head?, c ≠ '#' ∧ c.isDigit = false) :
      IsValue names (before ++ name ++ after)

theorem not_mem_inert {s : String} (h : IsInert s) {c : Char} (hc : Text.isInertChar c = false) :
    c ∉ s.toList := by
  intro hmem
  have hinert : Text.isInertChar c = true := h c hmem
  rw [hc] at hinert
  exact Bool.false_ne_true hinert

theorem isValue_inert {names : List String} {value : String} (h : IsInert value) :
    IsValue names value :=
  .fixed (not_mem_inert h (by decide))
    ⟨_, Text.decodeReferences_plain (not_mem_inert h (by decide))⟩

/-- A value stays in its quotes if the names do. -/
theorem IsValue.inQuotes {names : List String} (hnames : ∀ name ∈ names, '"' ∉ name.toList)
    {value : String} (h : IsValue names value) : '"' ∉ value.toList := by
  cases h with
  | fixed hquote _ => exact hquote
  | @named before name after hname hbefore hafter _ =>
      simp only [String.toList_append, List.mem_append, not_or]
      exact ⟨⟨not_mem_inert hbefore (by decide), hnames name hname⟩,
        not_mem_inert hafter (by decide)⟩

/-- A value is decoded if the names hold no long codes. -/
theorem IsValue.decodes {names : List String}
    (hnames : ∀ name ∈ names, hasLongCode name.toList = false) {value : String}
    (h : IsValue names value) : ∃ text, decodeReferences value.toList = .ok text := by
  cases h with
  | fixed _ hdecode => exact hdecode
  | @named before name after hname hbefore hafter hend =>
      refine Text.decodeReferences_ok ?_
      rw [String.toList_append, String.toList_append, List.append_assoc,
        Text.hasLongCode_append_left (not_mem_inert hbefore (by decide))]
      have hplain := not_mem_inert hafter (c := '&') (by decide)
      cases hlist : after.toList with
      | nil =>
          rw [List.append_nil]
          exact hnames name hname
      | cons c more =>
          rw [hlist] at hplain hend
          have hc := hend c rfl
          rw [Text.hasLongCode_append_right hc.1 hc.2 hplain]
          exact hnames name hname

/-- The values of an element are fixed or hold names. -/
def HasValues (names : List String) (_ : String) (as : List Attribute) : Prop :=
  ∀ a ∈ as, ∀ value ∈ a.2, IsValue names value

theorem hasValues_nil {names : List String} {tag : String} : HasValues names tag [] :=
  fun _ ha => absurd ha List.not_mem_nil

theorem hasValues_cons {names : List String} {tag name value : String} {as : List Attribute}
    (hvalue : IsValue names value) (h : HasValues names tag as) :
    HasValues names tag ((name, some value) :: as) := by
  intro a ha v hv
  rcases List.mem_cons.mp ha with rfl | ha
  · rw [← Option.some.inj hv]
    exact hvalue
  · exact h a ha v hv

theorem InertAttributes.hasValues {names : List String} {tag : String} {as : List Attribute}
    (h : InertAttributes tag as) : HasValues names tag as :=
  fun a ha value hvalue => isValue_inert (h a ha value hvalue)

theorem inQuotesAll_values {names : List String} (hnames : ∀ name ∈ names, '"' ∉ name.toList)
    {ns : List Node} (h : Node.EverywhereAll (HasValues names) ns) : Node.InQuotesAll ns :=
  everywhereAll_mono (fun _ _ has a ha value hvalue => (has a ha value hvalue).inQuotes hnames)
    ns h

theorem decoded_values {names : List String}
    (hnames : ∀ name ∈ names, hasLongCode name.toList = false) {as : List Attribute}
    {tag : String} (h : HasValues names tag as) :
    ∃ as', as.mapM decoded = .ok as' := by
  induction as with
  | nil => exact ⟨[], rfl⟩
  | cons a as ih =>
      rcases ih fun b hb => h b (List.mem_cons_of_mem a hb) with ⟨as', has⟩
      have ha : ∃ a', decoded a = .ok a' := by
        rcases a with ⟨name, value⟩
        cases value with
        | none => exact ⟨_, rfl⟩
        | some value =>
            rcases (h (name, some value) List.mem_cons_self value rfl).decodes hnames
              with ⟨text, htext⟩
            simp only [decoded, htext]
            exact ⟨_, rfl⟩
      rcases ha with ⟨a', ha⟩
      exact ⟨a' :: as', mapM_cons_ok.mpr ⟨a', as', ha, has, rfl⟩⟩

/-- An escaped value is decoded to what was escaped. -/
theorem decoded_escapeQuoted (name value : String) :
    decoded (name, some (Text.escapeQuoted value)) = .ok (name, some value) := by
  simp only [decoded, Text.decodeReferences_escapeQuoted]
  change Except.ok (name, some (String.ofList value.toList)) = _
  rw [String.ofList_toList]

mutual

theorem decode_values {names : List String}
    (hnames : ∀ name ∈ names, hasLongCode name.toList = false) :
    (n : Node) → n.Everywhere (HasValues names) → ∃ m, n.decode = .ok m
  | .element tag as children, h => by
    rcases decoded_values hnames h.1 with ⟨as', has⟩
    rcases decodeAll_values hnames children h.2 with ⟨cs, hcs⟩
    exact ⟨.element tag as' cs, decode_element.mpr ⟨as', cs, has, hcs, rfl⟩⟩
  | .text data, _ => ⟨.text data, rfl⟩
  | .comment data, _ => ⟨.comment data, rfl⟩
  | .declaration data, _ => ⟨.declaration data, rfl⟩

/-- Values are decoded if the names hold no long codes. -/
theorem decodeAll_values {names : List String}
    (hnames : ∀ name ∈ names, hasLongCode name.toList = false) :
    (ns : List Node) → Node.EverywhereAll (HasValues names) ns →
      ∃ ms, Node.decodeAll ns = .ok ms
  | [], _ => ⟨[], rfl⟩
  | n :: ns, h => by
    rcases decode_values hnames n h.1 with ⟨m, hm⟩
    rcases decodeAll_values hnames ns h.2 with ⟨ms, hms⟩
    exact ⟨m :: ms, decodeAll_cons.mpr ⟨m, ms, hm, hms, rfl⟩⟩

end

/-- The value of a name before and after decoding. -/
theorem lookup_decoded {as as' : List Attribute} (h : as.mapM decoded = .ok as')
    (name : String) :
    (as.lookup name = none ∧ as'.lookup name = none) ∨
      ∃ value value', as.lookup name = some value ∧ decoded (name, value) = .ok (name, value') ∧
        as'.lookup name = some value' := by
  induction as generalizing as' with
  | nil =>
      rw [List.mapM_nil, except_pure_ok] at h
      rw [← h]
      exact Or.inl ⟨rfl, rfl⟩
  | cons a as ih =>
      rcases mapM_cons_ok.mp h with ⟨b, bs, hb, hbs, rfl⟩
      rcases a with ⟨n, value⟩
      rcases b with ⟨n', value'⟩
      obtain rfl : n' = n := decoded_name hb
      -- Names are kept by decoding, so that both lookups end at the same attribute.
      by_cases hname : name = n'
      · subst hname
        exact Or.inr ⟨value, value', by simp, hb, by simp⟩
      · have hother : (name == n') = false := by simpa using hname
        rw [List.lookup_cons, hother, List.lookup_cons, hother]
        exact ih hbs

/-- An element without a class that is no positioned table, in a draft. -/
def IsCalm (tag : String) (as : List Attribute) : Prop :=
  as.lookup "class" = none ∧
    (tag = "table" → ∀ style, as.lookup "style" = some (some style) →
      IsInert style ∧ Style.isAbsolute style = false)

/-- An element without a class that is no positioned table. -/
def IsSettled (tag : String) (as : List Attribute) : Prop :=
  as.lookup "class" = none ∧ Document.IsStill tag as

theorem isStill_of_tag {tag : String} (h : tag ≠ "table") (as : List Attribute) :
    Document.IsStill tag as := by
  simp [Document.IsStill, Document.isPositionedTable, Node.tag?, h]

theorem isStill_of_style {as : List Attribute}
    (h : ∀ style, as.lookup "style" = some (some style) → Style.isAbsolute style = false)
    (tag : String) : Document.IsStill tag as := by
  have hempty : Style.isAbsolute "" = false := by decide
  have hstyle : Style.isAbsolute (Document.styleOf (.element tag as [])) = false := by
    rw [Document.styleOf, Node.get?, Node.attributes]
    cases hlookup : as.lookup "style" with
    | none => exact hempty
    | some value =>
        cases value with
        | none => exact hempty
        | some style => exact h style hlookup
  rw [Document.IsStill, Document.isPositionedTable, hstyle, Bool.and_false]

/-- Decoding keeps an element out of the layout. -/
theorem IsCalm.settled {tag : String} {as as' : List Attribute} (h : IsCalm tag as)
    (hdecoded : as.mapM decoded = .ok as') : IsSettled tag as' := by
  constructor
  · rcases lookup_decoded hdecoded "class" with ⟨-, hnone⟩ | ⟨value, value', hsome, -, -⟩
    · exact hnone
    · rw [h.1] at hsome
      exact absurd hsome (by simp)
  · by_cases htag : tag = "table"
    · refine isStill_of_style (fun style hstyle => ?_) tag
      rcases lookup_decoded hdecoded "style" with ⟨-, hnone⟩ |
        ⟨value, value', hsome, hvalue, hsome'⟩
      · rw [hnone] at hstyle
        exact absurd hstyle (by simp)
      · rw [hsome', Option.some.injEq] at hstyle
        subst hstyle
        cases value with
        | none =>
            rw [decoded, except_pure_ok] at hvalue
            exact absurd hvalue (by simp)
        | some draft =>
            have hcalm := h.2 htag draft hsome
            -- The style of a table is inert, so decoding leaves it as it is.
            have hinert : InertAttributes tag [("style", some draft)] :=
              inertAttributes_cons hcalm.1 inertAttributes_nil
            have hself := decoded_inert hinert
            rw [List.mapM_cons, hvalue] at hself
            have hpair : [("style", some style)] = [("style", some draft)] :=
              Except.ok.inj hself
            have heq : style = draft := by simpa using hpair
            rw [heq]
            exact hcalm.2
    · exact isStill_of_tag htag as'

theorem IsSettled.still {tag : String} {as : List Attribute} (h : IsSettled tag as) :
    Document.IsStill tag as :=
  h.2

end Letterpress.Markup
