import Letterpress.Document.Extraction
import Letterpress.Proofs.Style.Reading
import Letterpress.Style.Record

/-!
# Cleaned Styles

Taking properties out of a style removes their declarations and nothing else. The style is
written anew from the declarations that are left, with a blank after each semicolon, and what
was read from a style is written and read back without a change. So a clean style stays as it
is, and the order in which properties are taken out does not matter.

The records of styles are written in another place than the one that reads them, and with
another separator. Still a record is read back field by field, exactly if no value ends its
own declaration and none has blank margins. Then properties can be taken out of the text of a
record as well as out of the record.

## Main definitions

* `stays`: A declaration is left in a style.
* `IsPlainValue`, `HasPlainValues`: Values that stay what they are in a style.
* `IsName`: A property that stays what it is in a style.
* `unset`: Fields of which some are not set any more.
* `PartStyle`: The style of any part of a fragment.

## Theorems

* `without_without`: Properties can be taken out at once or one after another.
* `valueOf?_without`: The properties that are left have their values.
* `without_cleans`: A style loses the given properties and nothing else.
* `readStyle_css`: When fields are read back.
* `without_css`: Properties are taken out of fields or out of their text.
* `partStyle_readBack`: The style of any part is read back, and loses its place.
-/

namespace Letterpress.Style

open Text

section Cleaning

/-- A declaration is left in a style that loses the given properties. -/
def stays (removed : List String) (d : Declaration) : Bool :=
  decide (lowerString d.property ∉ removed)

theorem stays_eq (removed : List String) :
    (fun d : Declaration => !removed.contains (lowerString d.property)) = stays removed := by
  funext d
  simp [stays]

/-- The declarations of a style that has lost some properties. -/
theorem readStyle_stays (removed : List String) (style : String) :
    readStyle (without removed style) = (readStyle style).filter (stays removed) := by
  rw [readStyle_without, stays_eq]

/-- A style that has lost some properties is written from what stays. -/
theorem without_stays (removed : List String) (style : String) :
    without removed style = writeDeclarations ((readStyle style).filter (stays removed)) := by
  rw [without_eq, stays_eq]

/-- Properties can be taken out at once or one after another. -/
theorem without_without {removed others both : List String}
    (hboth : ∀ property, property ∈ both ↔ property ∈ removed ∨ property ∈ others)
    (style : String) : without others (without removed style) = without both style := by
  have hstays : (fun d => stays others d && stays removed d) = stays both := by
    funext d
    rw [stays, stays, stays, ← Bool.decide_and, decide_eq_decide, hboth, not_or]
    exact And.comm
  rw [without_stays, readStyle_stays, List.filter_filter, hstays, ← without_stays]

/-- The properties that are left have their values, and the others have none. -/
theorem valueOf?_without (removed : List String) (style property : String) :
    valueOf? (without removed style) property
      = if property ∈ removed then none else valueOf? style property := by
  rw [valueOf?, readStyle_stays, List.find?_filter, valueOf?]
  have hstays : ∀ d : Declaration, d.isFor property = true →
      stays removed d = decide (property ∉ removed) := by
    intro d hd
    rw [stays, of_decide_eq_true hd]
  by_cases hmem : property ∈ removed
  · -- No declaration of the property stays.
    have hnone : ∀ d : Declaration,
        ¬ decide (stays removed d = true ∧ d.isFor property = true) = true := by
      intro d hd
      have hboth := of_decide_eq_true hd
      rw [hstays d hboth.2] at hboth
      exact of_decide_eq_true hboth.1 hmem
    rw [if_pos hmem, List.find?_eq_none.mpr fun d _ => hnone d]
    rfl
  · -- Every declaration of the property stays.
    have hall : (fun d => decide (stays removed d = true ∧ d.isFor property = true))
        = fun d : Declaration => d.isFor property := by
      funext d
      by_cases hd : d.isFor property = true
      · simp [hd, hstays d hd, hmem]
      · simp [hd]
    rw [if_neg hmem, hall]

/-- A style loses the given properties and nothing else; a missing style is an empty one. What
    is read from it afterwards are the other declarations in their order. It loses nothing more
    when it is cleaned again, and two lists of properties can be taken out one after the other
    or as one list. The first value of every other property stays what it was. -/
theorem without_cleans (style : Option String) (removed : List String) :
    readStyle (without removed (style.getD ""))
        = (readStyle (style.getD "")).filter (fun d => lowerString d.property ∉ removed) ∧
      without removed (without removed (style.getD "")) = without removed (style.getD "") ∧
      (∀ others both : List String,
        (∀ property, property ∈ both ↔ property ∈ removed ∨ property ∈ others) →
        without others (without removed (style.getD "")) = without both (style.getD "")) ∧
      ∀ property, valueOf? (without removed (style.getD "")) property
        = if property ∈ removed then none else valueOf? (style.getD "") property :=
  ⟨readStyle_stays removed _, without_without (fun _ => (or_self_iff).symm) _,
    fun _ _ hboth => without_without hboth _, valueOf?_without removed _⟩

/-- Stray semicolons, a rule without a colon, one without a property, and a property in capital
    letters: what is left is the value with its colons, and it is the same in any order. -/
theorem without_cleans_untidyStyle :
    let style := " ; TOP : 1px;; left:a:b ;:c;d ;\u00a0width:\u2003;top:2"
    (∀ property, property ∈ ["top", "width"] ↔ property ∈ ["width"] ∨ property ∈ ["top"]) ∧
      without ["top"] (without ["width"] style) = without ["top", "width"] style ∧
      valueOf? (without ["top", "width"] style) "left" = some "a:b" ∧
      without ["top", "width"] style = "left:a:b;" := by
  intro style
  have hboth : ∀ property,
      property ∈ ["top", "width"] ↔ property ∈ ["width"] ∨ property ∈ ["top"] := by
    simp [or_comm]
  have hleft : valueOf? style "left" = some "a:b" := by decide
  refine ⟨hboth, (without_cleans (some style) ["width"]).2.2.1 ["top"] _ hboth, ?_, by decide⟩
  rw [← hleft]
  exact ((without_cleans (some style) ["top", "width"]).2.2.2 "left").trans (if_neg (by decide))

end Cleaning

section Fields

/-- A value that does not end its declaration and has no blank margins. -/
structure IsPlainValue (value : String) : Prop where
  semicolon : ';' ∉ value.toList
  trim : Text.trim value.toList = value.toList

instance (value : String) : Decidable (IsPlainValue value) :=
  decidable_of_iff (';' ∉ value.toList ∧ Text.trim value.toList = value.toList)
    ⟨fun h => ⟨h.1, h.2⟩, fun h => ⟨h.semicolon, h.trim⟩⟩

/-- All values that are set are plain. -/
def HasPlainValues (fields : List (String × Option String)) : Prop :=
  ∀ f ∈ fields, ∀ v ∈ f.2, IsPlainValue v

instance (fields : List (String × Option String)) : Decidable (HasPlainValues fields) :=
  inferInstanceAs (Decidable (∀ f ∈ fields, ∀ v ∈ f.2, IsPlainValue v))

/-- A property in lower case that is read back as it was written. -/
structure IsName (property : String) : Prop where
  ne : property.toList ≠ []
  colon : ':' ∉ property.toList
  semicolon : ';' ∉ property.toList
  trim : Text.trim property.toList = property.toList
  lower : lowerString property = property

instance (property : String) : Decidable (IsName property) :=
  decidable_of_iff (property.toList ≠ [] ∧ ':' ∉ property.toList ∧ ';' ∉ property.toList ∧
      Text.trim property.toList = property.toList ∧ lowerString property = property)
    ⟨fun ⟨hne, hcolon, hsemicolon, htrim, hlower⟩ => ⟨hne, hcolon, hsemicolon, htrim, hlower⟩,
      fun h => ⟨h.ne, h.colon, h.semicolon, h.trim, h.lower⟩⟩

variable {fields : List (String × Option String)}

/-- Fields whose values do not end their declarations are read back but for blank margins. -/
theorem readStyle_css_trimmed (hnames : ∀ f ∈ fields, IsName f.1)
    (hvalues : ∀ f ∈ fields, ∀ v ∈ f.2, ';' ∉ v.toList) :
    readStyle (css fields) = (declarations fields).map Declaration.trimmed := by
  refine readStyle_trimmed fun d hd => ?_
  have hf := mem_declarations.mp hd
  have hname := hnames _ hf
  exact ⟨hname.ne, hname.colon, hname.semicolon, hname.trim, hvalues _ hf d.value rfl⟩

/-- Fields are read back exactly if their values are plain. -/
theorem readStyle_css (hnames : ∀ f ∈ fields, IsName f.1) :
    readStyle (css fields) = declarations fields ↔ HasPlainValues fields := by
  constructor
  · -- Whatever is read from a style is clean.
    intro hread f hf v hv
    have hd : (⟨f.1, v⟩ : Declaration) ∈ declarations fields :=
      mem_declarations.mpr (by rw [← Option.mem_def.mp hv]; exact hf)
    rw [← hread] at hd
    exact ⟨(readStyle_clean hd).value_semicolon, (readStyle_clean hd).value_trim⟩
  · intro hvalues
    rw [readStyle_css_trimmed hnames fun f hf v hv => (hvalues f hf v hv).semicolon]
    refine (List.map_congr_left fun d hd => ?_).trans (List.map_id _)
    have hplain := hvalues _ (mem_declarations.mp hd) d.value rfl
    rw [Declaration.trimmed, hplain.trim, String.ofList_toList]
    rfl

/-- The fields with some properties not set any more. -/
def unset (removed : List String) (fields : List (String × Option String)) :
    List (String × Option String) :=
  fields.map fun (property, value) => (property, if property ∈ removed then none else value)

/-- Declarations that stay are those of fields that are still set. -/
theorem declarations_unset (hnames : ∀ f ∈ fields, IsName f.1) (removed : List String) :
    declarations (unset removed fields) = (declarations fields).filter (stays removed) := by
  induction fields with
  | nil => rfl
  | cons f fields ih =>
      rcases f with ⟨property, value⟩
      rw [List.forall_mem_cons] at hnames
      have hrest := ih hnames.2
      unfold declarations unset at hrest ⊢
      cases value with
      | none => simpa using hrest
      | some v =>
          have hlower : lowerString property = property := hnames.1.lower
          by_cases hmem : property ∈ removed
          · simpa [hmem, stays, hlower] using hrest
          · simpa [hmem, stays, hlower] using hrest

/-- Properties are taken out of fields or out of their text. -/
theorem without_css (hnames : ∀ f ∈ fields, IsName f.1) (hvalues : HasPlainValues fields)
    (removed : List String) : without removed (css fields) = css (unset removed fields) := by
  rw [without_stays, (readStyle_css hnames).mpr hvalues, ← declarations_unset hnames removed]
  rfl

end Fields

section Parts

/-- The style of any part of a fragment. -/
inductive PartStyle where
  | table (style : TableStyle)
  | cell (style : CellStyle)
  | block (style : BlockStyle)
  | span (style : SpanStyle)

namespace PartStyle

/-- The properties of a part in the order in which they are written. -/
def fields : PartStyle → List (String × Option String)
  | table s => s.fields
  | cell s => s.fields
  | block s => s.fields
  | span s => s.fields

/-- The inline style of a part. -/
def css : PartStyle → String
  | table s => s.css
  | cell s => s.css
  | block s => s.css
  | span s => s.css

/-- The style of a part that has lost its place. Only tables have one. -/
def unplaced : PartStyle → PartStyle
  | table s => table { s with position := none, top := none, left := none }
  | other => other

theorem css_eq (style : PartStyle) : style.css = Style.css style.fields := by
  cases style <;> rfl

/-- All properties of all parts are names. -/
theorem isName_fields (style : PartStyle) : ∀ f ∈ style.fields, IsName f.1 := by
  cases style <;>
    simp only [fields, TableStyle.fields, CellStyle.fields, BlockStyle.fields, SpanStyle.fields,
      List.forall_mem_cons] <;>
    decide

theorem fields_unplaced (style : PartStyle) :
    style.unplaced.fields = unset Document.placingProperties style.fields := by
  cases style <;> rfl

end PartStyle

/-- The style of a part is read back exactly if its values are plain: as the fields that are
    set, in their order. Then it loses its place in the text as it does in the record. -/
theorem partStyle_readBack (style : PartStyle) :
    (readStyle style.css = declarations style.fields ↔ HasPlainValues style.fields) ∧
      (HasPlainValues style.fields →
        without Document.placingProperties style.css = style.unplaced.css) := by
  rw [style.css_eq, style.unplaced.css_eq, style.fields_unplaced]
  exact ⟨readStyle_css style.isName_fields,
    fun hvalues => without_css style.isName_fields hvalues _⟩

/-- A table with unusual values. -/
def shiftedTable : TableStyle where
  position := some ""
  left := some "1px:2px"
  width := some "calc(1px : 2)"
  overflow := some ""

/-- Values may be empty and may hold colons. A value with a semicolon would end too early. -/
theorem partStyle_readBack_shiftedTable :
    HasPlainValues shiftedTable.fields ∧
      readStyle shiftedTable.css = [⟨"position", ""⟩, ⟨"left", "1px:2px"⟩,
        ⟨"width", "calc(1px : 2)"⟩, ⟨"overflow", ""⟩] ∧
      without Document.placingProperties shiftedTable.css = "width:calc(1px : 2); overflow:;" ∧
      readStyle (SpanStyle.css { color := some "red;x:y" }) ≠ [⟨"color", "red;x:y"⟩] := by
  have hvalues : HasPlainValues shiftedTable.fields := by decide
  refine ⟨hvalues, (partStyle_readBack (.table shiftedTable)).1.mpr hvalues,
    (partStyle_readBack (.table shiftedTable)).2 hvalues, fun hread => ?_⟩
  exact absurd ((partStyle_readBack (.span { color := some "red;x:y" })).1.mp hread) (by decide)

end Parts

end Letterpress.Style
