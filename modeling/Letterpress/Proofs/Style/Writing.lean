import Letterpress.Proofs.Session
import Letterpress.Proofs.Text.Inert
import Letterpress.Style.Record

/-!
# Written Styles

A style is written from the values of its properties, so whatever its characters are
has been in one of the values. Numbers and colors are inert; a font family is all that
can bring other characters into a style.

## Theorems

* `allChars_css`: The characters of a style.
* `css_cons`: A style starts with the first property that is set.
* `hex_inert`, `translucent_inert`, `pixels_inert`: Colors and lengths are inert.
-/

namespace Letterpress.Style

open Text

variable {P : Char → Prop}

/-- The characters of the properties and values that are set. -/
def FieldChars (P : Char → Prop) (fields : List (String × Option String)) : Prop :=
  ∀ f ∈ fields, ∀ v ∈ f.2, AllChars P f.1 ∧ AllChars P v

theorem declarations_cons_some (property value : String)
    (rest : List (String × Option String)) :
    declarations ((property, some value) :: rest) = ⟨property, value⟩ :: declarations rest :=
  rfl

/-- The declarations are those of the fields that are set. -/
theorem mem_declarations {fields : List (String × Option String)} {d : Declaration} :
    d ∈ declarations fields ↔ (d.property, some d.value) ∈ fields := by
  rcases d with ⟨property, value⟩
  simp only [declarations, List.mem_filterMap, Option.map_eq_some_iff]
  constructor
  · rintro ⟨⟨name, set⟩, hf, v, rfl, hd⟩
    rw [Declaration.mk.injEq] at hd
    rw [← hd.1, ← hd.2]
    exact hf
  · intro hf
    exact ⟨_, hf, value, rfl, rfl⟩

/-- What holds of the three marks and of the characters of all properties and values that
    are set holds of the characters of a style. -/
theorem allChars_css (hcolon : P ':') (hsemicolon : P ';') (hblank : P ' ')
    {fields : List (String × Option String)} (h : FieldChars P fields) :
    AllChars P (css fields) := by
  have hmark : ∀ {c : Char} {s : String}, s.toList = [c] → P c → AllChars P s := by
    intro c s hs hc d hd
    rw [hs, List.mem_singleton] at hd
    rwa [hd]
  refine allChars_joinWith (hmark rfl hblank) fun s hs => ?_
  rcases List.mem_map.mp hs with ⟨d, hd, rfl⟩
  have hchars := h _ (mem_declarations.mp hd) d.value rfl
  rw [Declaration.css, allChars_append, allChars_append, allChars_append]
  exact ⟨⟨⟨hchars.1, hmark rfl hcolon⟩, hchars.2⟩, hmark rfl hsemicolon⟩

/-- A style of inert properties and values is inert. -/
theorem isInert_css {fields : List (String × Option String)}
    (h : FieldChars (fun c => isInertChar c = true) fields) : IsInert (css fields) :=
  allChars_css (by decide) (by decide) (by decide) h

/-- A style starts with the first property that is set. -/
theorem css_cons (property value : String) (rest : List (String × Option String)) :
    css ((property, some value) :: rest) = property ++ ":" ++ value ++ ";"
      ++ (if declarations rest = [] then "" else " " ++ css rest) := by
  rw [css, declarations_cons_some, css]
  cases declarations rest with
  | nil => simp [joinWith, Declaration.css]
  | cons d ds =>
      simp only [List.map_cons, joinWith, Declaration.css, String.append_assoc,
        List.cons_ne_nil, if_false]

section Names

/-- The properties are inert. -/
def InertNames (fields : List (String × Option String)) : Prop :=
  ∀ f ∈ fields, IsInert f.1

instance (fields : List (String × Option String)) : Decidable (InertNames fields) :=
  inferInstanceAs (Decidable (∀ f ∈ fields, IsInert f.1))

theorem inertNames_table (s : TableStyle) : InertNames s.fields := by
  simp only [InertNames, TableStyle.fields, List.forall_mem_cons]
  decide

theorem inertNames_cell (s : CellStyle) : InertNames s.fields := by
  simp only [InertNames, CellStyle.fields, List.forall_mem_cons]
  decide

theorem inertNames_block (s : BlockStyle) : InertNames s.fields := by
  simp only [InertNames, BlockStyle.fields, List.forall_mem_cons]
  decide

/-- A style of inert values is inert. -/
theorem isInert_values {fields : List (String × Option String)} (hnames : InertNames fields)
    (hvalues : ∀ f ∈ fields, ∀ v ∈ f.2, IsInert v) : IsInert (css fields) :=
  isInert_css fun f hf v hv => ⟨hnames f hf, hvalues f hf v hv⟩

end Names

variable {K : Type} [Scalar K]

/-- A color in hexadecimal is inert. -/
theorem hex_inert {color : Rgb K} {s : String} (h : hex color = .ok s) : IsInert s := by
  simp only [hex, except_bind_ok, except_pure_ok] at h
  rcases h with ⟨⟨r, g, b⟩, -, rfl⟩
  simp only [isInert_append]
  exact ⟨⟨⟨by decide, isInert_hexDigits 2 r⟩, isInert_hexDigits 2 g⟩, isInert_hexDigits 2 b⟩

/-- A length in pixels is the numeral of a whole number and the unit. -/
theorem pixels_ok {x : K} {s : String} :
    pixels x = .ok s ↔ ∃ n, Scalar.roundHalfUp x = .ok n ∧ s = toString n ++ "px" := by
  simp only [pixels, except_bind_ok, except_pure_ok]
  exact exists_congr fun n => and_congr_right fun _ => eq_comm

theorem pixels_inert {x : K} {s : String} (h : pixels x = .ok s) : IsInert s := by
  rcases pixels_ok.mp h with ⟨n, -, rfl⟩
  rw [isInert_append]
  exact ⟨isInert_int n, by decide⟩

variable [InertText K]

/-- A color with an opacity is inert. -/
theorem translucent_inert {color : Rgb K} {opacity : K} {s : String}
    (h : translucent color opacity = .ok s) : IsInert s := by
  simp only [translucent, except_bind_ok, except_pure_ok] at h
  rcases h with ⟨⟨r, g, b⟩, -, rfl⟩
  simp only [isInert_append]
  have hcomma : IsInert ", " := by decide
  exact ⟨⟨⟨⟨⟨⟨⟨⟨by decide, isInert_nat r⟩, hcomma⟩, isInert_nat g⟩, hcomma⟩, isInert_nat b⟩,
    hcomma⟩, isInert_format opacity⟩, by decide⟩

theorem points_inert (x factor : K) : IsInert (points x factor) := by
  rw [points, isInert_append]
  exact ⟨isInert_format _, by decide⟩

end Letterpress.Style
