import Letterpress.Design.Reader
import Letterpress.Proofs.Number.Finite
import Letterpress.Proofs.Session

/-!
# Mending Malformed Values

A design is read tolerantly: where a value that only affects the looks of a node is
malformed, its default is read in its place. To *mend* a value is to write the default
where the malformed value stood, so that there is nothing left to tolerate.

Mending a value *heals* its reader if the reader always returns on mended values, and
returns on them what it returned before, if it did return before. Readers of larger values
are healed by mending their members.

## Main definitions

* `IsTolerableReal`, `IsTolerableWhole`, `IsTolerableObject`: Values other than the few that
  are not tolerated.
* `mendBy`, `mendItems`, `mendMembers`: Values with defaults for what is malformed.
* `Heals`: Mending makes a reader return and changes no result.
* `mendReal`, `mendWhole`, `mendNumbers`, `mendObject`: Single values.
* `mendPaints`, `mendRadii`, `mendLineHeight`: Paints, corners and line heights.

## Theorems

* `heals_mendBy`, `Heals.items`: Values and lists.
* `Heals.member_returns`, `Heals.member_same`: Members of objects.
* `heals_real`, `heals_whole`, `heals_bounds`, `heals_object`: Single values.
* `heals_paints`, `heals_corners`, `heals_lineHeight`: Paints, corners and line heights.
-/

namespace Letterpress.Design

variable {ε α β : Type}

/-! ### Values that are not tolerated -/

/-- No whole number beyond all floating point numbers. -/
def IsTolerableReal : Json → Prop
  | .int n => IsFinite (Scalar.ofNat n.natAbs : Float)
  | _ => True

/-- No infinity. -/
def IsTolerableWhole : Json → Prop
  | .real x => ∀ negative, Scalar.reading x ≠ .infinite negative
  | _ => True

/-- An object, or a value that counts as missing. -/
def IsTolerableObject : Json → Prop
  | .obj _ => True
  | j => j.truthy = false

theorem toReal?_returns {j : Json} : Returns (toReal? j) ↔ IsTolerableReal j := by
  cases j with
  | int n =>
      simp only [toReal?, IsTolerableReal, IsFinite]
      rw [returns_bind (P := True) fun _ _ => by simp]
      simp only [Scalar.ofInt?, and_true]
      cases Scalar.reading (Scalar.ofNat n.natAbs : Float) <;> simp
  | null | bool _ | real _ | str _ | arr _ | obj _ => simp [toReal?, IsTolerableReal]

theorem toWhole?_returns {j : Json} : Returns (toWhole? j) ↔ IsTolerableWhole j := by
  cases j with
  | real x =>
      have hreading : Scalar.reading x = floatReading x := rfl
      simp only [toWhole?, wholePart?, IsTolerableWhole, hreading]
      cases floatReading x with
      | exact q => simp
      | undefined => simp
      | infinite negative =>
          exact iff_of_false (not_returns_error _) fun h => h negative rfl
  | null | bool _ | int _ | str _ | arr _ | obj _ => simp [toWhole?, IsTolerableWhole]

theorem optionalMembers_returns {j : Json} : Returns (optionalMembers j) ↔ IsTolerableObject j := by
  cases j with
  | obj _ => simp [optionalMembers, IsTolerableObject]
  | null | bool _ | int _ | real _ | str _ | arr _ =>
      simp only [optionalMembers, IsTolerableObject]
      split
      · exact iff_of_false (not_returns_error _) (by simp [*])
      · simp [*]

/-! ### Mending -/

/-- The value if it can be read, a default otherwise. -/
def mendBy (read? : Json → Except NumberError (Option α)) (default v : Json) : Json :=
  match read? v with
  | .ok (some _) => v
  | _ => default

/-- The items of a list, mended; other values have none. -/
def mendItems (mend : Json → Json) (v : Json) : Json :=
  .arr ((itemsOf v).map mend)

/-- How a member is mended: as the table says, and not at all if it does not say. -/
def mendingOf (table : List (String × (Json → Json))) (name : String) : Json → Json :=
  (table.lookup name).getD id

/-- The members of an object, mended by their names. -/
def mendMembers (table : List (String × (Json → Json))) (members : Members) : Members :=
  members.map fun member => (member.1, mendingOf table member.1 member.2)

/-- Mending makes a reader return and does not change what it returned. -/
structure Heals {ι : Type} (read : ι → Except ε α) (mend : ι → ι) (Tolerable : ι → Prop) :
    Prop where
  returns : ∀ v, Returns (read (mend v))
  tolerable : ∀ v, Returns (read v) ↔ Tolerable v
  same : ∀ v, Tolerable v → read (mend v) = read v

section Healing

variable {read : Json → Except ε α} {mend : Json → Json} {Tolerable : Json → Prop}

/-- What is done with a result later on changes nothing. -/
theorem Heals.map (h : Heals read mend Tolerable) (f : α → β) :
    Heals (fun v => f <$> read v) mend Tolerable where
  returns v := returns_map.mpr (h.returns v)
  tolerable v := returns_map.trans (h.tolerable v)
  same v hv := congrArg (f <$> ·) (h.same v hv)

/-- The items of a list are mended one by one. -/
theorem Heals.items (h : Heals read mend Tolerable) :
    Heals (fun v => (itemsOf v).mapM read) (mendItems mend)
      fun v => ∀ item ∈ itemsOf v, Tolerable item where
  returns v := by
    refine returns_mapM.mpr fun item hitem => ?_
    rcases List.mem_map.mp hitem with ⟨item', -, rfl⟩
    exact h.returns item'
  tolerable v := by
    rw [returns_mapM]
    exact forall_congr' fun item => imp_congr_right fun _ => h.tolerable item
  same v hv := by
    change ((itemsOf v).map mend).mapM read = (itemsOf v).mapM read
    generalize itemsOf v = items at hv
    induction items with
    | nil => rfl
    | cons item rest ih =>
        rw [List.forall_mem_cons] at hv
        rw [List.map_cons, List.mapM_cons, List.mapM_cons, h.same item hv.1, ih hv.2]

/-- A value that is read if it can be, and otherwise as its default is. -/
theorem heals_mendBy {read? : Json → Except NumberError (Option α)}
    {read : Json → Except NumberError β} {default : Json} (use : Option α → β)
    (hread : ∀ v, read v = use <$> read? v) (htolerable : ∀ v, Returns (read? v) ↔ Tolerable v)
    (hdefault : read default = .ok (use none)) :
    Heals read (mendBy read? default) Tolerable where
  returns v := by
    unfold mendBy
    split
    · next hv => exact ⟨_, by rw [hread, hv]; rfl⟩
    · exact ⟨_, hdefault⟩
  tolerable v := by
    rw [hread, returns_map, htolerable]
  same v hv := by
    rcases (htolerable v).mpr hv with ⟨result, hresult⟩
    unfold mendBy
    rw [hresult]
    cases result with
    | some _ => rfl
    | none => rw [hdefault, hread, hresult]; rfl

end Healing

section Members

variable {table : List (String × (Json → Json))} {members : Members} {name : String}

theorem lookup_mendMembers :
    (mendMembers table members).lookup name = (members.lookup name).map (mendingOf table name) := by
  induction members with
  | nil => rfl
  | cons member rest ih =>
      rcases member with ⟨key, value⟩
      change ((key, mendingOf table key value) :: mendMembers table rest).lookup name = _
      rw [List.lookup_cons, List.lookup_cons]
      by_cases hkey : name = key
      · subst hkey
        simp
      · rw [beq_false_of_ne hkey]
        exact ih

theorem memberOr_cons (entry : String × Json) (members : Members) (name : String)
    (default : Json) :
    memberOr (entry :: members) name default
      = if name = entry.1 then entry.2 else memberOr members name default := by
  by_cases hname : name = entry.1
  · rw [if_pos hname, memberOr, List.lookup_cons, beq_iff_eq.mpr hname]
    rfl
  · rw [if_neg hname, memberOr, List.lookup_cons, beq_eq_false_iff_ne.mpr hname]
    rfl

theorem memberOf_cons (entry : String × Json) (members : Members) (name : String) :
    memberOf (entry :: members) name
      = if name = entry.1 then entry.2 else memberOf members name :=
  memberOr_cons entry members name .null

/-- Members that the table says nothing about stay. -/
theorem memberOr_mendMembers (h : table.lookup name = none) (default : Json) :
    memberOr (mendMembers table members) name default = memberOr members name default := by
  rw [memberOr, lookup_mendMembers, mendingOf, h]
  simp [memberOr]

theorem memberOf_mendMembers (h : table.lookup name = none) :
    memberOf (mendMembers table members) name = memberOf members name :=
  memberOr_mendMembers h .null

theorem textOf_mendMembers (h : table.lookup name = none) (default : String) :
    textOf (mendMembers table members) name default = textOf members name default :=
  congrArg Json.display (memberOr_mendMembers h _)

theorem keywordOf_mendMembers (h : table.lookup name = none) (default : String) :
    keywordOf (mendMembers table members) name default = keywordOf members name default :=
  congrArg Text.upperString (textOf_mendMembers h default)

variable {read : Json → Except ε α} {mend : Json → Json} {Tolerable : Json → Prop}

/-- A mended member is mended as the table says, or missing as it was. -/
theorem memberOr_mended (members : Members) (h : table.lookup name = some mend)
    (default : Json) :
    memberOr (mendMembers table members) name default = mend (memberOr members name default) ∨
      (memberOr (mendMembers table members) name default = default ∧
        memberOr members name default = default) := by
  rw [memberOr, lookup_mendMembers, mendingOf, h, memberOr]
  cases members.lookup name with
  | none => exact Or.inr ⟨rfl, rfl⟩
  | some value => exact Or.inl rfl

/-- What is read off a mended member, if mending carries over to what is read. -/
theorem read_mended {γ : Type} (members : Members) (h : table.lookup name = some mend)
    (f : Json → γ) (g : γ → γ) (hmend : ∀ v, f (mend v) = g (f v)) (hnull : f .null = g (f .null)) :
    f (memberOf (mendMembers table members) name) = g (f (memberOf members name)) := by
  rcases memberOr_mended members h .null with hmended | ⟨hmissing, hsame⟩
  · rw [memberOf, hmended]
    exact hmend _
  · rw [memberOf, hmissing, memberOf, hsame]
    exact hnull

theorem Heals.member_returns (h : Heals read mend Tolerable)
    (htable : table.lookup name = some mend) {default : Json} (hdefault : Tolerable default) :
    Returns (read (memberOr (mendMembers table members) name default)) := by
  rcases memberOr_mended members htable default with hmended | ⟨hmissing, -⟩
  · rw [hmended]
    exact h.returns _
  · rw [hmissing]
    exact (h.tolerable _).mpr hdefault

theorem Heals.member_tolerable (h : Heals read mend Tolerable)
    (htable : table.lookup name = some mend) {default : Json} (hdefault : Tolerable default) :
    Tolerable (memberOr (mendMembers table members) name default) :=
  (h.tolerable _).mp (h.member_returns htable hdefault)

theorem Heals.member_same (h : Heals read mend Tolerable)
    (htable : table.lookup name = some mend) {default : Json}
    (hmember : Tolerable (memberOr members name default)) :
    read (memberOr (mendMembers table members) name default)
      = read (memberOr members name default) := by
  rcases memberOr_mended members htable default with hmended | ⟨hmissing, hsame⟩
  · rw [hmended]
    exact h.same _ hmember
  · rw [hmissing, hsame]

end Members

/-! ### Single values -/

/-- A real number or a default. -/
def mendReal (default : Float) : Json → Json :=
  mendBy toReal? (.real default)

/-- A whole number or a default. -/
def mendWhole (default : Int) : Json → Json :=
  mendBy toWhole? (.int default)

/-- An object with the numbers under the given names, or nothing. -/
def mendNumbers (names : List String) : Json → Json :=
  mendBy (fun v => readNumbers? v names) .null

/-- An object, or one without members. -/
def mendObject : Json → Json
  | .obj members => .obj members
  | _ => .obj []

/-- No whole number beyond all floating point numbers stands under the names, up to the
    first that is missing or malformed. -/
def IsTolerableNumbers (j : Json) : List String → Prop
  | [] => True
  | name :: names =>
    match j.get? name with
    | none => True
    | some value =>
      IsTolerableReal value ∧ ((∃ x, toReal? value = .ok (some x)) → IsTolerableNumbers j names)

theorem readNumbers?_returns {j : Json} {names : List String} :
    Returns (readNumbers? j names) ↔ IsTolerableNumbers j names := by
  induction names with
  | nil => exact iff_of_true (returns_pure _) trivial
  | cons name names ih =>
      unfold readNumbers? IsTolerableNumbers
      cases j.get? name with
      | none => exact iff_of_true (returns_pure _) trivial
      | some value =>
          dsimp only
          rw [← toReal?_returns, ← ih]
          cases hvalue : toReal? value with
          | error e => exact iff_of_false (not_returns_error e) fun h => not_returns_error e h.1
          | ok number =>
              cases number with
              -- A value that is no number ends the read: the names after it are not looked at.
              | none => simp [bind, Except.bind]
              | some x =>
                  change Returns (readNumbers? j names >>= _) ↔ _
                  rw [returns_bind (P := True) fun _ _ => by simp]
                  simp

theorem heals_real (default : Float) :
    Heals (fun v => readReal v default) (mendReal default) IsTolerableReal :=
  heals_mendBy (fun x => x.getD default) (fun _ => bind_pure_comp _ _)
    (fun _ => toReal?_returns) rfl

theorem heals_whole (default : Int) :
    Heals (fun v => readWhole v default) (mendWhole default) IsTolerableWhole :=
  heals_mendBy (fun n => n.getD default) (fun _ => bind_pure_comp _ _)
    (fun _ => toWhole?_returns) rfl

/-- A rectangle of four numbers. -/
def rectOf? : List Float → Option (Rect Float)
  | [x, y, w, h] => some ⟨x, y, w, h⟩
  | _ => none

/-- A color of three numbers. -/
def rgbOf? : List Float → Option (Rgb Float)
  | [r, g, b] => some ⟨r, g, b⟩
  | _ => none

theorem heals_bounds :
    Heals readBounds (mendNumbers ["x", "y", "width", "height"])
      fun v => IsTolerableNumbers v ["x", "y", "width", "height"] := by
  refine heals_mendBy (Option.bind · rectOf?) (fun v => ?_) (fun _ => readNumbers?_returns) rfl
  unfold readBounds
  rcases readNumbers? v _ with e | _ | numbers
  · rfl
  · rfl
  · rcases numbers with _ | ⟨x, _ | ⟨y, _ | ⟨w, _ | ⟨h, _ | ⟨_, _⟩⟩⟩⟩⟩ <;> rfl

theorem heals_color :
    Heals readColor (mendNumbers ["r", "g", "b"])
      fun v => IsTolerableNumbers v ["r", "g", "b"] := by
  refine heals_mendBy (Option.bind · rgbOf?) (fun v => ?_) (fun _ => readNumbers?_returns) rfl
  unfold readColor
  rcases readNumbers? v _ with e | _ | numbers
  · rfl
  · rfl
  · rcases numbers with _ | ⟨r, _ | ⟨g, _ | ⟨b, _ | ⟨_, _⟩⟩⟩⟩ <;> rfl

theorem heals_object : Heals optionalMembers mendObject IsTolerableObject where
  returns v := by
    cases v <;> exact ⟨_, rfl⟩
  tolerable v := optionalMembers_returns
  same v hv := by
    cases v with
    | obj _ => rfl
    | null | bool _ | int _ | real _ | str _ | arr _ =>
        change optionalMembers (.obj []) = optionalMembers _
        simp only [optionalMembers]
        rw [if_neg (by simpa [IsTolerableObject] using hv)]

/-! ### Paints -/

def paintMending : List (String × (Json → Json)) :=
  [("opacity", mendReal 1.0), ("color", mendNumbers ["r", "g", "b"])]

/-- A paint whose opacity and color can be read. -/
def mendPaint : Json → Json
  | .obj members => .obj (mendMembers paintMending members)
  | v => v

/-- Paints that can be read. -/
def mendPaints : Json → Json :=
  mendItems mendPaint

/-- The numbers of a paint that are looked at are tolerable. -/
def IsTolerablePaint : Json → Prop
  | .obj members => isFalse (memberOf members "visible") = false →
      IsTolerableReal (memberOf members "opacity") ∧
        (keywordOf members "type" "" = "SOLID" →
          IsTolerableNumbers (memberOf members "color") ["r", "g", "b"])
  | _ => True

/-- The paints in a list are tolerable. -/
def AreTolerablePaints (v : Json) : Prop :=
  ∀ item ∈ itemsOf v, IsTolerablePaint item

theorem readPaint_obj (members : Members) :
    readPaint (.obj members) =
      if isFalse (memberOf members "visible") then pure none
      else do
        let opacity ← readReal (memberOf members "opacity") 1.0
        if keywordOf members "type" "" = "SOLID" then
          return (← readColor (memberOf members "color")).map fun c => .solid c opacity
        else if keywordOf members "type" "" = "IMAGE" then
          let ref := firstTruthy (memberOf members "imageRef") (memberOf members "imageHash")
          return if ref.truthy then some (.image ref.display opacity) else none
        else return none :=
  rfl

theorem readPaint_returns {members : Members} :
    Returns (readPaint (.obj members)) ↔ (isFalse (memberOf members "visible") = false →
      Returns (readReal (memberOf members "opacity") 1.0) ∧
        (keywordOf members "type" "" = "SOLID" →
          Returns (readColor (memberOf members "color")))) := by
  rw [readPaint_obj]
  by_cases hvisible : isFalse (memberOf members "visible") = true
  · simp [hvisible]
  · rw [if_neg hvisible]
    simp only [Bool.not_eq_true] at hvisible
    simp only [hvisible, forall_const]
    refine returns_bind fun opacity _ => ?_
    by_cases hsolid : keywordOf members "type" "" = "SOLID"
    · rw [if_pos hsolid]
      rw [bind_pure_comp, returns_map]
      simp [hsolid]
    · rw [if_neg hsolid]
      by_cases himage : keywordOf members "type" "" = "IMAGE"
      · rw [if_pos himage]
        simp [hsolid]
      · rw [if_neg himage]
        simp [hsolid]

theorem heals_paint : Heals readPaint mendPaint IsTolerablePaint where
  returns v := by
    cases v with
    | obj members =>
        refine readPaint_returns.mpr fun _ => ⟨?_, fun _ => ?_⟩
        · exact (heals_real 1.0).member_returns rfl trivial
        · exact heals_color.member_returns rfl trivial
    | null | bool _ | int _ | real _ | str _ | arr _ => exact ⟨_, rfl⟩
  tolerable v := by
    cases v with
    | obj members =>
        rw [readPaint_returns]
        simp only [IsTolerablePaint, ← (heals_real 1.0).tolerable, ← heals_color.tolerable]
    | null | bool _ | int _ | real _ | str _ | arr _ => exact iff_of_true ⟨_, rfl⟩ trivial
  same v hv := by
    cases v with
    | obj members =>
        have hvisible : memberOf (mendMembers paintMending members) "visible"
            = memberOf members "visible" := memberOf_mendMembers rfl
        have hkind : keywordOf (mendMembers paintMending members) "type" ""
            = keywordOf members "type" "" := keywordOf_mendMembers rfl ""
        have href : memberOf (mendMembers paintMending members) "imageRef"
            = memberOf members "imageRef" := memberOf_mendMembers rfl
        have hhash : memberOf (mendMembers paintMending members) "imageHash"
            = memberOf members "imageHash" := memberOf_mendMembers rfl
        change readPaint (.obj (mendMembers paintMending members)) = _
        rw [readPaint_obj, readPaint_obj, hvisible, hkind, href, hhash]
        -- Nothing is read of an invisible paint, so it is the same whatever it holds.
        by_cases hshown : isFalse (memberOf members "visible") = true
        · rw [if_pos hshown, if_pos hshown]
        · rcases hv (Bool.eq_false_iff.mpr hshown) with ⟨hopacity, hcolor⟩
          have hreal : readReal (memberOf (mendMembers paintMending members) "opacity") 1.0
              = readReal (memberOf members "opacity") 1.0 :=
            (heals_real 1.0).member_same rfl hopacity
          rw [hreal]
          -- Only a solid paint has a color that must be tolerable.
          by_cases hsolid : keywordOf members "type" "" = "SOLID"
          · have hsame : readColor (memberOf (mendMembers paintMending members) "color")
                = readColor (memberOf members "color") :=
              heals_color.member_same rfl (hcolor hsolid)
            rw [hsame]
          · simp only [if_neg hsolid]
    | null | bool _ | int _ | real _ | str _ | arr _ => rfl

theorem heals_paints : Heals readPaints mendPaints AreTolerablePaints := by
  have hread : (fun v => (List.filterMap id) <$> (itemsOf v).mapM readPaint) = readPaints :=
    funext fun v => (bind_pure_comp _ _).symm
  exact hread ▸ heals_paint.items.map (List.filterMap id)

/-! ### Corners -/

/-- The value as a number, if it is one. Unlike elsewhere, a text is none. -/
def toNumber? : Json → Except NumberError (Option Float)
  | .str _ => return none
  | v => toReal? v

/-- One radius for all corners, if the value is a number. -/
def readUniform (v : Json) : Except NumberError (Option (CornerRadius Float)) :=
  Option.map CornerRadius.uniform <$> toNumber? v

/-- Radii for four corners. -/
def readRadii : Json × Json × Json × Json → Except NumberError (Option (CornerRadius Float))
  | (a, b, c, d) => do
    let topLeft ← readReal a 0.0
    let topRight ← readReal b 0.0
    let bottomRight ← readReal c 0.0
    let bottomLeft ← readReal d 0.0
    return some ⟨topLeft, topRight, bottomRight, bottomLeft, true⟩

/-- Four radii that can be read. Anything else gives way to a single radius. -/
def mendRadii : Json → Json
  | .arr [a, b, c, d] => .arr ([a, b, c, d].map (mendReal 0.0))
  | _ => .null

/-- A number as the radius of all corners, or no radius. -/
def mendRadius : Json → Json :=
  mendBy toNumber? .null

/-- Radii are given for four corners. -/
def fourRadii? : Json → Option (Json × Json × Json × Json)
  | .arr [a, b, c, d] => some (a, b, c, d)
  | _ => none

/-- The corners of a shape are tolerable. -/
def AreTolerableCorners (members : Members) : Prop :=
  match fourRadii? (memberOf members "rectangleCornerRadii") with
  | some (a, b, c, d) =>
    IsTolerableReal a ∧ IsTolerableReal b ∧ IsTolerableReal c ∧ IsTolerableReal d
  | none => IsTolerableReal (memberOf members "cornerRadius")

theorem readUniform_eq (v : Json) :
    (match v with
      | .bool b => return some (.uniform (if b then 1.0 else 0.0))
      | .int n => return some (.uniform (← Scalar.ofInt? n))
      | .real x => return some (.uniform x)
      | _ => return none) = readUniform v := by
  cases v with
  | int n =>
      simp only [readUniform, toNumber?, toReal?]
      cases (Scalar.ofInt? n : Except NumberError Float) <;> rfl
  | null | bool _ | real _ | str _ | arr _ | obj _ => rfl

theorem readCornerRadius_eq (members : Members) :
    readCornerRadius members =
      match fourRadii? (memberOf members "rectangleCornerRadii") with
      | some radii => readRadii radii
      | none => readUniform (memberOf members "cornerRadius") := by
  unfold readCornerRadius
  generalize memberOf members "rectangleCornerRadii" = four
  generalize memberOf members "cornerRadius" = single
  cases four with
  | arr items =>
      rcases items with _ | ⟨a, _ | ⟨b, _ | ⟨c, _ | ⟨d, _ | ⟨_, _⟩⟩⟩⟩⟩ <;>
        first | rfl | exact readUniform_eq single
  | null | bool _ | int _ | real _ | str _ | obj _ => exact readUniform_eq single

theorem toNumber?_returns {j : Json} : Returns (toNumber? j) ↔ IsTolerableReal j := by
  unfold toNumber?
  split
  · exact iff_of_true (returns_pure _) trivial
  · exact toReal?_returns

theorem heals_uniform : Heals readUniform mendRadius IsTolerableReal :=
  heals_mendBy _ (fun _ => rfl) (fun _ => toNumber?_returns) rfl

theorem readRadii_returns {a b c d : Json} :
    Returns (readRadii (a, b, c, d)) ↔
      IsTolerableReal a ∧ IsTolerableReal b ∧ IsTolerableReal c ∧ IsTolerableReal d := by
  simp only [← (heals_real 0.0).tolerable]
  refine returns_bind fun _ _ => returns_bind fun _ _ => returns_bind fun _ _ => ?_
  rw [bind_pure_comp, returns_map]

/-- The corners of a shape are healed if its members are mended as they should be. -/
theorem heals_corners (table : List (String × (Json → Json)))
    (hfour : table.lookup "rectangleCornerRadii" = some mendRadii)
    (hsingle : table.lookup "cornerRadius" = some mendRadius) :
    Heals readCornerRadius (mendMembers table) AreTolerableCorners := by
  -- Mended radii are four if they were four before.
  have hradii : ∀ members : Members,
      fourRadii? (memberOf (mendMembers table members) "rectangleCornerRadii")
        = (fourRadii? (memberOf members "rectangleCornerRadii")).map fun (a, b, c, d) =>
          (mendReal 0.0 a, mendReal 0.0 b, mendReal 0.0 c, mendReal 0.0 d) := by
    intro members
    refine read_mended members hfour fourRadii? _ (fun v => ?_) rfl
    cases v with
    | arr items =>
        rcases items with _ | ⟨a, _ | ⟨b, _ | ⟨c, _ | ⟨d, _ | ⟨_, _⟩⟩⟩⟩⟩ <;> rfl
    | null | bool _ | int _ | real _ | str _ | obj _ => rfl
  refine ⟨fun members => ?_, fun members => ?_, fun members hmembers => ?_⟩
  · rw [readCornerRadius_eq, hradii]
    cases fourRadii? (memberOf members "rectangleCornerRadii") with
    | none => exact heals_uniform.member_returns hsingle trivial
    | some radii =>
        rcases radii with ⟨a, b, c, d⟩
        have hmended : ∀ v, IsTolerableReal (mendReal 0.0 v) := fun v =>
          ((heals_real 0.0).tolerable _).mp ((heals_real 0.0).returns v)
        exact readRadii_returns.mpr ⟨hmended a, hmended b, hmended c, hmended d⟩
  · rw [readCornerRadius_eq, AreTolerableCorners]
    cases fourRadii? (memberOf members "rectangleCornerRadii") with
    | none => exact heals_uniform.tolerable _
    | some radii => exact readRadii_returns
  · rw [readCornerRadius_eq, readCornerRadius_eq, hradii]
    unfold AreTolerableCorners at hmembers
    cases hradii' : fourRadii? (memberOf members "rectangleCornerRadii") with
    | none =>
        rw [hradii'] at hmembers
        exact heals_uniform.member_same hsingle hmembers
    | some radii =>
        rcases radii with ⟨a, b, c, d⟩
        rw [hradii'] at hmembers
        have hsame : ∀ v, IsTolerableReal v →
            readReal (mendReal 0.0 v) 0.0 = readReal v 0.0 := (heals_real 0.0).same
        simp only [Option.map_some, readRadii, hsame a hmembers.1, hsame b hmembers.2.1,
          hsame c hmembers.2.2.1, hsame d hmembers.2.2.2]

/-! ### Line heights -/

def lineHeightMending : List (String × (Json → Json)) :=
  [("value", mendReal 0.0)]

/-- The unit of a line height is known. -/
def hasKnownUnit (members : Members) : Bool :=
  (LineHeightUnit.ofName? (keywordOf members "unit" "AUTO")).isSome

/-- A line height that is there, and that nothing is known of. -/
def unknownLineHeight : Json :=
  .obj [("unit", .str "")]

/-- A line height that can be read, unknown if the value is malformed, and missing if it
    counts as missing. -/
def mendLineHeight (v : Json) : Json :=
  match v with
  | .obj members =>
    if hasKnownUnit members then .obj (mendMembers lineHeightMending members)
    else unknownLineHeight
  | _ => if v.truthy then unknownLineHeight else .null

/-- The value of a line height is tolerable if its unit is known. -/
def IsTolerableLineHeight : Json → Prop
  | .obj members => hasKnownUnit members = true → IsTolerableReal (memberOf members "value")
  | _ => True

theorem readLineHeight_obj (members : Members) :
    readLineHeight (.obj members) =
      match LineHeightUnit.ofName? (keywordOf members "unit" "AUTO") with
      | some unit => (fun x => some ⟨unit, x⟩) <$> readReal (memberOf members "value") 0.0
      | none => .ok none := by
  unfold readLineHeight
  dsimp only
  cases LineHeightUnit.ofName? (keywordOf members "unit" "AUTO") with
  | none => rfl
  | some unit => exact bind_pure_comp _ _

theorem readLineHeight_unknown : readLineHeight unknownLineHeight = .ok none := by
  have hunit : LineHeightUnit.ofName? (keywordOf [("unit", .str "")] "unit" "AUTO") = none := by
    decide +kernel
  rw [unknownLineHeight, readLineHeight_obj, hunit]

theorem heals_lineHeight : Heals readLineHeight mendLineHeight IsTolerableLineHeight where
  returns v := by
    unfold mendLineHeight
    split
    · split
      · rw [readLineHeight_obj]
        split
        · exact returns_map.mpr ((heals_real 0.0).member_returns rfl trivial)
        · exact ⟨_, rfl⟩
      · exact ⟨_, readLineHeight_unknown⟩
    · split
      · exact ⟨_, readLineHeight_unknown⟩
      · exact ⟨_, rfl⟩
  tolerable v := by
    cases v with
    | obj members =>
        rw [readLineHeight_obj, IsTolerableLineHeight, hasKnownUnit]
        cases LineHeightUnit.ofName? (keywordOf members "unit" "AUTO") with
        | none => simp
        | some unit =>
            dsimp only
            rw [returns_map, (heals_real 0.0).tolerable]
            simp
    | null | bool _ | int _ | real _ | str _ | arr _ => exact iff_of_true ⟨_, rfl⟩ trivial
  same v hv := by
    cases v with
    | obj members =>
        unfold mendLineHeight
        dsimp only
        by_cases hunit : hasKnownUnit members = true
        · have hvalue : readReal (memberOf (mendMembers lineHeightMending members) "value") 0.0
              = readReal (memberOf members "value") 0.0 :=
            (heals_real 0.0).member_same rfl (hv hunit)
          have hname : keywordOf (mendMembers lineHeightMending members) "unit" "AUTO"
              = keywordOf members "unit" "AUTO" := keywordOf_mendMembers rfl _
          rw [if_pos hunit, readLineHeight_obj, readLineHeight_obj, hvalue, hname]
        · -- With an unknown unit there is no line height, before and after.
          rw [if_neg hunit, readLineHeight_unknown, readLineHeight_obj]
          rw [hasKnownUnit, Bool.not_eq_true, Option.isSome_eq_false_iff,
            Option.isNone_iff_eq_none] at hunit
          rw [hunit]
    | null | bool _ | int _ | real _ | str _ | arr _ =>
        simp only [mendLineHeight]
        split
        · exact readLineHeight_unknown
        · rfl

/-- A mended line height counts as declared if it was declared before. -/
theorem truthy_mendLineHeight (v : Json) : (mendLineHeight v).truthy = v.truthy := by
  cases v with
  | obj members =>
      unfold mendLineHeight
      dsimp only
      cases members with
      | nil => decide +kernel
      | cons member rest =>
          split <;> rfl
  | null | bool _ | int _ | real _ | str _ | arr _ =>
      simp only [mendLineHeight]
      split
      · next hv => exact hv.symm
      · next hv => exact (Bool.eq_false_iff.mpr hv).symm

end Letterpress.Design
