import Letterpress.Proofs.Document.Detaching
import Letterpress.Proofs.Document.Modest

/-!
# Compiling Twice

A text whose positioned tables can be detached is compiled once and for all. The tables lose
their places, the document around them has no other positioned table, and comments, in which
places are still written, are not looked at. This is so for any text that well-formed trees
are written as.

It is not enough that a table declares its position once. Whether it is positioned is searched
for in its whole style, in any case and with blanks around the colon. A comment ends at the
first two dashes before a bracket, even if there are blanks between them. An alignment is
written into a style as it is, where a code in it is decoded. Numbers that take thousands of
digits are neither read nor written.

## Main definitions

* `CompilesAnew`: Compiling again does something else.
* `LooksDetachable`: An element that looks as if it could be taken out once and for all.

## Theorems

* `tableDocument_height`: Documents tell the heights of their containers.
* `fragmentNodes_undecoded`: A document with a long code for an alignment cannot be read.
* `compile_twice`: Compiling what was compiled changes nothing.
* `compile_changes`: Where it does.
-/

namespace Letterpress.Document

open Markup
open Text (hasLongCode)

variable {K : Type} [Scalar K] {config : Config K} {background : Background} {canvas : Int}

section Heights

variable {fragments others : List Fragment} {text : String}

theorem document_body {body body' : String} {styles : List String}
    (h : document config body styles = document config body' styles) : body = body' := by
  have hlist := congrArg String.toList h
  simp only [document, Text.unlines, Text.joinWith, String.toList_append, List.append_assoc,
    List.append_cancel_left_eq, List.append_cancel_right_eq] at hlist
  exact String.toList_inj.mp hlist

theorem centered_body {width : Int} {body body' : String}
    (h : centered width body = centered width body') : body = body' := by
  have hlist := congrArg String.toList h
  simp only [centered, Text.unlines, Text.joinWith, String.toList_append, List.append_assoc,
    List.append_cancel_left_eq, List.append_cancel_right_eq] at hlist
  exact String.toList_inj.mp hlist

/-- The text of a container starts with its width and its height. -/
theorem containerOf_start {width : Int}
    (h : containerOf config fragments width background = .ok text) :
    Text.isWritable (containerHeight config fragments) = true ∧
      ∃ rest, text.toList = (presentationTable ++ " width=\"" ++ toString width
        ++ "\" style=\"width:" ++ toString width ++ "px; height:").toList
        ++ ((toString (containerHeight config fragments)).toList ++ 'p' :: rest) := by
  simp only [containerOf, except_bind_ok, writing_ok] at h
  rcases h with ⟨tables, -, hnumbers, rfl⟩
  simp only [List.all_cons, Bool.and_eq_true] at hnumbers
  refine ⟨hnumbers.2.2.1, ?_⟩
  have hunit : ("px;\">" : String).toList = 'p' :: ['x', ';', '"', '>'] := by decide
  simp only [List.cons_append, Text.unlines, Text.joinWith, String.toList_append, hunit,
    List.append_assoc, List.append_cancel_left_eq]
  exact ⟨_, rfl⟩

/-- Documents with the same text have containers of the same height. -/
theorem tableDocument_height {width height : K}
    (h : tableDocument config fragments width height background = .ok text)
    (h' : tableDocument config others width height background = .ok text) :
    containerHeight config fragments = containerHeight config others := by
  have hparts : ∀ fs, tableDocument config fs width height background = .ok text →
      ∃ w body, Scalar.roundHalfUp width = .ok w ∧
        containerOf config fs w background = .ok body ∧
        text = document config (centered w body) (baseStyles ++ containerStyles) := by
    intro fs hfs
    simp only [tableDocument, container, emailDocument, except_bind_ok, except_pure_ok,
      number_ok, numeral_ok] at hfs
    rcases hfs with ⟨body, ⟨w, hw, hbody⟩, -, -, w', hw', rfl⟩
    obtain rfl : w = w' := by simpa [hw] using hw'
    exact ⟨w, body, hw, hbody, rfl⟩
  rcases hparts fragments h with ⟨w, body, hw, hbody, htext⟩
  rcases hparts others h' with ⟨w', body', hw', hbody', htext'⟩
  obtain rfl : w = w' := by simpa [hw] using hw'
  obtain rfl : body = body' := centered_body (document_body (htext.symm.trans htext'))
  rcases containerOf_start hbody with ⟨hwritable, rest, hstart⟩
  rcases containerOf_start hbody' with ⟨hwritable', rest', hstart'⟩
  have hsame := List.append_cancel_left (hstart.symm.trans hstart')
  -- Both heights are read off the same text.
  have hread := leadingInt?_numeral hwritable (c := 'p') (by decide) rest
  rw [hsame, leadingInt?_numeral hwritable' (by decide) rest'] at hread
  simpa using hread.symm

end Heights

section Undecoded

/-- The values of the attributes can be decoded. -/
def Decodes (_tag : String) (as : List Attribute) : Prop :=
  ∀ a ∈ as, ∀ value ∈ a.2, ∃ text, Text.decodeReferences value.toList = .ok text

theorem decodes_of_decoded {tag : String} {as as' : List Attribute}
    (h : as.mapM decoded = .ok as') : Decodes tag as := by
  intro a ha value hvalue
  rcases mapM_ok_mem h ha with ⟨b, -, hb⟩
  rcases a with ⟨name, value?⟩
  obtain rfl := hvalue
  simp only [decoded, except_bind_ok] at hb
  rcases hb with ⟨text, htext, -⟩
  exact ⟨text, htext⟩

mutual

theorem decodes_of_decode : (n : Markup.Node) → {m : Markup.Node} → n.decode = .ok m →
    n.Everywhere Decodes
  | .element tag as children, _, h => by
    rcases decode_element.mp h with ⟨as', cs, has, hcs, -⟩
    exact ⟨decodes_of_decoded has, decodes_of_decodeAll children hcs⟩
  | .text _, _, _ => trivial
  | .comment _, _, _ => trivial
  | .declaration _, _, _ => trivial

/-- Trees are only decoded if all values in them are. -/
theorem decodes_of_decodeAll : (ns : List Markup.Node) → {ms : List Markup.Node} →
    Node.decodeAll ns = .ok ms → Node.EverywhereAll Decodes ns
  | [], _, _ => trivial
  | n :: ns, _, h => by
    rcases decodeAll_cons.mp h with ⟨m, ms', hm, hms, -⟩
    exact ⟨decodes_of_decode n hm, decodes_of_decodeAll ns hms⟩

end

/-- A document with a long code for an alignment cannot be read. -/
theorem fragmentNodes_undecoded {f : Fragment} {digits : List Char}
    (halign : f.textAlign.toList = '&' :: '#' :: (digits ++ [';']))
    (hdigits : ∀ c ∈ digits, c.isDigit = true) (hlong : Text.numeralLimit < digits.length)
    (hlink : f.linkWrapped = false) {innerWidth : Int} {unit : Markup.Node}
    (ms : List Markup.Node) : Node.decodeAll (fragmentNodes f innerWidth unit) ≠ .ok ms := by
  intro h
  have hnodes := decodes_of_decodeAll _ h
  rw [fragmentNodes, fragmentLayers, if_neg (by rw [hlink]; exact Bool.false_ne_true)] at hnodes
  -- The cell is in the middle of the only row of the table.
  have hcell : Decodes "td" (spacedCell f).attributes := hnodes.2.1.2.1.2.2.1.1
  have hstyle : ("style", some (widthCss f.width ++ " " ++ alignmentStyle f))
      ∈ (spacedCell f).attributes := List.mem_cons_of_mem _ List.mem_cons_self
  rcases hcell _ hstyle _ rfl with ⟨text, htext⟩
  have hbefore : '&' ∉ (widthCss f.width ++ " text-align:").toList :=
    not_mem_inert (Text.isInert_append.mpr ⟨widthCss_inert f.width, by decide⟩) (by decide)
  have hcss : (widthCss f.width ++ " " ++ alignmentStyle f).toList
      = (widthCss f.width ++ " text-align:").toList ++ '&' :: '#' :: (digits
        ++ ';' :: ("; vertical-align:" ++ f.verticalAlign ++ ";").toList) := by
    simp [alignmentStyle, String.toList_append, halign]
  rw [hcss, Text.decodeReferences_longCode hbefore hdigits hlong (by simp)] at htext
  exact absurd htext (by simp)

end Undecoded

section Twice

variable {ns : List Markup.Node} {markup : String} {width height : K}

/-- What becomes of a text with tables that can be taken out. -/
theorem extract_detachable
    (hdetach : ∀ e ∈ (Node.root ns).elementsBelow, IsDetachable e)
    (hparse : Markup.parse markup = .ok (Node.root ns)) {fragments : List Fragment}
    (h : extract config markup width = .ok fragments) :
    ∃ canvas, Scalar.roundHalfUp width = .ok canvas ∧
      ∀ f ∈ fragments, ∃ p, (Node.root ns).IsOutermostAt isPositionedTable p ∧
        fragmentAt config canvas (Node.root ns) p = .ok f := by
  rw [extract_alone hparse fun p hp q hq => units_alone rfl hdetach hp hq, except_bind_ok] at h
  rcases h with ⟨canvas, hcanvas, h⟩
  refine ⟨canvas, number_ok.mp hcanvas, fun f hf => ?_⟩
  rcases mem_mapM_ok (mapError_ok.mp h) hf with ⟨p, hp, hfragment⟩
  exact ⟨p, Node.mem_outermost.mp hp, hfragment⟩

/-- A text with tables that can be taken out is compiled once and for all. -/
theorem compile_detachable (htidy : Node.TidyAll ns)
    (hdetach : ∀ e ∈ (Node.root ns).elementsBelow, IsDetachable e)
    (hparse : Markup.parse markup = .ok (Node.root ns)) (hconfig : config.IsPlain)
    (hbackground : background.IsPlain) :
    (do let html ← compile config markup width height background
        compile config html width height background)
      = compile config markup width height background := by
  cases hextract : extract config markup width with
  | error e =>
      have hcompile : compile config markup width height background = .error e := by
        rw [compile, hextract]
        rfl
      rw [hcompile]
      rfl
  | ok fragments =>
      cases fragments with
      | nil =>
          have hcompile : compile config markup width height background = .ok markup := by
            rw [compile, hextract]
            rfl
          rw [hcompile]
          exact hcompile
      | cons f fs =>
          have hcompile : compile config markup width height background
              = tableDocument config (f :: fs) width height background := by
            rw [compile, hextract]
            rfl
          rw [hcompile]
          -- What is taken out is still, so nothing can be taken out of the document once more.
          rcases extract_detachable hdetach hparse hextract with ⟨canvas, hcanvas, hfragments⟩
          have hunits : ∀ g ∈ f :: fs,
              (∃ unit, IsUnitOf g unit ∧ unit.Everywhere IsStill) ∧ AlignsReadably g := by
            intro g hg
            rcases hfragments g hg with ⟨p, hp, hself⟩
            exact fragmentAt_ok htidy hdetach hp hself
          cases htext : tableDocument config (f :: fs) width height background with
          | error e => rfl
          | ok text =>
              have hsettled := tableDocument_settled hconfig hbackground (List.cons_ne_nil f fs)
                (fun g hg => (hunits g hg).1) (fun g hg => (hunits g hg).2) htext config width
              change compile config text width height background = .ok text
              rw [hsettled.2 height background, hcanvas]
              rfl

theorem hasShortLengths_bare (e : Markup.Node) :
    (isPositionedTable e.bare = true → HasShortLengths e.bare) ↔
      (isPositionedTable e = true → HasShortLengths e) := by
  have hlengths : lengthTexts e.bare = lengthTexts e := by cases e <;> rfl
  rw [isPositionedTable_bare, HasShortLengths, HasShortLengths, hlengths]

/-- A text whose tables have short lengths is compiled. -/
theorem compile_short (hdetach : ∀ e ∈ (Node.root ns).elementsBelow, IsDetachable e)
    (hparse : Markup.parse markup = .ok (Node.root ns))
    (hlengths : ∀ e ∈ (Node.root ns).elementsBelow, isPositionedTable e = true →
      HasShortLengths e)
    (hconfig : config.IsModest) (hfallback : IsShort config.fallbackFragmentHeight) {w h : Int}
    (hwidth : Scalar.roundHalfUp width = .ok w) (hmodest : IsModest w)
    (hheight : Scalar.roundHalfUp height = .ok h) (background : Background) :
    ∃ html, compile config markup width height background = .ok html := by
  -- Each table in place is read alone, since no other is near it in a unit.
  have hfragment : ∀ p ∈ (Node.root ns).outermost isPositionedTable,
      ∃ f, fragmentAt config w (Node.root ns) p = .ok f ∧ f.IsModest := by
    intro p hp
    have hplace := Node.mem_outermost.mp hp
    rcases exists_table hplace with ⟨table, htable, hpositioned⟩
    have hshort := hlengths table (mem_elementsBelow hplace.below htable
      (isElement_of_isPositionedTable hpositioned)) hpositioned
    simp only [fragmentAt, htable, Option.getD_some]
    exact fragmentOf_returns hshort hfallback hmodest _ _
  rcases except_mapM_returns fun p hp => (hfragment p hp).imp fun f hf => hf.1 with
    ⟨fragments, hfragments⟩
  have hextract : extract config markup width = .ok fragments := by
    rw [extract_alone hparse fun p hp q hq => units_alone rfl hdetach hp hq, hwidth]
    exact mapError_ok.mpr hfragments
  have hall : ∀ f ∈ fragments, f.IsModest := by
    intro f hf
    rcases mem_mapM_ok hfragments hf with ⟨p, hp, hself⟩
    rcases hfragment p hp with ⟨f', hf', hmodest⟩
    obtain rfl := Except.ok.inj (hself.symm.trans hf')
    exact hmodest
  rw [compile, hextract]
  -- Without fragments the text is its own document.
  cases fragments with
  | nil => exact ⟨markup, rfl⟩
  | cons f fs => exact tableDocument_returns hconfig hall hwidth hmodest hheight background

/-- Compiling what was compiled changes nothing, whether it fails or not. It does not fail if
    none of the lengths takes thousands of digits. -/
theorem compile_twice (hns : Node.WellFormedAll ns)
    (hdetach : ∀ e ∈ (Node.root ns).elementsBelow, IsDetachable e) (hconfig : config.IsPlain)
    (hbackground : background.IsPlain) (width height : K) :
    (do let html ← compile config (Node.root ns).serialize width height background
        compile config html width height background)
      = compile config (Node.root ns).serialize width height background ∧
    ((∀ e ∈ (Node.root ns).elementsBelow, isPositionedTable e = true → HasShortLengths e) →
      config.IsModest → IsShort config.fallbackFragmentHeight →
      ∀ w h, Scalar.roundHalfUp width = .ok w → IsModest w → Scalar.roundHalfUp height = .ok h →
        ∃ html, compile config (Node.root ns).serialize width height background = .ok html) := by
  rcases parse_wellFormed hns with ⟨ms, htidy, hparse, -, hbare⟩
  have hread := forall_elementsBelow_bare isDetachable_bare hbare hdetach
  refine ⟨compile_detachable htidy hread hparse hconfig hbackground, ?_⟩
  intro hlengths hmodest hfallback w h hwidth hw hheight
  exact compile_short hread hparse (forall_elementsBelow_bare hasShortLengths_bare hbare hlengths)
    hmodest hfallback hwidth hw hheight background

/-- The document of two tables, one of them in a link, compiles to itself. -/
theorem compile_twice_linkThenTable : ∃ html,
    compile {} (Node.root linkThenTable).serialize (100 : Rat) 100 .none = .ok html ∧
      compile {} html (100 : Rat) 100 .none = .ok html := by
  have htable : ∀ style data, isPlain data = true → Node.WellFormed
      (.element "table" [("style", some style)]
        [.element "tr" [] [.element "td" [] [.text data]]]) := fun style data hdata =>
    Node.wellFormed_filled (by decide)
      (List.forall_mem_singleton.mpr (by decide : isName "style" = true))
      ⟨Node.wellFormed_filled (by decide) (by simp)
        ⟨Node.wellFormed_filled (by decide) (by simp) (Node.wellFormedAll_plain hdata), trivial⟩,
        trivial⟩
  have hformed : Node.WellFormedAll linkThenTable :=
    ⟨Node.wellFormed_filled (by decide) (by decide) ⟨htable _ "1" (by decide), trivial⟩,
      htable _ "2" (by decide), trivial⟩
  have hdetach : ∀ e ∈ (Node.root linkThenTable).elementsBelow, IsDetachable e := by
    decide +kernel
  have hlengths : ∀ e ∈ (Node.root linkThenTable).elementsBelow, isPositionedTable e = true →
      ∀ text ∈ lengthTexts e, text.toList.length < 4000 := by
    decide +kernel
  have hwidth : Scalar.roundHalfUp (100 : Rat) = .ok 100 := by
    rw [roundHalfUp_rat]
    decide +kernel
  rcases compile_twice hformed hdetach isPlain_default isPlain_none (100 : Rat) 100 with
    ⟨hagain, hreturns⟩
  rcases hreturns hlengths ⟨by decide +kernel, by decide +kernel⟩ (by decide +kernel) 100 100 hwidth
    (by decide +kernel) hwidth with ⟨html, hhtml⟩
  refine ⟨html, hhtml, ?_⟩
  rw [hhtml] at hagain
  exact hagain

end Twice

section Changes

/-- The text of the trees is compiled, but compiling the document again does something else. -/
def CompilesAnew (ns : List Markup.Node) : Prop :=
  ∃ html, compile {} (Node.root ns).serialize (100 : Rat) 100 .none = .ok html ∧
    compile {} html (100 : Rat) 100 .none ≠ .ok html

variable {ns : List Markup.Node} {f g : Fragment} {unit : Markup.Node}

theorem extract_hundred (markup : String) :
    extract {} markup (100 : Rat) = extractOn ({} : Config Rat) markup (.ok 100) := by
  have hpixel : pixelOf 100 = 100 := by decide +kernel
  rw [extract, roundHalfUp_rat, hpixel]

/-- The document of a single fragment. -/
theorem compile_single (hextract : extract {} (Node.root ns).serialize (100 : Rat) = .ok [f])
    (hmodest : f.IsModest) (hunit : IsUnitOf f unit)
    (hquotes : ∀ value ∈ [f.textAlign, f.verticalAlign], '"' ∉ value.toList) :
    ∃ html, compile {} (Node.root ns).serialize (100 : Rat) 100 .none = .ok html ∧
      tableDocument ({} : Config Rat) [f] 100 100 .none = .ok html ∧
      HoldsFragmentsOf ({} : Config Rat) html (fragmentNodes f 98 unit.escaped) := by
  have hwidth : Scalar.roundHalfUp (100 : Rat) = .ok 100 := by
    rw [roundHalfUp_rat]
    decide +kernel
  have hconfig : ({} : Config Rat).IsModest := ⟨by decide +kernel, by decide +kernel⟩
  rcases tableDocument_returns hconfig (List.forall_mem_singleton.mpr hmodest) hwidth
    (by decide +kernel) hwidth .none with ⟨html, hhtml⟩
  -- A single fragment is in reading order.
  have horder : [(f, unit)].map Prod.fst = inReadingOrder [f] := by
    have hsorted := Layout.sortOn_stable placedBefore_isStrictWeak
      (fun f : Fragment => (f.top, f.left)) [f]
    exact (List.perm_singleton.mp hsorted.rearranges.perm.symm).symm
  rcases tableDocument_holds isPlain_default isPlain_none (List.cons_ne_nil _ _) horder
    (List.forall_mem_singleton.mpr hunit) (List.forall_mem_singleton.mpr hquotes) hhtml with
    ⟨w, hw, hholds⟩
  obtain rfl : 100 = w := by simpa [hwidth] using hw
  refine ⟨html, ?_, hhtml, hholds {}⟩
  rw [compile, hextract]
  exact hhtml

/-- A fragment that is taken out again with another lower edge gets another document. -/
theorem compilesAnew_of_bottom
    (hextract : extract {} (Node.root ns).serialize (100 : Rat) = .ok [f])
    (hmodest : f.IsModest) (hunit : IsUnitOf f unit)
    (hquotes : ∀ value ∈ [f.textAlign, f.verticalAlign], '"' ∉ value.toList)
    (hagain : ((Node.decodeAll (fragmentNodes f 98 unit.escaped)).mapError fun e =>
        Fault.markup (.numeral e)) >>= (fun ns =>
          (extractAll ({} : Config Rat) 100 ns).mapError Fault.numeral) = .ok [g])
    (hbottom : f.bottom ≠ g.bottom) : CompilesAnew ns := by
  rcases compile_single hextract hmodest hunit hquotes with ⟨html, hcompile, hhtml, hholds⟩
  refine ⟨html, hcompile, fun hsame => ?_⟩
  rw [compile, extract_hundred, hholds 100, hagain] at hsame
  have hheight := tableDocument_height hhtml hsame
  simp only [containerHeight, List.foldl_nil] at hheight
  omega

/-- A table that declares its position under another name as well. -/
def stickyTable : Markup.Node :=
  .element "table" [("style", some "position:absolute; top:5px; x: Position: Absolute;")] []

theorem stickyTable_changes : CompilesAnew [stickyTable] := by
  refine compilesAnew_of_bottom
    (f := ⟨"<table style=\"x:Position: Absolute;\"></table>", 0, 5, 100, 100, false, "left", "top"⟩)
    (g := ⟨"<table style=\"x:Position: Absolute;\"></table>", 0, 0, 100, 100, false, "left", "top"⟩)
    ?_ ⟨by decide +kernel, by decide +kernel, by decide +kernel, by decide +kernel⟩
    (show IsUnitOf _ (.element "table" [("style", some "x:Position: Absolute;")] []) from
      ⟨by decide +kernel, ⟨by decide, by decide, trivial⟩, rfl⟩)
    (by decide) (by decide +kernel) (by decide)
  rw [extract_hundred]
  decide +kernel

/-- A comment that ends early, so that a table is read in it. -/
def brokenComment : String :=
  "-- ><table style=\"position:absolute; top:5px;\"></table>"

/-- A table with a comment in it. -/
def commentedTable (data : String) : Markup.Node :=
  .element "table" [("style", some "position:absolute;")] [.comment data]

/-- What a table with the broken comment is taken out as. -/
def brokenUnit : Markup.Node :=
  .element "table" [("style", some "")]
    [.comment "", .element "table" [("style", some "position:absolute; top:5px;")] [], .text "-->"]

theorem brokenUnit_tidy : brokenUnit.Tidy := by
  have hcomment : hasNoCommentEnd ("" : String).toList = true := by decide
  exact ⟨by decide, by decide, hcomment, fun _ => rfl, ⟨by decide, by decide, trivial⟩,
    fun h => absurd h Bool.false_ne_true, Or.inl (by decide), fun _ => rfl, trivial⟩

theorem brokenComment_changes : CompilesAnew [commentedTable brokenComment] := by
  refine compilesAnew_of_bottom
    (f := ⟨brokenUnit.serialize, 0, 0, 100, 100, false, "left", "top"⟩)
    (g := ⟨"<table style=\"\"></table>", 0, 5, 100, 100, false, "left", "top"⟩)
    ?_ ⟨by decide +kernel, by decide +kernel, by decide +kernel, by decide +kernel⟩
    ⟨by decide +kernel, brokenUnit_tidy, rfl⟩ (by decide) (by decide +kernel) (by decide)
  rw [extract_hundred]
  decide +kernel

theorem extractOn_tidy (h : Node.TidyAll ns) (canvas : Int) :
    extractOn config (Node.root ns).serialize (.ok canvas)
      = (extractAll config canvas ns).mapError Fault.numeral := by
  have hparse : Markup.parse (Node.root ns).serialize
      = (Markup.Node.root <$> (.ok ns : Except NumeralError (List Markup.Node))).mapError
          MarkupError.numeral := parse_serializeAll h
  rw [extractOn_parsed hparse]
  rfl

/-- A table with an alignment in an attribute. -/
def alignedTable (style value : String) : Markup.Node :=
  .element "table" [("style", some style), ("align", some value)] []

theorem alignedTable_tidy (style value : String) : (alignedTable style value).Tidy := by
  refine ⟨by decide, ?_, trivial⟩
  simp only [List.forall_mem_cons]
  exact ⟨by decide, by decide, by simp⟩

/-- What is taken out of a table with an alignment. -/
def alignedFragment (value : String) : Fragment :=
  { markup := (alignedTable "" value).serialize
    left := 0, top := 0, width := 100, height := 100, textAlign := value }

theorem alignedTable_positioned (value : String) :
    isPositionedTable (alignedTable "position:absolute;" value) = true := by
  change (decide (some "table" = some "table") && Style.isAbsolute "position:absolute;") = true
  decide

/-- Such a table declares nothing but its position. -/
theorem valueOf?_aligned (value : String) : ∀ property ∈ ["top", "left", "width", "height",
    "padding-top", "padding-bottom", "text-align", "vertical-align"],
    Style.valueOf? (styleOf (alignedTable "position:absolute;" value)) property = none := by
  change ∀ property ∈ _, Style.valueOf? "position:absolute;" property = none
  decide

theorem alignments_aligned {value : String} (h : value.isEmpty = false) :
    alignments (alignedTable "position:absolute;" value) = [value, "top"] := by
  generalize htable : alignedTable "position:absolute;" value = table
  have hnone := valueOf?_aligned value
  rw [htable] at hnone
  have htext : alignment table "text-align" "align" "left" = value := by
    have hget : table.get? "align" = some value := by rw [← htable]; rfl
    rw [alignment, hnone "text-align" (by decide), hget, nonempty?, nonempty?,
      Option.filter_some, h]
    rfl
  have hvertical : alignment table "vertical-align" "valign" "top" = "top" := by
    have hget : table.get? "valign" = none := by rw [← htable]; rfl
    rw [alignment, hnone "vertical-align" (by decide), hget]
    rfl
  rw [alignments, htext, hvertical]

theorem fragmentOf_aligned {value : String} (h : value.isEmpty = false) :
    fragmentOf ({} : Config Rat) 100 (alignedTable "position:absolute;" value)
      (alignedTable "" value).serialize false = .ok (alignedFragment value) := by
  have halignments := alignments_aligned h
  have hnone := valueOf?_aligned value
  -- The table is abstracted, so that only what is known of its declarations is used.
  generalize htable : alignedTable "position:absolute;" value = table at halignments hnone
  have hdeclared : ∀ property ∈ ["top", "left", "width", "height", "padding-top",
      "padding-bottom"], ∀ fallback, declared table property fallback = .ok fallback := by
    intro property hproperty fallback
    rw [declared, hnone property (List.mem_append_left ["text-align", "vertical-align"] hproperty)]
    rfl
  have hheight : declaredHeight ({} : Config Rat) table = .ok 100 := by
    have hattribute : table.get? "height" = none := by rw [← htable]; rfl
    rw [declaredHeight, ownHeight, hattribute, hdeclared "height" (by decide),
      hdeclared "padding-top" (by decide), hdeclared "padding-bottom" (by decide)]
    rfl
  obtain ⟨htext, hvertical⟩ : alignment table "text-align" "align" "left" = value ∧
      alignment table "vertical-align" "valign" "top" = "top" := by
    simpa [alignments] using halignments
  rw [fragmentOf, hdeclared "top" (by decide), hdeclared "left" (by decide),
    hdeclared "width" (by decide), hheight, htext, hvertical]
  rfl

theorem extract_aligned {value : String} (h : value.isEmpty = false) :
    extract {} (Node.root [alignedTable "position:absolute;" value]).serialize (100 : Rat)
      = .ok [alignedFragment value] := by
  have hunplaced : unplaced (alignedTable "position:absolute;" value) = alignedTable "" value := by
    have hcss : Style.without placingProperties "position:absolute;" = "" := by decide +kernel
    change alignedTable (Style.without placingProperties "position:absolute;") value = _
    rw [hcss]
  have htidy : Node.TidyAll [alignedTable "position:absolute;" value] :=
    ⟨alignedTable_tidy _ _, fun _ => rfl, trivial⟩
  rw [extract_hundred, extractOn_tidy htidy, extractAll_singleton,
    extractIn_table (alignedTable_positioned value), hunplaced, fragmentOf_aligned h]
  rfl

/-- A code with a number of digits. -/
def codeOf (count : Nat) : String :=
  String.ofList ('&' :: '#' :: (List.replicate count '1' ++ [';']))

theorem codeOf_isEmpty (count : Nat) : (codeOf count).isEmpty = false := by
  simp [codeOf]

theorem codeOf_quotes (count : Nat) : '"' ∉ (codeOf count).toList := by
  simp [codeOf, List.mem_replicate]

/-- A code with too many digits is written into a style, but it cannot be read there. -/
theorem codeOf_changes {count : Nat} (h : Text.numeralLimit < count) :
    CompilesAnew [alignedTable "position:absolute;" (codeOf count)] := by
  have hnumbers : ∀ n ∈ [0, 100], IsModest n := by decide +kernel
  simp only [List.forall_mem_cons] at hnumbers
  rcases hnumbers with ⟨hzero, hhundred, -⟩
  have hquotes : ∀ value ∈ [codeOf count, "top"], '"' ∉ value.toList :=
    List.forall_mem_cons.mpr ⟨codeOf_quotes count, by decide⟩
  rcases compile_single (extract_aligned (codeOf_isEmpty count)) ⟨hzero, hzero, hhundred, hhundred⟩
    ⟨rfl, alignedTable_tidy "" (codeOf count), rfl⟩ hquotes with ⟨html, hcompile, -, hholds⟩
  refine ⟨html, hcompile, fun hsame => ?_⟩
  rw [compile, extract_hundred, hholds 100] at hsame
  simp only [except_bind_ok, mapError_ok] at hsame
  rcases hsame with ⟨fragments, ⟨ms, hms, -⟩, -⟩
  have hdigits : ∀ c ∈ List.replicate count '1', c.isDigit = true := fun c hc => by
    rw [List.eq_of_mem_replicate hc]
    decide
  exact fragmentNodes_undecoded String.toList_ofList hdigits (by rwa [List.length_replicate]) rfl
    ms hms

/-- A table at some height. -/
def tableAt (top : Int) : Render.PlacedTable :=
  { link := none, left := 0, top, width := 10, height := none, rows := [] }

/-- A table whose place takes too many digits is not compiled. -/
theorem tableAt_fails {top : Int} (hfar : Text.isWritable top = false) {width height : K}
    {html : String} :
    compile config (Node.root [(tableAt top).node]).serialize width height background
      ≠ .ok html := by
  intro h
  have hrows : Node.TidyAll (tableAt top).rows := trivial
  have htidy : Node.TidyAll [(tableAt top).node] :=
    ⟨Render.nodeWith_tidy hrows _, fun _ => rfl, trivial⟩
  rw [compile, except_bind_ok] at h
  rcases h with ⟨fragments, hextract, -⟩
  rcases extractOn_ok hextract with ⟨canvas, -, hon⟩
  rw [extractOn_tidy htidy, mapError_ok, extractAll_singleton] at hon
  have htop : Text.isWritable top = true := (Render.isReadable_of_extractIn _ _ hon).top
  rw [hfar] at htop
  exact Bool.noConfusion htop

/-- An element that looks as if it could be taken out once and for all: if it is a unit, it holds
    one positioned table, and a positioned table declares its position once, as it is usually
    written, and has no quotes in its alignments. -/
structure LooksDetachable (e : Markup.Node) : Prop where
  alone : IsUnit e → e.elementsIn.countP isPositionedTable = 1
  placed : isPositionedTable e = true → ⟨"position", "absolute"⟩ ∈ Style.readStyle (styleOf e) ∧
    ∀ d ∈ Style.readStyle (styleOf e), d = ⟨"position", "absolute"⟩ ∨
      ¬ "position:absolute".toList <:+: d.css.toList
  aligned : isPositionedTable e = true → ∀ value ∈ alignments e, '"' ∉ value.toList

theorem stickyTable_looks : LooksDetachable stickyTable :=
  ⟨by decide +kernel, fun _ => by decide +kernel, fun _ => by decide +kernel⟩

theorem commentedTable_looks : LooksDetachable (commentedTable brokenComment) :=
  ⟨by decide +kernel, fun _ => by decide +kernel, fun _ => by decide +kernel⟩

theorem alignedTable_looks {value : String} (h : value.isEmpty = false)
    (hquotes : '"' ∉ value.toList) :
    LooksDetachable (alignedTable "position:absolute;" value) where
  alone _ := List.countP_cons_of_pos (alignedTable_positioned value)
  placed _ := by
    change _ ∈ Style.readStyle "position:absolute;" ∧
      ∀ d ∈ Style.readStyle "position:absolute;", _
    decide +kernel
  aligned _ := by
    rw [alignments_aligned h]
    exact List.forall_mem_cons.mpr ⟨hquotes, by decide⟩

/-- Another declaration with a position in it, with a blank and in another case, a comment that
    ends with a blank before its bracket, or a code of 4301 digits for an alignment, and
    compiling again changes what was compiled, although the trees are well-formed and their
    tables look as if they could be taken out. A length of as many digits is not compiled. -/
theorem compile_changes :
    (Node.WellFormedAll [stickyTable] ∧
      (∀ e ∈ (Node.root [stickyTable]).elementsBelow, LooksDetachable e) ∧
      CompilesAnew [stickyTable]) ∧
    (Node.WellFormedAll [commentedTable ""] ∧ ¬ "-->".toList <:+: brokenComment.toList ∧
      (∀ e ∈ (Node.root [commentedTable brokenComment]).elementsBelow, LooksDetachable e) ∧
      CompilesAnew [commentedTable brokenComment]) ∧
    (Node.WellFormedAll [alignedTable "position:absolute;" (codeOf 4301)] ∧
      (∀ e ∈ (Node.root [alignedTable "position:absolute;" (codeOf 4301)]).elementsBelow,
        LooksDetachable e) ∧
      CompilesAnew [alignedTable "position:absolute;" (codeOf 4301)]) ∧
    ∀ html, compile ({} : Config Rat)
      (Node.root [(tableAt (Nat.pow 10 4300 : Nat)).node]).serialize 100 100 .none ≠ .ok html := by
  -- The tables differ only in their styles, so they are well-formed for one reason.
  have hstyle : ∀ style as, (∀ a ∈ as, isName a.1 = true) → ∀ children,
      Node.WellFormedAll children →
      Node.WellFormedAll [.element "table" (("style", some style) :: as) children] :=
    fun style as has children hchildren =>
      ⟨Node.wellFormed_filled (by decide)
        (List.forall_mem_cons.mpr ⟨(by decide : isName "style" = true), has⟩) hchildren, trivial⟩
  have hcomment : hasNoCommentEnd ("" : String).toList = true := by decide
  refine ⟨⟨hstyle _ [] (by simp) [] trivial, ?_, stickyTable_changes⟩,
    ⟨hstyle _ [] (by simp) _ ⟨hcomment, trivial⟩, by decide +kernel, ?_, brokenComment_changes⟩,
    ⟨hstyle _ _ (List.forall_mem_singleton.mpr (by decide : isName "align" = true)) [] trivial, ?_,
      codeOf_changes (by decide)⟩,
    fun _ => tableAt_fails (by decide +kernel)⟩
  · exact List.forall_mem_singleton.mpr stickyTable_looks
  · exact List.forall_mem_singleton.mpr commentedTable_looks
  · exact List.forall_mem_singleton.mpr
      (alignedTable_looks (codeOf_isEmpty 4301) (codeOf_quotes 4301))

end Changes

end Letterpress.Document
