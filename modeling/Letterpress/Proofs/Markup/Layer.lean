import Letterpress.Proofs.Document.Extraction
import Letterpress.Proofs.Text.Inert

/-!
# Layers around Content

A document is a few elements around its content, one inside of the other. Each of these
layers is an element with some fixed nodes before and after what it surrounds, and
with inert attributes. So properties of a document come down to those of its content:
it is tidy if the content is, it is decoded if the content is, and unless a layer is
positioned itself, its fragments are those of the content.

## Main definitions

* `Writes`: A text is that of some drafts.
* `InertAttributes`: All values of an element are inert.
* `Layer`, `inLayers`: Elements around some content.
* `HasSolidEnds`: Content that does not run together with text around it.

## Theorems

* `Writes.append`, `writes_element`: Texts that are put together.
* `decodeAll_inert`: Inert values are decoded to themselves.
* `tidyAll_inLayers`, `everywhereAll_inLayers`, `decodeAll_inLayers`,
  `extractAll_inLayers`: Properties of a document from those of its content.
-/

namespace Letterpress.Markup

open Text (IsInert)

/-- The text is that of the drafts. -/
def Writes (s : String) (ns : List Node) : Prop :=
  s.toList = Node.writtenAll ns

theorem Writes.append {s t : String} {ns ms : List Node} (hs : Writes s ns) (ht : Writes t ms) :
    Writes (s ++ t) (ns ++ ms) := by
  rw [Writes, String.toList_append, hs, ht, writtenAll_append]

theorem writes_written (n : Node) (s : String) (h : s.toList = n.written) : Writes s [n] := by
  rw [Writes, h, Node.writtenAll, Node.writtenAll, List.append_nil]

theorem writes_text (data : String) : Writes data [.text data] :=
  writes_written _ _ rfl

theorem writes_comment {s data : String} (h : s = "<!--" ++ data ++ "-->") :
    Writes s [.comment data] := by
  refine writes_written _ _ ?_
  rw [h]
  simp [Node.written, String.toList_append]

/-- The text of an element: its start tag, its content and its end tag. -/
theorem writes_element (tag first last : String) (as : List Attribute) {content : String}
    {ns : List Node}
    (hvoid : voidTags.contains tag = false) (hfirst : first.toList = writtenStart tag as)
    (hcontent : Writes content ns) (hlast : last.toList = writtenEnd tag) :
    Writes (first ++ content ++ last) [.element tag as ns] := by
  refine writes_written _ _ ?_
  rw [Node.written, if_neg (by rw [hvoid]; exact Bool.false_ne_true), String.toList_append,
    String.toList_append, hfirst, hcontent, hlast, List.append_assoc]

/-- The text of an element without content. -/
theorem writes_void {tag first : String} {as : List Attribute}
    (hvoid : voidTags.contains tag = true) (hfirst : first.toList = writtenStart tag as) :
    Writes first [.element tag as []] := by
  refine writes_written _ _ ?_
  rw [Node.written, if_pos hvoid, hfirst]

/-- All values of an element are inert. -/
def InertAttributes (_ : String) (as : List Attribute) : Prop :=
  ∀ a ∈ as, ∀ value ∈ a.2, IsInert value

theorem inertAttributes_nil {tag : String} : InertAttributes tag [] :=
  fun _ ha => absurd ha List.not_mem_nil

theorem inertAttributes_cons {tag name value : String} {as : List Attribute}
    (hvalue : IsInert value) (h : InertAttributes tag as) :
    InertAttributes tag ((name, some value) :: as) := by
  intro a ha v hv
  rcases List.mem_cons.mp ha with rfl | ha
  · rw [← Option.some.inj hv]
    exact hvalue
  · exact h a ha v hv

theorem decoded_plain (name : String) {value : String} (h : IsInert value) :
    decoded (name, some value) = .ok (name, some value) := by
  have hplain : '&' ∉ value.toList := fun hmem => absurd (h '&' hmem) (by decide)
  simp only [decoded, Text.decodeReferences_plain hplain]
  change Except.ok (name, some (String.ofList value.toList)) = _
  rw [String.ofList_toList]

theorem decoded_inert {as : List Attribute} {tag : String} (h : InertAttributes tag as) :
    as.mapM decoded = .ok as := by
  induction as with
  | nil => rfl
  | cons a as ih =>
      have hself : decoded a = .ok a := by
        rcases a with ⟨name, value⟩
        cases value with
        | none => rfl
        | some value => exact decoded_plain name (h (name, some value) List.mem_cons_self value rfl)
      rw [List.mapM_cons, hself, ih fun b hb => h b (List.mem_cons_of_mem a hb)]
      rfl

mutual

theorem decode_inert : (n : Node) → n.Everywhere InertAttributes → n.decode = .ok n
  | .element tag as children, h => by
    rw [Node.Everywhere] at h
    rw [Node.decode, decoded_inert h.1, decodeAll_inert children h.2]
    rfl
  | .text _, _ => rfl
  | .comment _, _ => rfl
  | .declaration _, _ => rfl

/-- Inert values are decoded to themselves. -/
theorem decodeAll_inert : (ns : List Node) → Node.EverywhereAll InertAttributes ns →
    Node.decodeAll ns = .ok ns
  | [], _ => rfl
  | n :: ns, h => by
    rw [Node.EverywhereAll] at h
    rw [Node.decodeAll, decode_inert n h.1, decodeAll_inert ns h.2]
    rfl

end

theorem attributesInQuotes_nil : AttributesInQuotes [] :=
  fun _ ha => absurd ha List.not_mem_nil

theorem attributesInQuotes_cons {name value : String} {as : List Attribute}
    (hvalue : '"' ∉ value.toList) (has : AttributesInQuotes as) :
    AttributesInQuotes ((name, some value) :: as) := by
  intro a ha v hv
  rcases List.mem_cons.mp ha with rfl | ha
  · rw [← Option.some.inj hv]
    exact hvalue
  · exact has a ha v hv

/-- Inert values do not end their quotes. -/
theorem InertAttributes.inQuotes {tag : String} {as : List Attribute}
    (h : InertAttributes tag as) : AttributesInQuotes as :=
  fun a ha value hvalue hmem => absurd (h a ha value hvalue '"' hmem) (by decide)

theorem attributesInQuotes_plain {name value : String} {as : List Attribute}
    (hvalue : IsInert value) (has : AttributesInQuotes as) :
    AttributesInQuotes ((name, some value) :: as) :=
  attributesInQuotes_cons (fun hmem => absurd (hvalue '"' hmem) (by decide)) has

mutual

theorem Node.Everywhere.mono {P Q : String → List Attribute → Prop}
    (h : ∀ tag as, P tag as → Q tag as) : (n : Node) → n.Everywhere P → n.Everywhere Q
  | .element tag as children, hn => ⟨h tag as hn.1, everywhereAll_mono h children hn.2⟩
  | .text _, _ => trivial
  | .comment _, _ => trivial
  | .declaration _, _ => trivial

theorem everywhereAll_mono {P Q : String → List Attribute → Prop}
    (h : ∀ tag as, P tag as → Q tag as) :
    (ns : List Node) → Node.EverywhereAll P ns → Node.EverywhereAll Q ns
  | [], _ => trivial
  | n :: ns, hns => ⟨Node.Everywhere.mono h n hns.1, everywhereAll_mono h ns hns.2⟩

end

theorem everywhereAll_append {P : String → List Attribute → Prop} {ns ms : List Node} :
    Node.EverywhereAll P (ns ++ ms) ↔ Node.EverywhereAll P ns ∧ Node.EverywhereAll P ms := by
  simp only [everywhereAll_iff, List.forall_mem_append]

/-- Tidy drafts one after another are tidy if no two texts meet. -/
theorem tidyAll_append {ns ms : List Node} (hns : Node.TidyAll ns) (hms : Node.TidyAll ms)
    (hmeet : ns.getLast?.any Node.isPlainText = true → ms.head?.any Node.isPlainText = false) :
    Node.TidyAll (ns ++ ms) := by
  induction ns with
  | nil => exact hms
  | cons n ns ih =>
      rw [Node.TidyAll] at hns
      rw [List.cons_append, Node.TidyAll]
      refine ⟨hns.1, fun hplain => ?_, ih hns.2.2 fun hlast => hmeet ?_⟩
      · cases ns with
        | nil => exact hmeet (by simpa using hplain)
        | cons m ns => exact hns.2.1 hplain
      · cases ns with
        | nil => exact absurd hlast (by simp)
        | cons m ns => simpa using hlast

/-- Content that does not run together with text around it. -/
structure HasSolidEnds (ns : List Node) : Prop where
  ne : ns ≠ []
  head : ns.head?.any Node.isPlainText = false
  last : ns.getLast?.any Node.isPlainText = false

theorem hasSolidEnds_single {n : Node} (h : n.isPlainText = false) : HasSolidEnds [n] :=
  ⟨List.cons_ne_nil n [], by simpa using h, by simpa using h⟩

/-- Content between tidy drafts. -/
theorem tidyAll_between {before content after : List Node} (hbefore : Node.TidyAll before)
    (hcontent : Node.TidyAll content) (hends : HasSolidEnds content)
    (hafter : Node.TidyAll after) : Node.TidyAll (before ++ (content ++ after)) := by
  refine tidyAll_append hbefore (tidyAll_append hcontent hafter fun hlast => ?_) fun _ => ?_
  · exact absurd hlast (by rw [hends.last]; exact Bool.false_ne_true)
  · rw [List.head?_append_of_ne_nil _ hends.ne]
    exact hends.head

/-- An element around some content, with what stands before and after the content. -/
structure Layer where
  tag : String
  attributes : List Attribute := []
  before : List Node := []
  after : List Node := []

namespace Layer

/-- The element with its content. -/
def around (l : Layer) (content : List Node) : Node :=
  .element l.tag l.attributes (l.before ++ (content ++ l.after))

/-- The element itself and all elements before and after the content have a property. -/
def Everywhere (P : String → List Attribute → Prop) (l : Layer) : Prop :=
  P l.tag l.attributes ∧ Node.EverywhereAll P l.before ∧ Node.EverywhereAll P l.after

/-- The text of the element reads as the element. -/
structure IsTidy (l : Layer) : Prop where
  tag : isFilledTag l.tag = true
  names : ∀ a ∈ l.attributes, isName a.1 = true
  before : Node.TidyAll l.before
  after : Node.TidyAll l.after

theorem around_tidy {l : Layer} (h : l.IsTidy) {content : List Node}
    (hcontent : Node.TidyAll content) (hends : HasSolidEnds content) :
    (l.around content).Tidy :=
  tidy_filled h.tag h.names (tidyAll_between h.before hcontent hends h.after)

theorem around_everywhere {P : String → List Attribute → Prop} {l : Layer} (h : l.Everywhere P)
    {content : List Node} (hcontent : Node.EverywhereAll P content) :
    (l.around content).Everywhere P :=
  ⟨h.1, everywhereAll_append.mpr ⟨h.2.1, everywhereAll_append.mpr ⟨hcontent, h.2.2⟩⟩⟩

/-- A layer is decoded in its attributes. -/
theorem around_decoded {l : Layer} {as : List Attribute} (has : l.attributes.mapM decoded = .ok as)
    (hbefore : Node.EverywhereAll InertAttributes l.before)
    (hafter : Node.EverywhereAll InertAttributes l.after) (content : List Node) :
    (l.around content).decode
      = Layer.around { l with attributes := as } <$> Node.decodeAll content := by
  rw [around, Node.decode, has, decodeAll_append, decodeAll_append,
    decodeAll_inert l.before hbefore, decodeAll_inert l.after hafter]
  cases Node.decodeAll content <;> rfl

theorem around_decode {l : Layer} (h : l.Everywhere InertAttributes) (content : List Node) :
    (l.around content).decode = l.around <$> Node.decodeAll content :=
  around_decoded (decoded_inert h.1) h.2.1 h.2.2 content

/-- The text of a layer: its start tag, what stands before the content, the content, what
    stands after it, and its end tag. -/
theorem around_writes (l : Layer) (first last : String) {before content after : String}
    {ns : List Node}
    (hvoid : voidTags.contains l.tag = false)
    (hfirst : first.toList = writtenStart l.tag l.attributes)
    (hbefore : Writes before l.before) (hcontent : Writes content ns)
    (hafter : Writes after l.after) (hlast : last.toList = writtenEnd l.tag) :
    Writes (first ++ (before ++ (content ++ after)) ++ last) [l.around ns] :=
  writes_element l.tag first last l.attributes hvoid hfirst
    (hbefore.append (hcontent.append hafter)) hlast

end Layer

/-- The content in layers, the first one outermost. -/
def inLayers : List Layer → List Node → List Node
  | [], content => content
  | l :: ls, content => [l.around (inLayers ls content)]

section Layers

variable {layers : List Layer} {content : List Node}

theorem inLayers_append (ls ks : List Layer) (content : List Node) :
    inLayers (ls ++ ks) content = inLayers ls (inLayers ks content) := by
  induction ls with
  | nil => rfl
  | cons l ls ih => rw [List.cons_append, inLayers, ih, inLayers]

theorem hasSolidEnds_inLayers (hends : HasSolidEnds content) :
    HasSolidEnds (inLayers layers content) := by
  cases layers with
  | nil => exact hends
  | cons l ls => exact hasSolidEnds_single rfl

theorem tidyAll_inLayers (hlayers : ∀ l ∈ layers, l.IsTidy) (hcontent : Node.TidyAll content)
    (hends : HasSolidEnds content) : Node.TidyAll (inLayers layers content) := by
  induction layers with
  | nil => exact hcontent
  | cons l ls ih =>
      have hinner := ih fun k hk => hlayers k (List.mem_cons_of_mem l hk)
      have hself := Layer.around_tidy (hlayers l List.mem_cons_self) hinner
        (hasSolidEnds_inLayers hends)
      rw [inLayers, Node.TidyAll]
      exact ⟨hself, fun _ => rfl, trivial⟩

theorem everywhereAll_inLayers {P : String → List Attribute → Prop}
    (hlayers : ∀ l ∈ layers, l.Everywhere P) (hcontent : Node.EverywhereAll P content) :
    Node.EverywhereAll P (inLayers layers content) := by
  induction layers with
  | nil => exact hcontent
  | cons l ls ih =>
      exact ⟨Layer.around_everywhere (hlayers l List.mem_cons_self)
        (ih fun k hk => hlayers k (List.mem_cons_of_mem l hk)), trivial⟩

theorem decodeAll_inLayers (hlayers : ∀ l ∈ layers, l.Everywhere InertAttributes) :
    Node.decodeAll (inLayers layers content) = inLayers layers <$> Node.decodeAll content := by
  induction layers with
  | nil =>
      change Node.decodeAll content = id <$> Node.decodeAll content
      rw [id_map]
  | cons l ls ih =>
      rw [inLayers, Node.decodeAll, Layer.around_decode (hlayers l List.mem_cons_self),
        ih fun k hk => hlayers k (List.mem_cons_of_mem l hk)]
      cases Node.decodeAll content <;> rfl

variable {K : Type} [Scalar K] {config : Config K} {canvas : Int}

/-- A layer that is no positioned table and no link, and surrounds its content with no
    positioned tables. -/
structure Layer.IsStill (l : Layer) : Prop where
  still : l.Everywhere Document.IsStill
  noLink : Document.isLinkWrapper (.element l.tag l.attributes []) = false

/-- Layers add no fragments to those of the content. -/
theorem extractAll_inLayers (hlayers : ∀ l ∈ layers, l.IsStill) :
    Document.extractAll config canvas (inLayers layers content)
      = Document.extractAll config canvas content := by
  induction layers with
  | nil => rfl
  | cons l ls ih =>
      have hself := hlayers l List.mem_cons_self
      -- A list of one node is read as the node, and then nothing.
      have hsingle : ∀ x : Except NumeralError (List Fragment),
          (do let first ← x; return first ++ (← pure [])) = x := by
        intro x
        cases x with
        | error e => rfl
        | ok fs => exact congrArg Except.ok (List.append_nil fs)
      rw [inLayers, Document.extractAll, Document.extractAll, hsingle, Layer.around,
        Document.extractIn_element hself.still.1 hself.noLink, Document.extractAll_append,
        Document.extractAll_append, Document.extractAll_still hself.still.2.1,
        Document.extractAll_still hself.still.2.2,
        ih fun k hk => hlayers k (List.mem_cons_of_mem l hk)]
      cases Document.extractAll config canvas content with
      | error e => rfl
      | ok fs => exact congrArg Except.ok (List.append_nil fs)

end Layers

end Letterpress.Markup
