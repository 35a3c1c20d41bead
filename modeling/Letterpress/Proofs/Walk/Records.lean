import Letterpress.Proofs.Text.Numeral
import Letterpress.Proofs.Walk.Alike
import Letterpress.Proofs.Walk.Offset
import Letterpress.Walk.Record
import Mathlib.Data.List.Forall2

/-!
# Records of a Walk Agree

A walk keeps its pictures, links and animations in lists of their own, beside the
fragments that refer to them. Pictures are asked for at different moments, and any of
them may fail to be delivered. The lists agree all the same: whatever a fragment refers
to is there, whatever is there is referred to, and both come in the same order.

The pictures of a walk are named by their kind and a number. One count is kept for all
kinds, and it goes on whether or not the picture can be had, so numbers may be left out
but are never used twice. The number of a picture can be read off its name, so the names
differ as well.

What a run adds to each list is compared with the children that it has visited. One visit
adds what belongs to its child, in each list at most one entry, and runs add up.

## Main definitions

* `pictureName`: The name of the picture with a number.
* `Walk.IsNumbered`: The pictures of a walk have numbers of their own.
* `Fragment.Shows`: The fragment shows the picture at a path.
* `Walk.Adds`: What a run over children adds to the records.

## Theorems

* `pictureName_inj`: The kind and the number of a picture can be read off its name.
* `IsNumbered.addAsset`, `IsNumbered.addLink`: A new picture gets a number of its own.
* `IsNumbered.names_nodup`: No two pictures have the same name.
* `backgroundOf_records`: The picture of the background.
* `visit_adds`: What a visit adds.
* `Visits.adds`: What a run adds.
* `walk_records`: The records of a walk agree.
-/

namespace Letterpress

/-- The name of the picture with a number: its kind and the number. -/
def pictureName (kind : String) (number : Nat) : String :=
  kind ++ "-" ++ toString number ++ ".png"

theorem nextName_eq (w : Walk) (kind : String) :
    w.nextName kind = pictureName kind (w.named + 1) :=
  rfl

/-- A name from its end: after the extension come the digits of the number, up to a dash. -/
theorem reverse_pictureName (kind : String) (k : Nat) :
    (pictureName kind k).toList.reverse
      = "gnp.".toList ++ ((Nat.toDigits 10 k).reverse ++ '-' :: kind.toList.reverse) := by
  have hdigits : (toString k).toList = Nat.toDigits 10 k := by
    simp [toString, Nat.repr]
  rw [pictureName]
  simp only [String.toList_append, List.reverse_append, hdigits]
  rfl

/-- The kind and the number of a picture can be read off its name. -/
theorem pictureName_inj {kind kind' : String} {k k' : Nat}
    (h : pictureName kind k = pictureName kind' k') : kind = kind' ∧ k = k' := by
  have hends : (Nat.toDigits 10 k).reverse ++ '-' :: kind.toList.reverse
      = (Nat.toDigits 10 k').reverse ++ '-' :: kind'.toList.reverse := by
    have hreversed := congrArg (fun name : String => name.toList.reverse) h
    simp only [reverse_pictureName] at hreversed
    exact List.append_cancel_left hreversed
  -- No digit is a dash, so the digits are all that stands before the first dash.
  have hfront : ∀ (n : Nat) (rest : List Char),
      ((Nat.toDigits 10 n).reverse ++ '-' :: rest).takeWhile (· ≠ '-')
        = (Nat.toDigits 10 n).reverse := by
    intro n rest
    rw [List.takeWhile_append_of_pos, List.takeWhile_cons_of_neg (by simp), List.append_nil]
    intro c hc
    have hdigit := isDigit_of_mem_digits (List.mem_reverse.mp hc)
    rw [decide_eq_true_eq]
    rintro rfl
    exact absurd hdigit (by decide)
  have hdigits : (Nat.toDigits 10 k).reverse = (Nat.toDigits 10 k').reverse := by
    rw [← hfront k kind.toList.reverse, hends, hfront]
  rw [hdigits] at hends
  constructor
  · have hkinds := List.tail_eq_of_cons_eq (List.append_cancel_left hends)
    exact String.toList_inj.mp (List.reverse_injective hkinds)
  · rw [← numeralValue_toDigits k, List.reverse_injective hdigits, numeralValue_toDigits]

/-- Every member of a list has its counterpart. -/
theorem forall₂_mem {α β : Type} {R : α → β → Prop} {as : List α} {bs : List β}
    (h : List.Forall₂ R as bs) {a : α} (ha : a ∈ as) : ∃ b ∈ bs, R a b := by
  induction h with
  | nil => exact absurd ha List.not_mem_nil
  | @cons a' b as bs hfirst hrest ih =>
      rcases List.mem_cons.mp ha with rfl | ha
      · exact ⟨b, List.mem_cons_self, hfirst⟩
      · rcases ih ha with ⟨b', hb', hrelated⟩
        exact ⟨b', List.mem_cons_of_mem b hb', hrelated⟩

namespace Walk

/-- The pictures of a walk have numbers of their own, which rise along both lists and have
    all been given. -/
structure IsNumbered (w : Walk) (assetNumbers previewNumbers : List Nat) : Prop where
  assets : List.Forall₂ (fun (a : Asset) k =>
    a.name = pictureName "bg-image" k ∨ a.name = pictureName "image" k) w.assets assetNumbers
  previews : List.Forall₂ (fun (a : Asset) k => a.name = pictureName "link-preview" k)
    w.previews previewNumbers
  rising : assetNumbers.Pairwise (· < ·) ∧ previewNumbers.Pairwise (· < ·)
  apart : ∀ k ∈ assetNumbers, k ∉ previewNumbers
  given : ∀ k ∈ assetNumbers ++ previewNumbers, 1 ≤ k ∧ k ≤ w.named

variable {w w' : Walk} {ks ls : List Nat}

/-- A walk without pictures. -/
theorem isNumbered_nil (hassets : w.assets = []) (hpreviews : w.previews = []) :
    w.IsNumbered [] [] where
  assets := by rw [hassets]; exact .nil
  previews := by rw [hpreviews]; exact .nil
  rising := ⟨.nil, .nil⟩
  apart := by simp
  given := by simp

/-- A number may be given to nothing. -/
theorem IsNumbered.mono (h : w.IsNumbered ks ls) (hassets : w'.assets = w.assets)
    (hpreviews : w'.previews = w.previews) (hnamed : w.named ≤ w'.named) :
    w'.IsNumbered ks ls where
  assets := hassets ▸ h.assets
  previews := hpreviews ▸ h.previews
  rising := h.rising
  apart := h.apart
  given k hk := ⟨(h.given k hk).1, le_trans (h.given k hk).2 hnamed⟩

/-- A rising list with a number above all of its own. -/
theorem pairwise_lt_concat {ks : List Nat} {n : Nat} (h : ks.Pairwise (· < ·))
    (hn : ∀ k ∈ ks, k < n) : (ks ++ [n]).Pairwise (· < ·) := by
  rw [List.pairwise_append]
  refine ⟨h, List.pairwise_singleton _ n, fun k hk m hm => ?_⟩
  rw [List.mem_singleton.mp hm]
  exact hn k hk

/-- After one more number has been given, all numbers in use are still given ones. -/
theorem IsNumbered.given_next (h : w.IsNumbered ks ls) {k : Nat}
    (hk : k ≠ w.named + 1 → k ∈ ks ++ ls) : 1 ≤ k ∧ k ≤ w.named + 1 := by
  by_cases hlast : k = w.named + 1
  · omega
  · have hgiven := h.given k (hk hlast)
    omega

/-- A picture that stands for a node or a background gets the next number. -/
theorem IsNumbered.addAsset (h : w.IsNumbered ks ls) {kind : String}
    (hkind : kind = "bg-image" ∨ kind = "image") (data : Content) :
    (w.countName.addAsset ⟨w.nextName kind, data⟩).IsNumbered (ks ++ [w.named + 1]) ls where
  assets := by
    refine List.rel_append h.assets (.cons ?_ .nil)
    rcases hkind with rfl | rfl
    · exact Or.inl rfl
    · exact Or.inr rfl
  previews := h.previews
  rising := by
    refine ⟨pairwise_lt_concat h.rising.1 fun k hk => ?_, h.rising.2⟩
    have hgiven := (h.given k (List.mem_append_left ls hk)).2
    omega
  apart k hk := by
    rcases List.mem_append.mp hk with hold | hnew
    · exact h.apart k hold
    -- A number that was given before is at most the last one.
    · intro hmem
      have hgiven := (h.given k (List.mem_append_right ks hmem)).2
      have hlast := List.mem_singleton.mp hnew
      omega
  given k hk := h.given_next fun hlast => by simpa [hlast] using hk

/-- So does a picture that previews a link. -/
theorem IsNumbered.addLink (h : w.IsNumbered ks ls) (link : LinkPlaceholder) (data : Content) :
    (w.countName.addLink link ⟨w.nextName "link-preview", data⟩).IsNumbered ks
      (ls ++ [w.named + 1]) where
  assets := h.assets
  previews := List.rel_append h.previews (.cons rfl .nil)
  rising := by
    refine ⟨h.rising.1, pairwise_lt_concat h.rising.2 fun k hk => ?_⟩
    have hgiven := (h.given k (List.mem_append_right ks hk)).2
    omega
  apart k hk hmem := by
    rcases List.mem_append.mp hmem with hold | hnew
    · exact h.apart k hk hold
    · have hgiven := (h.given k (List.mem_append_left ls hk)).2
      have hlast := List.mem_singleton.mp hnew
      omega
  given k hk := h.given_next fun hlast => by simpa [hlast] using hk

/-- Names that belong to different numbers differ. -/
theorem nodup_names {as : List Asset} {ks : List Nat}
    (h : List.Forall₂ (fun (a : Asset) k => ∃ kind, a.name = pictureName kind k) as ks)
    (hks : ks.Nodup) : (as.map Asset.name).Nodup := by
  induction h with
  | nil => exact List.nodup_nil
  | @cons a k as ks hname hrest ih =>
      rw [List.nodup_cons] at hks
      rw [List.map_cons, List.nodup_cons]
      refine ⟨fun hmem => hks.1 ?_, ih hks.2⟩
      -- A picture of the same name would have the same number.
      rcases List.mem_map.mp hmem with ⟨b, hb, hsame⟩
      rcases hname with ⟨kind, hname⟩
      rcases forall₂_mem hrest hb with ⟨k', hk', kind', hname'⟩
      rw [hname, hname'] at hsame
      rw [← (pictureName_inj hsame).2]
      exact hk'

/-- No two pictures of a walk have the same name. -/
theorem IsNumbered.names_nodup (h : w.IsNumbered ks ls) :
    ((w.assets ++ w.previews).map Asset.name).Nodup := by
  have hassets : List.Forall₂ (fun (a : Asset) k => ∃ kind, a.name = pictureName kind k)
      w.assets ks := by
    refine h.assets.imp fun a k hname => ?_
    rcases hname with hname | hname
    · exact ⟨_, hname⟩
    · exact ⟨_, hname⟩
  have hpreviews : List.Forall₂ (fun (a : Asset) k => ∃ kind, a.name = pictureName kind k)
      w.previews ls := h.previews.imp fun a k hname => ⟨_, hname⟩
  refine nodup_names (List.rel_append hassets hpreviews) ?_
  rw [List.nodup_append]
  refine ⟨h.rising.1.imp Nat.ne_of_lt, h.rising.2.imp Nat.ne_of_lt, ?_⟩
  rintro k hk l hl rfl
  exact h.apart k hk hl

end Walk

end Letterpress

namespace Letterpress

/-- The fragment shows the picture at a path, in its own size. -/
def Fragment.Shows (f : Fragment) (path : String) : Prop :=
  ∃ before after, f.markup = before ++ Render.imageTag path f.width f.height ++ after

variable {K ω : Type} [Scalar K] {host : Host ω K} {config : Config K} {p : Placed K} {y : K}
  {w w₁ w₂ w' : Walk} {made : Option Fragment} {s s₁ s' : Session ω K}
  {steps rest : List (Placed K × Option Fragment)}

section Fragments

theorem placedFragment_plain {x y width height : K} {rows : String} {f : Fragment}
    (h : Render.placedFragment x y width height rows = .ok f) : f.linkWrapped = false := by
  simp only [Render.placedFragment, except_bind_ok, except_pure_ok] at h
  rcases h with ⟨_, -, _, -, _, -, _, -, _, -, rfl⟩
  rfl

/-- The fragment of a picture shows it. -/
theorem image_shows {source : String} {x y width height : K} {f : Fragment}
    (h : Render.image source x y width height = .ok f) :
    f.Shows source ∧ f.linkWrapped = false := by
  simp only [Render.image, except_bind_ok] at h
  rcases h with ⟨w, hw, ht, hht, h⟩
  refine ⟨?_, placedFragment_plain h⟩
  simp only [Render.placedFragment, Render.placedTable, except_bind_ok, except_pure_ok] at h
  rcases h with ⟨_, ⟨style, -, rfl⟩, _, -, _, -, w', hw', ht', hht', rfl⟩
  obtain rfl : w' = w := Except.ok.inj (hw'.symm.trans hw)
  obtain rfl : ht' = ht := Except.ok.inj (hht'.symm.trans hht)
  refine ⟨Document.presentationTable ++ " style=\"" ++ style.css ++ "\">" ++ "<tr><td>",
    "</td></tr>" ++ "</table>", ?_⟩
  simp only [Render.styledTable, String.append_assoc]

theorem shape_plain {node : Node K} {x : K} (h : Render.shape node x y = .ok made) :
    ∀ f ∈ made, f.linkWrapped = false := by
  rw [Render.shape] at h
  split at h
  · rw [except_pure_ok] at h
    simp [← h]
  · simp only [except_bind_ok, except_pure_ok, number_ok] at h
    rcases h with ⟨_, -, f, hplaced, rfl⟩
    intro g hg
    rw [← Option.some.inj hg]
    exact placedFragment_plain hplaced

theorem text_plain {node : Node K} {x : K}
    (h : Render.text host config node x y s = (.ok made, s')) :
    ∀ f ∈ made, f.linkWrapped = false := by
  cases hbounds : node.bounds with
  | none =>
      simp only [Render.text, hbounds, Task.pure_ok] at h
      simp [← h.1]
  | some box =>
      simp only [Render.text, hbounds, Task.bind_ok, Task.lift_ok, Task.number_ok,
        Task.pure_ok] at h
      rcases h with ⟨_, _, -, _, _, -, _, _, -, f, _, ⟨hplaced, -⟩, rfl, -⟩
      intro g hg
      rw [← Option.some.inj hg]
      exact placedFragment_plain hplaced

theorem linkMarkup_around (id before tag after : String) :
    linkMarkup id (before ++ tag ++ after)
      = ("<div data-link-placeholder-id=\"" ++ id ++ "\">" ++ before) ++ tag
        ++ (after ++ "</div>") := by
  unfold linkMarkup
  simp only [String.append_assoc]

/-- The fragment inside of a link shows what it showed before. -/
theorem Fragment.Shows.linked {f : Fragment} {path : String} (h : f.Shows path) (id : String) :
    Fragment.Shows { f with markup := linkMarkup id f.markup, linkWrapped := true } path := by
  rcases h with ⟨before, after, hmarkup⟩
  exact ⟨_, _, (congrArg (linkMarkup id) hmarkup).trans (linkMarkup_around id before _ after)⟩

end Fragments

/-- The visit showed the child as a picture. -/
def isPictureStep (step : Placed K × Option Fragment) : Bool :=
  step.1.node.manner = .picture && step.2.isSome

/-- The visit showed the child as an animation. -/
def isGifStep (step : Placed K × Option Fragment) : Bool :=
  match step.1.node.manner with
  | .gif _ => true
  | _ => false

/-- The asset is the picture that the visit shows. -/
def IsPictureOf (config : Config K) (asset : Asset) (step : Placed K × Option Fragment) : Prop :=
  ∃ k f, asset.name = pictureName "image" k ∧ step.2 = some f ∧
    f.Shows (config.assetPath asset.name)

/-- The animation is the one that the visit shows. -/
def IsGifOf (config : Config K) (gif : GifPlaceholder) (step : Placed K × Option Fragment) :
    Prop :=
  step.1.node.manner = .gif gif.id ∧ ∃ f, step.2 = some f ∧
    f.Shows (config.assetPath (gif.id ++ ".gif"))

/-- The fragment stands inside of the link. -/
def IsInLink (link : LinkPlaceholder) (f : Fragment) : Prop :=
  ∃ inner, f.markup = linkMarkup link.id inner

/-- What a run over children adds to the records: a picture for each child that is shown as
    one, a link and its preview for each fragment inside of a link, and an animation for
    each child that is one. -/
structure Walk.Adds (config : Config K) (steps : List (Placed K × Option Fragment))
    (w w' : Walk) : Prop where
  background : w'.background = w.background
  numbers : ∀ ks ls, w.IsNumbered ks ls → ∃ ks' ls', w'.IsNumbered ks' ls'
  pictures : ∃ pictures, w'.assets = w.assets ++ pictures ∧
    List.Forall₂ (IsPictureOf config) pictures (steps.filter isPictureStep)
  links : ∃ links previews, w'.links = w.links ++ links ∧ w'.previews = w.previews ++ previews ∧
    links.map LinkPlaceholder.previewAssetName = previews.map Asset.name ∧
    List.Forall₂ IsInLink links ((steps.filterMap Prod.snd).filter Fragment.linkWrapped)
  gifs : ∃ gifs, w'.gifs = w.gifs ++ gifs ∧
    List.Forall₂ (IsGifOf config) gifs (steps.filter isGifStep)

namespace Walk.Adds

/-- No visits add nothing. -/
theorem nil (config : Config K) (w : Walk) : Adds config [] w w where
  background := rfl
  numbers ks ls h := ⟨ks, ls, h⟩
  pictures := ⟨[], by simp, .nil⟩
  links := ⟨[], [], by simp, by simp, rfl, .nil⟩
  gifs := ⟨[], by simp, .nil⟩

/-- What runs add is added up. -/
theorem append (h : Adds config steps w w₁) (hrest : Adds config rest w₁ w₂) :
    Adds config (steps ++ rest) w w₂ where
  background := hrest.background.trans h.background
  numbers ks ls hw := by
    rcases h.numbers ks ls hw with ⟨ks₁, ls₁, hw₁⟩
    exact hrest.numbers ks₁ ls₁ hw₁
  pictures := by
    rcases h.pictures with ⟨first, hfirst, hshown⟩
    rcases hrest.pictures with ⟨later, hlater, hshown'⟩
    refine ⟨first ++ later, by rw [hlater, hfirst, List.append_assoc], ?_⟩
    rw [List.filter_append]
    exact List.rel_append hshown hshown'
  links := by
    rcases h.links with ⟨first, previews, hfirst, hpreviews, hnames, hin⟩
    rcases hrest.links with ⟨later, previews', hlater, hpreviews', hnames', hin'⟩
    refine ⟨first ++ later, previews ++ previews', by rw [hlater, hfirst, List.append_assoc],
      by rw [hpreviews', hpreviews, List.append_assoc], ?_, ?_⟩
    · rw [List.map_append, List.map_append, hnames, hnames']
    · rw [List.filterMap_append, List.filter_append]
      exact List.rel_append hin hin'
  gifs := by
    rcases h.gifs with ⟨first, hfirst, hshown⟩
    rcases hrest.gifs with ⟨later, hlater, hshown'⟩
    refine ⟨first ++ later, by rw [hlater, hfirst, List.append_assoc], ?_⟩
    rw [List.filter_append]
    exact List.rel_append hshown hshown'

/-- The fragments are kept apart from the records. -/
theorem addFragment (h : Adds config steps w w₁) (shown : Option Fragment) :
    Adds config steps w (w₁.addFragment shown) where
  background := h.background
  numbers ks ls hw := by
    rcases h.numbers ks ls hw with ⟨ks₁, ls₁, hw₁⟩
    exact ⟨ks₁, ls₁, hw₁.mono rfl rfl le_rfl⟩
  pictures := h.pictures
  links := h.links
  gifs := h.gifs

end Walk.Adds

section Visiting

/-- A child that is no animation, and of which no picture has been taken, adds nothing. -/
theorem adds_none (offset : Int) (hpicture : isPictureStep (p, made) = false)
    (hgif : isGifStep (p, made) = false) (hplain : ∀ f ∈ made, f.linkWrapped = false) :
    Walk.Adds config [(p, made)] w { w with offset } where
  background := rfl
  numbers ks ls h := ⟨ks, ls, h.mono rfl rfl le_rfl⟩
  pictures := ⟨[], by simp, by simp [hpicture]⟩
  links := by
    refine ⟨[], [], by simp, by simp, rfl, ?_⟩
    cases made with
    | none => simp
    | some f => simp [hplain f rfl]
  gifs := ⟨[], by simp, by simp [hgif]⟩

/-- A child that is shown as a picture adds it, and no more. -/
theorem visitUnlinked_adds (h : visitUnlinked host config p y w s = (.ok (made, w₁), s₁)) :
    Walk.Adds config [(p, made)] w w₁ ∧ ∀ f ∈ made, f.linkWrapped = false := by
  cases hshown : p.node.manner with
  | table =>
      rw [visitUnlinked_manner, hshown] at h
      simp only [visitTable, Task.bind_ok, Task.number_ok] at h
      rcases h with ⟨table, _, -, d, _, -, h⟩
      cases table with
      | none =>
          simp only [Task.pure_ok, Prod.mk.injEq] at h
          rcases h with ⟨⟨rfl, rfl⟩, -⟩
          exact ⟨adds_none _ (by simp [isPictureStep]) (by simp [isGifStep, hshown]) (by simp),
            by simp⟩
      | some table =>
          simp only [Task.bind_ok, Task.number_ok, Task.pure_ok, Prod.mk.injEq] at h
          rcases h with ⟨_, _, -, _, _, -, _, _, -, ⟨rfl, rfl⟩, -⟩
          exact ⟨adds_none _ (by simp [isPictureStep, hshown]) (by simp [isGifStep, hshown])
            (by simp), by simp⟩
  | gif id =>
      rcases visitUnlinked_gif hshown h with ⟨f, rfl, rfl, himage⟩
      rcases image_shows himage with ⟨hshows, hplain⟩
      refine ⟨⟨rfl, fun ks ls hw => ⟨ks, ls, hw.mono rfl rfl le_rfl⟩, ?_, ?_, ?_⟩, ?_⟩
      · exact ⟨[], by simp [Walk.addGif], by simp [isPictureStep, hshown]⟩
      · exact ⟨[], [], by simp [Walk.addGif], by simp [Walk.addGif], rfl, by simp [hplain]⟩
      · refine ⟨[⟨id⟩], rfl, ?_⟩
        rw [List.filter_cons_of_pos (by simp [isGifStep, hshown]), List.filter_nil]
        exact .cons ⟨hshown, f, rfl, hshows⟩ .nil
      · intro g hg
        rw [← Option.some.inj hg]
        exact hplain
  | text =>
      simp only [visitUnlinked_manner, hshown, Task.bind_ok, Task.pure_ok, Prod.mk.injEq] at h
      rcases h with ⟨_, _, htext, ⟨rfl, rfl⟩, -⟩
      exact ⟨adds_none _ (by simp [isPictureStep, hshown]) (by simp [isGifStep, hshown])
        (text_plain htext), text_plain htext⟩
  | shape =>
      simp only [visitUnlinked_manner, hshown, Task.bind_ok, Task.lift_ok, Task.pure_ok,
        Prod.mk.injEq] at h
      rcases h with ⟨_, _, ⟨hshape, -⟩, ⟨rfl, rfl⟩, -⟩
      exact ⟨adds_none _ (by simp [isPictureStep, hshown]) (by simp [isGifStep, hshown])
        (shape_plain hshape), shape_plain hshape⟩
  | picture =>
      rcases visitUnlinked_picture hshown h with
        ⟨_, -, rfl, rfl⟩ | ⟨data, f, -, himage, rfl, rfl⟩
      -- A name has been given even if there is no picture to go by it.
      · refine ⟨⟨rfl, fun ks ls hw => ⟨ks, ls, hw.mono rfl rfl (Nat.le_succ _)⟩, ?_, ?_, ?_⟩,
          by simp⟩
        · exact ⟨[], by simp [Walk.countName], by simp [isPictureStep]⟩
        · exact ⟨[], [], by simp [Walk.countName], by simp [Walk.countName], rfl, by simp⟩
        · exact ⟨[], by simp [Walk.countName], by simp [isGifStep, hshown]⟩
      · rcases image_shows himage with ⟨hshows, hplain⟩
        refine ⟨⟨rfl, fun ks ls hw => ⟨_, ls, hw.addAsset (Or.inr rfl) data⟩, ?_, ?_, ?_⟩, ?_⟩
        · refine ⟨[⟨w.nextName "image", data⟩], rfl, ?_⟩
          rw [List.filter_cons_of_pos (by simp [isPictureStep, hshown]), List.filter_nil]
          exact .cons ⟨w.named + 1, f, nextName_eq w "image", rfl, hshows⟩ .nil
        · exact ⟨[], [], by simp [Walk.countName, Walk.addAsset],
            by simp [Walk.countName, Walk.addAsset], rfl, by simp [hplain]⟩
        · exact ⟨[], by simp [Walk.countName, Walk.addAsset], by simp [isGifStep, hshown]⟩
        · intro g hg
          rw [← Option.some.inj hg]
          exact hplain

omit [Scalar K] in
/-- Entries that belong to one visit belong to another of the same kind. -/
theorem forall₂_filter_single {α : Type} {R : α → Placed K × Option Fragment → Prop}
    {q : Placed K × Option Fragment → Bool} {a b : Placed K × Option Fragment}
    {xs : List α} (h : List.Forall₂ R xs ([a].filter q)) (hq : q b = q a)
    (hR : ∀ x, R x a → R x b) : List.Forall₂ R xs ([b].filter q) := by
  by_cases ha : q a = true
  · rw [List.filter_cons_of_pos ha] at h
    rw [List.filter_cons_of_pos (hq.trans ha)]
    rcases h with _ | ⟨hfirst, hnil⟩
    exact .cons (hR _ hfirst) hnil
  · rw [List.filter_cons_of_neg ha] at h
    rw [List.filter_cons_of_neg (hq ▸ ha)]
    exact h

/-- A link adds itself and its preview, or nothing if there is no preview. Whatever the
    fragment shows, it shows inside of the link. -/
theorem visitLink_adds {target : String} {fragment wrapped : Fragment}
    (hadds : Walk.Adds config [(p, some fragment)] w w₁) (hplain : fragment.linkWrapped = false)
    (h : visitLink host config p.node target fragment w₁ s = (.ok (wrapped, w₂), s')) :
    Walk.Adds config [(p, some wrapped)] w w₂ := by
  -- Without a preview a name is used up, and nothing else happens.
  rcases visitLink_cases h with ⟨rfl, rfl⟩ | ⟨data, rfl, rfl⟩
  · refine ⟨hadds.background, fun ks ls hw => ?_, hadds.pictures, hadds.links, hadds.gifs⟩
    rcases hadds.numbers ks ls hw with ⟨ks', ls', hw₁⟩
    exact ⟨ks', ls', hw₁.mono rfl rfl (Nat.le_succ _)⟩
  · refine ⟨hadds.background, fun ks ls hw => ?_, ?_, ?_, ?_⟩
    · rcases hadds.numbers ks ls hw with ⟨ks', ls', hw₁⟩
      exact ⟨ks', _, hw₁.addLink _ data⟩
    · rcases hadds.pictures with ⟨pictures, hpictures, hshown⟩
      refine ⟨pictures, hpictures, forall₂_filter_single hshown rfl ?_⟩
      rintro a ⟨k, f, hname, hf, hshows⟩
      obtain rfl : fragment = f := Option.some.inj hf
      exact ⟨k, _, hname, rfl, hshows.linked p.node.id⟩
    · rcases hadds.links with ⟨links, previews, hlinks, hpreviews, hnames, hin⟩
      -- The fragment was in no link before, so the records of links held nothing for it.
      have hnone : links = [] := by simpa [hplain] using hin
      subst hnone
      refine ⟨_, previews ++ _, congrArg (· ++ _) (hlinks.trans (List.append_nil _)),
        by rw [← List.append_assoc, ← hpreviews]; rfl, ?_, .cons ⟨_, rfl⟩ .nil⟩
      rw [List.map_append, ← hnames]
      rfl
    · rcases hadds.gifs with ⟨gifs, hgifs, hshown⟩
      refine ⟨gifs, hgifs, forall₂_filter_single hshown rfl ?_⟩
      rintro gif ⟨hmanner, f, hf, hshows⟩
      obtain rfl : fragment = f := Option.some.inj hf
      exact ⟨hmanner, _, rfl, hshows.linked p.node.id⟩

/-- What a visit adds to the records belongs to its child. -/
theorem visit_adds (h : visit host config p w s = (.ok w', s'))
    (hmade : w'.fragments = w.fragments ++ made.toList) :
    Walk.Adds config [(p, made)] w w' := by
  rcases visit_made h hmade with ⟨shift, own, w₁, s₁, -, hown, hlink⟩
  rcases visitUnlinked_adds hown with ⟨hadds, hplain⟩
  rcases hlink with ⟨rfl, rfl, -⟩ | ⟨fragment, target, wrapped, w₂, rfl, -, hwrapped, rfl, rfl⟩
  · exact hadds.addFragment made
  · exact (visitLink_adds hadds (hplain fragment rfl) hwrapped).addFragment (some wrapped)

/-- What a run adds to the records belongs to the children that it has visited. -/
theorem Visits.adds (h : Visits host config steps w s w' s') : Walk.Adds config steps w w' := by
  induction h with
  | nil w s => exact .nil config w
  | @cons p made rest w w₁ w' s s₁ s' hvisit hmade hrest ih =>
      exact (visit_adds hvisit hmade).append ih

/-- A frame has a picture in its background if and only if that picture is the first asset
    of its walk. -/
theorem backgroundOf_records {frame : Node K}
    (h : backgroundOf host config frame {} s = (.ok w, s')) :
    w.previews = [] ∧ w.links = [] ∧ w.gifs = [] ∧ (∃ ks ls, w.IsNumbered ks ls) ∧
      ∃ sheet : Option Asset, w.assets = sheet.toList ∧
        (∀ a ∈ sheet, a.name = pictureName "bg-image" 1) ∧
        ∀ path, w.background = .image path ↔ ∃ a ∈ sheet, path = config.assetPath a.name := by
  have hnone : ∀ named, (⟨[], .none, [], [], [], [], 0, named⟩ : Walk).IsNumbered [] [] :=
    fun _ => Walk.isNumbered_nil rfl rfl
  rw [backgroundOf] at h
  -- Only a picture that the host delivers is recorded. All other cases leave at most a counted
  -- name.
  cases hfill : frame.firstFill with
  | none =>
      simp only [hfill, Task.pure_ok] at h
      rcases h with ⟨rfl, -⟩
      exact ⟨rfl, rfl, rfl, ⟨[], [], hnone 0⟩, none, rfl, by simp, by simp⟩
  | some paint =>
      cases paint with
      | solid color opacity =>
          simp only [hfill, Task.bind_ok, Task.number_ok, Task.pure_ok] at h
          rcases h with ⟨hex, _, -, rfl, -⟩
          exact ⟨rfl, rfl, rfl, ⟨[], [], Walk.isNumbered_nil rfl rfl⟩, none, rfl, by simp, by simp⟩
      | image ref opacity =>
          simp only [hfill, Task.bind_ok, Task.attempt_ok] at h
          rcases h with ⟨answer, _, -, h⟩
          rcases answer with fault | _ | data
          · simp only [Task.bind_ok, Task.pure_ok] at h
            rcases h with ⟨_, _, -, rfl, -⟩
            exact ⟨rfl, rfl, rfl, ⟨[], [], hnone 1⟩, none, rfl, by simp, by simp [Walk.countName]⟩
          · simp only [Task.bind_ok, Task.pure_ok] at h
            rcases h with ⟨_, _, -, rfl, -⟩
            exact ⟨rfl, rfl, rfl, ⟨[], [], hnone 1⟩, none, rfl, by simp, by simp [Walk.countName]⟩
          · simp only [Task.pure_ok] at h
            rcases h with ⟨rfl, -⟩
            have hfirst := (hnone 0).addAsset (Or.inl rfl) data
            refine ⟨rfl, rfl, rfl, ⟨_, _, hfirst.mono rfl rfl le_rfl⟩, some _, rfl, ?_, ?_⟩
            · intro a ha
              rw [← Option.some.inj ha]
              rfl
            · intro path
              simp [eq_comm]

end Visiting

/-- The pictures of a walk have numbers of their own. -/
theorem walk_numbered {root : Node K} {frame : Rect K} (hbounds : root.bounds = some frame)
    (h : walk host config root s = (.ok w, s')) : ∃ ks ls, w.IsNumbered ks ls := by
  rcases walk_visits hbounds h with ⟨nodes, steps, before, s₀, -, -, hbefore, hvisits⟩
  rcases backgroundOf_records hbefore with ⟨-, -, -, ⟨ks, ls, hnumbered⟩, -⟩
  exact hvisits.adds.numbers ks ls hnumbered

/-- The records of a walk agree with each other and with its fragments, whatever its host
    fails to deliver. All pictures have numbers and names of their own. The background is a
    picture exactly if there is one for it, and then it is that one. Every link has its
    preview and its fragment, every picture of a child and every animation has its fragment,
    and the other way round, all in the order of the walk. -/
theorem walk_records {root : Node K} {frame : Rect K} (hbounds : root.bounds = some frame)
    (h : walk host config root s = (.ok w, s')) :
    ∃ (nodes : List (Node K)) (steps : List (Placed K × Option Fragment))
      (sheet : Option Asset) (pictures : List Asset) (assetNumbers previewNumbers : List Nat),
      root.childList = .ok nodes ∧
      steps.map Prod.fst
        = (placedChildren frame nodes).filter (fun p => !p.isElided config frame) ∧
      w.fragments = steps.filterMap Prod.snd ∧
      -- The names.
      w.IsNumbered assetNumbers previewNumbers ∧
      ((w.assets ++ w.previews).map Asset.name).Nodup ∧
      -- The background.
      w.assets = sheet.toList ++ pictures ∧
      (∀ a ∈ sheet, a.name = pictureName "bg-image" 1) ∧
      (∀ path, w.background = .image path ↔
        ∃ a ∈ w.assets, (∃ k, a.name = pictureName "bg-image" k) ∧
          path = config.assetPath a.name) ∧
      -- The links.
      w.links.map LinkPlaceholder.previewAssetName = w.previews.map Asset.name ∧
      List.Forall₂ IsInLink w.links (w.fragments.filter Fragment.linkWrapped) ∧
      -- The pictures of children, and the animations.
      List.Forall₂ (IsPictureOf config) pictures (steps.filter isPictureStep) ∧
      List.Forall₂ (IsGifOf config) w.gifs (steps.filter isGifStep) := by
  rcases walk_visits hbounds h with ⟨nodes, steps, before, s₀, hnodes, hsteps, hbefore, hvisits⟩
  rcases backgroundOf_records hbefore with
    ⟨hpreviews, hlinks, hgifs, ⟨ks, ls, hnumbered⟩, sheet, hsheet, hname, hpath⟩
  have hadds := hvisits.adds
  have hfragments : w.fragments = steps.filterMap Prod.snd := by
    rw [hvisits.fragments, (backgroundOf_step hbefore).1]
    rfl
  rcases hadds.numbers ks ls hnumbered with ⟨ks', ls', hnumbered'⟩
  rcases hadds.pictures with ⟨pictures, hpictures, hshown⟩
  rcases hadds.links with ⟨links, previews, hlinks', hpreviews', hnames, hin⟩
  rcases hadds.gifs with ⟨gifs, hgifs', hgifs''⟩
  rw [hsheet] at hpictures
  rw [hlinks, List.nil_append] at hlinks'
  rw [hpreviews, List.nil_append] at hpreviews'
  rw [hgifs, List.nil_append] at hgifs'
  refine ⟨nodes, steps, sheet, pictures, ks', ls', hnodes, hsteps, hfragments, hnumbered',
    hnumbered'.names_nodup, hpictures, hname, fun path => ?_, ?_, ?_, hshown, ?_⟩
  · -- The picture of a child is never taken for that of the background.
    rw [hadds.background, hpath]
    constructor
    · rintro ⟨a, ha, hat⟩
      refine ⟨a, ?_, ⟨1, hname a ha⟩, hat⟩
      rw [hpictures, List.mem_append, Option.mem_toList]
      exact Or.inl ha
    · rintro ⟨a, ha, ⟨k, hk⟩, hat⟩
      rw [hpictures, List.mem_append, Option.mem_toList] at ha
      rcases ha with ha | ha
      · exact ⟨a, ha, hat⟩
      · rcases forall₂_mem hshown ha with ⟨step, -, k', f, hk', -, -⟩
        exact absurd (pictureName_inj (hk.symm.trans hk')).1 (by decide)
  · rw [hlinks', hpreviews']
    exact hnames
  · rw [hlinks', hfragments]
    exact hin
  · rw [hgifs']
    exact hgifs''

/-- A frame with a picture in its background, a photo that is a link, and an animation. -/
def postcard : Node Rat :=
  .container ⟨"0", "Card", true, some ⟨0, 0, 100, 80⟩, [.image "paper" 1]⟩ .frame
    [.image ⟨"1", "[link] a", true, some ⟨0, 0, 100, 60⟩, []⟩ "IMAGE",
      .image ⟨"2", "[gif] wave", true, some ⟨0, 60, 100, 20⟩, []⟩ "IMAGE"]

/-- The background, the photo and the preview of its link are numbered one after another,
    and every record has its fragment. -/
theorem walk_records_postcard :
    ∃ (w : Walk) (s : Session Unit Rat),
      walk fontlessHost {} postcard ⟨(), [], []⟩ = (.ok w, s) ∧
      w.assets.map Asset.name = ["bg-image-1.png", "image-2.png"] ∧
      w.previews.map Asset.name = ["link-preview-3.png"] ∧
      w.gifs = [⟨"wave"⟩] ∧
      ((w.assets ++ w.previews).map Asset.name).Nodup ∧
      w.background = .image "./images/bg-image-1.png" ∧
      w.links.map LinkPlaceholder.previewAssetName = w.previews.map Asset.name ∧
      List.Forall₂ IsInLink w.links (w.fragments.filter Fragment.linkWrapped) := by
  have hnames : (walk fontlessHost {} postcard ⟨(), [], []⟩).1.toOption.map
      (fun w => (w.assets.map Asset.name, w.previews.map Asset.name, w.gifs))
        = some (["bg-image-1.png", "image-2.png"], ["link-preview-3.png"], [⟨"wave"⟩]) := by
    decide +kernel
  rcases hrun : walk fontlessHost {} postcard ⟨(), [], []⟩ with ⟨result, s⟩
  rw [hrun] at hnames
  cases result with
  | error fault => exact absurd hnames (by simp [Except.toOption])
  | ok w =>
      simp only [Except.toOption, Option.map_some, Option.some.injEq, Prod.mk.injEq] at hnames
      rcases hnames with ⟨hassets, hpreviews, hgifs⟩
      rcases walk_records (show postcard.bounds = some ⟨0, 0, 100, 80⟩ from rfl) hrun with
        ⟨nodes, steps, sheet, pictures, ks, ls, -, -, -, -, hnodup, -, -, hbackground, hlinks, hin,
          -, -⟩
      refine ⟨w, s, rfl, hassets, hpreviews, hgifs, hnodup, ?_, hlinks, hin⟩
      have hfirst : "bg-image-1.png" ∈ w.assets.map Asset.name := by
        rw [hassets]
        exact List.mem_cons_self
      rcases List.mem_map.mp hfirst with ⟨sheet, hmem, hname⟩
      refine (hbackground _).mpr ⟨sheet, hmem, ⟨1, by rw [hname]; decide +kernel⟩, ?_⟩
      rw [hname]
      decide +kernel

end Letterpress
