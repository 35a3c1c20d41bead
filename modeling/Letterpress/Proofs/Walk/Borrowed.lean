import Letterpress.Config
import Letterpress.Design.Directive
import Letterpress.Number.Exact
import Letterpress.Proofs.Session.Calls
import Letterpress.Proofs.Walk.Camera

/-!
# The Tree Is Only Borrowed

A design tool is not given copies of nodes. The tree lies open on a *desk*, and whatever
the tool is asked, it sees all of the tree as it lies there at that moment. For a picture
of a node without its own fills, the fills are taken off the node on the desk and put
back when the tool is done, whether or not it has come up with a picture.

An *onlooker* is a tool that looks at the tree and changes nothing in it. Every question
to it is kept with the tree that it saw.

A walk over a tree that lies on a desk looks every child up on the desk, at each moment
that it needs the child, and takes fills off the desk for the pictures of children that
say so. The tree still only passes through it: every fill is back before anything else is
asked or looked at, and when the walk ends, in whatever way, the tree is as it was lent.

So for a tool that does not look around, the walk over the tree on the desk is the walk
over the tree.

## Main definitions

* `Node.withChildFills`: A tree with other fills on one child of its root.
* `Desk`: A world with a tree in it, and what was seen of the tree.
* `Onlooker`: A tool that sees the tree with each question.
* `Desk.suppressing`: Something is done while a child has no fills.
* `Onlooker.onDesk`, `Onlooker.shooting`: The tool at a desk.
* `Sight.IsLawful`: What the tool may see of a tree.
* `Camera.atDesk`: The camera that looks children up on the desk.
* `lentWalk`: The walk over the tree on a desk.

## Theorems

* `withChildFills_restored`: Fills that are put back are as before.
* `consult_lends`, `shooting_lends`: No question leaves a trace in the tree.
* `atDesk_stays`: The camera leaves the tree as it is.
* `atDesk_matches`: It shows what a camera shows that is handed the children.
* `lentWalk_borrows`: The tree is only borrowed, and each question sees the tree that it
  should.
-/

namespace Letterpress

variable {ω K α : Type}

namespace Node

/-- The node with other fills. -/
def withFills (fills : List (Paint K)) : Node K → Node K
  | container c k cs => container { c with fills } k cs
  | text c b => text { c with fills } b
  | shape c b => shape { c with fills } b
  | image c k => image { c with fills } k

theorem withFills_nil (n : Node K) : n.withFills [] = n.withoutFills := by
  cases n <;> rfl

theorem withFills_fills (n : Node K) : n.withFills n.fills = n := by
  cases n <;> rfl

theorem withFills_withFills (fills fills' : List (Paint K)) (n : Node K) :
    (n.withFills fills).withFills fills' = n.withFills fills' := by
  cases n <;> rfl

/-- The node with other fills on one of its children. -/
def withChildFills (i : Nat) (fills : List (Paint K)) : Node K → Node K
  | container c k cs => container c k (cs.modify i (withFills fills))
  | n => n

/-- The fills of a child can be put back after they were taken off. -/
theorem withChildFills_restored {root child : Node K} {i : Nat} (fills : List (Paint K))
    (h : root.children[i]? = some child) :
    (root.withChildFills i fills).withChildFills i child.fills = root := by
  cases root with
  | text _ _ | shape _ _ | image _ _ => rfl
  | container c k cs =>
      have hsame : (cs.modify i (withFills fills)).modify i (withFills child.fills) = cs := by
        refine List.ext_getElem? fun j => ?_
        rw [List.getElem?_modify, List.getElem?_modify]
        by_cases hij : i = j
        · subst hij
          change cs[i]? = some child at h
          rw [h]
          simp only [Functor.map, Option.map_some, if_pos, withFills_withFills, withFills_fills]
        · simp [hij]
      simp only [withChildFills, hsame]

/-- The child without its fills is found where the child was. -/
theorem children_withChildFills {root child : Node K} {i : Nat} (fills : List (Paint K))
    (h : root.children[i]? = some child) :
    (root.withChildFills i fills).children[i]? = some (child.withFills fills) := by
  cases root with
  | text _ _ | shape _ _ | image _ _ => exact absurd h (by simp [children])
  | container c k cs =>
      change cs[i]? = some child at h
      change (cs.modify i (withFills fills))[i]? = some (child.withFills fills)
      rw [List.getElem?_modify, h]
      simp

end Node

/-- A question to a design tool and the tree that the tool saw with it. -/
structure Sight (K : Type) where
  request : Request K
  tree : Node K

/-- A world with a tree in it, and all that was seen of the tree so far. -/
structure Desk (ω K : Type) where
  world : ω
  tree : Node K
  sights : List (Sight K) := []

/-- A design tool that sees the tree with each question, and leaves it as it is. -/
structure Onlooker (ω K : Type) where
  loadFont : FontName → Node K → ω → Outcome ω Unit
  rasterize : Node K → K → Node K → ω → Outcome ω Content
  imageBytes : String → Node K → ω → Outcome ω (Option Content)

/-- The answers of the tool do not depend on more of the tree than it is asked about. -/
structure Onlooker.LooksAway (o : Onlooker ω K) : Prop where
  loadFont : ∀ font tree tree', o.loadFont font tree = o.loadFont font tree'
  rasterize : ∀ node scale tree tree', o.rasterize node scale tree = o.rasterize node scale tree'
  imageBytes : ∀ ref tree tree', o.imageBytes ref tree = o.imageBytes ref tree'

namespace Desk

/-- Asks something of a tool that sees the tree. -/
def consult (request : Request K) (use : Node K → ω → Outcome ω α) (d : Desk ω K) :
    Outcome (Desk ω K) α :=
  let outcome := use d.tree d.world
  { result := outcome.result
    notices := outcome.notices
    world := ⟨outcome.world, d.tree, d.sights ++ [⟨request, d.tree⟩]⟩ }

/-- The child at a position of the tree; another node if there is none. -/
def child (d : Desk ω K) (i : Nat) (other : Node K) : Node K :=
  d.tree.children[i]?.getD other

/-- The desk with other fills on a child. -/
def setFills (d : Desk ω K) (i : Nat) (fills : List (Paint K)) : Desk ω K :=
  { d with tree := d.tree.withChildFills i fills }

/-- Something is done while a child has no fills. They are put back whatever comes of
    it. -/
def suppressing (i : Nat) (use : Desk ω K → Outcome (Desk ω K) α) (d : Desk ω K) :
    Outcome (Desk ω K) α :=
  let original := (d.tree.children[i]?.map Node.fills).getD []
  let outcome := use (d.setFills i [])
  { outcome with world := outcome.world.setFills i original }

end Desk

namespace Onlooker

/-- The tool at a desk. -/
def onDesk (o : Onlooker ω K) : Host (Desk ω K) K where
  loadFont font := Desk.consult (.loadFont font) (o.loadFont font)
  rasterize node scale := Desk.consult (.rasterize node scale) (o.rasterize node scale)
  imageBytes ref := Desk.consult (.imageBytes ref) (o.imageBytes ref)

/-- Takes a picture of the child at a position as it lies on the desk. -/
def rasterizeChild (o : Onlooker ω K) (i : Nat) (other : Node K) (scale : K) (d : Desk ω K) :
    Outcome (Desk ω K) Content :=
  o.onDesk.rasterize (d.child i other) scale d

/-- The tool as it is asked for the picture of a child: the fills of a child that says so
    are off the desk in the meantime. -/
def shooting (o : Onlooker ω K) (i : Nat) : Host (Desk ω K) K :=
  { o.onDesk with
    rasterize := fun node scale d =>
      if hasDirective (d.child i node).name Directive.transparent then
        d.suppressing i (o.rasterizeChild i node scale)
      else o.rasterizeChild i node scale d }

end Onlooker

section Sights

variable [Scalar K]

/-- What a tool may see while it works for a frame: a child that says so is pictured
    without its fills, which are off the tree at that moment and no others are; any other
    child is pictured as it is; and nothing else is asked while a fill is missing. -/
inductive Sight.IsLawful (config : Config K) (root : Node K) : Sight K → Prop
  | suppressed (i : Nat) (child : Node K) (hchild : root.children[i]? = some child)
      (hname : hasDirective child.name Directive.transparent = true) :
      IsLawful config root
        ⟨.rasterize child.withoutFills config.rasterScale, root.withChildFills i []⟩
  | shown (i : Nat) (child : Node K) (scale : K) (hchild : root.children[i]? = some child)
      (hname : hasDirective child.name Directive.transparent = false) :
      IsLawful config root ⟨.rasterize child scale, root⟩
  | other (request : Request K) (h : ∀ node scale, request ≠ .rasterize node scale) :
      IsLawful config root ⟨request, root⟩

variable {config : Config K} {root : Node K} {o : Onlooker ω K} {d : Desk ω K}

/-- The tree lies on the desk as it was lent, and all that was seen of it is lawful. -/
structure Desk.Lends (config : Config K) (root : Node K) (d : Desk ω K) : Prop where
  tree : d.tree = root
  sights : ∀ sight ∈ d.sights, sight.IsLawful config root

/-- A lawful question leaves the tree as it was. -/
theorem consult_lends (hd : d.Lends config root) {request : Request K}
    (h : Sight.IsLawful config root ⟨request, root⟩) (use : Node K → ω → Outcome ω α) :
    (d.consult request use).world.Lends config root := by
  refine ⟨hd.tree, fun sight hsight => ?_⟩
  change sight ∈ d.sights ++ [⟨request, d.tree⟩] at hsight
  rcases List.mem_append.mp hsight with hold | hnew
  · exact hd.sights sight hold
  · rw [hd.tree, List.mem_singleton] at hnew
    rw [hnew]
    exact h

theorem child_lends (hd : d.Lends config root) {i : Nat} {child : Node K}
    (hchild : root.children[i]? = some child) (other : Node K) : d.child i other = child := by
  rw [Desk.child, hd.tree, hchild, Option.getD_some]

/-- A child whose fills are off is seen without them. -/
theorem child_setFills (hd : d.Lends config root) {i : Nat} {child : Node K}
    (hchild : root.children[i]? = some child) (other : Node K) :
    (d.setFills i []).child i other = child.withoutFills := by
  rw [Desk.child, Desk.setFills, hd.tree, Node.children_withChildFills [] hchild,
    Option.getD_some, Node.withFills_nil]

/-- So does the picture of a child: the fills that were taken off are back. -/
theorem shooting_lends (hd : d.Lends config root) {i : Nat} {child : Node K}
    (hchild : root.children[i]? = some child) (other : Node K) :
    ((o.shooting i).rasterize other config.rasterScale d).world.Lends config root := by
  simp only [Onlooker.shooting, child_lends hd hchild]
  by_cases hname : hasDirective child.name Directive.transparent = true
  · rw [if_pos hname]
    refine ⟨?_, fun sight hsight => ?_⟩
    · -- The tool has left the tree as it was shown, so the fills go back to where they were.
      change ((d.tree.withChildFills i []).withChildFills i
        ((d.tree.children[i]?.map Node.fills).getD [])) = root
      rw [hd.tree, hchild]
      exact Node.withChildFills_restored [] hchild
    · change sight ∈ d.sights ++ [⟨.rasterize ((d.setFills i []).child i other)
        config.rasterScale, d.tree.withChildFills i []⟩] at hsight
      rcases List.mem_append.mp hsight with hold | hnew
      · exact hd.sights sight hold
      · rw [child_setFills hd hchild, hd.tree, List.mem_singleton] at hnew
        rw [hnew]
        exact .suppressed i child hchild hname
  · rw [if_neg hname]
    rw [Onlooker.rasterizeChild, child_lends hd hchild]
    exact consult_lends hd (.shown i child _ hchild (Bool.eq_false_iff.mpr hname)) _

end Sights

end Letterpress

open Letterpress.Task

namespace Letterpress

variable {ω K : Type}

/-- The camera that looks children up on the desk. -/
def Camera.atDesk (o : Onlooker ω K) : Camera (Desk ω K) K where
  look i p := fun s => (.ok { p with node := s.world.child i p.node }, s)
  shooting := o.shooting

variable [Scalar K]

/-- The walk over the tree that lies on a desk. -/
def lentWalk (o : Onlooker ω K) (config : Config K) : Task (Desk ω K) K Walk := fun s =>
  walkBy (.atDesk o) o.onDesk config s.world.tree s

variable {config : Config K} {root : Node K} {o : Onlooker ω K} {d d' : Desk ω K}

/-- What the camera at a desk shows of a child of the tree that was lent. -/
theorem look_lends {s : Session (Desk ω K) K} (hs : s.world.Lends config root) {i : Nat}
    {p : Placed K} (hp : root.children[i]? = some p.node) :
    (Camera.atDesk o).look i p s = (.ok p, s) := by
  change (Except.ok { p with node := s.world.child i p.node }, s) = _
  rw [child_lends hs hp]

/-- No link asks for its picture to be taken without fills, since a name carries at most
    one directive. -/
theorem not_transparent_of_link {name : String} (h : hasDirective name Directive.link = true) :
    hasDirective name Directive.transparent = false := by
  by_contra hboth
  rw [Bool.not_eq_false] at hboth
  simp only [hasDirective, Text.startsWith, Bool.and_eq_true] at h hboth
  rcases List.isPrefixOf_iff_prefix.mp h.2 with ⟨rest, hlink⟩
  rcases List.isPrefixOf_iff_prefix.mp hboth.2 with ⟨rest', htransparent⟩
  -- The second characters differ.
  have hsecond := congrArg (fun l : List Char => l[1]?) (hlink.trans htransparent.symm)
  exact absurd hsecond (by simp [Directive.link, Directive.transparent])

/-! ### The tree stays as it is -/

/-- The desk is the same, and lends the tree. -/
def Desk.Stays (config : Config K) (root : Node K) (d d' : Desk ω K) : Prop :=
  d' = d ∧ d.Lends config root

theorem outcome_stays {α : Type} {outcome : Outcome (Desk ω K) α}
    (h : outcome.world.Lends config root) : outcome.Alike (Desk.Stays config root) outcome :=
  ⟨rfl, rfl, rfl, h⟩

theorem onDesk_stays (o : Onlooker ω K) (config : Config K) (root : Node K) :
    o.onDesk.BlindTo (Desk.Stays config root) fun _ _ => False where
  loadFont := by
    rintro font d _ ⟨rfl, hd⟩
    exact outcome_stays (consult_lends hd (.other _ fun _ _ => by simp) _)
  rasterize _ _ _ _ _ h := h.elim
  imageBytes := by
    rintro ref d _ ⟨rfl, hd⟩
    exact outcome_stays (consult_lends hd (.other _ fun _ _ => by simp) _)

/-- The camera leaves the tree as it is. -/
theorem atDesk_stays (o : Onlooker ω K) (config : Config K) (root : Node K) :
    Camera.Alike (Desk.Stays config root) o.onDesk config root (.atDesk o) (.atDesk o) where
  look i p hp f f' hf := by
    rintro s s' hs
    rcases hs.world with ⟨hsame, hlends⟩
    rw [bind_run, bind_run, look_lends hlends hp, look_lends (hsame ▸ hlends) hp]
    exact hf s s' hs
  shooting i node hnode := by
    refine alike_ask ?_
    rintro d _ ⟨rfl, hd⟩
    exact outcome_stays (shooting_lends hd hnode _)
  preview i node hnode hlink := by
    refine alike_ask ?_
    rintro d _ ⟨rfl, hd⟩
    exact outcome_stays (consult_lends hd (.shown i node _ hnode (not_transparent_of_link hlink)) _)

/-! ### A tool that does not look around -/

/-- The desks hold the same world, and the second one lends the tree that lies on the
    first. -/
def Desk.Matches (config : Config K) (root : Node K) (d d' : Desk ω K) : Prop :=
  d'.world = d.world ∧ d.tree = root ∧ d'.Lends config root

/-- A tool that does not look around answers the same at both desks. -/
theorem consult_matches {α : Type} (h : d.Matches config root d') {request : Request K}
    (hlawful : Sight.IsLawful config root ⟨request, root⟩) {use : Node K → ω → Outcome ω α}
    (huse : ∀ tree tree', use tree = use tree') :
    (d.consult request use).Alike (Desk.Matches config root) (d'.consult request use) := by
  rcases h with ⟨hworld, htree, hlends⟩
  have hsame : use d'.tree d'.world = use d.tree d.world := by
    rw [hworld, huse d'.tree d.tree]
  exact ⟨(congrArg Outcome.result hsame :), (congrArg Outcome.notices hsame :),
    (congrArg Outcome.world hsame :), htree, consult_lends hlends hlawful use⟩

theorem onDesk_matches (ho : o.LooksAway) (config : Config K) (root : Node K) :
    o.onDesk.BlindTo (Desk.Matches config root) fun _ _ => False where
  loadFont font _ _ h := consult_matches h (.other _ fun _ _ => by simp) (ho.loadFont font)
  rasterize _ _ _ _ _ h := h.elim
  imageBytes ref _ _ h := consult_matches h (.other _ fun _ _ => by simp) (ho.imageBytes ref)

/-- Whatever is off the desk in the meantime, it is the pictured child that the tool is
    handed. -/
theorem shooting_matches (ho : o.LooksAway) (h : d.Matches config root d') {i : Nat}
    {node : Node K} (hnode : root.children[i]? = some node) :
    (o.onDesk.rasterize (pictured node) config.rasterScale d).Alike (Desk.Matches config root)
      ((o.shooting i).rasterize (pictured node) config.rasterScale d') := by
  by_cases hname : hasDirective node.name Directive.transparent = true
  · rcases h with ⟨hworld, htree, hlends⟩
    have hafter := shooting_lends (o := o) hlends hnode (pictured node)
    simp only [Onlooker.shooting, child_lends hlends hnode, if_pos hname] at hafter ⊢
    have hsame : o.rasterize ((d'.setFills i []).child i (pictured node)) config.rasterScale
        (d'.setFills i []).tree d'.world
        = o.rasterize (pictured node) config.rasterScale d.tree d.world := by
      rw [child_setFills hlends hnode, pictured, if_pos hname, hworld,
        ho.rasterize _ _ (d'.setFills i []).tree d.tree]
    exact ⟨(congrArg Outcome.result hsame :), (congrArg Outcome.notices hsame :),
      (congrArg Outcome.world hsame :), htree, hafter⟩
  · have hpictured : pictured node = node := if_neg hname
    simp only [Onlooker.shooting, child_lends h.2.2 hnode, if_neg hname, hpictured,
      Onlooker.rasterizeChild]
    exact consult_matches h (.shown i node _ hnode (Bool.eq_false_iff.mpr hname))
      (ho.rasterize node _)

/-- The camera shows what a camera shows that is handed the children. -/
theorem atDesk_matches (ho : o.LooksAway) (config : Config K) (root : Node K) :
    Camera.Alike (Desk.Matches config root) o.onDesk config root (.plain o.onDesk)
      (.atDesk o) where
  look i p hp f f' hf := by
    rintro s s' hs
    rw [bind_run, bind_run, look_lends hs.world.2.2 hp]
    exact hf s s' hs
  shooting i node hnode := alike_ask fun d d' h => shooting_matches ho h hnode
  preview i node hnode hlink := alike_ask fun d d' h =>
    consult_matches h (.shown i node _ hnode (not_transparent_of_link hlink))
      (ho.rasterize node _)

/-! ### The tree is borrowed -/

/-- A tree that is lent to a walk comes back as it was, whether the walk ends with
    fragments or with a fault and whatever the design tool could not do. In the meantime the
    tool sees all fills of the tree with each question, but for those of a child whose
    picture is to be taken without them. A walk over the tree on the desk comes to the
    same as the walk over the tree, if the tool does not look around. -/
theorem lentWalk_borrows (o : Onlooker ω K) (config : Config K) (root : Node K) (world : ω) :
    ((lentWalk o config).start ⟨world, root, []⟩).2.world.tree = root ∧
      (∀ sight ∈ ((lentWalk o config).start ⟨world, root, []⟩).2.world.sights,
        sight.IsLawful config root) ∧
      (o.LooksAway →
        ((lentWalk o config).start ⟨world, root, []⟩).1
            = ((walk o.onDesk config root).start ⟨world, root, []⟩).1 ∧
          ((lentWalk o config).start ⟨world, root, []⟩).2.journal
            = ((walk o.onDesk config root).start ⟨world, root, []⟩).2.journal ∧
          ((lentWalk o config).start ⟨world, root, []⟩).2.world.world
            = ((walk o.onDesk config root).start ⟨world, root, []⟩).2.world.world) := by
  let s : Session (Desk ω K) K := ⟨⟨world, root, []⟩, [], []⟩
  have hlends : s.world.Lends config root := ⟨rfl, by simp [s]⟩
  have hlent := walkBy_alike (onDesk_stays o config root) (atDesk_stays o config root) s s
    ⟨⟨rfl, hlends⟩, rfl⟩
  refine ⟨hlent.2.world.2.tree, hlent.2.world.2.sights, fun ho => ?_⟩
  have hsame := walkBy_alike (onDesk_matches ho config root) (atDesk_matches ho config root) s s
    ⟨⟨rfl, rfl, hlends⟩, rfl⟩
  rw [walkBy_plain] at hsame
  exact ⟨hsame.1, hsame.2.journal, hsame.2.world.1⟩

/-- A tool that cannot take pictures of what is not painted. -/
def paintedOnly : Onlooker Unit Rat where
  loadFont _ _ w := ⟨.ok (), [], w⟩
  rasterize node _ _ w :=
    if node.fills.isEmpty then ⟨.error (.host "nothing is painted"), [], w⟩
    else ⟨.ok (.bytes []), [], w⟩
  imageBytes _ _ w := ⟨.ok none, [], w⟩

/-- A frame with a badge that is to be pictured without its fill, and a photograph that
    leads somewhere. -/
def badgeCard : Node Rat :=
  .container ⟨"0", "Card", true, some ⟨0, 0, 100, 80⟩, []⟩ .frame
    [.container ⟨"1", "[transparent] Badge", true, some ⟨0, 0, 20, 20⟩, [.solid ⟨1, 0, 0⟩ 1]⟩
        .group [],
      .image ⟨"2", "[link] https://example.com", true, some ⟨0, 40, 50, 30⟩,
        [.image "photo" 1]⟩ "IMAGE"]

/-- The badge is without its fill when the tool fails to picture it; both pictures of the
    photograph, and whoever has lent the card, see the fill again. -/
theorem lentWalk_borrows_badgeCard :
    ((lentWalk paintedOnly {}).start ⟨(), badgeCard, []⟩).2.world.sights.map
        (fun sight => sight.tree.children.map fun child => child.fills.length)
      = [[0, 1], [1, 1], [1, 1]] ∧
    ((lentWalk paintedOnly {}).start ⟨(), badgeCard, []⟩).2.world.tree = badgeCard ∧
    ((lentWalk paintedOnly {}).start ⟨(), badgeCard, []⟩).1
      = ((walk paintedOnly.onDesk {} badgeCard).start ⟨(), badgeCard, []⟩).1 := by
  have hborrowed := lentWalk_borrows paintedOnly {} badgeCard ()
  have haway : paintedOnly.LooksAway := ⟨fun _ _ _ => rfl, fun _ _ _ _ => rfl, fun _ _ _ => rfl⟩
  refine ⟨?_, hborrowed.1, (hborrowed.2.2 haway).1⟩
  decide +kernel

end Letterpress
