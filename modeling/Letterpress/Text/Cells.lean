import Letterpress.Text.CellWidth

/-!
# Texts in Cells

A terminal shows a text in cells. What it shows as one piece is a *cluster*: a character
with the marks that combine with it, and with the characters that joiners join to it. A
selector makes a pictograph of the character before it, which may widen it.

Texts are filled up, cut and broken by cells, and only between clusters.

## Main definitions

* `cellWidth`: The cells that a text takes.
* `Cluster`, `clusters`: The pieces that are shown as one.
* `filled`, `resized`: A text in at least, or in exactly, so many cells.
* `chop`: A text in lines of so many cells.
-/

namespace Letterpress.Text

/-- The character that joins its neighbours into one. -/
def joiner : Char := '\u200D'

/-- The character that selects a pictograph for the one before it. -/
def selector : Char := '\uFE0F'

/-- The cells that a selector adds to the character that it applies to. -/
def widening (base : Option Char) : Nat :=
  if base.any isWidenable then 1 else 0

/-- The cells that a text takes after the character that a selector would apply to. A
    joined character takes none. -/
def cellWidthAfter (base : Option Char) : List Char → Nat
  | [] => 0
  | c :: rest =>
    if c = joiner then
      match rest with
      | [] => 0
      | _ :: rest => cellWidthAfter base rest
    else if c = selector then widening base + cellWidthAfter none rest
    else if charWidth c = 0 then cellWidthAfter base rest
    else charWidth c + cellWidthAfter (some c) rest

/-- The cells that a text takes. -/
def cellWidth (s : List Char) : Nat :=
  cellWidthAfter none s

/-- Characters that are shown as one, and the cells that they take. -/
structure Cluster where
  text : List Char
  cells : Nat
  deriving DecidableEq, Repr

namespace Cluster

/-- The cluster with more characters that take no cell. -/
def extended (k : Cluster) (s : List Char) : Cluster :=
  ⟨k.text ++ s, k.cells⟩

end Cluster

/-- The clusters of a text, the first of which has been begun; a selector would apply to
    the character `base`. -/
def clustersAfter (k : Cluster) (base : Option Char) : List Char → List Cluster
  | [] => [k]
  | c :: rest =>
    if c = joiner then
      match rest with
      | [] => [k.extended [c]]
      | d :: rest => clustersAfter (k.extended [c, d]) base rest
    else if c = selector then
      let base' := if base.any isWidenable then none else base
      clustersAfter ⟨k.text ++ [c], k.cells + widening base⟩ base' rest
    else if charWidth c = 0 then clustersAfter (k.extended [c]) base rest
    else k :: clustersAfter ⟨[c], charWidth c⟩ (some c) rest

/-- The clusters of a text. A joiner or selector at its start has nothing to apply to. -/
def clusters : List Char → List Cluster
  | [] => []
  | c :: rest =>
    if c = joiner || c = selector || charWidth c = 0 then clustersAfter ⟨[c], 0⟩ none rest
    else clustersAfter ⟨[c], charWidth c⟩ (some c) rest

/-- As many clusters as fit into so many cells. One that fits only in part is a blank. -/
def cut : Nat → List Cluster → List Char
  | 0, _ => []
  | _, [] => []
  | room, k :: rest => if k.cells ≤ room then k.text ++ cut (room - k.cells) rest else [' ']

/-- The text filled up with blanks to so many cells. -/
def filled (cells : Nat) (s : List Char) : List Char :=
  s ++ List.replicate (cells - cellWidth s) ' '

/-- The text in exactly so many cells: filled up with blanks, or cut. -/
def resized (cells : Nat) (s : List Char) : List Char :=
  if cellWidth s ≤ cells then filled cells s else cut cells (clusters s)

/-- Clusters in lines of so many cells. `line` is the line that is being filled, and
    `used` its cells. -/
def chopAfter (width : Nat) (line : List Char) (used : Nat) : List Cluster → List (List Char)
  | [] => if used = 0 then [] else [line]
  | k :: rest =>
    if width < used + k.cells then line :: chopAfter width k.text k.cells rest
    else chopAfter width (line ++ k.text) (used + k.cells) rest

/-- A text in lines of so many cells, each filled as far as its clusters allow. -/
def chop (width : Nat) (s : List Char) : List (List Char) :=
  chopAfter width [] 0 (clusters s)

end Letterpress.Text
