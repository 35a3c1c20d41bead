import Letterpress.Layout.Merging

/-!
# Stable Sorting

Sorting by a key, equal keys staying in order. Only the strict comparison of
keys is ever asked.

A list is cut into runs. The items at its front that are already in order, or in
strictly falling order, are taken as they are or reversed; if they are too few,
every further item is put behind the last item whose key is not greater, found
by bisection, until the run is long enough. A short list is a single run.

Neighboring runs are merged. Halving the list again and again, the boundary
between two runs is first met by a middle at some depth; the deeper a boundary,
the earlier the runs beside it are merged, so that runs of like length meet.

For keys that are totally ordered this is any stable sort. Keys that cannot be
compared end up where this procedure puts them.

## Main definitions

* `leadingRun`: The ordered front of a list, and the rest.
* `insertionPoint`: Where an item goes.
* `boundaryDepth`: The depth of a boundary between runs.
* `sortOn`: The list sorted by a key.
-/

namespace Letterpress.Layout

variable {α κ : Type}

/-- The longest front of a list in which no item is less than its predecessor,
    and the rest; `last` is the item before the list. -/
def risingRun (lt : α → α → Bool) (last : α) : List α → List α × List α
  | [] => ([], [])
  | x :: rest =>
    if lt x last then ([], x :: rest)
    else
      let (run, others) := risingRun lt x rest
      (x :: run, others)

/-- The longest front of a list in which every item is less than its predecessor,
    and the rest; `last` is the item before the list. -/
def fallingRun (lt : α → α → Bool) (last : α) : List α → List α × List α
  | [] => ([], [])
  | x :: rest =>
    if lt x last then
      let (run, others) := fallingRun lt x rest
      (x :: run, others)
    else ([], x :: rest)

/-- The ordered front of a list, in rising order, and the rest. -/
def leadingRun (lt : α → α → Bool) : List α → List α × List α
  | [] => ([], [])
  | [x] => ([x], [])
  | x :: y :: rest =>
    if lt y x then
      let (run, others) := fallingRun lt y rest
      ((x :: y :: run).reverse, others)
    else
      let (run, others) := risingRun lt y rest
      (x :: y :: run, others)

/-- Where an item goes in a sorted list: behind all items that it is not less
    than. -/
def insertionPoint (lt : α → α → Bool) (x : α) (sorted : List α) : Nat :=
  bisect (fun y => !lt x y) sorted sorted.length 0 sorted.length

/-- The sorted list with one more item. -/
def insertSorted (lt : α → α → Bool) (sorted : List α) (x : α) : List α :=
  let p := insertionPoint lt x sorted
  sorted.take p ++ x :: sorted.drop p

/-- A run: where it starts in the list, its items in order, and the depth of the
    boundary behind it once another run follows. -/
structure Run (α : Type) where
  start : Nat
  items : List α
  depth : Nat := 0

/-- Runs that wait to be merged, the last one first, and the patience of the
    merges. -/
structure Merges (α : Type) where
  runs : List (Run α) := []
  patience : Nat := gallopWorth

/-- How often a list is halved until a middle lies between two points, which are
    given as multiples of half an item; `fuel` bounds the number of halvings. -/
def halvings (size : Nat) : Nat → Nat → Nat → Nat
  | 0, _, _ => 0
  | fuel + 1, a, b =>
    if size ≤ a then 1 + halvings size fuel (2 * (a - size)) (2 * (b - size))
    else if size ≤ b then 1
    else 1 + halvings size fuel (2 * a) (2 * b)

/-- The depth of the boundary behind a run in a list of the given size: how often
    the list is halved until a middle lies between the middles of the run and of
    the next one. -/
def boundaryDepth (size : Nat) (run next : Run α) : Nat :=
  let a := 2 * run.start + run.items.length
  halvings size (size + 1) a (a + run.items.length + next.items.length)

/-- Merges the last runs as long as the boundary between them is deeper than the
    given depth. -/
def mergeDeeper (lt : α → α → Bool) (depth : Nat) :
    List (Run α) → Nat → List (Run α) × Nat
  | last :: before :: rest, patience =>
    if depth < before.depth then
      let (items, patience) := merge lt patience before.items last.items
      mergeDeeper lt depth ({ before with items } :: rest) patience
    else (last :: before :: rest, patience)
  | runs, patience => (runs, patience)
termination_by runs => runs.length

/-- The runs with one more, before which deeper boundaries are merged away. -/
def Merges.push (lt : α → α → Bool) (size : Nat) (m : Merges α) (run : Run α) : Merges α :=
  match m.runs with
  | [] => { m with runs := [run] }
  | last :: _ =>
    let depth := boundaryDepth size last run
    match mergeDeeper lt depth m.runs m.patience with
    | (top :: rest, patience) => ⟨run :: { top with depth } :: rest, patience⟩
    | ([], patience) => ⟨[run], patience⟩

/-- All runs as one. Of the last three the middle one is merged with the shorter of
    the others. -/
def mergeAll (lt : α → α → Bool) : List (Run α) → Nat → List α
  | [], _ => []
  | [run], _ => run.items
  | [last, before], patience => (merge lt patience before.items last.items).1
  | last :: middle :: first :: rest, patience =>
    if first.items.length < last.items.length then
      let (items, patience) := merge lt patience first.items middle.items
      mergeAll lt (last :: { first with items } :: rest) patience
    else
      let (items, patience) := merge lt patience middle.items last.items
      mergeAll lt ({ middle with items } :: first :: rest) patience
termination_by runs => runs.length

/-- A list below this length is a single run. -/
def runLimit : Nat := 64

/-- A number halved until it is below the limit, and rounded up. `isRounded` tells that
    a halving left a rest, `fuel` bounds the number of halvings. -/
def leastRunFrom : Nat → Bool → Nat → Nat
  | 0, _, n => n
  | fuel + 1, isRounded, n =>
    if n < runLimit then (if isRounded then n + 1 else n)
    else leastRunFrom fuel (isRounded || n % 2 = 1) (n / 2)

/-- The length that runs have at least in a list of the given size. -/
def leastRun (size : Nat) : Nat :=
  leastRunFrom size false size

/-- Cuts a list into runs and merges them. The list starts at the given position of
    the whole; `fuel` bounds the number of runs. -/
def sortFrom (lt : α → α → Bool) (size : Nat) : Nat → Nat → List α → Merges α → List α
  | 0, _, _, m => mergeAll lt m.runs m.patience
  | _, _, [], m => mergeAll lt m.runs m.patience
  | fuel + 1, start, items, m =>
    let (run, others) := leadingRun lt items
    let missing := leastRun size - run.length
    let run := (others.take missing).foldl (insertSorted lt) run
    sortFrom lt size fuel (start + run.length) (others.drop missing)
      (m.push lt size { start, items := run })

/-- The list in rising order. -/
def sort (lt : α → α → Bool) (items : List α) : List α :=
  sortFrom lt items.length items.length 0 items {}

/-- The list in rising order of a key. -/
def sortOn (lt : κ → κ → Bool) (key : α → κ) (items : List α) : List α :=
  sort (fun a b => lt (key a) (key b)) items

end Letterpress.Layout
