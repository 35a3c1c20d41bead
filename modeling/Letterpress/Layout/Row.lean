import Letterpress.Layout.Sorting
import Letterpress.Number.Scalar

/-!
# Rows

Two ways of grouping items into rows, and they differ on purpose.

A *cluster* grows with its members: an item joins while it starts within a
tolerance below the lowest bottom so far. It shows how a frame is laid out.

A *bucket* is a step of a fixed grid: items whose top rounds to the same step
share a row. Tables are built from buckets; two items next to each other fall
into different rows if a step lies between them.

## Main definitions

* `Extent`: How an item's place is read off.
* `Row`: A cluster.
* `clusterRows`: The clusters of a list of items.
* `bucketRows`: The buckets of a list of items.
-/

namespace Letterpress.Layout

variable {α K : Type} [Scalar K]

/-- The strict order of scalars, as a test. -/
def before (x y : K) : Bool :=
  decide (x < y)

/-- How the place of an item is read off. -/
structure Extent (α K : Type) where
  x : α → K
  y : α → K
  height : α → K

/-- Items that share a band of the page, from left to right. -/
structure Row (α K : Type) where
  y : K
  height : K
  items : List α

/-- The lower edge of a row. -/
def Row.bottom (r : Row α K) : K :=
  r.y + r.height

/-- The row that one item makes. -/
def Row.single (e : Extent α K) (item : α) : Row α K :=
  ⟨e.y item, e.height item, [item]⟩

/-- The item starts within the tolerance below the row. -/
def Row.admits (e : Extent α K) (tolerance : K) (r : Row α K) (item : α) : Bool :=
  e.y item < r.bottom + tolerance

/-- The row with one more item, reaching down to it. -/
def Row.extend (e : Extent α K) (r : Row α K) (item : α) : Row α K :=
  { r with
    items := r.items ++ [item]
    height := Scalar.larger r.height (e.y item - r.y + e.height item) }

/-- The clusters of a list of items from top to bottom, of which `row` is the one
    being filled. -/
def growRows (e : Extent α K) (tolerance : K) (row : Row α K) : List α → List (Row α K)
  | [] => [row]
  | item :: rest =>
    if row.admits e tolerance item then growRows e tolerance (row.extend e item) rest
    else row :: growRows e tolerance (Row.single e item) rest

/-- The clusters from top to bottom, each from left to right. -/
def clusterRows (e : Extent α K) (tolerance : K) (items : List α) : List (Row α K) :=
  let rows := match sortOn before e.y items with
    | [] => []
    | first :: rest => growRows e tolerance (Row.single e first) rest
  rows.map fun row => { row with items := sortOn before e.x row.items }

/-- Adds an item to the bucket with a number, or opens the bucket at the end. -/
def addToBucket (number : Int) (item : α) : List (Int × List α) → List (Int × List α)
  | [] => [(number, [item])]
  | (n, members) :: rest =>
    if n = number then (n, members ++ [item]) :: rest
    else (n, members) :: addToBucket number item rest

/-- The number of the step that a coordinate rounds to. -/
def bucketNumber (granularity y : K) : Except NumberError Int := do
  Scalar.roundHalfUp (← Scalar.divide? y granularity)

/-- The buckets of a list of items in order of their first members. -/
def fillBuckets (e : Extent α K) (granularity : K) :
    List α → List (Int × List α) → Except NumberError (List (Int × List α))
  | [], buckets => return buckets
  | item :: rest, buckets => do
    let number ← bucketNumber granularity (e.y item)
    fillBuckets e granularity rest (addToBucket number item buckets)

/-- The first members of buckets decide their order. A bucket without any would come
    first. -/
def firstBefore (e : Extent α K) : List α → List α → Bool
  | a :: _, b :: _ => before (e.y a) (e.y b)
  | [], _ :: _ => true
  | _, [] => false

/-- The buckets in order of their first members' tops, each from left to right. -/
def bucketRows (e : Extent α K) (granularity : K) (items : List α) :
    Except NumberError (List (List α)) := do
  let buckets ← fillBuckets e granularity items []
  return (sort (firstBefore e) (buckets.map Prod.snd)).map (sortOn before e.x)

end Letterpress.Layout
