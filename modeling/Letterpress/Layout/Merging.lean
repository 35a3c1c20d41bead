/-!
# Merging

Two neighboring lists that are in order become one list in order, and of equal items
those of the first list come first.

While the lists alternate, items are compared one by one. When one list keeps winning,
the merge *gallops*: it looks for the end of the winning stretch in steps that double,
and takes the whole stretch. Galloping has to pay: a number, the *patience*, says how
long a list must win first; it falls while galloping goes on, and rises when it ends.

For keys that are totally ordered the result does not depend on any of this. Keys that
cannot be compared end up where this procedure puts them.

## Main definitions

* `bisect`: The end of a stretch between two positions.
* `gallop`: The end of a stretch, looked for from a given position.
* `mergeForward`, `mergeBackward`: Two lists as one, from the front or from the back.
* `merge`: Two lists as one, with the shorter one held aside.
-/

namespace Letterpress.Layout

variable {α : Type}

/-- The first position between `low` and `high` whose item does not belong to the
    stretch; `fuel` bounds the number of halvings. -/
def bisect (inside : α → Bool) (items : List α) (fuel low high : Nat) : Nat :=
  match fuel with
  | 0 => low
  | fuel + 1 =>
    if low < high then
      let middle := (low + high) / 2
      match items[middle]? with
      | none => low
      | some x =>
        if inside x then bisect inside items fuel (middle + 1) high
        else bisect inside items fuel low middle
    else low

/-- Steps of doubling length within `room` while a test holds: the last step for which
    it did, and the first for which it did not or that leads out of the room. `fuel`
    bounds the number of steps. -/
def stride (test : Nat → Bool) (room : Nat) : Nat → Nat → Nat → Nat × Nat
  | 0, last, next => (last, min next room)
  | fuel + 1, last, next =>
    if next < room && test next then stride test room fuel next (2 * next + 1)
    else (last, min next room)

/-- The item at a position is there and passes a test. -/
def passesAt (test : α → Bool) (items : List α) (position : Nat) : Bool :=
  items[position]?.any test

/-- The length of the stretch at the front of a list whose items pass a test, looked
    for from the position `start` in the direction that its item points to. -/
def gallop (inside : α → Bool) (items : List α) (start : Nat) : Nat :=
  let size := items.length
  if passesAt inside items start then
    let (last, next) := stride (fun k => passesAt inside items (start + k)) (size - start) size 0 1
    bisect inside items size (start + last + 1) (start + next)
  else
    let (last, next) := stride (fun k => !passesAt inside items (start - k)) (start + 1) size 0 1
    bisect inside items size (start + 1 - next) (start - last)

/-- What a list has won in a row, or that the merge gallops. -/
inductive Pace where
  | walking (first second : Nat)
  | galloping

/-- The length of a stretch for which galloping pays. -/
def gallopWorth : Nat := 7

/-- The pace after two stretches, and the patience: a gallop goes on if one of them was
    long enough. -/
def paceAfter (first second patience : Nat) : Pace × Nat :=
  if gallopWorth ≤ first || gallopWorth ≤ second then (.galloping, patience)
  else (.walking 0 0, patience + 1)

/-- The pace after a list has won so many times in a row, and the patience. -/
def paceOf (first second patience : Nat) : Pace × Nat :=
  if patience ≤ max first second then (.galloping, patience + 1)
  else (.walking first second, patience)

/-- A gallop costs patience, but some of it always stays. -/
def relaxed (patience : Nat) : Nat :=
  max 1 (patience - 1)

/-- Merges from the front. `done` holds what is merged, backwards. When one item of the
    first list is left, it goes to the end. -/
def forward (lt : α → α → Bool) :
    Nat → Pace → Nat → List α → List α → List α → List α × Nat
  | fuel + 1, .walking m n, patience, done, x :: first, y :: second =>
    if lt y x then
      if second = [] then (done.reverse ++ y :: x :: first, patience)
      else
        let (pace, next) := paceOf 0 (n + 1) patience
        forward lt fuel pace next (y :: done) (x :: first) second
    else if first.length = 1 then (done.reverse ++ x :: y :: second ++ first, patience)
    else
      let (pace, next) := paceOf (m + 1) 0 patience
      forward lt fuel pace next (x :: done) first (y :: second)
  | fuel + 1, .galloping, before, done, first, y :: second =>
    let patience := relaxed before
    let m := gallop (fun x => !lt y x) first 0
    let done := (first.take m).reverse ++ done
    let first := first.drop m
    if m ≠ 0 && first.length ≤ 1 then (done.reverse ++ y :: second ++ first, patience)
    else match first with
      | [] => (done.reverse ++ y :: second, patience)
      | x :: others =>
        let n := gallop (fun z => lt z x) second 0
        let done := (second.take n).reverse ++ y :: done
        let second := second.drop n
        if second = [] then (done.reverse ++ x :: others, patience)
        else if others.length = 1 then (done.reverse ++ x :: second ++ others, patience)
        else
          let (pace, next) := paceAfter m n patience
          forward lt fuel pace next (x :: done) others second
  | _, _, patience, done, first, second => (done.reverse ++ first ++ second, patience)

/-- Merges from the back. The lists are read backwards, `done` holds what is merged.
    When one item of the second list is left, it goes to the front. -/
def backward (lt : α → α → Bool) :
    Nat → Pace → Nat → List α → List α → List α → List α × Nat
  | fuel + 1, .walking m n, patience, done, x :: first, y :: second =>
    if lt y x then
      if first = [] then ((y :: second).reverse ++ x :: done, patience)
      else
        let (pace, next) := paceOf (m + 1) 0 patience
        backward lt fuel pace next (x :: done) first (y :: second)
    else if second.length = 1 then (second ++ (x :: first).reverse ++ y :: done, patience)
    else
      let (pace, next) := paceOf 0 (n + 1) patience
      backward lt fuel pace next (y :: done) (x :: first) second
  | fuel + 1, .galloping, before, done, first, y :: second =>
    let patience := relaxed before
    let kept := gallop (fun x => !lt y x) first.reverse (first.length - 1)
    let m := first.length - kept
    let done := (first.take m).reverse ++ done
    match first.drop m with
    | [] => ((y :: second).reverse ++ done, patience)
    | x :: others =>
      if second.length = 1 then (second ++ (x :: others).reverse ++ y :: done, patience)
      else
        let kept := gallop (fun z => lt z x) second.reverse (second.length - 1)
        let n := second.length - kept
        let done := (second.take n).reverse ++ y :: done
        let second := second.drop n
        if n ≠ 0 && second.length ≤ 1 then (second ++ (x :: others).reverse ++ done, patience)
        else if others = [] then (second.reverse ++ x :: done, patience)
        else
          let (pace, next) := paceAfter m n patience
          backward lt fuel pace next (x :: done) others second
  | _, _, patience, done, first, second => (first.reverse ++ second.reverse ++ done, patience)

/-- Two lists as one, from the front. The first item of the second list is known to come
    first. -/
def mergeForward (lt : α → α → Bool) (patience : Nat) (first second : List α) :
    List α × Nat :=
  match second with
  | [] => (first, patience)
  | y :: others =>
    if others = [] then (y :: first, patience)
    else if first.length = 1 then (y :: others ++ first, patience)
    else forward lt (first.length + second.length) (.walking 0 0) patience [y] first others

/-- Two lists as one, from the back. The last item of the first list is known to come
    last. -/
def mergeBackward (lt : α → α → Bool) (patience : Nat) (first second : List α) :
    List α × Nat :=
  match first.reverse with
  | [] => (second, patience)
  | x :: others =>
    if others = [] then (second ++ [x], patience)
    else if second.length = 1 then (second ++ first, patience)
    else
      backward lt (first.length + second.length) (.walking 0 0) patience [x] others
        second.reverse

/-- Two lists in order as one, and the patience afterwards. What is in place already
    takes no part: the front of the first list and the back of the second. -/
def merge (lt : α → α → Bool) (patience : Nat) (first second : List α) : List α × Nat :=
  match second with
  | [] => (first, patience)
  | y :: _ =>
    let placed := gallop (fun x => !lt y x) first 0
    let moved := first.drop placed
    match moved.getLast? with
    | none => (first ++ second, patience)
    | some x =>
      let moving := gallop (fun z => lt z x) second (second.length - 1)
      if moving = 0 then (first ++ second, patience)
      else
        let others := second.take moving
        let (merged, patience) :=
          if moved.length ≤ moving then mergeForward lt patience moved others
          else mergeBackward lt patience moved others
        (first.take placed ++ merged ++ second.drop moving, patience)

end Letterpress.Layout
