/-! # Sorting by a partial comparison

    A list is put in order by a comparison that may have no answer for some pairs;
    then there is no order. The sort is stable: it takes the longest run at the head
    that is in order already, or turns it round if each item comes before the one
    before it, and then inserts the other items one by one, each behind all items
    that it does not come before.

    The place of an item is found by halving. So the outcome is well defined also
    for a comparison that is no order, and only the pairs met on the way must be
    comparable.
-/

namespace Gleaner.Sorting

variable {α : Type} (before? : α → α → Option Bool)

/-- The items that go on with a run after `last`, and the items behind the run. In
    a descending run each item comes before the one before it, in an ascending run
    none does. -/
def continueRun (descending : Bool) (last : α) : List α → Option (List α × List α)
  | [] => some ([], [])
  | x :: rest => do
    if (← before? x last) = descending then
      let (run, behind) ← continueRun descending x rest
      some (x :: run, behind)
    else some ([], x :: rest)

/-- The run at the head of a list, in ascending order, and the items behind it. -/
def firstRun : List α → Option (List α × List α)
  | [] => some ([], [])
  | [x] => some ([x], [])
  | x :: y :: rest => do
    let descending ← before? y x
    let (run, behind) ← continueRun before? descending x (y :: rest)
    some (if descending then (x :: run).reverse else x :: run, behind)

/-- The place of `x` between `low` and `high`, found by halving. -/
def placeOf (x : α) (sorted : List α) (low high : Nat) : Option Nat :=
  if low < high then
    let middle := low + (high - low) / 2
    match sorted[middle]? with
    | none => none
    | some y =>
      match before? x y with
      | none => none
      | some true => placeOf x sorted low middle
      | some false => placeOf x sorted (middle + 1) high
  else some low
termination_by high - low

/-- The items of a second list inserted into a sorted list one by one. -/
def insertAll (sorted : List α) : List α → Option (List α)
  | [] => some sorted
  | x :: rest => do
    let place ← placeOf before? x sorted 0 sorted.length
    insertAll (sorted.take place ++ x :: sorted.drop place) rest

/-- A list in order; `none` if two items that had to be compared have no order. -/
def sort (items : List α) : Option (List α) := do
  let (run, behind) ← firstRun before? items
  insertAll before? run behind

end Gleaner.Sorting
