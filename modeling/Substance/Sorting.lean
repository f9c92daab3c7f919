import Substance.Sorting.Merge
import Substance.Sorting.Run

/-!
# Sorting where comparisons can fail

A list is sorted by merging its runs.  Which comparisons are made, and in which order, is part of
what is said here, since the first comparison that fails ends the sorting, and since comparisons
need not be those of an order.

Between two neighbouring runs lies a boundary with a power: the number of binary digits after which
the middles of the two runs, as fractions of the whole list, differ.  A run is merged with the one
before it as soon as a boundary of lower power follows.  What is then left is merged from the end.
-/

namespace Substance.Sorting

/-- A run that waits for its neighbours. -/
structure Pending (α : Type) where
  run : List α
  /-- The place of the run in the list. -/
  start : Nat
  /-- The power of the boundary behind the run. -/
  power : Nat

/-- The power of the boundary between two neighbouring runs of a list. -/
def boundaryPower (total start length nextLength : Nat) : Nat :=
  let middle := 2 * start + length
  let nextMiddle := middle + length + nextLength
  let digits := List.range (Nat.log2 total + 2)
  (digits.find? fun n => middle * Nat.pow 2 n / total ≠ nextMiddle * Nat.pow 2 n / total).getD 0

variable {ε α : Type} (below : α → α → Except ε Bool)

/-- Merge the latest runs as long as there is a boundary of higher power before the last of them.
The latest run comes first. -/
def collapse (power threshold : Nat) :
    List (Pending α) → Except ε (List (Pending α) × Nat)
  | last :: previous :: rest =>
    if previous.power > power then do
      let (run, threshold) ← merge below threshold previous.run last.run
      collapse power threshold ({ previous with run } :: rest)
    else .ok (last :: previous :: rest, threshold)
  | few => .ok (few, threshold)
termination_by l => l.length

/-- Add a run, which follows those that wait. -/
def addRun (total threshold start : Nat) (run : List α) :
    List (Pending α) → Except ε (List (Pending α) × Nat)
  | [] => .ok ([⟨run, start, 0⟩], threshold)
  | last :: rest => do
    let power := boundaryPower total last.start last.run.length run.length
    match ← collapse below power threshold (last :: rest) with
    | (last :: rest, threshold) =>
      return (⟨run, start, 0⟩ :: { last with power } :: rest, threshold)
    | ([], threshold) => return ([⟨run, start, 0⟩], threshold)

/-- Merge all runs, the latest first.  A run is merged with the shorter one of its neighbours. -/
def collapseAll (threshold : Nat) : List (Pending α) → Except ε (List α)
  | [] => .ok []
  | [only] => .ok only.run
  | [last, previous] => do return (← merge below threshold previous.run last.run).1
  | last :: previous :: earlier :: rest => do
    if earlier.run.length < last.run.length then
      let (run, threshold) ← merge below threshold earlier.run previous.run
      collapseAll threshold (last :: { earlier with run } :: rest)
    else
      let (run, threshold) ← merge below threshold previous.run last.run
      collapseAll threshold ({ previous with run } :: earlier :: rest)
termination_by l => l.length

/-- Sort what is left of a list, of which there are at most `budget` elements. -/
def sortRest (total start threshold : Nat) (waiting : List (Pending α)) :
    (budget : Nat) → List α → Except ε (List α)
  | 0, _ | _, [] => collapseAll below threshold waiting
  | budget + 1, rest => do
    let (run, rest) ← nextRun below (leastLength total false) rest
    let (waiting, threshold) ← addRun below total threshold start run waiting
    sortRest total (start + run.length) threshold waiting budget rest

/-- Sort a list. -/
def sort (l : List α) : Except ε (List α) :=
  sortRest below l.length 0 gallopGain [] l.length l

end Substance.Sorting
