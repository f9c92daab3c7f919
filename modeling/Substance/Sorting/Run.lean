import Substance.Sorting.Search

/-!
# Runs

A list is cut into runs.  A run begins with elements that rise, or fall, one after the other, which
are taken as they stand, or turned around.  A run that is too short takes in further elements, each
placed by bisection behind those that are not above it.
-/

namespace Substance.Sorting

variable {ε α : Type} (below : α → α → Except ε Bool)

/-- Place an element in a sorted list, behind those that are not above it. -/
def place (sorted : List α) (a : α) : Except ε (List α) := do
  let staysInFront (b : α) : Except ε Bool := do return !(← below a b)
  let i ← bisect staysInFront sorted.toArray 0 sorted.length
  return sorted.take i ++ a :: sorted.drop i

/-- Go on with a run, whose latest element is given apart, as long as it falls, or as long as it
does not.  The run is returned with what is left, its latest element first. -/
def followRun (falling : Bool) (run : List α) (last : α) :
    List α → Except ε (List α × List α)
  | [] => .ok (last :: run, [])
  | a :: rest => do
    if (← below a last) = falling then followRun falling (last :: run) a rest
    else return (last :: run, a :: rest)

/-- The first run of a list, of at least the given length where there are so many elements, and what
is left. -/
def nextRun (leastLength : Nat) : List α → Except ε (List α × List α)
  | [] => .ok ([], [])
  | [a] => .ok ([a], [])
  | a :: b :: rest => do
    let falling ← below b a
    let (run, rest) ← followRun below falling [a] b rest
    let run := if falling then run else run.reverse
    let missing := leastLength - run.length
    return (← (rest.take missing).foldlM (place below) run, rest.drop missing)

/-- The least length of the runs of a list: its length, cut down to the highest six binary digits,
and one more when any digit that is cut off is not zero. -/
def leastLength (length : Nat) (isCut : Bool) : Nat :=
  if _ : length < 64 then if isCut then length + 1 else length
  else leastLength (length / 2) (isCut || length % 2 = 1)
termination_by length

end Substance.Sorting
