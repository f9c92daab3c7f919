/-!
# Searching a sorted row

In a row whose first elements pass a test and whose others do not, the place where the test begins
to fail is found in two ways: by bisection, or by galloping from a place where it is expected, with
strides that double.  A test can fail to give an answer, which ends the search.
-/

namespace Substance.Sorting

variable {ε α : Type}

/-- Does the element at a place pass the test? -/
def passes (test : α → Except ε Bool) (row : Array α) (place : Nat) : Except ε Bool :=
  match row[place]? with
  | some a => test a
  | none => .ok false

/-- The place between two given ones where the test begins to fail, by bisection. -/
def bisect (test : α → Except ε Bool) (row : Array α) (low high : Nat) : Except ε Nat :=
  if _ : low < high then do
    let middle := low + (high - low) / 2
    if ← passes test row middle then bisect test row (middle + 1) high
    else bisect test row low middle
  else .ok low
termination_by high - low

/-- Stride as long as it goes on and the limit is not reached.  The last two strides are
returned. -/
def stride (goesOn : Nat → Except ε Bool) (limit last next : Nat) : Except ε (Nat × Nat) :=
  if _ : next < limit then do
    if ← goesOn next then stride goesOn limit next (2 * next + 1) else return (last, next)
  else .ok (last, limit)
termination_by limit - next

/-- The place where the test begins to fail, by galloping from a hint and then by bisection between
the last two strides. -/
def gallop (test : α → Except ε Bool) (row : Array α) (hint : Nat) : Except ε Nat := do
  if ← passes test row hint then
    let (last, next) ← stride (fun n => passes test row (hint + n)) (row.size - hint) 0 1
    bisect test row (hint + last + 1) (hint + next)
  else
    let goesOn (n : Nat) : Except ε Bool := do return !(← passes test row (hint - n))
    let (last, next) ← stride goesOn (hint + 1) 0 1
    bisect test row (hint + 1 - next) (hint - last)

end Substance.Sorting
