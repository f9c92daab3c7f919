import Substance.Sorting.Search

/-!
# Merging two runs

Two neighbouring runs become one.  What of the left run is already in place at its front, and of the
right run at its end, is left alone.  The rest is merged from the side of the shorter part: first
one element at a time, and when one run has won often enough in a row, by galloping, which moves
many elements at once.  The number of wins after which galloping begins is adapted as it pays off,
and handed on from merge to merge.  Of elements that are not below each other, those of the left
run come first.
-/

namespace Substance.Sorting

/-- The number of elements that galloping has to move at once to go on. -/
def gallopGain : Nat := 7

/-- From which end two runs are merged. -/
inductive Direction where
  | forward
  | backward
deriving DecidableEq, Repr

/-- How elements are moved. -/
inductive Pace where
  /-- One by one; either run has won so many times in a row. -/
  | walking (leftWins rightWins : Nat)
  | galloping
deriving DecidableEq, Repr

/-- Two runs on their way into one. -/
structure Merging (α : Type) where
  /-- What is left of the left run, that which is next in the direction of the merge first. -/
  left : List α
  /-- What is left of the right run, likewise. -/
  right : List α
  /-- What is moved, the latest first. -/
  moved : List α
  pace : Pace
  /-- The number of wins in a row after which galloping begins. -/
  threshold : Nat

variable {ε α : Type} (below : α → α → Except ε Bool) (d : Direction)

/-- Does a list have at most one element? -/
def hasAtMostOne : List α → Bool
  | _ :: _ :: _ => false
  | _ => true

/-- The number of elements to move at once, those first that are next in the direction of the merge:
forward the elements that pass a test, backward those that do not. -/
def reach (test : α → Except ε Bool) (l : List α) : Except ε Nat :=
  match d with
  | .forward => gallop test l.toArray 0
  | .backward => do return l.length - (← gallop test l.reverse.toArray (l.length - 1))

namespace Merging

/-- Move elements of the left run. -/
def takeLeft (m : Merging α) (count : Nat) : Merging α :=
  { m with left := m.left.drop count, moved := (m.left.take count).reverse ++ m.moved }

/-- Move elements of the right run. -/
def takeRight (m : Merging α) (count : Nat) : Merging α :=
  { m with right := m.right.drop count, moved := (m.right.take count).reverse ++ m.moved }

/-- Is the order of all elements known?  The last element of the left run comes last of all, and the
first one of the right run comes first of all. -/
def isDone (m : Merging α) : Bool :=
  match d with
  | .forward => m.right.isEmpty || hasAtMostOne m.left
  | .backward => m.left.isEmpty || hasAtMostOne m.right

/-- The merged run. -/
def result (m : Merging α) : List α :=
  match d with
  | .forward => m.moved.reverse ++ m.right ++ m.left
  | .backward => m.right.reverse ++ m.left.reverse ++ m.moved

/-- Move one element, and begin to gallop when one run has won often enough. -/
def walk (m : Merging α) (leftWins rightWins : Nat) : Except ε (Merging α) :=
  match m.left, m.right with
  | l :: _, r :: _ => do
    let isBelow ← below r l
    let leftIsNext : Bool := if isBelow then d = .backward else d = .forward
    let leftWins := if leftIsNext then leftWins + 1 else 0
    let rightWins := if leftIsNext then 0 else rightWins + 1
    let m := if leftIsNext then m.takeLeft 1 else m.takeRight 1
    if !m.isDone d && max leftWins rightWins ≥ m.threshold then
      return { m with pace := .galloping, threshold := m.threshold + 1 }
    else return { m with pace := .walking leftWins rightWins }
  | _, _ => .ok m

/-- Move what of the left run is next before the next element of the right run. -/
def gallopLeft (m : Merging α) : Except ε (Nat × Merging α) :=
  match m.right with
  | [] => .ok (0, m)
  | key :: _ => do
    let count ← reach d (fun a => do return !(← below key a)) m.left
    return (count, m.takeLeft count)

/-- Move what of the right run is next before the next element of the left run. -/
def gallopRight (m : Merging α) : Except ε (Nat × Merging α) :=
  match m.left with
  | [] => .ok (0, m)
  | key :: _ => do
    let count ← reach d (fun a => below a key) m.right
    return (count, m.takeRight count)

/-- Gallop through the left run and then through the right one, and walk on when neither has paid
off. -/
def gallopOnce (m : Merging α) : Except ε (Merging α) := do
  let (leftGain, m) ← { m with threshold := max 1 (m.threshold - 1) }.gallopLeft below d
  if m.isDone d then return m
  let m := m.takeRight 1
  if m.isDone d then return m
  let (rightGain, m) ← m.gallopRight below d
  if m.isDone d then return m
  let m := m.takeLeft 1
  if m.isDone d || max leftGain rightGain ≥ gallopGain then return m
  return { m with pace := .walking 0 0, threshold := m.threshold + 1 }

/-- Merge until the order of all elements is known, which takes one step for each at most. -/
def complete : (budget : Nat) → Merging α → Except ε (Merging α)
  | 0, m => .ok m
  | budget + 1, m => do
    if m.isDone d then return m
    match m.pace with
    | .walking leftWins rightWins => complete budget (← m.walk below d leftWins rightWins)
    | .galloping => complete budget (← m.gallopOnce below d)

end Merging

/-- Merge two parts, of which the right one begins with the first element of all, and the left one
ends with the last. -/
def mergeParts (threshold : Nat) (left right : List α) : Except ε (List α × Nat) := do
  let pace : Pace := .walking 0 0
  let (d, m) : Direction × Merging α :=
    if left.length ≤ right.length then
      (.forward, Merging.takeRight ⟨left, right, [], pace, threshold⟩ 1)
    else (.backward, Merging.takeLeft ⟨left.reverse, right.reverse, [], pace, threshold⟩ 1)
  let m ← m.complete below d (left.length + right.length)
  return (m.result d, m.threshold)

/-- Merge two runs.  The threshold for galloping is handed on. -/
def merge (threshold : Nat) (left right : List α) : Except ε (List α × Nat) :=
  match right with
  | [] => .ok (left, threshold)
  | first :: _ => do
    let start ← gallop (fun a => do return !(← below first a)) left.toArray 0
    match (left.drop start).getLast? with
    | none => return (left ++ right, threshold)
    | some last =>
      let stop ← gallop (fun a => below a last) right.toArray (right.length - 1)
      if stop = 0 then return (left ++ right, threshold)
      let (merged, threshold) ← mergeParts below threshold (left.drop start) (right.take stop)
      return (left.take start ++ merged ++ right.drop stop, threshold)

end Substance.Sorting
