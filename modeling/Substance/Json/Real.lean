/-!
# Real numbers of plain data

A number that is not written as an integer is kept as it is written.  What it amounts to is the
double that it rounds to.  Every finite double is a whole number of units of `2 ^ -1074`, so doubles
are compared with each other and with integers in these units.
-/

namespace Substance

/-- A number that is not written as an integer. -/
inductive Json.Real where
  /-- `digits · 10 ^ exponent`, or its opposite.  Zero has both signs. -/
  | decimal (negative : Bool) (digits : Nat) (exponent : Int)
  | infinity (negative : Bool)
  | nan
deriving DecidableEq, Repr

/-- What a number amounts to. -/
inductive Magnitude where
  /-- So many units of `2 ^ -1074`. -/
  | finite (units : Int)
  | infinite (negative : Bool)
  | undefined
deriving DecidableEq, Repr

namespace Magnitude

/-- The number of units in one. -/
def one : Nat := Nat.pow 2 1074

/-- The quotient of two numbers, to the nearest integer.  A tie goes to the even one. -/
def roundDiv (n d : Nat) : Nat :=
  let q := n / d
  if 2 * (n % d) < d then q
  else if 2 * (n % d) = d ∧ q % 2 = 0 then q
  else q + 1

/-- The quotient of two numbers of units, to the nearest that has 53 significant bits. -/
def roundUnits (n d : Nat) : Nat :=
  let excess := Nat.log2 (n / d) - 52
  roundDiv n (d * Nat.pow 2 excess) * Nat.pow 2 excess

/-- The units of `digits · 10 ^ exponent`, rounded. -/
def decimalUnits (digits : Nat) (exponent : Int) : Nat :=
  roundUnits (digits * Nat.pow 10 exponent.toNat * one) (Nat.pow 10 (-exponent).toNat)

/-- Do units go beyond the greatest double? -/
def isTooLarge (units : Nat) : Bool := units ≥ Nat.pow 2 1024 * one

/-- The magnitude of a number of units with a sign. -/
def ofUnits (negative : Bool) (units : Nat) : Magnitude :=
  if isTooLarge units then .infinite negative
  else .finite (if negative then -units else units)

/-- The magnitude of an integer, which is not rounded. -/
def ofInt (n : Int) : Magnitude := .finite (n * one)

/-- Is one magnitude less than another? -/
def isBelow : Magnitude → Magnitude → Bool
  | .undefined, _ | _, .undefined => false
  | .infinite negative, .infinite other => negative && !other
  | .infinite negative, .finite _ => negative
  | .finite _, .infinite negative => !negative
  | .finite m, .finite n => m < n

end Magnitude

/-- What a real number amounts to.  One that is far above or far below all doubles is decided by its
order of magnitude. -/
def Json.Real.magnitude : Json.Real → Magnitude
  | .nan => .undefined
  | .infinity negative => .infinite negative
  | .decimal negative digits exponent =>
    let order := exponent + (Nat.toDigits 10 digits).length
    if digits = 0 ∨ order < -400 then .finite 0
    else if order > 400 then .infinite negative
    else .ofUnits negative (Magnitude.decimalUnits digits exponent)

/-- Is the number told from zero? -/
def Json.Real.isNonzero (r : Json.Real) : Bool := r.magnitude ≠ .finite 0

end Substance
