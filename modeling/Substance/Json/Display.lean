import Substance.Json.Basic

/-!
# How single values are shown

A report shows a value that is no collection by a word or by a numeral.  A real number has the
fewest digits from which it is read back, and of these the nearest to it.  It is written
positionally from `0.0001` up to below `10 ^ 16`, otherwise with a signed exponent.
-/

namespace Substance

namespace Magnitude

/-- The decimals with a number of digits that are read back as these units, of the two next to them
on the grid of the last digit.  The nearer one is taken, and the even one of two equally near. -/
def decimal? (units : Nat) (exponent : Int) : Option (Nat × Int) :=
  let n := units * Nat.pow 10 (-exponent).toNat
  let d := one * Nat.pow 10 exponent.toNat
  let near := roundDiv n d
  let far := if near = n / d then n / d + 1 else n / d
  if decimalUnits near exponent = units then some (near, exponent)
  else if decimalUnits far exponent = units then some (far, exponent)
  else none

/-- The least power of ten above these units. -/
def order (units : Nat) : Int := (Nat.toDigits 10 (units * Nat.pow 10 324 / one)).length - 324

/-- The shortest decimal that is read back as these units.  Seventeen digits always are. -/
def shortest (units : Nat) : Nat × Int :=
  ((List.range 17).findSome? fun n =>
    decimal? units (order units - (n + 1 : Nat))).getD (0, 0)

/-- A text of zeros. -/
def zeros (count : Int) : List Char := List.replicate count.toNat '0'

/-- Write a number by its significant digits and the place of its point among them. -/
def layOut (digits : List Char) (point : Int) : List Char :=
  if -4 < point ∧ point ≤ 16 then
    if point ≤ 0 then '0' :: '.' :: zeros (-point) ++ digits
    else
      let whole := digits.take point.toNat ++ zeros (point - digits.length)
      match digits.drop point.toNat with
      | [] => whole ++ ['.', '0']
      | fraction => whole ++ '.' :: fraction
  else
    let head := match digits with
      | first :: second :: rest => first :: '.' :: second :: rest
      | few => few
    let exponent := Nat.toDigits 10 (point - 1).natAbs
    head ++ 'e' :: (if point - 1 < 0 then '-' else '+') :: zeros (2 - exponent.length) ++ exponent

/-- Write units. -/
def display (units : Nat) : List Char :=
  if units = 0 then ['0', '.', '0']
  else
    let decimal := shortest units
    let digits := Nat.toDigits 10 decimal.1
    layOut (digits.reverse.dropWhile (· = '0')).reverse (decimal.2 + digits.length)

end Magnitude

namespace Json

/-- How a real number is shown.  A zero keeps its sign. -/
def Real.display (r : Real) : String :=
  let negative := match r with
    | .decimal negative _ _ => negative
    | _ => false
  match r.magnitude with
  | .undefined => "nan"
  | .infinite negative => if negative then "-inf" else "inf"
  | .finite units =>
    (if negative then "-" else "") ++ String.ofList (Magnitude.display units.natAbs)

/-- How a value that is no collection is shown. -/
def display : Json → String
  | .null => "None"
  | .bool true => "True"
  | .bool false => "False"
  | .integer n => toString n
  | .real r => r.display
  | .text s => s
  | .array _ | .object _ => ""

end Json

end Substance
