import Substance.Random.Twister

/-!
# Draws

Everything random is drawn from one source of uniform numbers: an integer between two bounds, or
one element of a list.  A draw that fails takes nothing from the source.
-/

namespace Substance.Random

/-- A source of uniform draws from `0, …, top`. -/
class Source (σ : Type) where
  draw : (top : Nat) → σ → Fin (top + 1) × σ

/-- A stream of words is a source of uniform draws. -/
instance {σ : Type} [WordSource σ] : Source σ := ⟨upTo⟩

/-- Why a draw has no outcome. -/
inductive DrawFault where
  | emptyRange (low high : Int)
  | emptyChoice
deriving DecidableEq, Repr

/-- What is said of a failed draw. -/
def DrawFault.message : DrawFault → String
  | .emptyRange low high => s!"cannot draw from empty range [{low}, {high}]"
  | .emptyChoice => "cannot choose from an empty sequence"

variable {σ α : Type} [Source σ]

/-- A computation that draws from a source. -/
abbrev Draw (σ α : Type) := EStateM DrawFault σ α

/-- A uniform integer from `low` to `high`, both included.  A fault tells the bounds in full: a limit
on the digits of printed integers is left out. -/
def drawInt (low high : Int) : Draw σ Int := fun s =>
  if low ≤ high then
    let d := Source.draw (high - low).toNat s
    .ok (low + d.1.val) d.2
  else .error (.emptyRange low high) s

/-- A uniform element of a list. -/
def choose : List α → Draw σ α
  | [] => fun s => .error .emptyChoice s
  | a :: rest => fun s =>
    let d := Source.draw rest.length s
    .ok ((a :: rest)[d.1]) d.2

end Substance.Random
