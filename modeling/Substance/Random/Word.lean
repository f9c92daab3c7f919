/-!
# Uniform numbers from random words

A stream of 32-bit words gives numbers of any width and, by rejection, numbers below any bound.  A
candidate below the bound is equally likely to be any of them, and one that is not is drawn again.
-/

namespace Substance.Random

/-- A stream of 32-bit words. -/
class WordSource (σ : Type) where
  next : σ → UInt32 × σ

variable {σ : Type} [WordSource σ]

/-- A number of `width` bits.  Words fill it from its least significant end, 32 bits each, and the
last one gives its highest bits to what remains. -/
def bits (width : Nat) (s : σ) : Nat × σ :=
  let word := WordSource.next s
  if width ≤ 32 then (word.1.toNat >>> (32 - width), word.2)
  else
    let high := bits (width - 32) word.2
    (word.1.toNat + UInt32.size * high.1, high.2)
termination_by width

/-- The number of binary digits of a number. -/
def bitLength (n : Nat) : Nat := if n = 0 then 0 else n.log2 + 1

/-- One attempt to draw a number up to `top`: a candidate of as many bits as `top + 1` has.  It is
refused when it is above `top`. -/
def tryUpTo (top : Nat) (s : σ) : σ ⊕ (Fin (top + 1) × σ) :=
  let candidate := bits (bitLength (top + 1)) s
  if h : candidate.1 < top + 1 then .inr (⟨candidate.1, h⟩, candidate.2) else .inl candidate.2

/-- Draw a number up to `top`: attempts until one is not refused.  Where all are refused the draw
does not end, and which number stands for its outcome is left open. -/
def upTo (top : Nat) (s : σ) : Fin (top + 1) × σ :=
  haveI : Nonempty σ := ⟨s⟩
  Id.run (repeatM (m := Id) (tryUpTo top) s)

/-- A draw begins with an attempt, and goes on where this is refused. -/
theorem upTo_eq (top : Nat) (s : σ) : upTo top s = (tryUpTo top s).elim (upTo top) id := by
  have : Nonempty σ := ⟨s⟩
  rw [upTo, repeatM_eq_of_monadTail, repeatM.body, Id.run_bind]
  cases tryUpTo top s <;> rfl

end Substance.Random
