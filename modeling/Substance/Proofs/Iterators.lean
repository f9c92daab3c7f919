import Substance.Batch

/-!
# Iterators over a domain

What an iterator answers says where it stands, over any domain, and what it collects is put together
from its answers.

* `advance_program`, `advance_stop_iff`: where an iterator stands that hands out a program, or stops.
* `programs_eq_collect`: a batch is what an iterator collects that has handed out nothing.
* `collect_congr`: iterators collect the same where programs are generated alike.
-/

namespace Substance.Batch

open Substance.Random

variable {σ : Type} [Source σ] {domain other : Domain} {setting : Setting}

/-! ## Answers -/

/-- An iterator that hands out a program goes on behind it. -/
theorem advance_program {done total : Nat} {g h : Generator σ} {p : Program} {it : Iterator}
    (hr : advance domain setting done total g = (.program p, it, h)) :
    done < total ∧ it = .running (done + 1) total := by
  rw [advance] at hr
  split at hr
  · next hlt =>
    split at hr
    · cases hr
      exact ⟨hlt, rfl⟩
    · cases hr
  · cases hr

/-- An iterator stops behind its last program, and not before. -/
theorem advance_stop_iff (domain : Domain) (setting : Setting) (done total : Nat)
    (g : Generator σ) : (advance domain setting done total g).1 = .stop ↔ total ≤ done := by
  rw [advance]
  split
  · next hlt =>
    refine iff_of_false (fun h => ?_) (Nat.not_le_of_gt hlt)
    split at h
    · cases h
    · cases h
  · next hle => exact iff_of_true rfl (Nat.le_of_not_gt hle)

/-- An iterator of which nothing was asked yet has handed out nothing. -/
theorem next_natCast (domain : Domain) (setting : Setting) (count : Nat) (g : Generator σ) :
    next domain setting (.waiting count) g = next domain setting (.running 0 count) g := by
  rw [next, if_neg (Int.not_lt.mpr (Int.natCast_nonneg count))]
  rfl

/-! ## What is collected -/

/-- An iterator that hands out a program collects it before the rest. -/
theorem collect_program {it it' : Iterator} {g h : Generator σ} {p : Program}
    (hn : next domain setting it g = (.program p, it', h))
    (budget : Nat) : (collect domain setting (budget + 1) it g).1 =
      (collect domain setting budget it' h).1.map (p :: ·) := by
  rw [collect, hn]

/-- An iterator that stops collects nothing. -/
theorem collect_stop {it : Iterator} {g : Generator σ}
    (hn : (next domain setting it g).1 = .stop) (budget : Nat) :
    (collect domain setting budget it g).1 = .ok [] := by
  cases budget with
  | zero => rfl
  | succ budget =>
    rw [collect]
    rcases hr : next domain setting it g with ⟨answer, it', h⟩
    rw [hr] at hn
    cases hn
    rfl

/-- A number of programs at once is what an iterator that has handed out nothing collects. -/
theorem programs_eq_collect (domain : Domain) (setting : Setting) (count : Nat)
    (g : Generator σ) : (programs domain setting count g).1 =
      (collect domain setting (count + 1) (.running 0 count) g).1 := by
  rw [programs, rest, remaining, Int.toNat_natCast, collect, collect, next_natCast]

/-! ## Domains that programs are generated alike over -/

/-- Iterators answer alike over domains that programs are generated alike over. -/
theorem next_congr (h : (Generator.addProgram domain setting : Generation σ Program) =
    Generator.addProgram other setting) (it : Iterator) (g : Generator σ) :
    next domain setting it g = next other setting it g := by
  have hadvance : ∀ done total, advance domain setting done total g =
      advance other setting done total g := by
    intro done total
    rw [advance, advance, h]
  cases it with
  | waiting count => rw [next, next, hadvance]
  | running done total => exact hadvance done total
  | exhausted => rfl

/-- Batches are alike over domains that programs are generated alike over. -/
theorem collect_congr (h : (Generator.addProgram domain setting : Generation σ Program) =
    Generator.addProgram other setting) (budget : Nat) (it : Iterator) (g : Generator σ) :
    collect domain setting budget it g = collect other setting budget it g := by
  induction budget generalizing it g with
  | zero => rfl
  | succ budget ih =>
    rw [collect, collect, next_congr h]
    split
    · rw [ih]
    · rfl
    · rfl

end Substance.Batch
