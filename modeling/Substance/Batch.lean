import Substance.Domain.Generation

/-!
# Batches

A batch is a row of independent programs from one source of draws.  Programs are handed out one at a
time by iterators, which may be interleaved: each program is generated when it is asked for, and the
generator is cleared after it.
-/

namespace Substance

open Substance.Random

/-- Why a batch cannot be generated. -/
inductive BatchFault where
  | schema (fault : SchemaFault)
  | setting (fault : SettingFault)
  | negativeCount (count : Int)
  | generation (fault : GenerationFault)
deriving DecidableEq, Repr

/-- What is said of a fault. -/
def BatchFault.message : BatchFault → String
  | .schema fault => fault.message
  | .setting fault => fault.message
  | .negativeCount n => s!"number of programs must not be negative (got {n})"
  | .generation fault => fault.message

/-- A request for a number of programs, and how far it is met. -/
inductive Iterator where
  /-- Nothing was asked of it yet. -/
  | waiting (count : Int)
  | running (done total : Nat)
  | exhausted
deriving DecidableEq, Repr

/-- What an iterator answers. -/
inductive Answer where
  | program (p : Program)
  | stop
  | fault (f : BatchFault)
deriving DecidableEq, Repr

namespace Batch

variable {σ : Type} [Source σ]

/-- Are domain and setting fit for generation? -/
def check (domain : Domain) (setting : Setting) : Except BatchFault Unit :=
  match domain.fault?, setting.fault? with
  | some fault, _ => .error (.schema fault)
  | none, some fault => .error (.setting fault)
  | none, none => .ok ()

/-- The generator for a seed, when domain and setting are fit for generation. -/
def prepare (domain : Domain) (setting : Setting) (seed : Int) :
    Except BatchFault (Generator Twister) := do
  check domain setting
  return .new (.ofSeed seed)

/-- Generate the program after the first `done` of `total`, and clear the generator. -/
def advance (domain : Domain) (setting : Setting) (done total : Nat) (g : Generator σ) :
    Answer × Iterator × Generator σ :=
  if done < total then
    match g.addProgram domain setting with
    | .ok p g =>
      (.program p, .running (done + 1) total,
        g.reset.note (.finished (done + 1) total p.length))
    | .error e g => (.fault (.generation e), .exhausted, g.reset)
  else (.stop, .exhausted, g)

/-- Ask an iterator for its next program.  A negative number is told in full: a limit on the digits
of printed integers is left out. -/
def next (domain : Domain) (setting : Setting) (it : Iterator) (g : Generator σ) :
    Answer × Iterator × Generator σ :=
  match it with
  | .waiting count =>
    if count < 0 then (.fault (.negativeCount count), .exhausted, g)
    else advance domain setting 0 count.toNat g
  | .running done total => advance domain setting done total g
  | .exhausted => (.stop, .exhausted, g)

/-- Ask an iterator for programs until it stops, at most `budget` times. -/
def collect (domain : Domain) (setting : Setting) :
    (budget : Nat) → Iterator → Generator σ →
      Except BatchFault (List Program) × Iterator × Generator σ
  | 0, it, g => (.ok [], it, g)
  | budget + 1, it, g =>
    match next domain setting it g with
    | (.program p, it, g) =>
      let rest := collect domain setting budget it g
      (rest.1.map (p :: ·), rest.2)
    | (.stop, it, g) => (.ok [], it, g)
    | (.fault f, it, g) => (.error f, it, g)

/-- The number of programs that an iterator still has. -/
def remaining : Iterator → Nat
  | .waiting count => count.toNat
  | .running done total => total - done
  | .exhausted => 0

/-- Ask an iterator for all that it still has. -/
def rest (domain : Domain) (setting : Setting) (it : Iterator) (g : Generator σ) :
    Except BatchFault (List Program) × Iterator × Generator σ :=
  collect domain setting (remaining it + 1) it g

/-- Generate a number of programs at once. -/
def programs (domain : Domain) (setting : Setting) (count : Int) (g : Generator σ) :
    Except BatchFault (List Program) × Generator σ :=
  let outcome := rest domain setting (.waiting count) g
  (outcome.1, outcome.2.2)

end Batch

/-- The batch of a domain, a setting, a number of programs and a seed. -/
def generatePrograms (domain : Domain) (setting : Setting) (count seed : Int) :
    Except BatchFault (List Program) := do
  let g ← Batch.prepare domain setting seed
  (Batch.programs domain setting count g).1

end Substance
