import Substance.Batch
import Substance.CommandLine.Arguments
import Substance.Domain.File
import Substance.Program.File
import Substance.Program.Printer

/-!
# Runs

A run loads a domain, generates programs one by one, writes each to its file as soon as it is there,
and prints what it did.  Whatever makes the domain, the settings or the number of programs unusable
is reported before anything is written.
-/

namespace Substance.CommandLine

open Substance.Random

/-- What makes a run end early. -/
inductive RunFault where
  /-- The environment sets a bad seed. -/
  | seed (fault : Defaults.SeedFault)
  | load (fault : LoadFault)
  | batch (fault : BatchFault)
  | storage (fault : StorageFault)
  /-- A field is needed that was left without a value. -/
  | noValue (field : Field)
deriving DecidableEq, Repr

/-- What is said of a field without a value where its value is needed. -/
def Field.noValueMessage : Field → String
  | .path => "expected str, bytes or os.PathLike object, not list"
  | .count => "'<' not supported between instances of 'list' and 'int'"
  | .minLength => "'<' not supported between instances of 'list' and 'int'"
  | .maxLength => "'>' not supported between instances of 'int' and 'list'"
  | .policy => "'list' object has no attribute 'lower'"
  | .seed => "The only supported seed types are: None,\nint, float, str, bytes, and bytearray."

namespace RunFault

/-- What is said of a fault. -/
def message : RunFault → String
  | .seed fault => fault.message
  | .load fault => fault.message
  | .batch fault => fault.message
  | .storage fault => fault.message
  | .noValue field => field.noValueMessage

/-- Is the fault one of the domain or of the request, which a run reports?  Any other fault breaks
the run off. -/
def isReported : RunFault → Bool
  | .load (.domain _) => true
  | .load _ => false
  | .batch (.generation (.name _)) => false
  | .batch _ => true
  | .seed _ => false
  | .storage _ => false
  | .noValue _ => false

end RunFault

/-- How a run ends. -/
inductive Ending where
  | exit (code : Nat)
  | abort (fault : RunFault)
deriving DecidableEq, Repr

/-! ## Reports -/

/-- The report of a skipped declaration. -/
def skippedReport (file : String) (number : Nat) (keyword : String) : String :=
  s!"[DEBUG] subsynth.domain: {file}:{number}: skipping unsupported '{keyword}' declaration"

/-- The report of what happened in a generator. -/
def eventReport : Event → String
  | .started headerCount bodyCount =>
    "[DEBUG] subsynth.generator: program: " ++
      s!"{headerCount} type declarations, {bodyCount} body statements"
  | .declared typeName name => s!"[DEBUG] subsynth.generator: declared {typeName} {name}"
  | .noneDeclared typeName =>
    s!"[DEBUG] subsynth.generator: no object of type {typeName} yet, declaring one"
  | .finished index total length =>
    s!"[DEBUG] subsynth: program {index}/{total}: {length} statements"

/-- The announcement of a program and its file. -/
def announcement (file : Path) (program : Program) : String :=
  s!"Generated new program ({file.toString}):\n{program.format}\n"

/-- The closing line of a run. -/
def summary (count : Nat) (directory : Path) : String :=
  s!"Wrote {count} program(s) to {directory.toString}\n"

/-- What is printed when help is asked for. -/
def usage : String :=
  "usage: [-h] [--path DIRECTORY] [--num-programs N] [--min-length N] [--max-length N]\n" ++
  "       [--arg-option existing|generated|mixed] [--seed N] [--quiet] [--debug] domain\n"

/-! ## The run -/

variable {m : Type → Type} [Monad m] [Host m]

/-- Report lines when that is asked for. -/
def debug (a : Arguments) (reports : List String) : m Unit := do
  if a.debug then
    for line in reports do
      Host.report (line ++ "\n")

/-- Go on with what an operation of the host gives, or end the run. -/
def attempt {ε α : Type} (wrap : ε → RunFault) (operation : m (Except ε α)) :
    ExceptT RunFault m α := ExceptT.mk do return (← operation).mapError wrap

/-- Go on with an outcome, or end the run. -/
def settle {ε α : Type} (wrap : ε → RunFault) (outcome : Except ε α) : ExceptT RunFault m α :=
  ExceptT.mk (pure (outcome.mapError wrap))

/-- Load the domain that is asked for. -/
def loadDomain (a : Arguments) : ExceptT RunFault m Domain := do
  let file := Path.ofString a.domain
  let text ← settle .load (Domain.textOf file (← Host.readFile (m := m) file))
  debug (m := m) a ((Domain.skippedInFile file text).map fun entry =>
    skippedReport file.toString entry.1 entry.2)
  settle (fun fault => .load (.domain fault)) (Domain.ofText file text)

/-- The value of a field, where it is needed. -/
def demand {α : Type} (field : Field) : Option α → Except RunFault α
  | some value => .ok value
  | none => .error (.noValue field)

/-- The setting that is asked for and the generator for it, when domain and setting are fit for
generation.  Each value is looked at when its turn comes. -/
def prepare (a : Arguments) (domain : Domain) : Except RunFault (Setting × Generator Twister) := do
  let policy ← demand .policy a.policy
  if let some fault := domain.fault? then
    throw (.batch (.schema fault))
  let minLength ← demand .minLength a.minLength
  if minLength < 0 then
    throw (.batch (.setting (.negativeMinimum minLength)))
  let maxLength ← demand .maxLength a.maxLength
  let setting : Setting := { minLength, maxLength, policy }
  if let some fault := setting.fault? then
    throw (.batch (.setting fault))
  let seed ← demand .seed a.seed
  return (setting, .new (.ofSeed seed))

/-- The number of programs that is asked for. -/
def programCount (a : Arguments) : Except RunFault Nat := do
  let count ← demand .count a.count
  if count < 0 then
    throw (.batch (.negativeCount count))
  return count.toNat

/-- Write programs to their files until the iterator stops, at most `budget` of them, and count
those written. -/
def writePrograms (a : Arguments) (domain : Domain) (setting : Setting) (directory : Path)
    (written : Nat) : (budget : Nat) → Iterator → Generator Twister → ExceptT RunFault m Nat
  | 0, _, _ => return written
  | budget + 1, it, g => do
    let step := Batch.next domain setting it g.dropJournal
    debug (m := m) a (step.2.2.journal.toList.map eventReport)
    match step.1 with
    | .stop => return written
    | .fault fault => throw (.batch fault)
    | .program program =>
      let file := programFile directory (written + 1)
      attempt (fun cause => .storage ⟨cause, file⟩)
        (Host.writeFile file (Text.Utf8.encode program.format))
      if !a.quiet then
        Host.print (m := m) (announcement file program)
      writePrograms a domain setting directory (written + 1) budget step.2.1 step.2.2

/-- Do what is asked for. -/
def execute (a : Arguments) : ExceptT RunFault m Unit := do
  let domain ← loadDomain a
  let prepared ← settle id (prepare a domain)
  let count ← settle id (programCount a)
  let directory ← settle id ((demand .path a.directory).map Path.ofString)
  attempt .storage (ensureDirectory directory)
  let written ← writePrograms a domain prepared.1 directory 0 count (.waiting count) prepared.2
  Host.print (m := m) (summary written (directory.absolute (← Host.workingDirectory (m := m))))

/-- Run a command line in an environment.  The times at the head of reported lines are left out, and
so is the trace of calls that follows the line of an error when reports are asked for. -/
def run (environment : String → Option String) (words : List String) : m Ending := do
  match Defaults.ofEnvironment environment with
  | .error fault => return .abort (.seed fault)
  | .ok defaults =>
    match Arguments.parse defaults words with
    | .error .help =>
      Host.print usage
      return .exit 0
    | .error (.usage fault) =>
      Host.report s!"error: {fault.message}\n"
      return .exit 2
    | .ok a =>
      match ← (execute a).run with
      | .ok () => return .exit 0
      | .error fault =>
        if fault.isReported then
          Host.report s!"Error: {fault.message}\n"
          return .exit 1
        else return .abort fault

end Substance.CommandLine
