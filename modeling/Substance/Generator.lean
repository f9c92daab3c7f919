import Substance.Json.Name
import Substance.Names
import Substance.Program
import Substance.Random.Draw
import Substance.Schema
import Substance.Setting

/-!
# The generator

A generator draws statements over a schema.  A statement declares an object of some type, or applies
some predicate; before the latter, objects may be declared for its arguments.  Every statement is
added to the draft when it is complete, so a call that fails for want of types or predicates leaves
names and draft as they were.
-/

namespace Substance

open Substance.Random

/-- What happens in a generator, for those who follow it. -/
inductive Event where
  /-- The counts of a new program were drawn. -/
  | started (headerCount bodyCount : Int)
  /-- An object was declared. -/
  | declared (type name : String)
  /-- An object was wanted of a type that has none. -/
  | noneDeclared (type : String)
  /-- A program of a batch was finished. -/
  | finished (index total length : Nat)
deriving DecidableEq, Repr

/-- The state of a generator: its source of draws, the names and statements of the program under
way, and what happened so far. -/
structure Generator (σ : Type) where
  source : σ
  names : Registry
  draft : Draft
  journal : Array Event

/-- The bounds of the number of declarations that open a program. -/
def headerRange : Int × Int := (1, 2)

/-- Why nothing is generated. -/
inductive GenerationFault where
  | draw (fault : DrawFault)
  /-- A type has a name that does not serve. -/
  | name (fault : NameFault)
deriving DecidableEq, Repr

/-- What is said of a fault. -/
def GenerationFault.message : GenerationFault → String
  | .draw fault => fault.message
  | .name fault => fault.message

/-- A computation on the state of a generator, which a failure keeps. -/
abbrev Generation (σ α : Type) := EStateM GenerationFault (Generator σ) α

namespace Generator

variable {σ : Type}

/-- A generator with no names and no statements. -/
def new (source : σ) : Generator σ := ⟨source, .empty, .empty, #[]⟩

/-- Forget names and statements; the source goes on. -/
def reset (g : Generator σ) : Generator σ := { g with names := .empty, draft := .empty }

/-- Forget what happened. -/
def dropJournal (g : Generator σ) : Generator σ := { g with journal := #[] }

/-- Note what happens. -/
def note (e : Event) (g : Generator σ) : Generator σ := { g with journal := g.journal.push e }

/-- Add a statement to the draft. -/
def append (s : Statement) (g : Generator σ) : Generator σ := { g with draft := g.draft.append s }

/-- Draw from the generator's source. -/
def draw {α : Type} (d : Draw σ α) : Generation σ α := fun g =>
  match d g.source with
  | .ok a source => .ok a { g with source }
  | .error e source => .error (.draw e) { g with source }

/-! ## Declarations -/

/-- Declare a new object of exactly this type. -/
def declare (type : String) : Generation σ Statement := fun g =>
  let given := g.names.fresh type
  let statement := .declaration type given.1 []
  .ok statement (({ g with names := given.2 }.append statement).note (.declared type given.1))

/-- Declare an object of a type of the schema. -/
def declareAny [Source σ] (schema : Schema) : Generation σ Statement := do
  declare (← draw (choose schema.typeNames))

/-! ## Arguments -/

/-- Choose among the objects of a type. -/
def chooseDeclared [Source σ] (type : String) : Generation σ String := do
  draw (choose ((← get).names.declaredOf type))

/-- Declare an object, then choose among all of its type. -/
def newArgument [Source σ] (type : String) : Generation σ String := do
  let _ ← declare type
  chooseDeclared type

/-- Choose among the objects of a type, or declare the first one. -/
def oldArgument [Source σ] (type : String) : Generation σ String := do
  if ((← get).names.declaredOf type).isEmpty then
    modify (note (.noneDeclared type))
    newArgument type
  else chooseDeclared type

/-- Go the way of the policy, between finding an old argument and a new one. -/
def byPolicy [Source σ] (old new : Generation σ String) : Policy → Generation σ String
  | .existing => old
  | .generated => new
  | .mixed => do if ← draw (choose [true, false]) then old else new

/-- Find an argument of a type. -/
def argument [Source σ] (policy : Policy) (type : String) : Generation σ String :=
  byPolicy (oldArgument type) (newArgument type) policy

/-- Find the arguments of a predicate, in order.  Propositions are not generated. -/
def predicateArguments {ν : Type} (find : ν → Generation σ String) :
    Signature ν → Generation σ (List String)
  | .objects types => types.mapM find
  | .propositions => return []

/-! ## Applications -/

/-- Apply one of the predicates. -/
def applyOneOf [Source σ] {ν : Type} (find : ν → Generation σ String)
    (predicates : List (String × Signature ν)) : Generation σ Statement := do
  let (name, signature) ← draw (choose predicates)
  let statement := Statement.application name (← predicateArguments find signature)
  modify (append statement)
  return statement

/-- Apply a predicate of the schema. -/
def applyAny [Source σ] (schema : Schema) (policy : Policy) : Generation σ Statement :=
  applyOneOf (argument policy) schema.predicateList

end Generator

end Substance
