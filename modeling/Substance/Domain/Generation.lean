import Substance.Domain
import Substance.Generator
import Substance.Json.Display

/-!
# Programs over a domain

A program opens with one or two declarations; the statements of its body follow.  Where a domain
names some type by a value that is no text, generation fails as soon as an object of that type is to
be declared or looked for.
-/

namespace Substance

open Substance.Random

/-- What a body statement does. -/
inductive StatementKind where
  | application
  | declaration
deriving DecidableEq, Repr

/-- The kinds of statement that a domain allows: predicates are applied when there are any. -/
def Domain.statementKinds (d : Domain) : List StatementKind :=
  if d.hasPredicates then [.application, .declaration] else [.declaration]

namespace Generator

variable {σ : Type}

/-- Go on with an outcome, or fail for a name. -/
def settle {α : Type} (outcome : Except NameFault α) : Generation σ α := fun g =>
  match outcome with
  | .ok a => .ok a g
  | .error e => .error (.name e) g

/-! ## Types that plain data names -/

/-- Declare a new object of this type, or of one of its direct subtypes where that is allowed. -/
def declareWithin [Source σ] (domain : Domain) (type : Json) : Generality → Generation σ Statement
  | .concrete => do declare (← settle type.asTypeName)
  | .general => do
    let types ← settle (domain.possibleTypes type)
    declare (← settle (← draw (choose types)).asTypeName)

/-- Declare an object, then choose among all of its type. -/
def newArgumentFor [Source σ] (type : Json) : Generation σ String := do
  newArgument (← settle type.asTypeName)

/-- Choose among the objects of a type, or declare the first one. -/
def oldArgumentFor [Source σ] (type : Json) : Generation σ String := do
  match ← settle type.asKey with
  | some type => oldArgument type
  | none =>
    modify (note (.noneDeclared type.display))
    newArgumentFor type

/-- Find an argument of a type. -/
def argumentFor [Source σ] (policy : Policy) (type : Json) : Generation σ String :=
  byPolicy (oldArgumentFor type) (newArgumentFor type) policy

end Generator

/-! ## Statements and programs -/

namespace Domain

variable {σ : Type} [Source σ]

/-- Declare an object of a type of the domain. -/
def declareAny : Domain → Generation σ Statement
  | .schema s => Generator.declareAny s
  | .loose l => do
    let types ← Generator.settle l.typeNames
    Generator.declare (← Generator.settle (← Generator.draw (choose types)).asTypeName)

/-- Apply a predicate of the domain. -/
def applyAny (policy : Policy) : Domain → Generation σ Statement
  | .schema s => Generator.applyAny s policy
  | .loose l => Generator.applyOneOf (Generator.argumentFor policy) l.predicateList

end Domain

namespace Generator

variable {σ : Type} [Source σ]

/-- Add a body statement. -/
def addStatement (domain : Domain) (policy : Policy) : Generation σ Statement := do
  match ← draw (choose domain.statementKinds) with
  | .application => domain.applyAny policy
  | .declaration => domain.declareAny

/-- Do the same a number of times. -/
def times {α : Type} (m : Generation σ α) : Nat → Generation σ Unit
  | 0 => return ()
  | n + 1 => do
    let _ ← m
    times m n

/-- Add the statements of a program to the draft, and finish it. -/
def addProgram (domain : Domain) (setting : Setting) : Generation σ Program := do
  let headerCount ← draw (drawInt headerRange.1 headerRange.2)
  let bodyCount ← draw (drawInt setting.minLength setting.maxLength)
  modify (note (.started headerCount bodyCount))
  times domain.declareAny headerCount.toNat
  times (addStatement domain setting.policy) bodyCount.toNat
  return (← get).draft.finish headerCount bodyCount

end Generator

end Substance
