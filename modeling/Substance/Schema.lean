import Substance.Catalog

/-!
# Schemas

A schema is the vocabulary of a domain: its types, which of them are direct subtypes of which, and
its predicates with their arguments.  Members stand in the order of their names, so a schema does
not depend on the order in which it was put together.
-/

namespace Substance

/-- A direct subtype and its supertype. -/
structure Inclusion where
  child : String
  parent : String
deriving DecidableEq, Repr

/-- Inclusions are ordered by their subtypes first. -/
instance : LT Inclusion :=
  ⟨fun a b => a.child < b.child ∨ (a.child = b.child ∧ a.parent < b.parent)⟩

instance : DecidableLT Inclusion := fun a b =>
  inferInstanceAs (Decidable (a.child < b.child ∨ (a.child = b.child ∧ a.parent < b.parent)))

/-- The order of inclusions compares any two of them. -/
instance : KeyOrder Inclusion where
  irrefl a h := h.elim (String.lt_irrefl _) fun h => String.lt_irrefl _ h.2
  trans {a b c} hab hbc := by
    rcases hab with hab | ⟨hab, hp⟩ <;> rcases hbc with hbc | ⟨hbc, hq⟩
    · exact .inl (String.lt_trans hab hbc)
    · exact .inl (hbc ▸ hab)
    · exact .inl (hab ▸ hbc)
    · exact .inr ⟨hab.trans hbc, String.lt_trans hp hq⟩
  eq_of_not_lt {a b} hab hba := by
    have hc : a.child = b.child :=
      KeyOrder.eq_of_not_lt (fun h => hab (.inl h)) (fun h => hba (.inl h))
    have hp : a.parent = b.parent :=
      KeyOrder.eq_of_not_lt (fun h => hab (.inr ⟨hc, h⟩)) (fun h => hba (.inr ⟨hc.symm, h⟩))
    cases a; cases b; cases hc; cases hp; rfl

/-- What a predicate applies to, where types are named in some way. -/
inductive Signature (ν : Type) where
  /-- To objects of these types. -/
  | objects (types : List ν)
  /-- To propositions; nothing is known of its arguments. -/
  | propositions
deriving DecidableEq, Repr

/-- The vocabulary of a domain. -/
structure Schema where
  types : NameSet
  inclusions : Catalog (fun i : Inclusion => i)
  predicates : Table (Signature String)
deriving DecidableEq, Repr

/-- What makes a schema unusable. -/
inductive SchemaFault where
  | noTypes
  | unnamedType
deriving DecidableEq, Repr

/-- What is said of an unusable schema. -/
def SchemaFault.message : SchemaFault → String
  | .noTypes => "the domain declares no types to generate objects from"
  | .unnamedType => "the domain declares a type with an empty name"

namespace Schema

/-- The schema without members. -/
def empty : Schema := ⟨∅, ∅, ∅⟩

instance : Inhabited Schema := ⟨empty⟩

/-- Declare a type. -/
def addType (s : Schema) (name : String) : Schema := { s with types := s.types.put name }

/-- Make one type a direct subtype of another. -/
def addInclusion (s : Schema) (child parent : String) : Schema :=
  { s with inclusions := s.inclusions.put ⟨child, parent⟩ }

/-- Declare a predicate, in place of one of the same name. -/
def addPredicate (s : Schema) (name : String) (signature : Signature String) :
    Schema :=
  { s with predicates := s.predicates.set name signature }

/-- The names of the declared types, in order. -/
def typeNames (s : Schema) : List String := s.types.entries

/-- The declared predicates, in the order of their names. -/
def predicateList (s : Schema) : List (String × Signature String) := s.predicates.entries

/-- A type and its direct subtypes, these in order. -/
def possibleTypes (s : Schema) (typeName : String) : List String :=
  typeName :: (s.inclusions.entries.filter fun i => i.parent = typeName).map (·.child)

/-- The fault of a schema, unless it declares a type and every type has a name. -/
def fault? (s : Schema) : Option SchemaFault :=
  if s.types.isEmpty then some .noTypes
  else if "" ∈ s.typeNames then some .unnamedType
  else none

end Schema

end Substance
