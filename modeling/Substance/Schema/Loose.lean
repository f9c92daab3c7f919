import Substance.Json.Name
import Substance.Schema
import Substance.Sorting

/-!
# Loose schemas

A loose schema is what plain data says of a schema: types are named by values of any kind, each list
stands in the order in which it was given, and may repeat itself.  It is a schema when every name is
a text (`LooseSchema.schema?`).  Otherwise it can still be looked at, as far as its names have an
order.
-/

namespace Substance

/-- A schema whose types are named by values of plain data. -/
structure LooseSchema where
  types : List Json
  /-- Each direct subtype with its supertype. -/
  inclusions : List (Json × Json)
  predicates : List (String × Signature Json)

/-- The signature, when every type is named by a text. -/
def Signature.textual? : Signature Json → Option (Signature String)
  | .objects types => (types.mapM Json.text?).map .objects
  | .propositions => some .propositions

/-- The first ones of the elements that count as the same. -/
def distinct {α : Type} (isSame : α → α → Bool) (l : List α) : List α :=
  (l.foldl (fun found a => if found.any (isSame a) then found else a :: found) []).reverse

namespace LooseSchema

/-- The schema, when every name is a text. -/
def schema? (l : LooseSchema) : Option Schema := do
  let names ← l.types.mapM Json.text?
  let inclusions ← l.inclusions.mapM fun (child, parent) => do
    return Inclusion.mk (← child.text?) (← parent.text?)
  let signatures ← l.predicates.mapM fun (name, signature) => do
    return (name, ← signature.textual?)
  return ⟨.ofList names, .ofList inclusions, .ofList signatures⟩

/-- The names of the types, in order. -/
def typeNames (l : LooseSchema) : Except NameFault (List Json) :=
  Sorting.sort Json.isBefore (distinct Json.isSameName l.types)

/-- The inclusions, each once. -/
def distinctInclusions (l : LooseSchema) : List (Json × Json) :=
  distinct (fun p q => p.1.isSameName q.1 && p.2.isSameName q.2) l.inclusions

/-- The inclusions, in order. -/
def inclusionList (l : LooseSchema) : Except NameFault (List (Json × Json)) :=
  Sorting.sort Json.isPairBefore l.distinctInclusions

/-- The predicates, in the order of their names. -/
def predicateList (l : LooseSchema) : List (String × Signature Json) :=
  (Catalog.ofList l.predicates : Table (Signature Json)).entries

/-- A type and its direct subtypes, these in order. -/
def possibleTypes (l : LooseSchema) (type : Json) : Except NameFault (List Json) := do
  let children := l.distinctInclusions.filterMap fun (child, parent) =>
    if parent.isSameName type then some child else none
  return type :: (← Sorting.sort Json.isBefore children)

/-- The fault of a loose schema, unless it declares a type and every type has a name.  A value that
counts as false is no name. -/
def fault? (l : LooseSchema) : Option SchemaFault :=
  if l.types.isEmpty then some .noTypes
  else if l.types.all Json.isTruthy then none
  else some .unnamedType

end LooseSchema

end Substance
