import Substance.Schema.Plain

/-!
# Domains

The domain of a program is a schema, or a loose one when plain data gives some type a name that is
no text.  Both are looked at in the same way.
-/

namespace Substance

/-- What programs are written over. -/
inductive Domain where
  | schema (s : Schema)
  /-- A schema with a name that is no text. -/
  | loose (l : LooseSchema)

/-- A schema is a domain. -/
instance : Coe Schema Domain := ⟨.schema⟩

/-- The signature with its types as plain data. -/
def Signature.toPlain : Signature String → Signature Json
  | .objects types => .objects (types.map .text)
  | .propositions => .propositions

namespace Domain

/-- The domain of a loose schema. -/
def ofLoose (l : LooseSchema) : Domain :=
  match l.schema? with
  | some s => .schema s
  | none => .loose l

/-- The domain that plain data describes. -/
def ofPlain (data : Json) : Except PlainFault Domain := ofLoose <$> LooseSchema.ofPlain data

/-- The names of the types, in order. -/
def typeNames : Domain → Except NameFault (List Json)
  | .schema s => .ok (s.typeNames.map .text)
  | .loose l => l.typeNames

/-- The direct subtypes with their supertypes, in order. -/
def inclusionList : Domain → Except NameFault (List (Json × Json))
  | .schema s => .ok (s.inclusions.entries.map fun i => (.text i.child, .text i.parent))
  | .loose l => l.inclusionList

/-- The predicates, in the order of their names. -/
def predicateList : Domain → List (String × Signature Json)
  | .schema s => s.predicateList.map fun p => (p.1, p.2.toPlain)
  | .loose l => l.predicateList

/-- Is there a predicate? -/
def hasPredicates : Domain → Bool
  | .schema s => !s.predicates.isEmpty
  | .loose l => !l.predicates.isEmpty

/-- A type and its direct subtypes, these in order. -/
def possibleTypes : Domain → Json → Except NameFault (List Json)
  | .schema s, .text t => .ok ((s.possibleTypes t).map .text)
  | .schema _, t => .ok [t]
  | .loose l, t => l.possibleTypes t

/-- The fault of a domain, unless it declares a type and every type has a name. -/
def fault? : Domain → Option SchemaFault
  | .schema s => s.fault?
  | .loose l => l.fault?

end Domain

end Substance
