import Substance.Schema

/-!
# Schemas as they are stored

A stored schema keeps a record of each type and of each predicate, which says its name once more and,
of a type, how many arguments its constructor takes.  Only a record that stands under its own name,
without constructor arguments, is one that a schema has (`SchemaRecord.Keyed`).
-/

namespace Substance

/-- Change the entries of a catalog, but not their keys. -/
def Catalog.map {α β κ : Type} [LT κ] {key : α → κ} {key' : β → κ} (c : Catalog key) (f : α → β)
    (hf : ∀ a, key' (f a) = key a) : Catalog key' where
  entries := c.entries.map f
  increasing := List.pairwise_map.mpr (c.increasing.imp fun h => by rwa [hf, hf])

/-- The entries are those that the others are changed into. -/
theorem Catalog.mem_map {α β κ : Type} [LT κ] {key : α → κ} {key' : β → κ} (c : Catalog key)
    (f : α → β) (hf : ∀ a, key' (f a) = key a) {b : β} :
    b ∈ c.map f hf ↔ ∃ a ∈ c, f a = b := List.mem_map

/-- A type as it is stored. -/
structure TypeRecord where
  name : String
  /-- The number of constructor arguments. -/
  arity : Int
deriving DecidableEq, Repr

/-- A predicate as it is stored. -/
inductive PredicateRecord where
  /-- A predicate of objects of these types. -/
  | unary (name : String) (types : List String)
  /-- A predicate of propositions. -/
  | binary (name : String)
deriving DecidableEq, Repr

namespace PredicateRecord

/-- The name that a record says. -/
def name : PredicateRecord → String
  | .unary name _ => name
  | .binary name => name

/-- What the predicate of a record applies to. -/
def signature : PredicateRecord → Signature String
  | .unary _ types => .objects types
  | .binary _ => .propositions

end PredicateRecord

/-- The record of a predicate. -/
def Signature.record (name : String) : Signature String → PredicateRecord
  | .objects types => .unary name types
  | .propositions => .binary name

@[simp] theorem PredicateRecord.name_record (name : String) (signature : Signature String) :
    (signature.record name).name = name := by
  cases signature <;> rfl

@[simp] theorem PredicateRecord.signature_record (name : String) (signature : Signature String) :
    (signature.record name).signature = signature := by
  cases signature <;> rfl

/-- A record is that of its own name and signature. -/
@[simp] theorem Signature.record_signature (p : PredicateRecord) :
    p.signature.record p.name = p := by
  cases p <;> rfl

/-- A schema as it is stored, with records under keys. -/
structure SchemaRecord where
  types : Table TypeRecord
  inclusions : Catalog (fun i : Inclusion => i)
  predicates : Table PredicateRecord
deriving DecidableEq, Repr

/-- How a schema is stored. -/
def Schema.record (s : Schema) : SchemaRecord where
  types := s.types.map (fun name => (name, ⟨name, 0⟩)) fun _ => rfl
  inclusions := s.inclusions
  predicates := s.predicates.map (fun entry => (entry.1, entry.2.record entry.1)) fun _ => rfl

/-- A type is stored under its name, without constructor arguments. -/
theorem Schema.mem_record_types {s : Schema} {key : String} {type : TypeRecord} :
    (key, type) ∈ s.record.types ↔ key ∈ s.types ∧ type = ⟨key, 0⟩ := by
  simp only [Schema.record, Catalog.mem_map]
  constructor
  · rintro ⟨name, hname, hentry⟩
    cases hentry
    exact ⟨hname, rfl⟩
  · rintro ⟨hkey, rfl⟩
    exact ⟨key, hkey, rfl⟩

/-- A predicate is stored under its name. -/
theorem Schema.mem_record_predicates {s : Schema} {key : String} {predicate : PredicateRecord} :
    (key, predicate) ∈ s.record.predicates ↔
      ∃ signature, (key, signature) ∈ s.predicates ∧ predicate = signature.record key := by
  simp only [Schema.record, Catalog.mem_map]
  constructor
  · rintro ⟨⟨name, signature⟩, hname, hentry⟩
    cases hentry
    exact ⟨signature, hname, rfl⟩
  · rintro ⟨signature, hkey, rfl⟩
    exact ⟨_, hkey, rfl⟩

namespace SchemaRecord

/-- Every record stands under its own name, and types take no constructor arguments. -/
structure Keyed (r : SchemaRecord) : Prop where
  types : ∀ key type, (key, type) ∈ r.types → type.name = key ∧ type.arity = 0
  predicates : ∀ key predicate, (key, predicate) ∈ r.predicates → predicate.name = key

/-- The schema that is stored, in which types and predicates have the names of their keys. -/
def schema (r : SchemaRecord) : Schema where
  types := r.types.map Prod.fst fun _ => rfl
  inclusions := r.inclusions
  predicates := r.predicates.map (fun entry => (entry.1, entry.2.signature)) fun _ => rfl

variable {r : SchemaRecord}

/-- The types are the keys of the records of types. -/
theorem mem_schema_types {name : String} :
    name ∈ r.schema.types ↔ ∃ type, (name, type) ∈ r.types := by
  simp only [schema, Catalog.mem_map]
  constructor
  · rintro ⟨⟨key, type⟩, hm, rfl⟩
    exact ⟨type, hm⟩
  · rintro ⟨type, hm⟩
    exact ⟨_, hm, rfl⟩

/-- The predicates are the keys of their records, with what these apply to. -/
theorem mem_schema_predicates {name : String} {signature : Signature String} :
    (name, signature) ∈ r.schema.predicates ↔
      ∃ predicate, (name, predicate) ∈ r.predicates ∧ predicate.signature = signature := by
  simp only [schema, Catalog.mem_map]
  constructor
  · rintro ⟨⟨key, predicate⟩, hm, hentry⟩
    cases hentry
    exact ⟨predicate, hm, rfl⟩
  · rintro ⟨predicate, hm, rfl⟩
    exact ⟨_, hm, rfl⟩

/-- In a schema that is stored every record stands under its own name. -/
theorem keyed_record (s : Schema) : s.record.Keyed where
  types key type h := by
    obtain ⟨-, rfl⟩ := Schema.mem_record_types.mp h
    exact ⟨rfl, rfl⟩
  predicates key predicate h := by
    obtain ⟨signature, -, rfl⟩ := Schema.mem_record_predicates.mp h
    exact PredicateRecord.name_record key signature

/-- Records that stand under their own names are those of the schema that they store. -/
theorem Keyed.record_schema (h : r.Keyed) : r.schema.record = r := by
  have htypes : r.schema.record.types = r.types := by
    apply Catalog.ext_mem
    rintro ⟨key, type⟩
    rw [Schema.mem_record_types, mem_schema_types]
    constructor
    · rintro ⟨⟨⟨name, arity⟩, hm⟩, rfl⟩
      obtain ⟨rfl, rfl⟩ := h.types key _ hm
      exact hm
    · intro hm
      obtain ⟨hname, harity⟩ := h.types key type hm
      refine ⟨⟨type, hm⟩, ?_⟩
      rw [← hname, ← harity]
  have hpredicates : r.schema.record.predicates = r.predicates := by
    apply Catalog.ext_mem
    rintro ⟨key, predicate⟩
    simp only [Schema.mem_record_predicates, mem_schema_predicates]
    constructor
    · rintro ⟨_, ⟨stored, hm, rfl⟩, rfl⟩
      obtain rfl := h.predicates key stored hm
      rwa [Signature.record_signature]
    · intro hm
      obtain rfl := h.predicates key predicate hm
      exact ⟨_, ⟨predicate, hm, rfl⟩, (Signature.record_signature predicate).symm⟩
  have hparts : r.schema.record = ⟨r.types, r.inclusions, r.predicates⟩ := by
    rw [← htypes, ← hpredicates]
    rfl
  exact hparts

/-- A schema is found again in its records. -/
theorem schema_record (s : Schema) : s.record.schema = s := by
  have htypes : s.record.schema.types = s.types := by
    apply Catalog.ext_mem
    intro name
    simp only [mem_schema_types, Schema.mem_record_types]
    constructor
    · rintro ⟨type, hname, -⟩
      exact hname
    · intro hname
      exact ⟨_, hname, rfl⟩
  have hpredicates : s.record.schema.predicates = s.predicates := by
    apply Catalog.ext_mem
    rintro ⟨name, signature⟩
    simp only [mem_schema_predicates, Schema.mem_record_predicates]
    constructor
    · rintro ⟨_, ⟨stored, hname, rfl⟩, hsignature⟩
      rw [PredicateRecord.signature_record] at hsignature
      exact hsignature ▸ hname
    · intro hname
      exact ⟨_, ⟨signature, hname, rfl⟩, PredicateRecord.signature_record name signature⟩
  have hparts : s.record.schema = ⟨s.types, s.inclusions, s.predicates⟩ := by
    rw [← htypes, ← hpredicates]
    rfl
  exact hparts

end SchemaRecord

end Substance
