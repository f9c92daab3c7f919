import Substance.Domain
import Substance.Proofs.Writing

/-!
# The two forms of domains

A schema can be written in the notation of domains or given as plain data.  Not every schema can be
written: its names must be identifiers, and no predicate of objects takes propositions.  One that can
be is read back from either form, in whatever order its members stand.

* `Signature.PlainForm`, `Schema.PlainForm`: the plain data that gives a schema.
* `ofPlain_of_plainForm`: a schema is read back from plain data.
* `SchemaRecord.Writable`: the schemas that texts give.
* `read_iff_writable`: both forms together.
-/

namespace Substance

open Text

/-! ## Plain data -/

/-- The plain data that gives what a predicate applies to: the list of types, alone or in an object,
or a mark for propositions. -/
inductive Signature.PlainForm : Signature String → Json → Prop
  | list (types : List String) : PlainForm (.objects types) (.array (types.map .text))
  | arguments (types : List String) :
      PlainForm (.objects types) (.object [("args", .array (types.map .text))])
  | propositions : PlainForm .propositions (.object [("binary", .bool true)])

/-- A subtype and its supertype as plain data. -/
def Inclusion.toPlain (i : Inclusion) : Json := .array [.text i.child, .text i.parent]

/-- The members of an object give the schema: its types and its inclusions, in any order and with any
repetitions, and its predicates in any order.  A member that is not there counts as empty. -/
structure Schema.PlainForm (s : Schema) (members : List (String × Json)) : Prop where
  types : ∃ names : List String,
    (members.lookup "types").getD (.array []) = .array (names.map .text) ∧
      ∀ name, name ∈ names ↔ name ∈ s.types
  inclusions : ∃ pairs : List Inclusion,
    (members.lookup "subtypes").getD (.array []) = .array (pairs.map Inclusion.toPlain) ∧
      ∀ i, i ∈ pairs ↔ i ∈ s.inclusions
  predicates : ∃ (entries : List (String × Signature String)) (values : List (String × Json)),
    (members.lookup "predicates").getD (.object []) = .object values ∧
      entries.Perm s.predicateList ∧ List.Forall₂
        (fun entry value => value.1 = entry.1 ∧ entry.2.PlainForm value.2) entries values

section

variable {s : Schema} {members : List (String × Json)}

/-- Texts are no collections. -/
theorem forM_checkName (names : List String) :
    (names.map Json.text).forM Json.checkName = .ok () := by
  induction names with
  | nil => rfl
  | cons name names ih => exact ih

/-- Pairs are read one by one. -/
theorem asPairs_toPlain (pairs : List Inclusion) :
    (Json.array (pairs.map Inclusion.toPlain)).asPairs =
      .ok (pairs.map fun i => (.text i.child, .text i.parent)) := by
  refine Line.mapM_eq_ok_iff.mpr ?_
  rw [List.forall₂_map_left_iff, List.forall₂_map_right_iff, List.forall₂_same]
  intro i _
  rfl

/-- A signature is read from its plain data. -/
theorem asSignature_of_plainForm {signature : Signature String} {value : Json}
    (h : signature.PlainForm value) (name : String) :
    value.asSignature name = .ok signature.toPlain := by
  cases h <;> rfl

/-- Predicates are read one by one. -/
theorem asPredicates_of_plainForm {entries : List (String × Signature String)}
    {values : List (String × Json)} (h : List.Forall₂
      (fun entry value => value.1 = entry.1 ∧ entry.2.PlainForm value.2) entries values) :
    (Json.object values).asPredicates = .ok (entries.map fun e => (e.1, e.2.toPlain)) := by
  refine Line.mapM_eq_ok_iff.mpr ?_
  rw [List.forall₂_map_right_iff]
  refine h.flip.imp fun value entry hentry => ?_
  obtain ⟨name, signature⟩ := entry
  obtain ⟨key, value⟩ := value
  obtain ⟨rfl, hvalue⟩ := hentry
  dsimp only at hvalue ⊢
  rw [asSignature_of_plainForm hvalue]
  rfl

/-- Names that are texts are all there. -/
theorem mapM_map_eq_some {α β γ : Type} {f : β → Option γ} {g : α → β} {k : α → γ}
    (h : ∀ a, f (g a) = some (k a)) (l : List α) : (l.map g).mapM f = some (l.map k) := by
  induction l with
  | nil => rfl
  | cons a l ih => simp [h, ih]

/-- A signature of texts is textual. -/
theorem textual?_toPlain (signature : Signature String) :
    signature.toPlain.textual? = some signature := by
  cases signature with
  | objects types =>
    have htypes := mapM_map_eq_some (f := Json.text?) (g := Json.text) (fun _ => rfl) types
    rw [List.map_id'] at htypes
    rw [Signature.toPlain, Signature.textual?, htypes]
    rfl
  | propositions => rfl

/-- Where every name is a text the schema is that of the lists. -/
theorem schema?_toPlain (names : List String) (pairs : List Inclusion)
    (entries : List (String × Signature String)) :
    LooseSchema.schema? ⟨names.map .text, pairs.map fun i => (.text i.child, .text i.parent),
      entries.map fun e => (e.1, e.2.toPlain)⟩ =
      some ⟨.ofList names, .ofList pairs, .ofList entries⟩ := by
  rw [LooseSchema.schema?, mapM_map_eq_some (k := id) ?types names,
    mapM_map_eq_some (k := id) ?inclusions pairs, mapM_map_eq_some (k := id) ?predicates entries]
  case types => exact fun _ => rfl
  case inclusions => exact fun _ => rfl
  case predicates =>
    intro entry
    simp [textual?_toPlain]
  rw [List.map_id, List.map_id, List.map_id]
  rfl

/-- The schema of lists has what these have. -/
theorem eq_ofList {names : List String} {pairs : List Inclusion}
    {entries : List (String × Signature String)} (htypes : ∀ name, name ∈ names ↔ name ∈ s.types)
    (hinclusions : ∀ i, i ∈ pairs ↔ i ∈ s.inclusions) (hentries : entries.Perm s.predicateList) :
    s = ⟨.ofList names, .ofList pairs, .ofList entries⟩ := by
  have ht : s.types = .ofList names := Catalog.ext_mem fun name =>
    (htypes name).symm.trans mem_ofList.symm
  have hi : s.inclusions = .ofList pairs := Catalog.ext_mem fun i =>
    (hinclusions i).symm.trans (mem_ofList_of_key fun _ _ _ _ h => h).symm
  have hkeys : ∀ a ∈ entries, ∀ b ∈ entries, a.1 = b.1 → a = b := by
    intro a ha b hb hk
    exact Catalog.eq_of_key_eq s.predicates.increasing (hentries.mem_iff.mp ha)
      (hentries.mem_iff.mp hb) hk
  have hp : s.predicates = .ofList entries := Catalog.ext_mem fun e =>
    hentries.mem_iff.symm.trans (mem_ofList_of_key hkeys).symm
  rw [← ht, ← hi, ← hp]

/-- From the plain data that gives it a schema is read back. -/
theorem ofPlain_of_plainForm (h : s.PlainForm members) :
    Domain.ofPlain (.object members) = .ok (.schema s) := by
  obtain ⟨names, hnames, htypes⟩ := h.types
  obtain ⟨pairs, hpairs, hinclusions⟩ := h.inclusions
  obtain ⟨entries, values, hvalues, hperm, hentries⟩ := h.predicates
  have hloose : LooseSchema.ofPlain (.object members) =
      .ok ⟨names.map .text, pairs.map fun i => (.text i.child, .text i.parent),
        entries.map fun e => (e.1, e.2.toPlain)⟩ := by
    rw [LooseSchema.ofPlain, hnames, hpairs, hvalues, asPairs_toPlain,
      asPredicates_of_plainForm hentries]
    simp only [Json.nameList, bind, Except.bind, forM_checkName]
    rfl
  rw [Domain.ofPlain, hloose, eq_ofList htypes hinclusions hperm]
  simp only [Functor.map, Except.map, Domain.ofLoose, schema?_toPlain]

/-- What a predicate applies to as plain data, with a list of types where there is one. -/
def Signature.value : Signature String → Json
  | .objects types => .array (types.map .text)
  | .propositions => .object [("binary", .bool true)]

/-- The members of an object that gives a schema, each in the order of names. -/
def Schema.toPlain (s : Schema) : List (String × Json) :=
  [("types", .array (s.typeNames.map .text)),
    ("subtypes", .array (s.inclusions.entries.map Inclusion.toPlain)),
    ("predicates", .object (s.predicateList.map fun entry => (entry.1, entry.2.value)))]

/-- There is plain data for every schema. -/
theorem plainForm_toPlain (s : Schema) : s.PlainForm s.toPlain where
  types := ⟨s.typeNames, rfl, fun _ => Iff.rfl⟩
  inclusions := ⟨s.inclusions.entries, rfl, fun _ => Iff.rfl⟩
  predicates := by
    refine ⟨s.predicateList, _, rfl, .refl _, ?_⟩
    rw [List.forall₂_map_right_iff, List.forall₂_same]
    rintro ⟨name, signature⟩ -
    cases signature with
    | objects types => exact ⟨rfl, .list types⟩
    | propositions => exact ⟨rfl, .propositions⟩

end

/-! ## Both forms -/

/-- Every name is an identifier, every record stands under its own name, types take no constructor
arguments, and no predicate of objects takes propositions. -/
structure SchemaRecord.Writable (r : SchemaRecord) : Prop where
  types : ∀ key type, (key, type) ∈ r.types → IsWord type.name
  inclusions : ∀ child parent, ⟨child, parent⟩ ∈ r.inclusions → IsWord child ∧ IsWord parent
  predicates : ∀ key predicate, (key, predicate) ∈ r.predicates → IsWord predicate.name
  arguments : ∀ key name types, (key, .unary name types) ∈ r.predicates →
    ∀ type ∈ types, IsWord type ∧ type ≠ propType
  keyed : r.Keyed

/-- A stored schema is of this kind just if its declarations can be written. -/
theorem writable_record_iff {s : Schema} :
    s.record.Writable ↔ ∀ d ∈ s.declarations, d.Worded := by
  constructor
  · intro h d hd
    cases d with
    | type name =>
      rw [Schema.type_mem_declarations] at hd
      exact h.types name ⟨name, 0⟩ (Schema.mem_record_types.mpr ⟨hd, rfl⟩)
    | inclusion child parent =>
      rw [Schema.inclusion_mem_declarations] at hd
      exact h.inclusions child parent hd
    | predicate name signature =>
      rw [Schema.predicate_mem_declarations] at hd
      have hm := Schema.mem_record_predicates.mpr ⟨signature, hd, rfl⟩
      have hname := h.predicates name _ hm
      rw [PredicateRecord.name_record] at hname
      refine ⟨hname, ?_⟩
      cases signature with
      | objects types => exact h.arguments name name types hm
      | propositions => trivial
  · intro h
    refine ⟨?_, ?_, ?_, ?_, SchemaRecord.keyed_record s⟩
    · intro key type hm
      obtain ⟨hkey, rfl⟩ := Schema.mem_record_types.mp hm
      exact h (.type key) (Schema.type_mem_declarations.mpr hkey)
    · intro child parent hm
      exact h (.inclusion child parent) (Schema.inclusion_mem_declarations.mpr hm)
    · intro key predicate hm
      obtain ⟨signature, hkey, rfl⟩ := Schema.mem_record_predicates.mp hm
      rw [PredicateRecord.name_record]
      exact (h (.predicate key signature) (Schema.predicate_mem_declarations.mpr hkey)).1
    · intro key name types hm
      obtain ⟨signature, hkey, hrecord⟩ := Schema.mem_record_predicates.mp hm
      cases signature <;> cases hrecord
      exact (h (.predicate key _) (Schema.predicate_mem_declarations.mpr hkey)).2

/-- The schemas that texts give are those whose names are identifiers, stored under these names, with
no predicate of objects that takes propositions.  Such a schema is read back from every text that has
the lines of its declarations in some order, and there is one for every order; and it is read back
from the plain data that gives it, of which there is some. -/
theorem read_iff_writable (r : SchemaRecord) :
    ((∃ text s, Schema.parse text = .ok s ∧ s.record = r) ↔ r.Writable) ∧
    (r.Writable → r.schema.record = r ∧
      (∀ ds, ds.Perm r.schema.declarations → CutsInto (written ds).toList (formats ds) ∧
        ∀ text, CutsInto text.toList (formats ds) → Schema.parse text = .ok r.schema) ∧
      r.schema.PlainForm r.schema.toPlain ∧
      ∀ members, r.schema.PlainForm members →
        Domain.ofPlain (.object members) = .ok (.schema r.schema)) := by
  have hworded : r.Writable → ∀ d ∈ r.schema.declarations, d.Worded := fun h =>
    writable_record_iff.mp (h.keyed.record_schema.symm ▸ h)
  refine ⟨⟨?_, fun h => ?_⟩, fun h => ⟨h.keyed.record_schema, fun ds hds => ⟨?_, ?_⟩, ?_, ?_⟩⟩
  · rintro ⟨text, s, hs, rfl⟩
    exact writable_record_iff.mpr (worded_of_parse hs)
  · have htext := parse_formats (hworded h) (.refl _) (cutsInto_written (hworded h))
    exact ⟨_, r.schema, htext, h.keyed.record_schema⟩
  · exact cutsInto_written fun d hd => hworded h d (hds.mem_iff.mp hd)
  · exact fun text htext => parse_formats (hworded h) hds htext
  · exact plainForm_toPlain r.schema
  · exact fun members hm => ofPlain_of_plainForm hm

/-- The lines of sets and points, turned around. -/
def setsAndPointsTurned : String :=
  "predicate Not : Prop\npredicate In : Point * Set\nPoint <: Set\ntype Set\ntype Point\n"

/-- Plain data of sets and points, with a type that is listed twice. -/
def setsAndPointsPlain : List (String × Json) :=
  [("predicates", .object [("Not", .object [("binary", .bool true)]),
      ("In", .object [("args", .array [.text "Point", .text "Set"])])]),
    ("types", .array [.text "Set", .text "Point", .text "Set"]),
    ("subtypes", .array [.array [.text "Point", .text "Set"]])]

/-- Sets and points are read back from either form. -/
theorem read_iff_writable_setsAndPoints :
    Schema.parse setsAndPointsTurned = .ok Generator.setsAndPointsOfText ∧
      Domain.ofPlain (.object setsAndPointsPlain) =
        .ok (.schema Generator.setsAndPointsOfText) := by
  have hparse : Schema.parse Generator.setsAndPointsText = .ok Generator.setsAndPointsOfText := by
    decide +kernel
  obtain ⟨-, hforms⟩ := read_iff_writable Generator.setsAndPointsOfText.record
  obtain ⟨-, htexts, -, hplain⟩ := hforms (writable_record_iff.mpr (worded_of_parse hparse))
  rw [SchemaRecord.schema_record] at htexts hplain
  let ds : List Declaration := [.predicate "Not" .propositions,
    .predicate "In" (.objects ["Point", "Set"]), .inclusion "Point" "Set", .type "Set",
    .type "Point"]
  have hds : ds.Perm Generator.setsAndPointsOfText.declarations := by decide +kernel
  have hlines : CutsInto setsAndPointsTurned.toList (formats ds) :=
    cutsInto_iff.mpr (by decide +kernel)
  have htypes : Generator.setsAndPointsOfText.types.entries = ["Point", "Set"] := by
    decide +kernel
  have hinclusions : Generator.setsAndPointsOfText.inclusions.entries = [⟨"Point", "Set"⟩] := by
    decide +kernel
  have hpredicates : Generator.setsAndPointsOfText.predicateList =
      [("In", .objects ["Point", "Set"]), ("Not", .propositions)] := by decide +kernel
  refine ⟨(htexts ds hds).2 _ hlines, hplain _ ⟨⟨["Set", "Point", "Set"], rfl, ?_⟩,
    ⟨[⟨"Point", "Set"⟩], rfl, ?_⟩, ⟨[("Not", .propositions), ("In", .objects ["Point", "Set"])],
      _, rfl, ?_, .cons ⟨rfl, .propositions⟩ (.cons ⟨rfl, .arguments _⟩ .nil)⟩⟩⟩
  · intro name
    change _ ↔ name ∈ Generator.setsAndPointsOfText.types.entries
    rw [htypes]
    simp only [List.mem_cons, List.not_mem_nil, or_false]
    constructor
    · rintro (h | h | h)
      · exact .inr h
      · exact .inl h
      · exact .inr h
    · rintro (h | h)
      · exact .inr (.inl h)
      · exact .inl h
  · intro i
    change _ ↔ i ∈ Generator.setsAndPointsOfText.inclusions.entries
    rw [hinclusions]
  · rw [hpredicates]
    exact .swap _ _ _

end Substance
