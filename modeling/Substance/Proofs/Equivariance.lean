import Substance.Proofs.Distinct
import Substance.Proofs.Layout

/-!
# Batches over renamed vocabularies

Types and predicates may be given other names.  As long as types stay apart and keep their stems,
and the declared types and the predicates keep their order, a batch over the renamed schema is the
batch over the schema with its programs renamed: the same objects under the same names, in the same
order.

* `Renaming.Respects` is what is asked of a renaming, and `Respects.carries` that it suffices for
  single programs (`Generator.alike_addProgram`).
* `Batch.next_rename` is the law of one step of an iterator, `Batch.collect_rename` of a run.
* `generatePrograms_rename` is the law of batches.
-/

namespace Substance

open Substance.Random

/-! ## Renamed schemas -/

/-- A catalog of entries that stand in order holds just these. -/
theorem Catalog.entries_ofList {α κ : Type} [LT κ] [DecidableLT κ] [KeyOrder κ] {key : α → κ}
    {l : List α} (h : l.Pairwise fun a b => key a < key b) :
    (Catalog.ofList l : Catalog key).entries = l := by
  have heq : (Catalog.ofList l : Catalog key) = ⟨l, h⟩ :=
    Catalog.ext_mem fun _ => mem_ofList_of_key fun _ ha _ hb => Catalog.eq_of_key_eq h ha hb
  rw [heq]

/-- The inclusion between the renamed types. -/
def Inclusion.rename (r : Renaming) (i : Inclusion) : Inclusion :=
  ⟨r.type i.child, r.type i.parent⟩

/-- The schema over the renamed vocabulary. -/
def Schema.rename (r : Renaming) (s : Schema) : Schema where
  types := .ofList (s.typeNames.map r.type)
  inclusions := .ofList (s.inclusions.entries.map (·.rename r))
  predicates := .ofList (s.predicateList.map fun p => (r.predicate p.1, p.2.map r.type))

/-- The renaming tells types apart and keeps their stems, and it keeps the order of the declared
types and of the predicates. -/
structure Renaming.Respects (r : Renaming) (s : Schema) : Prop where
  injective : ∀ t u, s.Mentions t → s.Mentions u → r.type t = r.type u → t = u
  stem : ∀ t, s.Mentions t → stem (r.type t) = stem t
  types : ∀ t ∈ s.typeNames, ∀ u ∈ s.typeNames, t < u → r.type t < r.type u
  predicates : ∀ p ∈ s.predicates.keys, ∀ q ∈ s.predicates.keys, p < q →
    r.predicate p < r.predicate q

/-- The types that are declared, then those that predicates want. -/
def Schema.mentioned (s : Schema) : List String :=
  s.typeNames ++ s.predicateList.flatMap fun p =>
    match p.2 with
    | .objects types => types
    | .propositions => []

/-- The types that are listed are those that are mentioned. -/
theorem Schema.mem_mentioned_iff {s : Schema} {type : String} :
    type ∈ s.mentioned ↔ s.Mentions type := by
  rw [mentioned, List.mem_append, List.mem_flatMap, Mentions]
  refine or_congr_right ⟨?_, ?_⟩
  · rintro ⟨⟨predicate, signature⟩, hp, ht⟩
    cases signature with
    | objects types => exact ⟨predicate, types, hp, ht⟩
    | propositions => cases ht
  · rintro ⟨predicate, types, hp, ht⟩
    exact ⟨_, hp, ht⟩

/-- Whether a renaming respects a schema is told by the lists of its names. -/
theorem Renaming.respects_iff {r : Renaming} {s : Schema} : r.Respects s ↔
    (∀ t ∈ s.mentioned, ∀ u ∈ s.mentioned, r.type t = r.type u → t = u) ∧
      (∀ t ∈ s.mentioned, stem (r.type t) = stem t) ∧
      (∀ t ∈ s.typeNames, ∀ u ∈ s.typeNames, t < u → r.type t < r.type u) ∧
      ∀ p ∈ s.predicates.keys, ∀ q ∈ s.predicates.keys, p < q →
        r.predicate p < r.predicate q := by
  simp only [Schema.mem_mentioned_iff]
  constructor
  · intro h
    exact ⟨fun t ht u hu => h.injective t u ht hu, h.stem, h.types, h.predicates⟩
  · rintro ⟨hinjective, hstem, htypes, hpredicates⟩
    exact ⟨fun t u ht hu => hinjective t ht u hu, hstem, htypes, hpredicates⟩

instance (r : Renaming) (s : Schema) : Decidable (r.Respects s) :=
  decidable_of_iff _ Renaming.respects_iff.symm

section

variable {r : Renaming} {s s' : Schema}

/-- A renaming that respects a schema takes it to the renamed one. -/
theorem Renaming.Respects.carries (h : r.Respects s) : r.Carries s (s.rename r) where
  typeNames := by
    refine Catalog.entries_ofList (List.pairwise_map.mpr ?_)
    exact s.types.increasing.imp_of_mem fun ht hu => h.types _ ht _ hu
  predicateList := by
    refine Catalog.entries_ofList (List.pairwise_map.mpr ?_)
    exact s.predicates.increasing.imp_of_mem fun hp hq =>
      h.predicates _ (List.mem_map_of_mem hp) _ (List.mem_map_of_mem hq)
  injective := h.injective
  stem := h.stem

/-- The schemas are fit for generation alike, since a renaming gives no type the empty name. -/
theorem Renaming.Carries.fault?_eq (hc : r.Carries s s') : s'.fault? = s.fault? := by
  have htypes : s'.types.isEmpty = s.types.isEmpty := by
    have hentries : s'.types.entries = s.types.entries.map r.type := hc.typeNames
    rw [Catalog.isEmpty, Catalog.isEmpty, hentries, List.isEmpty_map]
  have hempty : "" ∈ s'.typeNames ↔ "" ∈ s.typeNames := by
    -- the empty name is the one with the empty stem
    have hname {t : String} (ht : t ∈ s.typeNames) : r.type t = "" ↔ t = "" := by
      rw [← stem_eq_empty_iff, hc.stem t (.inl ht), stem_eq_empty_iff]
    rw [hc.typeNames, List.mem_map]
    constructor
    · rintro ⟨t, ht, he⟩
      exact (hname ht).mp he ▸ ht
    · exact fun ht => ⟨"", ht, (hname ht).mpr rfl⟩
  simp only [Schema.fault?, htypes, hempty]

/-! ## Iterators -/

/-- The answer over the renamed vocabulary. -/
def Answer.rename (r : Renaming) : Answer → Answer
  | .program p => .program (p.rename r)
  | .stop => .stop
  | .fault f => .fault f

namespace Batch

open Generator

variable {σ : Type} {g h : Generator σ}

/-- Both generators are clear, and they draw from the same source. -/
structure Abreast (g h : Generator σ) : Prop where
  left : g.IsClear
  right : h.IsClear
  source : h.source = g.source

variable [Source σ]

/-- The second step is the first one over the renamed vocabulary: it answers with the renamed
program, leaves the iterator where the first one does, and the generators abreast. -/
def RenamesNext (r : Renaming) (step step' : Answer × Iterator × Generator σ) : Prop :=
  ∃ answer it g h, step = (answer, it, g) ∧ step' = (answer.rename r, it, h) ∧ Abreast g h

/-- An iterator that is to generate a program generates the renamed one over the renamed schema. -/
theorem advance_rename (hc : r.Carries s s') (setting : Setting) (done total : Nat)
    (hgh : Abreast g h) :
    RenamesNext r (advance s setting done total g) (advance s' setting done total h) := by
  rw [advance, advance]
  split
  · obtain ⟨p, _, g₁, h₁, hg, hh, rfl, hm⟩ | ⟨e, g₁, h₁, hg, hh, hm⟩ :=
      alike_addProgram hc setting g h (hgh.left.mirrors s hgh.right hgh.source)
    · rw [hg, hh]
      exact ⟨.program p, _, _, _, rfl, rfl, isClear_reset g₁, isClear_reset h₁, hm.source⟩
    · rw [hg, hh]
      exact ⟨.fault (.generation e), _, _, _, rfl, rfl, isClear_reset g₁, isClear_reset h₁,
        hm.source⟩
  · exact ⟨.stop, _, g, h, rfl, rfl, hgh⟩

/-- An iterator answers over the renamed schema as over the schema, with the renamed program. -/
theorem next_rename (hc : r.Carries s s') (setting : Setting) (it : Iterator) (hgh : Abreast g h) :
    RenamesNext r (next s setting it g) (next s' setting it h) := by
  cases it with
  | waiting count =>
    rw [next, next]
    split
    · exact ⟨.fault (.negativeCount count), _, g, h, rfl, rfl, hgh⟩
    · exact advance_rename hc setting 0 count.toNat hgh
  | running done total => exact advance_rename hc setting done total hgh
  | exhausted => exact ⟨.stop, _, g, h, rfl, rfl, hgh⟩

/-- An iterator collects the renamed programs over the renamed schema. -/
theorem collect_rename (hc : r.Carries s s') (setting : Setting) (budget : Nat) (it : Iterator)
    (hgh : Abreast g h) : (collect s' setting budget it h).1 =
      (collect s setting budget it g).1.map (List.map (·.rename r)) := by
  induction budget generalizing it g h with
  | zero => rfl
  | succ budget ih =>
    obtain ⟨answer, it', g₁, h₁, hg, hh, hgh'⟩ := next_rename hc setting it hgh
    rw [collect, collect, hg, hh]
    cases answer with
    | program p =>
      have hrest := ih it' hgh'
      simp only [Answer.rename, hrest]
      cases (collect s setting budget it' g₁).1 <;> rfl
    | stop => rfl
    | fault f => rfl

end Batch

/-! ## Batches -/

/-- A batch over the schema renamed, with everything else the same, is the batch with its programs
renamed.  Over a usable schema and setting there is one, of as many programs as are asked for. -/
theorem generatePrograms_rename (h : r.Respects s) (setting : Setting) (count seed : Int) :
    generatePrograms (s.rename r) setting count seed =
        (generatePrograms s setting count seed).map (List.map (·.rename r)) ∧
      (s.fault? = none → setting.fault? = none → 0 ≤ count →
        ∃ batch, generatePrograms s setting count seed = .ok batch ∧ batch.length = count ∧
          generatePrograms (s.rename r) setting count seed = .ok (batch.map (·.rename r))) := by
  have hrename : generatePrograms (s.rename r) setting count seed =
      (generatePrograms s setting count seed).map (List.map (·.rename r)) := by
    have hcheck : Batch.check (s.rename r) setting = Batch.check s setting := by
      simp only [Batch.check, Domain.fault?, h.carries.fault?_eq]
    rw [generatePrograms, generatePrograms, Batch.prepare, Batch.prepare, hcheck]
    cases Batch.check s setting with
    | error fault => rfl
    | ok _ =>
      have hclear := Generator.isClear_new (Twister.ofSeed seed)
      exact Batch.collect_rename h.carries setting _ _ ⟨hclear, hclear, rfl⟩
  refine ⟨hrename, fun hs ht hcount => ?_⟩
  obtain ⟨n, rfl⟩ := Int.eq_ofNat_of_zero_le hcount
  obtain ⟨batch, hbatch, hlength, -⟩ := Generator.exists_batch hs ht seed n
  refine ⟨batch, hbatch, congrArg Nat.cast hlength, ?_⟩
  rw [hrename, hbatch]
  rfl

/-- A vocabulary of planes and points under one stem, where a predicate also wants peaks, which are
not declared. -/
def planesAndPoints : Schema :=
  (((Schema.empty.addType "Plane").addType "Point").addPredicate "On"
    (.objects ["Point", "Peak"])).addPredicate "Not" .propositions

/-- Plural names for types and marked ones for predicates. -/
def plural : Renaming := ⟨fun type => type ++ "s", fun predicate => "Is" ++ predicate⟩

/-- The batches over planes and points, in the singular and in the plural. -/
theorem generatePrograms_rename_plural :
    plural.Respects planesAndPoints ∧ planesAndPoints.fault? = none ∧
      Setting.fault? ⟨2, 5, .mixed⟩ = none ∧ (0 : Int) ≤ 3 ∧
      generatePrograms (planesAndPoints.rename plural) ⟨2, 5, .mixed⟩ 3 7 =
        (generatePrograms planesAndPoints ⟨2, 5, .mixed⟩ 3 7).map (List.map (·.rename plural)) ∧
      ∃ batch, generatePrograms planesAndPoints ⟨2, 5, .mixed⟩ 3 7 = .ok batch ∧
        batch.length = (3 : Int) ∧
        generatePrograms (planesAndPoints.rename plural) ⟨2, 5, .mixed⟩ 3 7 =
          .ok (batch.map (·.rename plural)) := by
  have hrespects : plural.Respects planesAndPoints := by decide +kernel
  have h := generatePrograms_rename hrespects ⟨2, 5, .mixed⟩ 3 7
  exact ⟨hrespects, by decide, by decide, by decide, h.1, h.2 (by decide) (by decide) (by decide)⟩

end

end Substance
