import Substance.Proofs.Completeness
import Substance.Proofs.Interleaving

/-!
# The types that programs declare objects of

A program declares objects in two places: the header and the body draw a type of the schema, and the
arguments of a predicate draw on the types that the predicate asks for.  Nothing ties the second to
the first, so a program may declare an object of a type that its schema does not declare.  This
happens just when a predicate asks for such a type and the body may have a statement.

* `Composed.type_of_object`: where the type of an object comes from.
* `exists_composed_of_wants`: whatever a predicate asks for is declared by some program.
* `conforms_iff`: when all programs keep to the declared types.
* `exists_batch`: the programs of a batch are composed and well named.
-/

namespace Substance

open Substance.Random Statement

/-- Some predicate asks for an object of this type. -/
def Schema.Wants (s : Schema) (type : String) : Prop :=
  ∃ predicate types, (predicate, .objects types) ∈ s.predicateList ∧ type ∈ types

/-- Every declared object has a type that the schema declares. -/
def Conforms (schema : Schema) (l : List Statement) : Prop :=
  ∀ o ∈ objects l, o.1 ∈ schema.typeNames

/-- The names of a type are those of its objects. -/
theorem Statement.mem_namesOf {type name : String} {l : List Statement} :
    name ∈ namesOf type l ↔ (type, name) ∈ objects l := by
  simp [namesOf]

section

variable {schema : Schema} {setting : Setting} {policy : Policy} {before added : List Statement}
  {type name : String} {types names : List String} {signature : Signature String}
  {o : String × String}

/-! ## Where types come from -/

/-- An object that is declared for an argument has the type of the argument. -/
theorem Finds.type_of_object (h : Finds policy before type added name) (ho : o ∈ objects added) :
    o.1 = type := by
  obtain rfl | ⟨own, rfl⟩ := h.eq_nil_or_declaration
  · cases ho
  · rw [objects_declaration, List.mem_singleton] at ho
    rw [ho]

/-- An object that is declared for one of some arguments has the type of one of them. -/
theorem FindsAll.type_of_object (h : FindsAll policy before types added names)
    (ho : o ∈ objects added) : o.1 ∈ types := by
  induction h with
  | nil => cases ho
  | cons h _ ih =>
    rw [objects_append, List.mem_append] at ho
    rcases ho with ho | ho
    · exact List.mem_cons.mpr (.inl (h.type_of_object ho))
    · exact List.mem_cons_of_mem _ (ih ho)

/-- An object of a block has a declared type, or one that a predicate asks for. -/
theorem Block.type_of_object (h : Block schema policy before added) (ho : o ∈ objects added) :
    o.1 ∈ schema.typeNames ∨ schema.Wants o.1 := by
  cases h with
  | declaration hm =>
    rw [objects_declaration, List.mem_singleton] at ho
    rw [ho]
    exact .inl hm
  | application hp hf =>
    rw [objects_append, objects_application, List.append_nil] at ho
    cases hf with
    | objects hf => exact .inr ⟨_, _, hp, hf.type_of_object ho⟩
    | propositions => cases ho

/-- An object of a row of blocks has a declared type, or one that a predicate asks for. -/
theorem Blocks.type_of_object {blocks : List (List Statement)}
    (h : Blocks schema policy before blocks) (ho : o ∈ objects blocks.flatten) :
    o.1 ∈ schema.typeNames ∨ schema.Wants o.1 := by
  induction h with
  | nil => cases ho
  | cons h _ ih =>
    rw [List.flatten_cons, objects_append, List.mem_append] at ho
    exact ho.elim h.type_of_object ih

/-- An object of a header has a declared type. -/
theorem Opens.type_of_object {header : List Statement} (h : Opens schema header)
    (ho : o ∈ objects header) : o.1 ∈ schema.typeNames := by
  obtain ⟨s, hs, hso⟩ := List.mem_filterMap.mp ho
  obtain ⟨type, hm, name, rfl⟩ := h s hs
  rw [← Option.some.inj hso]
  exact hm

/-- An object of a program has a declared type, or one that a predicate asks for.  The latter needs
a body. -/
theorem Composed.type_of_object {p : Program} {header : List Statement}
    {blocks : List (List Statement)} (h : Composed schema setting [] p header blocks)
    (ho : o ∈ objects p.statements) :
    o.1 ∈ schema.typeNames ∨ (schema.Wants o.1 ∧ 0 < setting.maxLength) := by
  rw [h.statements, List.nil_append, objects_append, List.mem_append] at ho
  rcases ho with ho | ho
  · exact .inl (h.opens.type_of_object ho)
  · refine (h.body.type_of_object ho).imp_right fun hw => ⟨hw, ?_⟩
    have hblocks : blocks ≠ [] := by
      rintro rfl
      cases ho
    have hlength := List.length_pos_of_ne_nil hblocks
    have hcount := h.bodyCount
    have hrange := h.bodyRange
    omega

/-! ## Programs for a type that is asked for -/

/-- Arguments can be found for every type. -/
theorem exists_finds (policy : Policy) (hn : WellNamed before) (type : String) :
    ∃ added name, Finds policy before type added name ∧ WellNamed (before ++ added) := by
  by_cases h : policy ≠ .generated ∧ namesOf type before ≠ []
  · obtain ⟨name, hname⟩ := List.exists_mem_of_ne_nil _ h.2
    exact ⟨[], name, .old h.1 hname, by rwa [List.append_nil]⟩
  · refine ⟨[.declaration type (nextFor type before) []], nextFor type before, .new ?_ (by simp),
      wellNamed_append_declaration.mpr ⟨hn, rfl⟩⟩
    rintro rfl
    by_contra hne
    exact h ⟨by decide, hne⟩

/-- Arguments can be found for all of some types. -/
theorem exists_findsAll (policy : Policy) (types : List String) (hn : WellNamed before) :
    ∃ added names, FindsAll policy before types added names ∧ WellNamed (before ++ added) := by
  induction types generalizing before with
  | nil => exact ⟨[], [], .nil, by rwa [List.append_nil]⟩
  | cons type types ih =>
    obtain ⟨added, name, hf, hn'⟩ := exists_finds policy hn type
    obtain ⟨more, names, hfs, hn''⟩ := ih hn'
    exact ⟨added ++ more, name :: names, .cons hf hfs, by rwa [← List.append_assoc]⟩

/-- What is found for some types are objects of each. -/
theorem FindsAll.exists_object (h : FindsAll policy before types added names) (ht : type ∈ types) :
    ∃ name, name ∈ namesOf type (before ++ added) := by
  obtain ⟨i, hi, rfl⟩ := List.getElem_of_mem ht
  have htakes : List.Forall₂ _ types names := h.takes
  exact ⟨_, htakes.get hi (htakes.length_eq ▸ hi)⟩

/-- A row of declarations of one type. -/
theorem exists_declarations (policy : Policy) (hm : type ∈ schema.typeNames) (count : Nat)
    (hn : WellNamed before) : ∃ blocks, blocks.length = count ∧
      Blocks schema policy before blocks ∧ WellNamed (before ++ blocks.flatten) := by
  induction count generalizing before with
  | zero => exact ⟨[], rfl, .nil, by simpa using hn⟩
  | succ count ih =>
    have hn' : WellNamed (before ++ [.declaration type (nextFor type before) []]) :=
      wellNamed_append_declaration.mpr ⟨hn, rfl⟩
    obtain ⟨blocks, hlength, hblocks, hn''⟩ := ih hn'
    refine ⟨_ :: blocks, congrArg (· + 1) hlength, .cons (.declaration hm) hblocks, ?_⟩
    rwa [List.flatten_cons, ← List.append_assoc]

/-- A type that some predicate asks for has an object in some program, if programs may have a
body. -/
theorem exists_composed_of_wants (htypes : schema.typeNames ≠ [])
    (hle : setting.minLength ≤ setting.maxLength) (hpos : 0 < setting.maxLength)
    (hwants : schema.Wants type) :
    ∃ p header blocks, Composed schema setting [] p header blocks ∧ WellNamed p.statements ∧
      ∃ name, (type, name) ∈ objects p.statements := by
  obtain ⟨first, hfirst⟩ := List.exists_mem_of_ne_nil _ htypes
  obtain ⟨predicate, types, hp, ht⟩ := hwants
  let header : List Statement := [.declaration first (nextFor first []) []]
  have hheader : WellNamed header := wellNamed_append_declaration (l := []).mpr ⟨wellNamed_nil, rfl⟩
  obtain ⟨added, names, hf, hn⟩ := exists_findsAll setting.policy types hheader
  obtain ⟨name, hname⟩ := hf.exists_object ht
  have hblock : WellNamed (header ++ added ++ [.application predicate names]) :=
    wellNamed_append_application.mpr hn
  rw [List.append_assoc] at hblock
  obtain ⟨rest, hlength, hrest, hn'⟩ :=
    exists_declarations setting.policy hfirst (setting.maxLength.toNat - 1) hblock
  have hblocks := Blocks.cons (.application hp (.objects hf)) hrest
  refine ⟨⟨[] ++ (header ++ (_ :: rest).flatten), 1, setting.maxLength⟩, header, _ :: rest,
    ⟨rfl, ?_, hblocks, rfl, .inl rfl, ?_, hle, Int.le_refl _⟩, ?_, name, ?_⟩
  · rintro s hs
    exact ⟨first, hfirst, _, List.mem_singleton.mp hs⟩
  · change setting.maxLength.toNat = _
    rw [List.length_cons, hlength]
    omega
  · rwa [List.nil_append, List.flatten_cons, ← List.append_assoc]
  · rw [mem_namesOf, objects_append] at hname
    rw [List.nil_append, List.flatten_cons, objects_append, objects_append, objects_append]
    exact List.mem_append.mpr ((List.mem_append.mp hname).imp_right fun h =>
      List.mem_append_left _ (List.mem_append_left _ h))

end

/-! ## Programs that are drawn -/

namespace Generator

/-- Some draws lead a new generator to this program. -/
def Drawn (schema : Schema) (setting : Setting) (p : Program) : Prop :=
  ∃ script g, addProgram schema setting (new (Script.answers script)) = .ok p g

variable {schema : Schema} {setting : Setting} {p : Program}

/-- A program that a clear generator comes to is composed and well named. -/
theorem IsClear.composed {σ : Type} [Source σ] {g h : Generator σ} (hg : g.IsClear)
    (hr : addProgram schema setting g = .ok p h) :
    (∃ header blocks, Composed schema setting [] p header blocks) ∧ WellNamed p.statements := by
  have hgrow := extends_addProgram schema setting g hg.coherent hg.statements
  rw [hr] at hgrow
  obtain ⟨hh, added, n, hadded, -, hp, header, blocks, hc, -⟩ := hgrow
  exact ⟨⟨header, blocks, hc⟩, hp.trans hadded.symm ▸ hh.named⟩

/-- The programs that are drawn are the composed and well-named ones. -/
theorem drawn_iff : Drawn schema setting p ↔
    (∃ header blocks, Composed schema setting [] p header blocks) ∧ WellNamed p.statements := by
  constructor
  · rintro ⟨script, g, hr⟩
    exact (isClear_new _).composed hr
  · rintro ⟨⟨header, blocks, hc⟩, hn⟩
    obtain ⟨script, h⟩ := yields_addProgram hc hn
    obtain ⟨g, hr, -⟩ := h (new (.answers script)) [] (isClear_new _).coherent rfl
      (by rw [List.append_nil]; rfl)
    exact ⟨script, g, hr⟩

/-- Over a usable schema and setting a batch has the number of programs that was asked for, and each
is one that is drawn. -/
theorem exists_batch (hs : schema.fault? = none) (ht : setting.fault? = none) (seed : Int)
    (n : Nat) : ∃ batch, generatePrograms schema setting n seed = .ok batch ∧ batch.length = n ∧
      ∀ p ∈ batch, Drawn schema setting p := by
  obtain ⟨p, sources, hrows, hzero⟩ := Batch.exists_sources hs ht (Twister.ofSeed seed)
  have hg : Batch.Stands sources 0 (new (Twister.ofSeed seed)) := ⟨isClear_new _, hzero.symm⟩
  obtain ⟨h, hrun, -⟩ := Batch.programs_natCast hrows hg n
  refine ⟨(List.range' 0 n).map p, ?_, by simp, ?_⟩
  · rw [generatePrograms, Batch.prepare_ok hs ht]
    exact congrArg Prod.fst hrun
  · intro q hq
    obtain ⟨k, -, rfl⟩ := List.mem_map.mp hq
    obtain ⟨h, hr, -⟩ := hrows k (new (sources k)) (isClear_new _) rfl
    exact drawn_iff.mpr ((isClear_new _).composed hr)

/-- A program declares an object of a type outside of the schema just when a predicate asks for the
type and programs may have a body. -/
theorem exists_drawn_iff (hs : schema.fault? = none) (ht : setting.fault? = none) {type : String}
    (htype : type ∉ schema.typeNames) :
    (∃ p, Drawn schema setting p ∧ ∃ name, (type, name) ∈ objects p.statements) ↔
      schema.Wants type ∧ 0 < setting.maxLength := by
  constructor
  · rintro ⟨p, hp, name, ho⟩
    obtain ⟨⟨header, blocks, hc⟩, -⟩ := drawn_iff.mp hp
    exact (hc.type_of_object ho).resolve_left htype
  · rintro ⟨hwants, hpos⟩
    obtain ⟨htypes, -⟩ := schema.fault?_eq_none_iff.mp hs
    obtain ⟨-, hle⟩ := setting.fault?_eq_none_iff.mp ht
    obtain ⟨p, header, blocks, hc, hn, name, ho⟩ :=
      exists_composed_of_wants htypes hle hpos hwants
    exact ⟨p, drawn_iff.mpr ⟨⟨header, blocks, hc⟩, hn⟩, name, ho⟩

/-- All programs over a usable schema and setting keep to the declared types just when predicates
ask for declared types only, or no program has a body.  The programs of every batch are among them,
and their objects have declared types or such as predicates ask for. -/
theorem conforms_iff (hs : schema.fault? = none) (ht : setting.fault? = none) :
    ((∀ p, Drawn schema setting p → Conforms schema p.statements) ↔
      (∀ type, schema.Wants type → type ∈ schema.typeNames) ∨ setting.maxLength = 0) ∧
    ∀ (seed : Int) (n : Nat), ∃ batch, generatePrograms schema setting n seed = .ok batch ∧
      batch.length = n ∧ ∀ p ∈ batch, Drawn schema setting p ∧
        ∀ o ∈ objects p.statements, o.1 ∈ schema.typeNames ∨ schema.Wants o.1 := by
  obtain ⟨hzero, hle⟩ := setting.fault?_eq_none_iff.mp ht
  refine ⟨⟨fun h => ?_, fun h p hp o ho => ?_⟩, fun seed n => ?_⟩
  · by_contra hnot
    obtain ⟨hwants, hpos⟩ := not_or.mp hnot
    simp only [not_forall] at hwants
    obtain ⟨type, hw, hm⟩ := hwants
    obtain ⟨p, hp, name, ho⟩ := (exists_drawn_iff hs ht hm).mpr ⟨hw, by omega⟩
    exact hm (h p hp _ ho)
  · by_contra hm
    obtain ⟨hw, hpos⟩ := (exists_drawn_iff hs ht hm).mp ⟨p, hp, o.2, ho⟩
    rcases h with h | h
    · exact hm (h _ hw)
    · omega
  · obtain ⟨batch, hbatch, hlength, hdrawn⟩ := exists_batch hs ht seed n
    refine ⟨batch, hbatch, hlength, fun p hp => ⟨hdrawn p hp, fun o ho => ?_⟩⟩
    obtain ⟨⟨header, blocks, hc⟩, -⟩ := drawn_iff.mp (hdrawn p hp)
    exact (hc.type_of_object ho).imp_right And.left

/-- Over sets and points all programs keep to the declared types. -/
theorem conforms_iff_setsAndPoints :
    Schema.setsAndPoints.fault? = none ∧ Setting.fault? ⟨2, 5, .mixed⟩ = none ∧
    ((∀ p, Drawn Schema.setsAndPoints ⟨2, 5, .mixed⟩ p →
        Conforms Schema.setsAndPoints p.statements) ↔
      (∀ type, Schema.setsAndPoints.Wants type → type ∈ Schema.setsAndPoints.typeNames) ∨
        (5 : Int) = 0) ∧
    ∀ (seed : Int) (n : Nat), ∃ batch,
      generatePrograms Schema.setsAndPoints ⟨2, 5, .mixed⟩ n seed = .ok batch ∧
      batch.length = n ∧ ∀ p ∈ batch, Drawn Schema.setsAndPoints ⟨2, 5, .mixed⟩ p ∧
        ∀ o ∈ objects p.statements,
          o.1 ∈ Schema.setsAndPoints.typeNames ∨ Schema.setsAndPoints.Wants o.1 :=
  ⟨by decide, by decide, conforms_iff (by decide) (by decide)⟩

/-- A vocabulary of sets with a predicate on points, which it does not declare. -/
def strayPoints : Schema := (Schema.empty.addType "Set").addPredicate "P" (.objects ["Point"])

/-- The program that declares a set, and then a point for the predicate. -/
def strayPointsProgram : Program :=
  ⟨[.declaration "Set" "s" [], .declaration "Point" "p" [], .application "P" ["p"]], 1, 1⟩

/-- Schema and setting are accepted, yet a point is declared. -/
theorem not_conforms_strayPoints :
    strayPoints.fault? = none ∧ Setting.fault? ⟨1, 1, .generated⟩ = none ∧
      Drawn strayPoints ⟨1, 1, .generated⟩ strayPointsProgram ∧
      ¬Conforms strayPoints strayPointsProgram.statements := by
  refine ⟨by decide, by decide, drawn_iff.mpr ⟨?_, ?_⟩, fun h => ?_⟩
  · have hset : Opens strayPoints [.declaration "Set" "s" []] := by
      intro s hs
      exact ⟨"Set", by decide, "s", List.mem_singleton.mp hs⟩
    have hpoint : Finds .generated [.declaration "Set" "s" []] "Point"
        [.declaration "Point" "p" []] "p" := .new (by decide) (by decide)
    exact ⟨_, _, rfl, hset,
      .cons (.application (by decide) (.objects (.cons hpoint .nil))) .nil,
      rfl, .inl rfl, rfl, by decide, by decide⟩
  · rw [show strayPointsProgram.statements =
      ([] ++ [.declaration "Set" "s" []] ++ [.declaration "Point" "p" []]) ++
        [.application "P" ["p"]] from rfl, wellNamed_append_application,
      wellNamed_append_declaration, wellNamed_append_declaration]
    exact ⟨⟨wellNamed_nil, by decide⟩, by decide⟩
  · exact absurd (h ("Point", "p") (by decide)) (by decide)

end Generator

end Substance
