import Substance.Proofs.Naming
import Substance.Schema
import Substance.Setting
import Mathlib.Data.List.Forall2

/-!
# The language of programs over a schema

Which lists of statements are programs, said without a generator.  An argument of a predicate is an
object that was declared before it is asked for, or right then; a block of the body is a declaration,
or an application with the declarations made for its arguments; a program is one or two declarations
and a row of blocks.  Since the declarations made for arguments look like those of the body, every
relation speaks of the statements that stand before the ones it describes.

* `Finds`, `FindsAll`, `Fills`: one argument, the arguments in order, the arguments of a predicate.
* `Block`, `Blocks`: one statement of the body with what was declared for it, and a row of them.
* `Composed`: a program with the parts that it splits into.
* `AppliesRightly`: every application is of a predicate of the schema, to objects declared earlier.
-/

namespace Substance

open Statement

/-! ## Arguments -/

/-- `Finds policy before type added name`: after the statements `before`, an argument of this type
may be the object `name`, for which the statements `added` are made. -/
inductive Finds (policy : Policy) (before : List Statement) (type : String) :
    List Statement → String → Prop
  /-- An object of the type that exists already. -/
  | old {name : String} : policy ≠ .generated → name ∈ namesOf type before →
      Finds policy before type [] name
  /-- Any object of the type once one more is declared; where existing ones are wanted, this is the
  way only if there are none. -/
  | new {own name : String} : (policy = .existing → namesOf type before = []) →
      name ∈ namesOf type (before ++ [.declaration type own []]) →
      Finds policy before type [.declaration type own []] name

/-- The arguments of the given types are found one after the other. -/
inductive FindsAll (policy : Policy) :
    List Statement → List String → List Statement → List String → Prop
  | nil {before : List Statement} : FindsAll policy before [] [] []
  | cons {before added more : List Statement} {type name : String} {types names : List String} :
      Finds policy before type added name → FindsAll policy (before ++ added) types more names →
      FindsAll policy before (type :: types) (added ++ more) (name :: names)

/-- The arguments of a predicate are found.  One that applies to propositions has none. -/
inductive Fills (policy : Policy) (before : List Statement) :
    Signature String → List Statement → List String → Prop
  | objects {types names : List String} {added : List Statement} :
      FindsAll policy before types added names → Fills policy before (.objects types) added names
  | propositions : Fills policy before .propositions [] []

/-- What a predicate may be applied to after some statements: one object of each type, in order, or
nothing. -/
def Signature.Takes (before : List Statement) : Signature String → List String → Prop
  | .objects types, names => List.Forall₂ (fun type name => name ∈ namesOf type before) types names
  | .propositions, names => names = []

/-! ## Programs -/

/-- A block of a body: a declaration of a declared type, or the application of a predicate after the
declarations made for its arguments. -/
inductive Block (schema : Schema) (policy : Policy) (before : List Statement) :
    List Statement → Prop
  | declaration {type name : String} : type ∈ schema.typeNames →
      Block schema policy before [.declaration type name []]
  | application {predicate : String} {signature : Signature String} {added : List Statement}
      {names : List String} : (predicate, signature) ∈ schema.predicateList →
      Fills policy before signature added names →
      Block schema policy before (added ++ [.application predicate names])

/-- Blocks one after the other. -/
inductive Blocks (schema : Schema) (policy : Policy) :
    List Statement → List (List Statement) → Prop
  | nil {before : List Statement} : Blocks schema policy before []
  | cons {before block : List Statement} {rest : List (List Statement)} :
      Block schema policy before block → Blocks schema policy (before ++ block) rest →
      Blocks schema policy before (block :: rest)

/-- Declarations of declared types. -/
def Opens (schema : Schema) (header : List Statement) : Prop :=
  ∀ s ∈ header, ∃ type ∈ schema.typeNames, ∃ name, s = .declaration type name []

/-- A program that continues the statements `before` by a header and blocks, in numbers that the
setting allows. -/
structure Composed (schema : Schema) (setting : Setting) (before : List Statement) (p : Program)
    (header : List Statement) (blocks : List (List Statement)) : Prop where
  statements : p.statements = before ++ (header ++ blocks.flatten)
  opens : Opens schema header
  body : Blocks schema setting.policy (before ++ header) blocks
  headerCount : p.headerCount = header.length
  headerRange : header.length = 1 ∨ header.length = 2
  bodyCount : p.bodyCount.toNat = blocks.length
  bodyRange : setting.minLength ≤ p.bodyCount ∧ p.bodyCount ≤ setting.maxLength

/-- A vocabulary of sets and their points, for examples. -/
def Schema.setsAndPoints : Schema :=
  (((Schema.empty.addType "Set").addType "Point").addPredicate "In"
    (.objects ["Point", "Set"])).addPredicate "Not" .propositions

/-! ## Applications -/

/-- Every application is of a predicate of the schema, to objects that stand earlier. -/
def AppliesRightly (schema : Schema) (l : List Statement) : Prop :=
  ∀ i predicate names, l[i]? = some (.application predicate names) →
    ∃ signature, schema.predicates.get? predicate = some signature ∧
      signature.Takes (l.take i) names

/-- The number of arguments of all applications. -/
def argumentCount : List Statement → Nat
  | [] => 0
  | .declaration .. :: l => argumentCount l
  | .application _ names :: l => names.length + argumentCount l

@[simp] theorem argumentCount_nil : argumentCount [] = 0 := rfl

@[simp] theorem argumentCount_append (l m : List Statement) :
    argumentCount (l ++ m) = argumentCount l + argumentCount m := by
  induction l with
  | nil => exact (Nat.zero_add _).symm
  | cons s l ih =>
    cases s with
    | declaration => exact ih
    | application predicate names =>
      rw [List.cons_append, argumentCount, argumentCount, ih, Nat.add_assoc]

@[simp] theorem argumentCount_declaration (type name : String) (arguments : List String) :
    argumentCount [.declaration type name arguments] = 0 := rfl

@[simp] theorem argumentCount_application (predicate : String) (names : List String) :
    argumentCount [.application predicate names] = names.length := rfl

section Arguments

variable {policy : Policy} {before added : List Statement} {type name : String}
  {types names : List String} {signature : Signature String}

/-- An argument that is found is an object of its type by then. -/
theorem Finds.mem_namesOf (h : Finds policy before type added name) :
    name ∈ namesOf type (before ++ added) := by
  cases h with
  | old _ hm => simpa using hm
  | new _ hm => exact hm

/-- At most one declaration is made for an argument. -/
theorem Finds.eq_nil_or_declaration (h : Finds policy before type added name) :
    added = [] ∨ ∃ own, added = [.declaration type own []] := by
  cases h with
  | old => exact .inl rfl
  | new => exact .inr ⟨_, rfl⟩

/-- Nothing is applied while arguments are found. -/
theorem FindsAll.isDeclaration (h : FindsAll policy before types added names) :
    ∀ s ∈ added, s.isDeclaration = true := by
  induction h with
  | nil => simp
  | cons h _ ih =>
    intro s hs
    rcases List.mem_append.mp hs with hs | hs
    · rcases h.eq_nil_or_declaration with rfl | ⟨own, rfl⟩
      · cases hs
      · rw [List.mem_singleton.mp hs]
        rfl
    · exact ih s hs

/-- The arguments that are found are objects of their types by then. -/
theorem FindsAll.takes (h : FindsAll policy before types added names) :
    (Signature.objects types).Takes (before ++ added) names := by
  induction h with
  | nil => exact List.Forall₂.nil
  | cons h _ ih =>
    rw [List.append_assoc] at ih
    refine List.Forall₂.cons ?_ ih
    rw [← List.append_assoc, namesOf_append]
    exact List.mem_append_left _ h.mem_namesOf

/-- Nothing is applied while the arguments of a predicate are found. -/
theorem Fills.isDeclaration (h : Fills policy before signature added names) :
    ∀ s ∈ added, s.isDeclaration = true := by
  cases h with
  | objects h => exact h.isDeclaration
  | propositions => simp

/-- A predicate may be applied to the arguments that are found for it. -/
theorem Fills.takes (h : Fills policy before signature added names) :
    signature.Takes (before ++ added) names := by
  cases h with
  | objects h => exact h.takes
  | propositions => rfl

/-- A header declares. -/
theorem Opens.isDeclaration {schema : Schema} {header : List Statement} (h : Opens schema header) :
    ∀ s ∈ header, s.isDeclaration = true := by
  intro s hs
  obtain ⟨type, -, name, rfl⟩ := h s hs
  rfl

/-- Declarations have no arguments. -/
theorem argumentCount_eq_zero {l : List Statement} (h : ∀ s ∈ l, s.isDeclaration = true) :
    argumentCount l = 0 := by
  induction l with
  | nil => rfl
  | cons s l ih =>
    obtain ⟨hs, hl⟩ := List.forall_mem_cons.mp h
    cases s with
    | declaration => exact ih hl
    | application => cases hs

end Arguments

/-! ## Applications stay right -/

section AppliesRightly

variable {schema : Schema} {policy : Policy} {before added : List Statement}

/-- No statements apply anything. -/
theorem appliesRightly_nil (schema : Schema) : AppliesRightly schema [] := by
  intro i predicate names h
  simp at h

/-- A statement is added that is no application, or one of a predicate to what it takes. -/
theorem AppliesRightly.append_singleton {s : Statement} (h : AppliesRightly schema before)
    (hs : ∀ predicate names, s = .application predicate names →
      ∃ signature, schema.predicates.get? predicate = some signature ∧
        signature.Takes before names) :
    AppliesRightly schema (before ++ [s]) := by
  intro i predicate names hi
  rw [List.getElem?_append] at hi
  split at hi
  · next hlt =>
    rw [List.take_append_of_le_length (Nat.le_of_lt hlt)]
    exact h i predicate names hi
  · next hge =>
    -- the only place behind the old statements is the one of the new statement
    obtain ⟨hlt, he⟩ := List.getElem?_eq_some_iff.mp hi
    have hi' : i = before.length := by
      simp only [List.length_singleton] at hlt
      omega
    subst hi'
    rw [List.take_left]
    exact hs predicate names (by simpa using he)

/-- Declarations are no applications. -/
theorem AppliesRightly.append_declarations (h : AppliesRightly schema before)
    (hd : ∀ s ∈ added, s.isDeclaration = true) : AppliesRightly schema (before ++ added) := by
  induction added generalizing before with
  | nil => simpa using h
  | cons s added ih =>
    obtain ⟨hs, hadded⟩ := List.forall_mem_cons.mp hd
    rw [← List.singleton_append, ← List.append_assoc]
    refine ih (h.append_singleton ?_) hadded
    rintro predicate names rfl
    cases hs

/-- A block declares, and then applies a predicate of the schema to what it takes. -/
theorem AppliesRightly.append_block (h : AppliesRightly schema before)
    (hb : Block schema policy before added) : AppliesRightly schema (before ++ added) := by
  cases hb with
  | declaration _ =>
    refine h.append_declarations fun s hs => ?_
    rw [List.mem_singleton.mp hs]
    rfl
  | application hp hf =>
    rw [← List.append_assoc]
    refine (h.append_declarations hf.isDeclaration).append_singleton fun predicate names he => ?_
    cases he
    exact ⟨_, Table.get?_eq_some_iff.mpr hp, hf.takes⟩

/-- Blocks apply rightly one after the other. -/
theorem AppliesRightly.append_blocks {blocks : List (List Statement)}
    (h : AppliesRightly schema before) (hb : Blocks schema policy before blocks) :
    AppliesRightly schema (before ++ blocks.flatten) := by
  induction hb with
  | nil => simpa using h
  | cons hb _ ih =>
    rw [List.flatten_cons, ← List.append_assoc]
    exact ih (h.append_block hb)

end AppliesRightly

end Substance
