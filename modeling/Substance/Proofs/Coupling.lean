import Substance.Proofs.Growth

/-!
# Names and statements stay coupled

A generator keeps its names apart from its statements, and operations that nest in one another change
both.  `Coupled` is what ties the two together; it holds of a new generator, every call keeps it
(`Coupled.serve`), and so it holds in every state that calls in any order lead to, those that fail
included (`coupled_run`).
-/

namespace Substance

open Substance.Random Statement

namespace Generator

variable {σ α : Type}

/-! ## Calls -/

/-- What may be asked of a generator.  An argument is found as the setting has it, unless a policy
is named. -/
inductive Call where
  | addProgram
  | addStatement
  | declareAny
  | applyAny
  | predicateArguments (signature : Signature String)
  | declare (type : String) (generality : Generality)
  | argument (type : String) (policy : Option Policy)
  | arguments (types : List String) (policy : Option Policy)
  | reset
deriving DecidableEq, Repr

/-- The generator after a computation, whether that succeeded or failed. -/
def after (m : Generation σ α) (g : Generator σ) : Generator σ :=
  match m g with
  | .ok _ h => h
  | .error _ h => h

variable [Source σ]

/-- The generator after a call. -/
def Call.serve (schema : Schema) (setting : Setting) : Call → Generator σ → Generator σ
  | .addProgram => after (Generator.addProgram schema setting)
  | .addStatement => after (Generator.addStatement schema setting.policy)
  | .declareAny => after (Domain.declareAny schema)
  | .applyAny => after (Domain.applyAny setting.policy schema)
  | .predicateArguments signature =>
    after (Generator.predicateArguments (argumentFor setting.policy) signature.toPlain)
  | .declare type generality => after (declareWithin schema (.text type) generality)
  | .argument type policy => after (argumentFor (policy.getD setting.policy) (.text type))
  | .arguments types policy =>
    after (Generator.predicateArguments (argumentFor (policy.getD setting.policy))
      (Signature.objects types).toPlain)
  | .reset => Generator.reset

/-- The generator after some calls. -/
def run (schema : Schema) (setting : Setting) (calls : List Call) (g : Generator σ) :
    Generator σ :=
  calls.foldl (fun g call => call.serve schema setting g) g

/-! ## The invariant -/

/-- The registry is the one of the statements, and these apply the predicates of the schema to
objects that were declared before. -/
structure Coupled (schema : Schema) (g : Generator σ) : Prop where
  tracks : g.names.Tracks g.statements
  applies : AppliesRightly schema g.statements

variable {schema : Schema} {setting : Setting} {g : Generator σ}

omit [Source σ] in
/-- A clear generator is coupled. -/
theorem IsClear.coupled (h : g.IsClear) : Coupled schema g where
  tracks := h.coherent
  applies := by
    rw [h.statements]
    exact appliesRightly_nil schema

/-- A computation keeps a generator coupled, when that which it adds applies rightly.  A failure adds
nothing. -/
theorem Coupled.after {m : Generation σ α} {done : α → List Statement → Nat → Prop}
    {failed : GenerationFault → Prop} (h : Coupled schema g)
    (hm : Extends m g.statements done failed)
    (hdone : ∀ a added n, done a added n → AppliesRightly schema (g.statements ++ added)) :
    Coupled schema (after m g) := by
  have hout := hm g h.tracks rfl
  rw [Generator.after]
  cases hr : m g with
  | ok a g₁ =>
    rw [hr] at hout
    obtain ⟨htracks, added, n, hadded, -, ha⟩ := hout
    exact ⟨htracks, hadded ▸ hdone a added n ha⟩
  | error e g₁ =>
    rw [hr] at hout
    obtain ⟨htracks, hsame, -⟩ := hout
    exact ⟨htracks, hsame ▸ h.applies⟩

/-- Arguments of a predicate are found by declarations, which apply nothing. -/
theorem Coupled.after_predicateArguments (h : Coupled schema g) (policy : Policy)
    (signature : Signature String) :
    Coupled schema
      (Generator.after (predicateArguments (argumentFor policy) signature.toPlain) g) := by
  rw [predicateArguments_toPlain]
  refine h.after (extends_predicateArguments policy signature) ?_
  rintro names added n ⟨hf, -⟩
  exact h.applies.append_declarations hf.isDeclaration

/-- Every call keeps a generator coupled. -/
theorem Coupled.serve (h : Coupled schema g) (call : Call) :
    Coupled schema (call.serve schema setting g) := by
  cases call with
  | addProgram =>
    refine h.after (extends_addProgram schema setting) ?_
    rintro p added n ⟨hp, header, blocks, hc, -⟩
    have hadded : added = header ++ blocks.flatten :=
      List.append_cancel_left (hp.symm.trans hc.statements)
    rw [hadded, ← List.append_assoc]
    exact (h.applies.append_declarations hc.opens.isDeclaration).append_blocks hc.body
  | addStatement =>
    refine h.after (extends_addStatement schema setting.policy) ?_
    rintro s added n ⟨hb, -⟩
    exact h.applies.append_block hb
  | declareAny =>
    refine h.after (extends_declareAny schema) ?_
    rintro s added n ⟨⟨type, hm, rfl⟩, rfl, -⟩
    exact h.applies.append_block (Block.declaration hm : Block schema setting.policy _ _)
  | applyAny =>
    refine h.after (extends_applyAny schema setting.policy) ?_
    rintro s added n ⟨hb, -⟩
    exact h.applies.append_block hb
  | predicateArguments signature => exact h.after_predicateArguments setting.policy signature
  | declare type generality =>
    refine h.after (extends_declareWithin schema type generality) ?_
    rintro s added n ⟨t, -, -, rfl, rfl⟩
    exact h.applies.append_declarations (by simp [Statement.isDeclaration])
  | argument type policy =>
    have hargument := @extends_argument σ _ g.statements
      (policy.getD setting.policy) type
    rw [← argumentFor_text] at hargument
    refine h.after hargument ?_
    rintro name added n ⟨hf, -⟩
    refine h.applies.append_declarations fun s hs => ?_
    obtain rfl | ⟨own, rfl⟩ := hf.eq_nil_or_declaration
    · cases hs
    · rw [List.mem_singleton.mp hs]
      rfl
  | arguments types policy => exact h.after_predicateArguments _ (.objects types)
  | reset => exact (isClear_reset g).coupled

/-- Every state that calls lead to from a new generator is coupled. -/
theorem coupled_run (schema : Schema) (setting : Setting) (source : σ) (calls : List Call) :
    Coupled schema (run schema setting calls (new source)) := by
  suffices h : ∀ g : Generator σ, Coupled schema g → Coupled schema (run schema setting calls g) from
    h _ (isClear_new source).coupled
  induction calls with
  | nil => exact fun g hg => hg
  | cons call calls ih => exact fun g hg => ih _ (hg.serve call)

end Generator

end Substance
