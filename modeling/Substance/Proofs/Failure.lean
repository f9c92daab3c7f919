import Substance.Proofs.Coupling
import Substance.Proofs.Interleaving

/-!
# When generation fails

There is nothing that undoes a step of a generator, yet a call that fails leaves names and
statements as they were: each failure comes before the first declaration.  The laws of `Extends` say
so for one computation; here they are read off for calls, in every state that calls lead to.

* `Extends.of_fault?`, `Extends.exists_fault?`: a computation fails as its law has it, and does fail
  where the law leaves no success.
* `Call.Fails`: for which want a call fails.
* `fails_exactly`: calls fail for these wants only, and then change nothing but the source and the
  journal; a batch over a usable schema and setting fails only for a negative number of programs.
-/

namespace Substance

open Substance.Random Statement

/-- A program has a length within bounds, and its header is of declared types. -/
theorem Composed.usable {schema : Schema} {setting : Setting} {before header : List Statement}
    {p : Program} {blocks : List (List Statement)}
    (h : Composed schema setting before p header blocks) :
    setting.minLength ≤ setting.maxLength ∧ schema.typeNames ≠ [] := by
  have hbody := h.bodyRange
  have hheader := h.headerRange
  refine ⟨by omega, ?_⟩
  obtain ⟨s, hs⟩ := List.exists_mem_of_length_pos (l := header) (by omega)
  obtain ⟨type, hm, -⟩ := h.opens s hs
  exact List.ne_nil_of_mem hm

namespace Generator

variable {σ α : Type}

/-! ## Faults of computations -/

/-- The fault of a computation, when it fails. -/
def fault? (m : Generation σ α) (g : Generator σ) : Option GenerationFault :=
  match m g with
  | .ok _ _ => none
  | .error e _ => some e

/-- The same names and the same statements. -/
def SameProgram (g h : Generator σ) : Prop := h.names = g.names ∧ h.draft = g.draft

/-- Coherent generators with the same statements have the same names. -/
theorem Coherent.sameProgram {g h : Generator σ} (hg : g.Coherent) (hh : h.Coherent)
    (hl : h.statements = g.statements) : g.SameProgram h := by
  refine ⟨Registry.Tracks.eq hh (hl ▸ hg), ?_⟩
  have hdraft : h.draft.statements = g.draft.statements := Array.toList_inj.mp hl
  exact congrArg Draft.mk hdraft

variable [Source σ] {m : Generation σ α} {g : Generator σ}
  {done : α → List Statement → Nat → Prop} {failed : GenerationFault → Prop}
  {e : GenerationFault}

/-- A computation that fails does so as its law has it, and leaves the program as it was. -/
theorem Extends.of_fault? (h : Extends m g.statements done failed) (hg : g.Coherent)
    (he : fault? m g = some e) : failed e ∧ g.SameProgram (after m g) := by
  have hm := h g hg rfl
  rw [fault?] at he
  rw [after]
  cases hr : m g with
  | ok a h => simp [hr] at he
  | error e' g' =>
    rw [hr] at hm he
    obtain rfl := Option.some.inj he
    obtain ⟨hg', hl, hfailed⟩ := hm
    exact ⟨hfailed, hg.sameProgram hg' hl⟩

/-- A computation that cannot succeed fails. -/
theorem Extends.exists_fault? (h : Extends m g.statements done failed) (hg : g.Coherent)
    (hdone : ∀ a added n, ¬done a added n) : ∃ e, fault? m g = some e ∧ failed e := by
  have hm := h g hg rfl
  rw [fault?]
  cases hr : m g with
  | ok a g' =>
    rw [hr] at hm
    obtain ⟨-, added, n, -, -, ha⟩ := hm
    exact absurd ha (hdone a added n)
  | error e g' =>
    rw [hr] at hm
    exact ⟨e, rfl, hm.2.2⟩

/-- A choice among nothing fails. -/
theorem fault?_choose_nil_bind {β : Type} (f : β → Generation σ α) (g : Generator σ) :
    fault? (draw (choose []) >>= f) g = some (.draw .emptyChoice) := rfl

/-! ## Faults of calls -/

/-- The fault of a call, when it fails. -/
def Call.fault? (schema : Schema) (setting : Setting) :
    Call → Generator σ → Option GenerationFault
  | .addProgram => Generator.fault? (Generator.addProgram schema setting)
  | .addStatement => Generator.fault? (Generator.addStatement schema setting.policy)
  | .declareAny => Generator.fault? (Domain.declareAny schema)
  | .applyAny => Generator.fault? (Domain.applyAny setting.policy schema)
  | .predicateArguments signature =>
    Generator.fault? (Generator.predicateArguments (argumentFor setting.policy) signature.toPlain)
  | .declare type generality => Generator.fault? (declareWithin schema (.text type) generality)
  | .argument type policy =>
    Generator.fault? (argumentFor (policy.getD setting.policy) (.text type))
  | .arguments types policy =>
    Generator.fault? (Generator.predicateArguments (argumentFor (policy.getD setting.policy))
      (Signature.objects types).toPlain)
  | .reset => fun _ => none

/-- For which want a call fails, and how.  A program wants bounds in order before it wants types; a
body statement wants types only where a declaration is drawn. -/
def Call.Fails (schema : Schema) (setting : Setting) (e : GenerationFault) : Call → Prop
  | .addProgram =>
    (setting.maxLength < setting.minLength ∧
      e = .draw (.emptyRange setting.minLength setting.maxLength)) ∨
    (setting.minLength ≤ setting.maxLength ∧ schema.typeNames = [] ∧ e = .draw .emptyChoice)
  | .declareAny | .addStatement => schema.typeNames = [] ∧ e = .draw .emptyChoice
  | .applyAny => schema.predicateList = [] ∧ e = .draw .emptyChoice
  | .predicateArguments _ | .declare .. | .argument .. | .arguments .. | .reset => False

variable {schema : Schema} {setting : Setting}

/-- A call that fails does so for a want of its own, and leaves the program as it was. -/
theorem Call.of_fault? (hg : g.Coherent) (call : Call)
    (he : call.fault? schema setting g = some e) :
    call.Fails schema setting e ∧ g.SameProgram (call.serve schema setting g) := by
  cases call with
  | addProgram =>
    obtain ⟨hf, hsame⟩ := (extends_addProgram schema setting).of_fault? hg he
    refine ⟨?_, hsame⟩
    rcases hf with ⟨rfl, hlt⟩ | ⟨rfl, hnil, hle⟩
    · exact .inl ⟨hlt, rfl⟩
    · exact .inr ⟨hle, hnil, rfl⟩
  | addStatement =>
    obtain ⟨⟨rfl, hnil⟩, hsame⟩ := (extends_addStatement schema setting.policy).of_fault? hg he
    exact ⟨⟨hnil, rfl⟩, hsame⟩
  | declareAny =>
    obtain ⟨⟨rfl, hnil⟩, hsame⟩ := (extends_declareAny schema).of_fault? hg he
    exact ⟨⟨hnil, rfl⟩, hsame⟩
  | applyAny =>
    obtain ⟨⟨rfl, hnil⟩, hsame⟩ := (extends_applyAny schema setting.policy).of_fault? hg he
    exact ⟨⟨hnil, rfl⟩, hsame⟩
  | predicateArguments signature =>
    rw [Call.fault?, predicateArguments_toPlain] at he
    exact (((extends_predicateArguments _ signature).of_fault? hg he).1).elim
  | declare type generality =>
    exact (((extends_declareWithin schema type generality).of_fault? hg he).1).elim
  | argument type policy =>
    rw [Call.fault?, argumentFor_text] at he
    exact (((extends_argument _ type).of_fault? hg he).1).elim
  | arguments types policy =>
    rw [Call.fault?, predicateArguments_toPlain] at he
    exact (((extends_predicateArguments _ (.objects types)).of_fault? hg he).1).elim
  | reset => exact nomatch he

/-- A call fails where something is wanting.  Only a body statement may do without. -/
theorem Call.fault?_of_fails (hg : g.Coherent) (call : Call) (hcall : call ≠ .addStatement)
    (he : call.Fails schema setting e) : call.fault? schema setting g = some e := by
  cases call with
  | addProgram =>
    obtain ⟨e', he', hfailed⟩ := (extends_addProgram schema setting).exists_fault? hg
      fun p added n ⟨_, header, blocks, hc, _⟩ => by
        obtain ⟨hle, htypes⟩ := hc.usable
        rcases he with ⟨hlt, -⟩ | ⟨-, hnil, -⟩
        · omega
        · exact htypes hnil
    rw [Call.fault?, he']
    rcases hfailed with ⟨rfl, hlt⟩ | ⟨rfl, -, hle⟩ <;> rcases he with ⟨hlt', rfl⟩ | ⟨hle', -, rfl⟩
    · rfl
    · omega
    · omega
    · rfl
  | addStatement => exact absurd rfl hcall
  | declareAny =>
    obtain ⟨hnil, rfl⟩ := he
    rw [Call.fault?, Domain.declareAny, Generator.declareAny, hnil]
    exact fault?_choose_nil_bind _ g
  | applyAny =>
    obtain ⟨hnil, rfl⟩ := he
    rw [Call.fault?, Domain.applyAny, Generator.applyAny, hnil]
    exact fault?_choose_nil_bind _ g
  | predicateArguments _ => exact he.elim
  | declare _ _ => exact he.elim
  | argument _ _ => exact he.elim
  | arguments _ _ => exact he.elim
  | reset => exact he.elim

/-- Calls keep a generator coupled. -/
theorem Coupled.run (h : Coupled schema g) (calls : List Call) :
    Coupled schema (run schema setting calls g) := by
  induction calls generalizing g with
  | nil => exact h
  | cons call calls ih => exact ih (h.serve call)

end Generator

namespace Batch

/-! ## Faults of batches -/

/-- The fault that is answered, if any. -/
def Reply.fault? : Reply → Option BatchFault
  | .next (.fault f) => some f
  | .generate (.error f) => some f
  | _ => none

/-- A faulty answer of an iterator. -/
theorem Reply.of_fault?_next {answer : Answer} {f : BatchFault}
    (h : (Reply.next answer).fault? = some f) : answer = .fault f := by
  cases answer with
  | fault _ => exact congrArg Answer.fault (Option.some.inj h)
  | program _ => cases h
  | stop => cases h

/-- A faulty answer instead of a whole batch. -/
theorem Reply.of_fault?_generate {outcome : Except BatchFault (List Program)} {f : BatchFault}
    (h : (Reply.generate outcome).fault? = some f) : outcome = .error f := by
  cases outcome with
  | error _ => exact congrArg Except.error (Option.some.inj h)
  | ok _ => cases h

/-- The fault of a negative number of programs. -/
def OfNegativeCount (f : BatchFault) : Prop := ∃ count < 0, f = .negativeCount count

variable {σ : Type} [Source σ] {schema : Schema} {setting : Setting} {g : Generator σ}

/-- A running iterator refuses nothing, and leaves a coherent generator. -/
theorem advance_coherent (hs : schema.fault? = none) (ht : setting.fault? = none)
    (hg : g.Coherent) (done total : Nat) :
    (∀ f, (advance schema setting done total g).1 ≠ .fault f) ∧
      (advance schema setting done total g).2.2.Coherent := by
  rw [advance]
  split
  · obtain ⟨p, h, hr, -⟩ :=
      (Generator.extends_addProgram_total hs ht g.statements).exists_ok hg rfl
    rw [hr]
    exact ⟨by simp, (Generator.isClear_reset h).coherent⟩
  · exact ⟨by simp, hg⟩

/-- An iterator refuses a negative number of programs only, and leaves a coherent generator. -/
theorem next_coherent (hs : schema.fault? = none) (ht : setting.fault? = none)
    (hg : g.Coherent) (it : Iterator) :
    (∀ f, (next schema setting it g).1 = .fault f → OfNegativeCount f) ∧
      (next schema setting it g).2.2.Coherent := by
  cases it with
  | waiting count =>
    by_cases hneg : count < 0
    · rw [next, if_pos hneg]
      refine ⟨fun f hf => ⟨count, hneg, ?_⟩, hg⟩
      exact (Answer.fault.inj hf).symm
    · rw [next, if_neg hneg]
      obtain ⟨hne, hh⟩ := advance_coherent hs ht hg 0 count.toNat
      exact ⟨fun f hf => absurd hf (hne f), hh⟩
  | running done total =>
    obtain ⟨hne, hh⟩ := advance_coherent hs ht hg done total
    exact ⟨fun f hf => absurd hf (hne f), hh⟩
  | exhausted => exact ⟨by simp [next], hg⟩

/-- An iterator that is asked again and again refuses a negative number of programs only. -/
theorem collect_coherent (hs : schema.fault? = none) (ht : setting.fault? = none) (budget : Nat)
    (it : Iterator) (hg : g.Coherent) :
    (∀ f, (collect schema setting budget it g).1 = .error f → OfNegativeCount f) ∧
      (collect schema setting budget it g).2.2.Coherent := by
  induction budget generalizing it g with
  | zero => exact ⟨by simp [collect], hg⟩
  | succ budget ih =>
    obtain ⟨hf, hh⟩ := next_coherent hs ht hg it
    rw [collect]
    rcases hnext : next schema setting it g with ⟨answer, it', h⟩
    rw [hnext] at hf hh
    cases answer with
    | program p =>
      obtain ⟨hf', hh'⟩ := ih it' hh
      refine ⟨fun f hmap => hf' f ?_, hh'⟩
      cases hc : (collect schema setting budget it' h).1 with
      | ok ps => simp [hc, Except.map] at hmap
      | error e => simpa [hc, Except.map] using hmap
    | stop => exact ⟨by simp, hh⟩
    | fault f => exact ⟨fun f' hf' => hf f' (by rw [Except.error.inj hf']), hh⟩

variable {ι : Type} [DecidableEq ι]

/-- A request is refused only for a negative number of programs, and leaves a coherent generator. -/
theorem serve_coherent (hs : schema.fault? = none) (ht : setting.fault? = none) (s : Session ι σ)
    (hg : s.generator.Coherent) (request : Request ι) :
    (∀ f, (s.serve schema setting request).1.fault? = some f → OfNegativeCount f) ∧
      (s.serve schema setting request).2.generator.Coherent := by
  cases request with
  | next i =>
    obtain ⟨hf, hh⟩ := next_coherent hs ht hg (s.iterators i)
    exact ⟨fun f h => hf f (Reply.of_fault?_next h), hh⟩
  | generate count =>
    obtain ⟨hf, hh⟩ := collect_coherent hs ht (remaining (.waiting count) + 1) (.waiting count) hg
    exact ⟨fun f h => hf f (Reply.of_fault?_generate h), hh⟩

/-- Requests are refused only for negative numbers of programs. -/
theorem run_faults (hs : schema.fault? = none) (ht : setting.fault? = none)
    (requests : List (Request ι)) (s : Session ι σ) (hg : s.generator.Coherent) :
    ∀ step ∈ (Session.run schema setting requests s).1, ∀ f,
      step.2.fault? = some f → OfNegativeCount f := by
  induction requests generalizing s with
  | nil => exact fun step hstep => nomatch hstep
  | cons request requests ih =>
    obtain ⟨hf, hh⟩ := serve_coherent hs ht s hg request
    rw [Session.run]
    exact List.forall_mem_cons.mpr ⟨hf, ih _ hh⟩

/-- Schema and setting are usable where there is a generator for a seed, which is a new one. -/
theorem of_prepare_ok {seed : Int} {g : Generator Twister}
    (h : Batch.prepare schema setting seed = .ok g) :
    schema.fault? = none ∧ setting.fault? = none ∧ g = .new (.ofSeed seed) := by
  cases hs : schema.fault? with
  | some fault =>
    rw [prepare, check, Domain.fault?, hs] at h
    cases h
  | none =>
    cases ht : setting.fault? with
    | some fault =>
      rw [prepare, check, Domain.fault?, hs, ht] at h
      cases h
    | none =>
      rw [prepare_ok hs ht] at h
      exact ⟨rfl, rfl, (Except.ok.inj h).symm⟩

end Batch

/-! ## All together -/

namespace Generator

/-- In every state that calls lead to, a call fails for a want of its own only, and whenever there
is one (a body statement may do without); when it fails, names and statements are as they were.  So
a batch, once schema and setting are accepted, is refused only for a negative number of programs,
whatever was called and asked for before. -/
theorem fails_exactly {σ : Type} [Source σ] (schema : Schema) (setting : Setting) (source : σ)
    (calls : List Call) :
    let g := run schema setting calls (new source)
    (∀ (call : Call) (e : GenerationFault), call.fault? schema setting g = some e →
      call.Fails schema setting e ∧ g.SameProgram (call.serve schema setting g)) ∧
    (∀ (call : Call) (e : GenerationFault), call ≠ .addStatement →
      call.Fails schema setting e → call.fault? schema setting g = some e) ∧
    ∀ (seed : Int) (fresh : Generator Twister), Batch.prepare schema setting seed = .ok fresh →
      ∀ (earlier : List Call) (ι : Type) [DecidableEq ι] (counts : ι → Int)
        (requests : List (Batch.Request ι)),
        ∀ step ∈ (Batch.Session.run schema setting requests
          (.start counts (run schema setting earlier fresh))).1,
        ∀ f, step.2.fault? = some f → Batch.OfNegativeCount f := by
  have hcoupled : Coupled schema (run schema setting calls (new source)) :=
    (isClear_new source).coupled.run calls
  have hg := hcoupled.tracks
  refine ⟨fun call e => call.of_fault? hg, fun call e => call.fault?_of_fails hg, ?_⟩
  intro seed fresh hprepare earlier ι _ counts requests
  obtain ⟨hs, ht, rfl⟩ := Batch.of_prepare_ok hprepare
  have hfresh : Coupled schema (run schema setting earlier (new (Twister.ofSeed seed))) :=
    (isClear_new _).coupled.run earlier
  exact Batch.run_faults hs ht requests _ hfresh.tracks

end Generator

end Substance
