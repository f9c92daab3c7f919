import Substance.Domain.Generation
import Substance.Proofs.Language

/-!
# What the operations of a generator add

An operation of a generator either adds statements to the draft, or fails and leaves names and draft
as they were.  `Extends` says what it adds in terms of the statements that stand there, for every
generator whose registry is the one of its statements; the rules for its parts follow the
computation, so each operation has one law and those that use it quote that law.

* `extends_argument`, `extends_predicateArguments`: arguments are found as `Finds` and `Fills` say.
* `extends_declareAny`, `extends_applyAny`, `extends_addStatement`: a body statement adds a block, and
  fails only for want of types or predicates.
* `extends_addProgram`: a program adds a header and blocks.

Each law also counts the draws, by `Drew`.
-/

namespace Substance

open Substance.Random Statement

namespace Random

variable {σ : Type} [Source σ]

/-- `Drew n s t`: the source is `t` after `n` draws from `s`. -/
inductive Drew : Nat → σ → σ → Prop
  | none (s : σ) : Drew 0 s s
  | next {n : Nat} {s t : σ} (top : Nat) : Drew n s t → Drew (n + 1) s (Source.draw top t).2

/-- One draw. -/
theorem Drew.single (top : Nat) (s : σ) : Drew 1 s (Source.draw top s).2 := .next top (.none s)

/-- Draws add up. -/
theorem Drew.trans {m n : Nat} {s t u : σ} (h : Drew m s t) (h' : Drew n t u) :
    Drew (m + n) s u := by
  induction h' with
  | none _ => exact h
  | next top _ ih => exact .next top (ih h)

end Random

/-- The number of draws for one argument. -/
def Policy.draws : Policy → Nat
  | .mixed => 2
  | _ => 1

namespace Generator

variable {σ α β : Type}

/-- The statements of the draft. -/
def statements (g : Generator σ) : List Statement := g.draft.toList

/-- The registry is the one of the statements. -/
def Coherent (g : Generator σ) : Prop := g.names.Tracks g.statements

@[simp] theorem statements_append (s : Statement) (g : Generator σ) :
    (g.append s).statements = g.statements ++ [s] := Draft.toList_append _ _

/-- No names and no statements. -/
def IsClear (g : Generator σ) : Prop := g.names = .empty ∧ g.draft = .empty

/-- A new generator is clear. -/
theorem isClear_new (source : σ) : (new source).IsClear := ⟨rfl, rfl⟩

/-- A cleared generator is clear. -/
theorem isClear_reset (g : Generator σ) : g.reset.IsClear := ⟨rfl, rfl⟩

/-- A clear generator has no statements. -/
theorem IsClear.statements {g : Generator σ} (h : g.IsClear) : g.statements = [] := by
  rw [Generator.statements, h.2]
  rfl

/-- A clear generator is coherent. -/
theorem IsClear.coherent {g : Generator σ} (h : g.IsClear) : g.Coherent := by
  rw [Coherent, h.1, h.statements]
  exact Registry.tracks_empty

/-! ## Sequences -/

section Bind

variable {m : Generation σ α} {f : α → Generation σ β} {g g₁ : Generator σ}

/-- A success goes on. -/
theorem bind_ok {a : α} (h : m g = .ok a g₁) : (m >>= f) g = f a g₁ := by
  change EStateM.bind m f g = _
  rw [EStateM.bind, h]

/-- A failure stays. -/
theorem bind_error {e : GenerationFault} (h : m g = .error e g₁) :
    (m >>= f) g = .error e g₁ := by
  change EStateM.bind m f g = _
  rw [EStateM.bind, h]

end Bind

variable [Source σ]

/-! ## Draws -/

/-- A choice among `n + 1` candidates is the one at a place drawn from `0, …, n`. -/
theorem draw_choose {candidates : List α} {n : Nat} (h : candidates.length = n + 1)
    (g : Generator σ) : draw (choose candidates) g =
      .ok (candidates.get ((Source.draw n g.source).1.cast h.symm))
        { g with source := (Source.draw n g.source).2 } := by
  cases candidates with
  | nil => cases h
  | cons a rest =>
    obtain rfl : rest.length = n := Nat.succ.inj h
    rfl

/-- An integer lies as far above the lower bound as is drawn. -/
theorem draw_drawInt {low high : Int} (h : low ≤ high) (g : Generator σ) :
    draw (drawInt low high) g = .ok (low + (Source.draw (high - low).toNat g.source).1.val)
      { g with source := (Source.draw (high - low).toNat g.source).2 } := by
  rw [draw, drawInt, if_pos h]

/-- Nothing is drawn from an empty range. -/
theorem draw_drawInt_of_lt {low high : Int} (h : high < low) (g : Generator σ) :
    draw (drawInt low high) g = .error (.draw (.emptyRange low high)) g := by
  rw [draw, drawInt, if_neg (Int.not_le.mpr h)]

/-! ## The rules -/

/-- From every coherent generator whose statements are `before`, the computation ends in a coherent
one.  When it succeeds, `done` tells its result, the statements that it added and the number of its
draws; when it fails, the statements are those before and `failed` tells why. -/
def Extends (m : Generation σ α) (before : List Statement)
    (done : α → List Statement → Nat → Prop) (failed : GenerationFault → Prop) : Prop :=
  ∀ g : Generator σ, g.Coherent → g.statements = before →
    match m g with
    | .ok a h => h.Coherent ∧ ∃ added n, h.statements = before ++ added ∧
        Drew n g.source h.source ∧ done a added n
    | .error e h => h.Coherent ∧ h.statements = before ∧ failed e

/-- The computation cannot fail. -/
abbrev Never : GenerationFault → Prop := fun _ => False

namespace Extends

variable {m : Generation σ α} {before : List Statement}
  {done done' : α → List Statement → Nat → Prop} {failed failed' : GenerationFault → Prop}

/-- What is said of an outcome may be said more weakly. -/
theorem mono (h : Extends m before done failed)
    (hdone : ∀ a added n, done a added n → done' a added n)
    (hfailed : ∀ e, failed e → failed' e) : Extends m before done' failed' := by
  intro g hg hl
  have := h g hg hl
  split at this
  · obtain ⟨hh, added, n, hadded, hn, ha⟩ := this
    exact ⟨hh, added, n, hadded, hn, hdone _ _ _ ha⟩
  · obtain ⟨hh, hsame, he⟩ := this
    exact ⟨hh, hsame, hfailed _ he⟩

/-- What is said of a success may be said more weakly. -/
theorem imp (h : Extends m before done failed)
    (hdone : ∀ a added n, done a added n → done' a added n) : Extends m before done' failed :=
  h.mono hdone fun _ => id

/-- A computation that cannot fail may stand where failures are spoken of. -/
theorem total (h : Extends m before done Never) : Extends m before done failed :=
  h.mono (fun _ _ _ => id) fun _ => False.elim

/-- A computation that cannot fail succeeds. -/
theorem exists_ok (h : Extends m before done Never) {g : Generator σ} (hg : g.Coherent)
    (hl : g.statements = before) : ∃ a g₁, m g = .ok a g₁ ∧ g₁.Coherent ∧
      ∃ added n, g₁.statements = before ++ added ∧ Drew n g.source g₁.source ∧ done a added n := by
  have hm := h g hg hl
  cases hr : m g with
  | ok a g₁ =>
    rw [hr] at hm
    exact ⟨a, g₁, rfl, hm⟩
  | error e g₁ =>
    rw [hr] at hm
    exact hm.2.2.elim

/-- A result adds nothing. -/
theorem pure {a : α} (h : done a [] 0) :
    Extends (σ := σ) (Pure.pure a) before done failed :=
  fun _ hg hl => ⟨hg, [], 0, hl.trans (List.append_nil _).symm, .none _, h⟩

/-- One computation after the other.  The second may fail only where the first added nothing. -/
theorem bind {f : α → Generation σ β} {done₂ : β → List Statement → Nat → Prop}
    (h : Extends m before done failed)
    (hf : ∀ a added n, done a added n → Extends (f a) (before ++ added)
      (fun b more k => done₂ b (added ++ more) (n + k)) fun e => added = [] ∧ failed e) :
    Extends (m >>= f) before done₂ failed := by
  intro g hg hl
  have hm := h g hg hl
  cases hmg : m g with
  | error e g₁ =>
    rw [hmg] at hm
    rw [bind_error hmg]
    exact hm
  | ok a g₁ =>
    rw [hmg] at hm
    obtain ⟨hg₁, added, n, hadded, hn, ha⟩ := hm
    have hfa := hf a added n ha g₁ hg₁ hadded
    rw [bind_ok hmg]
    cases hfg : f a g₁ with
    | error e g₂ =>
      rw [hfg] at hfa
      obtain ⟨hg₂, hsame, rfl, he⟩ := hfa
      exact ⟨hg₂, by rw [hsame, List.append_nil], he⟩
    | ok b g₂ =>
      rw [hfg] at hfa
      obtain ⟨hg₂, more, k, hmore, hk, hb⟩ := hfa
      exact ⟨hg₂, added ++ more, n + k, by rw [hmore, List.append_assoc], hn.trans hk, hb⟩

/-- One computation that cannot fail after another. -/
theorem bind_total {f : α → Generation σ β} {done₂ : β → List Statement → Nat → Prop}
    (h : Extends m before done failed)
    (hf : ∀ a added n, done a added n → Extends (f a) (before ++ added)
      (fun b more k => done₂ b (added ++ more) (n + k)) Never) :
    Extends (m >>= f) before done₂ failed :=
  h.bind fun a added n ha => (hf a added n ha).total

/-- A look at the generator. -/
theorem get_bind {f : Generator σ → Generation σ α}
    (h : ∀ g : Generator σ, g.Coherent → g.statements = before →
      Extends (f g) before done failed) : Extends (get >>= f) before done failed :=
  fun g hg hl => h g hg hl g hg hl

end Extends

variable {before : List Statement}

/-- A choice draws once, and fails when there is nothing to choose from. -/
theorem extends_choose (candidates : List α) :
    Extends (draw (σ := σ) (choose candidates)) before
      (fun a added n => a ∈ candidates ∧ added = [] ∧ n = 1)
      (fun e => e = .draw .emptyChoice ∧ candidates = []) := by
  intro g hg hl
  cases candidates with
  | nil => exact ⟨hg, hl, rfl, rfl⟩
  | cons a rest =>
    exact ⟨hg, [], 1, hl.trans (List.append_nil _).symm, .single _ _, List.getElem_mem _, rfl, rfl⟩

/-- A choice among something does not fail. -/
theorem extends_choose_total {candidates : List α} (h : candidates ≠ []) :
    Extends (draw (σ := σ) (choose candidates)) before
      (fun a added n => a ∈ candidates ∧ added = [] ∧ n = 1) Never :=
  (extends_choose candidates).mono (fun _ _ _ => id) fun _ he => h he.2

/-- An integer is drawn once, and not at all from an empty range. -/
theorem extends_drawInt (low high : Int) :
    Extends (draw (σ := σ) (drawInt low high)) before
      (fun i added n => (low ≤ i ∧ i ≤ high) ∧ added = [] ∧ n = 1)
      (fun e => e = .draw (.emptyRange low high) ∧ high < low) := by
  intro g hg hl
  by_cases hlh : low ≤ high
  · have hlt := (Source.draw (high - low).toNat g.source).1.isLt
    rw [draw_drawInt hlh]
    exact ⟨hg, [], 1, hl.trans (List.append_nil _).symm, .single _ _, ⟨by omega, by omega⟩, rfl, rfl⟩
  · rw [draw_drawInt_of_lt (Int.not_le.mp hlh)]
    exact ⟨hg, hl, rfl, Int.not_le.mp hlh⟩

section Steps

variable {done : β → List Statement → Nat → Prop} {failed : GenerationFault → Prop}

/-- First a choice.  There must be something to choose from, or else a right to fail. -/
theorem Extends.choose_bind {candidates : List α} {f : α → Generation σ β}
    (hnil : candidates = [] → failed (.draw .emptyChoice))
    (h : ∀ a ∈ candidates, Extends (f a) before (fun b added n => done b added (1 + n)) failed) :
    Extends (draw (choose candidates) >>= f) before done failed := by
  refine ((extends_choose candidates).mono (fun _ _ _ => id) ?_).bind ?_
  · rintro e ⟨rfl, he⟩
    exact hnil he
  · rintro a added n ⟨ha, rfl, rfl⟩
    rw [List.append_nil]
    exact (h a ha).mono (fun _ _ _ => id) fun _ he => ⟨rfl, he⟩

/-- First an integer.  The bounds must be in order, or else there is a right to fail. -/
theorem Extends.drawInt_bind {low high : Int} {f : Int → Generation σ β}
    (hlt : high < low → failed (.draw (.emptyRange low high)))
    (h : ∀ i, low ≤ i → i ≤ high →
      Extends (f i) before (fun b added n => done b added (1 + n)) failed) :
    Extends (draw (drawInt low high) >>= f) before done failed := by
  refine ((extends_drawInt low high).mono (fun _ _ _ => id) ?_).bind ?_
  · rintro e ⟨rfl, he⟩
    exact hlt he
  · rintro i added n ⟨⟨hl, hh⟩, rfl, rfl⟩
    rw [List.append_nil]
    exact (h i hl hh).mono (fun _ _ _ => id) fun _ he => ⟨rfl, he⟩

/-- First a note. -/
theorem Extends.note_bind {e : Event} {f : PUnit → Generation σ β}
    (h : Extends (f ⟨⟩) before done failed) :
    Extends (modify (note e) >>= f) before done failed :=
  fun g hg hl => h (g.note e) hg hl

end Steps

/-- An application is added as it is. -/
theorem extends_append_application (predicate : String) (names : List String) :
    Extends (σ := σ) (modify (append (.application predicate names))) before
      (fun _ added n => added = [.application predicate names] ∧ n = 0) Never := by
  intro g hg hl
  refine ⟨?_, _, 0, by rw [statements_append, hl], .none _, rfl, rfl⟩
  rw [Coherent, statements_append]
  exact Registry.Tracks.application hg predicate names

/-- A declaration is added under the next name of its type. -/
theorem extends_declare (type : String) :
    Extends (σ := σ) (declare type) before
      (fun s added n => s = .declaration type (nextFor type before) [] ∧ added = [s] ∧ n = 0)
      Never := by
  intro g hg hl
  subst hl
  have hs : ∀ (s : Statement) (r : Registry),
      (append s { g with names := r }).statements = g.statements ++ [s] := fun s r =>
    statements_append s { g with names := r }
  refine ⟨?_, _, 0, hs _ _, .none _, ?_, rfl, rfl⟩
  · change Registry.Tracks (g.names.fresh type).2 (append _ { g with names := _ }).statements
    rw [hs]
    exact Registry.Tracks.fresh hg type []
  · rw [hg.fresh_name type]

/-! ## Arguments -/

/-- One of the objects of a type is chosen. -/
theorem extends_chooseDeclared {type : String} (h : namesOf type before ≠ []) :
    Extends (σ := σ) (chooseDeclared type) before
      (fun name added n => name ∈ namesOf type before ∧ added = [] ∧ n = 1) Never := by
  refine Extends.get_bind fun g hg hl => ?_
  rw [hg.declaredOf, hl]
  exact extends_choose_total h

/-- A new argument is any object of its type once one more is declared. -/
theorem extends_newArgument (type : String) :
    Extends (σ := σ) (newArgument type) before
      (fun name added n => added = [.declaration type (nextFor type before) []] ∧
        name ∈ namesOf type (before ++ added) ∧ n = 1) Never := by
  refine (extends_declare type).bind_total ?_
  rintro s added n ⟨rfl, rfl, rfl⟩
  refine (extends_chooseDeclared (by simp)).imp ?_
  rintro name more k ⟨hm, rfl, rfl⟩
  exact ⟨rfl, hm, rfl⟩

/-- An old argument is one that exists, or the first one. -/
theorem extends_oldArgument (type : String) :
    Extends (σ := σ) (oldArgument type) before
      (fun name added n => Finds .existing before type added name ∧ n = 1) Never := by
  refine Extends.get_bind fun g hg hl => ?_
  rw [hg.declaredOf, hl]
  split
  · next hempty =>
    rw [List.isEmpty_iff] at hempty
    refine Extends.note_bind ((extends_newArgument type).imp ?_)
    rintro name added n ⟨rfl, hm, rfl⟩
    exact ⟨.new (fun _ => hempty) hm, rfl⟩
  · next hsome =>
    rw [List.isEmpty_iff] at hsome
    refine (extends_chooseDeclared hsome).imp ?_
    rintro name added n ⟨hm, rfl, rfl⟩
    exact ⟨.old (by decide) hm, rfl⟩

/-- An argument is found as the policy has it. -/
theorem extends_argument (policy : Policy) (type : String) :
    Extends (σ := σ) (argument policy type) before
      (fun name added n => Finds policy before type added name ∧ n = policy.draws) Never := by
  cases policy with
  | existing => exact extends_oldArgument type
  | generated =>
    refine (extends_newArgument type).imp ?_
    rintro name added n ⟨rfl, hm, rfl⟩
    exact ⟨.new (fun h => nomatch h) hm, rfl⟩
  | mixed =>
    refine Extends.choose_bind (by simp) fun old _ => ?_
    cases old with
    | true =>
      refine (extends_oldArgument type).imp ?_
      rintro name added n ⟨hf, rfl⟩
      refine ⟨?_, rfl⟩
      cases hf with
      | old _ hm => exact .old (by decide) hm
      | new _ hm => exact .new (fun h => nomatch h) hm
    | false =>
      refine (extends_newArgument type).imp ?_
      rintro name added n ⟨rfl, hm, rfl⟩
      exact ⟨.new (fun h => nomatch h) hm, rfl⟩

/-- Arguments are found one after the other. -/
theorem extends_arguments (policy : Policy) (types : List String) :
    Extends (σ := σ) (types.mapM (argument policy)) before
      (fun names added n => FindsAll policy before types added names ∧
        n = policy.draws * names.length) Never := by
  induction types generalizing before with
  | nil => exact Extends.pure ⟨.nil, rfl⟩
  | cons type types ih =>
    rw [List.mapM_cons]
    refine (extends_argument policy type).bind_total ?_
    rintro name added n ⟨hf, rfl⟩
    refine ih.bind_total ?_
    rintro names more k ⟨hfs, rfl⟩
    refine Extends.pure ⟨?_, ?_⟩
    · rw [List.append_nil]
      exact .cons hf hfs
    · rw [List.length_cons, Nat.mul_succ, Nat.add_zero, Nat.add_comm]

/-- The arguments of a predicate are found. -/
theorem extends_predicateArguments (policy : Policy) (signature : Signature String) :
    Extends (σ := σ) (predicateArguments (argument policy) signature) before
      (fun names added n => Fills policy before signature added names ∧
        n = policy.draws * names.length) Never := by
  cases signature with
  | objects types =>
    refine (extends_arguments policy types).imp ?_
    rintro names added n ⟨hf, hn⟩
    exact ⟨.objects hf, hn⟩
  | propositions => exact Extends.pure ⟨.propositions, rfl⟩

/-! ## Body statements -/

/-- A declaration of a declared type is added, if there is a type. -/
theorem extends_declareAny (schema : Schema) :
    Extends (σ := σ) (Generator.declareAny schema) before
      (fun s added n => (∃ type ∈ schema.typeNames,
        s = .declaration type (nextFor type before) []) ∧ added = [s] ∧ n = 1)
      (fun e => e = .draw .emptyChoice ∧ schema.typeNames = []) := by
  refine Extends.choose_bind (fun h => ⟨rfl, h⟩) fun type hm => ?_
  refine (extends_declare type).total.imp ?_
  rintro s added n ⟨rfl, rfl, rfl⟩
  exact ⟨⟨type, hm, rfl⟩, rfl, rfl⟩

/-- The application of a predicate is added, if there is one. -/
theorem extends_applyAny (schema : Schema) (policy : Policy) :
    Extends (σ := σ) (Generator.applyAny schema policy) before
      (fun _ added n => Block schema policy before added ∧
        n = 1 + policy.draws * argumentCount added)
      (fun e => e = .draw .emptyChoice ∧ schema.predicateList = []) := by
  refine Extends.choose_bind (fun h => ⟨rfl, h⟩) fun (predicate, signature) hp => ?_
  refine (extends_predicateArguments policy signature).total.bind_total ?_
  rintro names added k ⟨hf, rfl⟩
  refine (extends_append_application predicate names).bind_total ?_
  rintro _ more j ⟨rfl, rfl⟩
  refine Extends.pure ⟨?_, ?_⟩
  · simpa using Block.application hp hf
  · simp [argumentCount_eq_zero hf.isDeclaration]

omit [Source σ] in
/-- There is always some kind of statement. -/
theorem statementKinds_ne_nil (domain : Domain) : domain.statementKinds ≠ [] := by
  rw [Domain.statementKinds]
  split <;> simp

omit [Source σ] in
/-- Applications are among the kinds of statement only where there is a predicate. -/
theorem predicateList_ne_nil {schema : Schema}
    (h : .application ∈ (Domain.schema schema).statementKinds) : schema.predicateList ≠ [] := by
  intro hnil
  have hentries : schema.predicates.entries = [] := hnil
  simp [Domain.statementKinds, Domain.hasPredicates, Catalog.isEmpty, hentries] at h

/-- A block is added, unless there are no types. -/
theorem extends_addStatement (schema : Schema) (policy : Policy) :
    Extends (σ := σ) (addStatement schema policy) before
      (fun _ added n => Block schema policy before added ∧
        n = 2 + policy.draws * argumentCount added)
      (fun e => e = .draw .emptyChoice ∧ schema.typeNames = []) := by
  refine Extends.choose_bind (fun h => absurd h (statementKinds_ne_nil _)) fun kind hk => ?_
  cases kind with
  | application =>
    refine (extends_applyAny schema policy).mono ?_ fun e he => absurd he.2 (predicateList_ne_nil hk)
    rintro s added n ⟨hb, rfl⟩
    exact ⟨hb, by omega⟩
  | declaration =>
    refine (extends_declareAny schema).imp ?_
    rintro s added n ⟨⟨type, hm, rfl⟩, rfl, rfl⟩
    exact ⟨.declaration hm, rfl⟩

/-! ## Programs -/

/-- Declarations of declared types are added, if there is a type or none is asked for. -/
theorem extends_times_declareAny (schema : Schema) (count : Nat) :
    Extends (σ := σ) (times (Domain.declareAny schema) count) before
      (fun _ added n => Opens schema added ∧ added.length = count ∧ n = count ∧
        (count = 0 ∨ schema.typeNames ≠ []))
      (fun e => e = .draw .emptyChoice ∧ schema.typeNames = []) := by
  induction count generalizing before with
  | zero => exact Extends.pure ⟨by simp [Opens], rfl, rfl, .inl rfl⟩
  | succ count ih =>
    refine (extends_declareAny schema).bind_total ?_
    rintro s added n ⟨⟨type, hm, rfl⟩, rfl, rfl⟩
    refine ih.mono ?_ fun e he => absurd he.2 (List.ne_nil_of_mem hm)
    rintro _ more k ⟨ho, hlen, rfl, -⟩
    refine ⟨?_, by simp [hlen], Nat.add_comm 1 k, .inr (List.ne_nil_of_mem hm)⟩
    rintro s hs
    rcases List.mem_append.mp hs with hs | hs
    · exact ⟨type, hm, _, List.mem_singleton.mp hs⟩
    · exact ho s hs

/-- Blocks are added. -/
theorem extends_times_addStatement {schema : Schema} (policy : Policy)
    (htypes : schema.typeNames ≠ []) (count : Nat) :
    Extends (σ := σ) (times (addStatement schema policy) count) before
      (fun _ added n => ∃ blocks, added = blocks.flatten ∧ blocks.length = count ∧
        Blocks schema policy before blocks ∧ n = 2 * count + policy.draws * argumentCount added)
      Never := by
  induction count generalizing before with
  | zero => exact Extends.pure ⟨[], rfl, rfl, .nil, rfl⟩
  | succ count ih =>
    refine ((extends_addStatement schema policy).mono (fun _ _ _ => id)
      fun e he => htypes he.2).bind_total ?_
    rintro _ block n ⟨hb, rfl⟩
    refine ih.imp ?_
    rintro _ added k ⟨blocks, rfl, hlen, hbs, rfl⟩
    refine ⟨block :: blocks, by simp, by simp [hlen], .cons hb hbs, ?_⟩
    rw [argumentCount_append, Nat.mul_add policy.draws]
    omega

/-- A program is added, unless the bounds of its length are crossed or there are no types. -/
theorem extends_addProgram (schema : Schema) (setting : Setting) :
    Extends (σ := σ) (addProgram schema setting) before
      (fun p added n => p.statements = before ++ added ∧
        ∃ header blocks, Composed schema setting before p header blocks ∧
          n = 2 + header.length + 2 * blocks.length +
            setting.policy.draws * argumentCount added)
      (fun e => (e = .draw (.emptyRange setting.minLength setting.maxLength) ∧
          setting.maxLength < setting.minLength) ∨
        (e = .draw .emptyChoice ∧ schema.typeNames = [] ∧
          setting.minLength ≤ setting.maxLength)) := by
  refine Extends.drawInt_bind (fun h => absurd h (by decide)) fun headerCount hlow hhigh => ?_
  refine Extends.drawInt_bind (fun h => .inl ⟨rfl, h⟩) fun bodyCount hmin hmax => ?_
  refine Extends.note_bind ?_
  refine Extends.bind_total ((extends_times_declareAny schema headerCount.toNat).mono
    (fun _ _ _ => id) fun e he => .inr ⟨he.1, he.2, by omega⟩) ?_
  rintro _ header n ⟨hopens, hlen, rfl, htypes⟩
  simp only [headerRange] at hlow hhigh
  have htypes : schema.typeNames ≠ [] := htypes.resolve_left (by omega)
  refine (extends_times_addStatement setting.policy htypes bodyCount.toNat).bind_total ?_
  rintro _ _ k ⟨blocks, rfl, hblocks, hbody, rfl⟩
  refine Extends.get_bind fun g hg hl => Extends.pure ?_
  refine ⟨?_, header, blocks, ⟨?_, hopens, hbody, ?_, by omega, hblocks.symm, hmin, hmax⟩, ?_⟩
  · exact hl.trans (by simp)
  · exact hl.trans (by simp)
  · simp only [Draft.finish]
    omega
  · rw [List.append_nil, argumentCount_append, argumentCount_eq_zero hopens.isDeclaration,
      Nat.zero_add]
    omega

/-! ## Types that are named by texts -/

omit [Source σ] in
/-- An outcome that is no failure is gone on with. -/
theorem settle_ok_bind (a : α) (f : α → Generation σ β) : (settle (.ok a) >>= f) = f a := rfl

/-- The arguments for a type named by a text are those for the text. -/
theorem argumentFor_text (policy : Policy) (type : String) :
    argumentFor (σ := σ) policy (.text type) = argument policy type := by
  cases policy <;> rfl

/-- The arguments of a predicate over texts are found as those of the plain one. -/
theorem predicateArguments_toPlain (policy : Policy) (signature : Signature String) :
    predicateArguments (argumentFor (σ := σ) policy) signature.toPlain =
      predicateArguments (argument policy) signature := by
  cases signature with
  | objects types =>
    simp only [Signature.toPlain, predicateArguments, List.mapM_map, Function.comp_def,
      argumentFor_text]
  | propositions => rfl

/-- An object is declared of the type, or of a direct subtype where that is allowed. -/
theorem extends_declareWithin (schema : Schema) (type : String) (generality : Generality) :
    Extends (σ := σ) (declareWithin schema (.text type) generality) before
      (fun s added _ => ∃ t ∈ schema.possibleTypes type, (generality = .concrete → t = type) ∧
        s = .declaration t (nextFor t before) [] ∧ added = [s]) Never := by
  cases generality with
  | concrete =>
    refine (extends_declare type).imp ?_
    rintro s added n ⟨rfl, rfl, -⟩
    exact ⟨type, List.mem_cons_self, fun _ => rfl, rfl, rfl⟩
  | general =>
    have hne : (schema.possibleTypes type).map Json.text ≠ [] := by simp [Schema.possibleTypes]
    simp only [declareWithin, Domain.possibleTypes, settle_ok_bind]
    refine Extends.choose_bind (fun h => hne h) fun v hv => ?_
    obtain ⟨t, ht, rfl⟩ := List.mem_map.mp hv
    refine (extends_declare t).imp ?_
    rintro s added n ⟨rfl, rfl, -⟩
    exact ⟨t, ht, by simp, rfl, rfl⟩

end Generator

end Substance
