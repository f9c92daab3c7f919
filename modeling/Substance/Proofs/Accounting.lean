import Substance.Batch
import Substance.Proofs.Iterators
import Substance.Proofs.Shape
import Mathlib.Algebra.Ring.Int.Defs

/-!
# The number of draws

A generator draws once for every decision, also where there is one candidate only, and an argument
takes the same number of draws whether it is found or declared.  So the number of draws of a program
can be read off the program and the policy, and that of a batch off its programs.

Draws are counted by the source that they are made from (`Metered`), of which the generator knows
nothing.  `Spends` is the law of a computation on such a source, from any state of a generator, with
one rule for each way to put computations together.

* `spends_argument`: an argument takes as many draws as its policy says.
* `spends_addProgram`: the draws of a program.
* `counts_draws`: the draws of programs and batches.
-/

namespace Substance

open Substance.Random Statement

namespace Random

/-- A source that counts the draws from it. -/
structure Metered (σ : Type) where
  source : σ
  draws : Nat

/-- A draw is one of the source, and counts. -/
instance {σ : Type} [Source σ] : Source (Metered σ) where
  draw top s :=
    let d := Source.draw top s.source
    (d.1, ⟨d.2, s.draws + 1⟩)

end Random

namespace Generator

variable {σ α β : Type}

/-- The generator on the source alone. -/
def unmetered (g : Generator (Metered σ)) : Generator σ := { g with source := g.source.source }

/-- The computation on a metered source succeeds, and does what the other one does on the source
alone.  `spent` tells its result, the statements that it adds and the number of its draws. -/
def Spends (m : Generation (Metered σ) α) (m' : Generation σ α) (g : Generator (Metered σ))
    (spent : α → List Statement → Nat → Prop) : Prop :=
  ∃ a h added n, m g = .ok a h ∧ m' g.unmetered = .ok a h.unmetered ∧
    h.statements = g.statements ++ added ∧ h.source.draws = g.source.draws + n ∧ spent a added n

namespace Spends

variable {m : Generation (Metered σ) α} {m' : Generation σ α} {g : Generator (Metered σ)}
  {spent : α → List Statement → Nat → Prop} {spent' : β → List Statement → Nat → Prop}

/-! ## The rules -/

/-- A result takes no draws. -/
theorem pure {a : α} (h : spent a [] 0) : Spends (Pure.pure a) (Pure.pure a) g spent :=
  ⟨a, g, [], 0, rfl, rfl, (List.append_nil _).symm, rfl, h⟩

/-- What is said of an outcome may be said more weakly. -/
theorem imp {weaker : α → List Statement → Nat → Prop} (h : Spends m m' g spent)
    (hw : ∀ a added n, spent a added n → weaker a added n) : Spends m m' g weaker := by
  obtain ⟨a, h, added, n, hm, hm', hadded, hn, ha⟩ := h
  exact ⟨a, h, added, n, hm, hm', hadded, hn, hw a added n ha⟩

/-- One computation after the other: their draws add up. -/
theorem bind {f : α → Generation (Metered σ) β} {f' : α → Generation σ β}
    (h : Spends m m' g spent)
    (hf : ∀ a g₁ added n, m g = .ok a g₁ → g₁.statements = g.statements ++ added →
      spent a added n → Spends (f a) (f' a) g₁ fun b more k => spent' b (added ++ more) (n + k)) :
    Spends (m >>= f) (m' >>= f') g spent' := by
  obtain ⟨a, g₁, added, n, hm, hm', hadded, hn, ha⟩ := h
  obtain ⟨b, g₂, more, k, hb, hb', hmore, hk, hspent⟩ := hf a g₁ added n hm hadded ha
  refine ⟨b, g₂, added ++ more, n + k, ?_, ?_, ?_, ?_, hspent⟩
  · rw [bind_ok hm, hb]
  · rw [bind_ok hm', hb']
  · rw [hmore, hadded, List.append_assoc]
  · rw [hk, hn, Nat.add_assoc]

/-- A look at the generator. -/
theorem get_bind {f : Generator (Metered σ) → Generation (Metered σ) β}
    {f' : Generator σ → Generation σ β} (h : Spends (f g) (f' g.unmetered) g spent') :
    Spends (get >>= f) (get >>= f') g spent' := h

/-- A note. -/
theorem note_bind {e : Event} {f : PUnit → Generation (Metered σ) β}
    {f' : PUnit → Generation σ β} (h : Spends (f ⟨⟩) (f' ⟨⟩) (g.note e) spent') :
    Spends (modify (note e) >>= f) (modify (note e) >>= f') g spent' := h

/-- What takes `c` draws, and `d` more for each argument, takes `c` draws each time and `d` for each
of all arguments. -/
theorem times {c d : Nat}
    (h : ∀ g, Spends m m' g fun _ added n => n = c + d * argumentCount added) (count : Nat)
    (g : Generator (Metered σ)) :
    Spends (Generator.times m count) (Generator.times m' count) g
      fun _ added n => n = c * count + d * argumentCount added := by
  induction count generalizing g with
  | zero => exact .pure rfl
  | succ count ih =>
    refine (h g).bind ?_
    rintro a g₁ added n - - rfl
    refine (ih g₁).imp ?_
    rintro _ more k rfl
    rw [argumentCount_append, Nat.mul_add d, Nat.mul_succ]
    omega

end Spends

/-! ## Declarations -/

/-- A declaration takes no draws. -/
theorem spends_declare (type : String) (g : Generator (Metered σ)) :
    Spends (declare type) (declare type) g
      fun _ added n => argumentCount added = 0 ∧ n = 0 :=
  ⟨_, _, [_], 0, rfl, rfl, statements_append _ { g with names := _ }, rfl, rfl, rfl⟩

/-- Once an object of a type is declared there is one. -/
theorem declaredOf_ne_nil_of_declare {type : String} {g h : Generator σ} {s : Statement}
    (hd : declare type g = .ok s h) : h.names.declaredOf type ≠ [] := by
  cases hd
  change (g.names.fresh type).2.declaredOf type ≠ []
  rw [Registry.declaredOf_fresh, if_pos rfl]
  exact List.append_ne_nil_of_right_ne_nil _ (List.cons_ne_nil _ _)

variable [Source σ]

/-! ## Draws -/

/-- A choice is one draw, whatever the number of candidates. -/
theorem spends_choose {candidates : List α} (h : candidates ≠ []) (g : Generator (Metered σ)) :
    Spends (draw (choose candidates)) (draw (choose candidates)) g
      fun a added n => a ∈ candidates ∧ added = [] ∧ n = 1 := by
  cases candidates with
  | nil => exact absurd rfl h
  | cons a rest =>
    exact ⟨_, _, [], 1, rfl, rfl, (List.append_nil _).symm, rfl, List.getElem_mem _, rfl, rfl⟩

/-- An integer is one draw. -/
theorem spends_drawInt {low high : Int} (h : low ≤ high) (g : Generator (Metered σ)) :
    Spends (draw (drawInt low high)) (draw (drawInt low high)) g
      fun i added n => low ≤ i ∧ added = [] ∧ n = 1 := by
  refine ⟨_, _, [], 1, draw_drawInt h g, draw_drawInt h g.unmetered, (List.append_nil _).symm, rfl,
    ?_, rfl, rfl⟩
  exact Int.le_add_of_nonneg_right (Int.natCast_nonneg _)

/-! ## Arguments -/

/-- An object that exists is one draw. -/
theorem spends_chooseDeclared {type : String} {g : Generator (Metered σ)}
    (h : g.names.declaredOf type ≠ []) :
    Spends (chooseDeclared type) (chooseDeclared type) g
      fun _ added n => argumentCount added = 0 ∧ n = 1 := by
  refine .get_bind ((spends_choose h g).imp ?_)
  rintro name added n ⟨-, rfl, rfl⟩
  exact ⟨rfl, rfl⟩

/-- A new argument is one draw. -/
theorem spends_newArgument (type : String) (g : Generator (Metered σ)) :
    Spends (newArgument type) (newArgument type) g
      fun _ added n => argumentCount added = 0 ∧ n = 1 := by
  refine (spends_declare type g).bind ?_
  rintro s g₁ added n hd - ⟨hadded, rfl⟩
  refine (spends_chooseDeclared (declaredOf_ne_nil_of_declare hd)).imp ?_
  rintro name more k ⟨hmore, rfl⟩
  exact ⟨by rw [argumentCount_append, hadded, hmore], rfl⟩

/-- An old argument is one draw, also where it must be declared first. -/
theorem spends_oldArgument (type : String) (g : Generator (Metered σ)) :
    Spends (oldArgument type) (oldArgument type) g
      fun _ added n => argumentCount added = 0 ∧ n = 1 := by
  refine .get_bind ?_
  change Spends _ (if (g.names.declaredOf type).isEmpty then _ else _) g _
  split
  · exact .note_bind (spends_newArgument type _)
  · next hsome => exact spends_chooseDeclared (mt List.isEmpty_iff.mpr hsome)

/-- An argument takes as many draws as its policy says. -/
theorem spends_argument (policy : Policy) (type : String) (g : Generator (Metered σ)) :
    Spends (argument policy type) (argument policy type) g
      fun _ added n => argumentCount added = 0 ∧ n = policy.draws := by
  cases policy with
  | existing => exact spends_oldArgument type g
  | generated => exact spends_newArgument type g
  | mixed =>
    refine (spends_choose (by simp) g).bind ?_
    rintro old g₁ added n - - ⟨-, rfl, rfl⟩
    cases old with
    | true =>
      refine (spends_oldArgument type g₁).imp ?_
      rintro name more k ⟨hmore, rfl⟩
      exact ⟨hmore, rfl⟩
    | false =>
      refine (spends_newArgument type g₁).imp ?_
      rintro name more k ⟨hmore, rfl⟩
      exact ⟨hmore, rfl⟩

/-- Arguments take as many draws each. -/
theorem spends_arguments (policy : Policy) (types : List String) (g : Generator (Metered σ)) :
    Spends (types.mapM (argument policy)) (types.mapM (argument policy)) g
      fun names added n => argumentCount added = 0 ∧ n = policy.draws * names.length := by
  induction types generalizing g with
  | nil => exact .pure ⟨rfl, rfl⟩
  | cons type types ih =>
    rw [List.mapM_cons, List.mapM_cons]
    refine (spends_argument policy type g).bind ?_
    rintro name g₁ added n - - ⟨hadded, rfl⟩
    refine (ih g₁).bind ?_
    rintro names g₂ more k - - ⟨hmore, rfl⟩
    refine .pure ⟨?_, ?_⟩
    · simp only [argumentCount_append, hadded, hmore, argumentCount_nil]
    · rw [List.length_cons, Nat.mul_succ, Nat.add_zero, Nat.add_comm]

/-- The arguments of a predicate take as many draws each. -/
theorem spends_predicateArguments (policy : Policy) (signature : Signature String)
    (g : Generator (Metered σ)) :
    Spends (predicateArguments (argument policy) signature)
      (predicateArguments (argument policy) signature) g
      fun names added n => argumentCount added = 0 ∧ n = policy.draws * names.length := by
  cases signature with
  | objects types => exact spends_arguments policy types g
  | propositions => exact .pure ⟨rfl, rfl⟩

/-! ## Statements and programs -/

omit [Source σ] in
/-- An application that is added takes no draws of its own. -/
theorem spends_append_application (predicate : String) (names : List String)
    (g : Generator (Metered σ)) :
    Spends (modify (append (.application predicate names)))
      (modify (append (.application predicate names))) g
      fun _ added n => argumentCount added = names.length ∧ n = 0 :=
  ⟨_, _, [_], 0, rfl, rfl, statements_append _ g, rfl, rfl, rfl⟩

variable {schema : Schema}

/-- A declaration of some type is one draw. -/
theorem spends_declareAny (htypes : schema.typeNames ≠ []) (d : Nat) (g : Generator (Metered σ)) :
    Spends (Domain.declareAny schema) (Domain.declareAny schema) g
      fun _ added n => n = 1 + d * argumentCount added := by
  refine (spends_choose htypes g).bind ?_
  rintro type g₁ added n - - ⟨-, rfl, rfl⟩
  refine (spends_declare type g₁).imp ?_
  rintro s more k ⟨hmore, rfl⟩
  rw [List.nil_append, hmore, Nat.mul_zero]

/-- An application is one draw, besides those for its arguments. -/
theorem spends_applyAny (hpredicates : schema.predicateList ≠ []) (policy : Policy)
    (g : Generator (Metered σ)) :
    Spends (Domain.applyAny policy schema) (Domain.applyAny policy schema) g
      fun _ added n => n = 1 + policy.draws * argumentCount added := by
  refine (spends_choose hpredicates g).bind ?_
  rintro ⟨predicate, signature⟩ g₁ added n - - ⟨-, rfl, rfl⟩
  refine (spends_predicateArguments policy signature g₁).bind ?_
  rintro names g₂ more k - - ⟨hmore, rfl⟩
  refine (spends_append_application predicate names g₂).bind ?_
  rintro _ g₃ last j - - ⟨hlast, rfl⟩
  refine .pure ?_
  simp only [argumentCount_append, argumentCount_nil, hmore, hlast, Nat.zero_add, Nat.add_zero]

/-- A body statement is two draws, besides those for its arguments. -/
theorem spends_addStatement (htypes : schema.typeNames ≠ []) (policy : Policy)
    (g : Generator (Metered σ)) :
    Spends (addStatement schema policy) (addStatement schema policy) g
      fun _ added n => n = 2 + policy.draws * argumentCount added := by
  refine (spends_choose (statementKinds_ne_nil _) g).bind ?_
  rintro kind g₁ added n - - ⟨hkind, rfl, rfl⟩
  cases kind with
  | application =>
    refine (spends_applyAny (predicateList_ne_nil hkind) policy g₁).imp ?_
    rintro s more k rfl
    rw [List.nil_append]
    omega
  | declaration =>
    refine (spends_declareAny htypes policy.draws g₁).imp ?_
    rintro s more k rfl
    rw [List.nil_append]
    omega

/-- The draws of a program are two for its counts, one for each declaration of its header, two for
each statement of its body, and those for the arguments that are added with it. -/
theorem spends_addProgram {setting : Setting} (hs : schema.fault? = none)
    (ht : setting.fault? = none) (g : Generator (Metered σ)) :
    Spends (addProgram schema setting) (addProgram schema setting) g
      fun p added n => p.statements = g.statements ++ added ∧
        (n : Int) = 2 + p.headerCount + 2 * p.bodyCount +
          setting.policy.draws * argumentCount added := by
  obtain ⟨htypes, -⟩ := schema.fault?_eq_none_iff.mp hs
  obtain ⟨hmin, hlength⟩ := setting.fault?_eq_none_iff.mp ht
  refine (spends_drawInt (by decide) g).bind ?_
  rintro headerCount g₁ _ _ - hl₁ ⟨hheader, rfl, rfl⟩
  refine (spends_drawInt hlength g₁).bind ?_
  rintro bodyCount g₂ _ _ - hl₂ ⟨hbody, rfl, rfl⟩
  refine .note_bind ?_
  refine (Spends.times (spends_declareAny htypes setting.policy.draws) headerCount.toNat _).bind ?_
  rintro _ g₃ header n - hl₃ rfl
  refine (Spends.times (spends_addStatement htypes setting.policy) bodyCount.toNat g₃).bind ?_
  rintro _ g₄ body k - hl₄ rfl
  refine .get_bind (.pure ⟨?_, ?_⟩)
  · change g₄.statements = _
    have hnote : (g₂.note (.started headerCount bodyCount)).statements = g₂.statements := rfl
    rw [hl₄, hl₃, hnote, hl₂, hl₁]
    simp
  · simp only [headerRange] at hheader
    simp only [Draft.finish, List.nil_append, List.append_nil, argumentCount_append,
      Int.natCast_add, Int.natCast_mul, Int.mul_add]
    omega

end Generator

/-! ## Batches -/

/-- The number of draws that a program takes which is the first one of its generator. -/
def Program.draws (policy : Policy) (p : Program) : Int :=
  2 + p.headerCount + 2 * p.bodyCount + policy.draws * argumentCount p.statements

namespace Batch

open Generator

variable {σ : Type} [Source σ] {schema : Schema} {setting : Setting}

/-- An iterator that goes on with an empty draft takes the draws of the program that it hands out.
-/
theorem advance_draws (hs : schema.fault? = none) (ht : setting.fault? = none)
    {g : Generator (Metered σ)} (hg : g.statements = []) {done total : Nat} (hlt : done < total) :
    ∃ p h, advance schema setting done total g = (.program p, .running (done + 1) total, h) ∧
      advance schema setting done total g.unmetered =
        (.program p, .running (done + 1) total, h.unmetered) ∧
      h.statements = [] ∧ (h.source.draws : Int) = g.source.draws + p.draws setting.policy := by
  obtain ⟨p, h, added, n, hr, hr', -, hn, hp, hcount⟩ := spends_addProgram hs ht g
  refine ⟨p, h.reset.note (.finished (done + 1) total p.length), ?_, ?_, rfl, ?_⟩
  · rw [advance, if_pos hlt, hr]
  · rw [advance, if_pos hlt, hr']
    rfl
  · rw [hg, List.nil_append] at hp
    change (h.source.draws : Int) = _
    rw [hn, Program.draws, hp, Int.natCast_add, hcount]

/-- An iterator that is asked for all it has takes the draws of its programs. -/
theorem collect_draws (hs : schema.fault? = none) (ht : setting.fault? = none) {total : Nat} :
    ∀ (left done : Nat) (g : Generator (Metered σ)), total - done = left → g.statements = [] →
      ∃ ps it h, collect schema setting (left + 1) (.running done total) g = (.ok ps, it, h) ∧
        collect schema setting (left + 1) (.running done total) g.unmetered =
          (.ok ps, it, h.unmetered) ∧ ps.length = left ∧
        (h.source.draws : Int) = g.source.draws + (ps.map (·.draws setting.policy)).sum := by
  intro left
  induction left with
  | zero =>
    intro done g hleft hg
    have hstop : ∀ {τ : Type} [Source τ] (g : Generator τ),
        next schema setting (.running done total) g = (.stop, .exhausted, g) :=
      fun g => if_neg (by omega)
    refine ⟨[], .exhausted, g, ?_, ?_, rfl, by simp⟩
    · rw [collect, hstop]
    · rw [collect, hstop]
  | succ left ih =>
    intro done g hleft hg
    obtain ⟨p, h, hr, hr', hh, hdraws⟩ :=
      advance_draws hs ht hg (show done < total by omega)
    obtain ⟨ps, it, h', hc, hc', hlength, hsum⟩ := ih (done + 1) h (by omega) hh
    refine ⟨p :: ps, it, h', ?_, ?_, by rw [List.length_cons, hlength], ?_⟩
    · rw [collect, next, hr]
      simp only [hc]
      rfl
    · rw [collect, next, hr']
      simp only [hc']
      rfl
    · rw [hsum, hdraws, List.map_cons, List.sum_cons, Int.add_assoc]

/-- The draws of a program can be read off what it adds and off its counts, whatever state the
generator is in; those of a batch off its programs.  To count them changes nothing. -/
theorem counts_draws (hs : schema.fault? = none) (ht : setting.fault? = none)
    (g : Generator (Metered σ)) :
    (∃ p h added, addProgram schema setting g = .ok p h ∧
      addProgram schema setting g.unmetered = .ok p h.unmetered ∧
      h.statements = g.statements ++ added ∧ p.statements = h.statements ∧
      (h.source.draws : Int) = g.source.draws + (2 + p.headerCount + 2 * p.bodyCount +
        setting.policy.draws * argumentCount added)) ∧
    (g.statements = [] → ∀ count : Nat, ∃ ps h,
      programs schema setting count g = (.ok ps, h) ∧
      programs schema setting count g.unmetered = (.ok ps, h.unmetered) ∧ ps.length = count ∧
      (h.source.draws : Int) = g.source.draws + (ps.map (·.draws setting.policy)).sum) := by
  constructor
  · obtain ⟨p, h, added, n, hr, hr', hl, hn, hp, hcount⟩ := spends_addProgram hs ht g
    refine ⟨p, h, added, hr, hr', hl, hp.trans hl.symm, ?_⟩
    rw [hn, Int.natCast_add, hcount]
  · intro hg count
    obtain ⟨ps, it, h, hc, hc', hlength, hsum⟩ :=
      collect_draws hs ht count 0 g (Nat.sub_zero count) hg
    refine ⟨ps, h, ?_, ?_, hlength, hsum⟩
    · rw [collect] at hc
      simp only [programs, rest, remaining, Int.toNat_natCast, collect, next_natCast, hc]
    · rw [collect] at hc'
      simp only [programs, rest, remaining, Int.toNat_natCast, collect, next_natCast, hc']

/-- The draws of a program and of a batch of three over sets and points. -/
theorem counts_draws_setsAndPoints :
    let g : Generator (Metered Twister) := .new ⟨Twister.ofSeed 7, 0⟩
    Schema.setsAndPoints.fault? = none ∧ Setting.fault? ⟨2, 5, .mixed⟩ = none ∧ g.statements = [] ∧
      (∃ p h added, addProgram Schema.setsAndPoints ⟨2, 5, .mixed⟩ g = .ok p h ∧
        addProgram Schema.setsAndPoints ⟨2, 5, .mixed⟩ g.unmetered = .ok p h.unmetered ∧
        h.statements = g.statements ++ added ∧ p.statements = h.statements ∧
        (h.source.draws : Int) = g.source.draws + (2 + p.headerCount + 2 * p.bodyCount +
          Policy.mixed.draws * argumentCount added)) ∧
      ∃ ps h, programs Schema.setsAndPoints ⟨2, 5, .mixed⟩ (3 : Nat) g = (.ok ps, h) ∧
        programs Schema.setsAndPoints ⟨2, 5, .mixed⟩ (3 : Nat) g.unmetered =
          (.ok ps, h.unmetered) ∧ ps.length = 3 ∧
        (h.source.draws : Int) = g.source.draws + (ps.map (·.draws .mixed)).sum := by
  intro g
  have hs : Schema.setsAndPoints.fault? = none := by decide
  have ht : Setting.fault? ⟨2, 5, .mixed⟩ = none := by decide
  obtain ⟨hprogram, hbatch⟩ := counts_draws hs ht g
  exact ⟨hs, ht, rfl, hprogram, hbatch rfl 3⟩

end Batch

end Substance
