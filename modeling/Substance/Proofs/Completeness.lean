import Substance.Proofs.Growth

/-!
# Every program of the language is generated

The converse of `extends_addProgram`: for each way to compose a program there are answers to the
draws that lead a generator to it.  The answers are put together along the composition; `Yields` says
that some answers lead a computation from the statements `before` to a result and to the statements
that it adds, whatever answers follow.

`exists_script_iff` is the main statement.  A script counts as spoilt once a draw finds no answer within
its bounds, so a script that ends as `.answers []` was used up, each answer for a draw that could
have given it.
-/

namespace Substance

open Substance.Random Statement

namespace Random

/-- Draws that are decided beforehand. -/
inductive Script where
  /-- The answers to the draws to come. -/
  | answers (l : List Nat)
  /-- A draw found no answer, or one outside its bounds. -/
  | spoilt
deriving DecidableEq, Repr

/-- A draw takes the next answer. -/
instance : Source Script where
  draw top
    | .answers (a :: rest) =>
      if h : a < top + 1 then (⟨a, h⟩, .answers rest) else (⟨0, top.succ_pos⟩, .spoilt)
    | _ => (⟨0, top.succ_pos⟩, .spoilt)

/-- An answer within the bounds is drawn. -/
theorem Script.draw_answers {a top : Nat} (h : a < top + 1) (rest : List Nat) :
    Source.draw top (Script.answers (a :: rest)) = (⟨a, h⟩, .answers rest) := dif_pos h

end Random

namespace Generator

variable {α β : Type}

/-- Some answers lead the computation from any coherent generator with the statements `before` to the
result `a`, adding the statements `added`. -/
def Yields (m : Generation Script α) (before : List Statement) (a : α)
    (added : List Statement) : Prop :=
  ∃ script : List Nat, ∀ (g : Generator Script) (rest : List Nat), g.Coherent →
    g.statements = before → g.source = .answers (script ++ rest) →
    ∃ h, m g = .ok a h ∧ h.Coherent ∧ h.statements = before ++ added ∧ h.source = .answers rest

namespace Yields

variable {m : Generation Script α} {f : α → Generation Script β} {before added more : List Statement}
  {a : α} {b : β}

/-! ## The rules -/

/-- A result asks for no answers. -/
theorem pure (a : α) : Yields (Pure.pure a) before a [] :=
  ⟨[], fun g _ hg hl hs => ⟨g, rfl, hg, hl.trans (List.append_nil _).symm, hs⟩⟩

/-- One computation after the other: the answers to the first come first. -/
theorem bind (hm : Yields m before a added) (hf : Yields (f a) (before ++ added) b more) :
    Yields (m >>= f) before b (added ++ more) := by
  obtain ⟨script, hm⟩ := hm
  obtain ⟨script', hf⟩ := hf
  refine ⟨script ++ script', fun g rest hg hl hs => ?_⟩
  rw [List.append_assoc] at hs
  obtain ⟨g₁, hr, hg₁, hl₁, hs₁⟩ := hm g _ hg hl hs
  obtain ⟨g₂, hr₂, hg₂, hl₂, hs₂⟩ := hf g₁ rest hg₁ hl₁ hs₁
  exact ⟨g₂, (bind_ok hr).trans hr₂, hg₂, by rw [hl₂, List.append_assoc], hs₂⟩

/-- One computation that adds nothing after another. -/
theorem bind_nil (hm : Yields m before a added) (hf : Yields (f a) (before ++ added) b []) :
    Yields (m >>= f) before b added := by
  have h := hm.bind hf
  rwa [List.append_nil] at h

/-- A look at the generator, of which only that counts which the statements tell. -/
theorem get_bind {f : Generator Script → Generation Script α}
    (hf : ∀ g : Generator Script, g.Coherent → g.statements = before → f g = m)
    (h : Yields m before a added) : Yields (get >>= f) before a added := by
  obtain ⟨script, h⟩ := h
  refine ⟨script, fun g rest hg hl hs => ?_⟩
  change ∃ h, f g g = .ok a h ∧ _
  rw [hf g hg hl]
  exact h g rest hg hl hs

/-- A note asks for no answers. -/
theorem note_bind {e : Event} {f : PUnit → Generation Script α} (h : Yields (f ⟨⟩) before a added) :
    Yields (modify (note e) >>= f) before a added := by
  obtain ⟨script, h⟩ := h
  exact ⟨script, fun g rest hg hl hs => h (g.note e) rest hg hl hs⟩

/-- Any of the candidates may be chosen: its place is the answer. -/
theorem choose {candidates : List α} (ha : a ∈ candidates) :
    Yields (draw (choose candidates)) before a [] := by
  obtain ⟨i, hi, rfl⟩ := List.getElem_of_mem ha
  refine ⟨[i], fun g rest hg hl hs => ?_⟩
  cases candidates with
  | nil => cases hi
  | cons c candidates =>
    refine ⟨{ g with source := .answers rest }, ?_, hg, hl.trans (List.append_nil _).symm, rfl⟩
    rw [draw, Random.choose, hs, List.singleton_append]
    simp only [Script.draw_answers hi]
    rfl

/-- Any integer between the bounds may be drawn: its distance from the lower one is the answer. -/
theorem drawInt {low high i : Int} (hl : low ≤ i) (hh : i ≤ high) :
    Yields (draw (drawInt low high)) before i [] := by
  have hi : (i - low).toNat < (high - low).toNat + 1 := by omega
  refine ⟨[(i - low).toNat], fun g rest hg hb hs => ?_⟩
  refine ⟨{ g with source := .answers rest }, ?_, hg, hb.trans (List.append_nil _).symm, rfl⟩
  rw [draw, Random.drawInt, if_pos (by omega), hs, List.singleton_append]
  simp only [Script.draw_answers hi]
  congr 1
  omega

/-- First a choice of one of the candidates. -/
theorem choose_bind {candidates : List α} (ha : a ∈ candidates) (hf : Yields (f a) before b added) :
    Yields (draw (Random.choose candidates) >>= f) before b added :=
  (choose ha).bind (by rwa [List.append_nil])

/-- First an integer between the bounds. -/
theorem drawInt_bind {low high i : Int} {f : Int → Generation Script β} (hl : low ≤ i)
    (hh : i ≤ high) (hf : Yields (f i) before b added) :
    Yields (draw (Random.drawInt low high) >>= f) before b added :=
  (drawInt hl hh).bind (by rwa [List.append_nil])

end Yields

/-! ## Arguments -/

variable {before added : List Statement} {type name : String}

/-- A declaration under the next name of its type asks for no answers. -/
theorem yields_declare (type : String) (before : List Statement) :
    Yields (declare type) before (.declaration type (nextFor type before) [])
      [.declaration type (nextFor type before) []] := by
  refine ⟨[], fun g rest hg hl hs => ?_⟩
  obtain ⟨hh, added, n, hadded, -, hname, rfl, -⟩ := extends_declare type g hg hl
  rw [← hname]
  exact ⟨_, rfl, hh, hadded, hs⟩

/-- Any object of a type may be chosen. -/
theorem yields_chooseDeclared (hm : name ∈ namesOf type before) :
    Yields (chooseDeclared type) before name [] := by
  refine .get_bind (fun g hg hl => ?_) (.choose hm)
  rw [hg.declaredOf, hl]

/-- Any object of a type may be a new argument, once the next one is declared. -/
theorem yields_newArgument
    (hm : name ∈ namesOf type (before ++ [.declaration type (nextFor type before) []])) :
    Yields (newArgument type) before name [.declaration type (nextFor type before) []] :=
  (yields_declare type before).bind_nil (yields_chooseDeclared hm)

/-- Where there are objects of a type, any of them may be an old argument. -/
theorem yields_oldArgument_of_mem (hm : name ∈ namesOf type before) :
    Yields (oldArgument type) before name [] := by
  refine .get_bind (fun g hg hl => ?_) (yields_chooseDeclared hm)
  rw [hg.declaredOf, hl, if_neg (by simpa using List.ne_nil_of_mem hm)]

/-- Where there are no objects of a type, the first one is declared for an old argument. -/
theorem yields_oldArgument_of_eq_nil (hnil : namesOf type before = [])
    (hm : name ∈ namesOf type (before ++ [.declaration type (nextFor type before) []])) :
    Yields (oldArgument type) before name [.declaration type (nextFor type before) []] := by
  refine .get_bind (fun g hg hl => ?_)
    (.note_bind (e := .noneDeclared type) (f := fun _ => newArgument type) (yields_newArgument hm))
  rw [hg.declaredOf, hl, if_pos (by rw [hnil]; rfl)]

/-- An argument that a policy allows is found by it. -/
theorem yields_argument {policy : Policy} (h : Finds policy before type added name)
    (hn : WellNamed (before ++ added)) : Yields (argument policy type) before name added := by
  cases h with
  | old hp hm =>
    cases policy with
    | existing => exact yields_oldArgument_of_mem hm
    | generated => exact absurd rfl hp
    | mixed => exact .choose_bind (a := true) (by simp) (yields_oldArgument_of_mem hm)
  | new hp hm =>
    obtain ⟨-, rfl⟩ := wellNamed_append_declaration.mp hn
    cases policy with
    | existing => exact yields_oldArgument_of_eq_nil (hp rfl) hm
    | generated => exact yields_newArgument hm
    | mixed => exact .choose_bind (a := false) (by simp) (yields_newArgument hm)

/-- Arguments that a policy allows are found by it, one after the other. -/
theorem yields_arguments {policy : Policy} {types names : List String}
    (h : FindsAll policy before types added names) (hn : WellNamed (before ++ added)) :
    Yields (types.mapM (argument policy)) before names added := by
  induction h with
  | nil => exact .pure []
  | cons h _ ih =>
    rw [← List.append_assoc] at hn
    rw [List.mapM_cons]
    exact (yields_argument h hn.of_append).bind ((ih hn).bind_nil (.pure _))

/-- Arguments that a policy allows for a predicate are found by it. -/
theorem yields_predicateArguments {policy : Policy} {signature : Signature String}
    {names : List String} (h : Fills policy before signature added names)
    (hn : WellNamed (before ++ added)) :
    Yields (predicateArguments (argument policy) signature) before names added := by
  cases h with
  | objects h => exact yields_arguments h hn
  | propositions => exact .pure []

/-! ## Statements and programs -/

variable {schema : Schema}

/-- An application is added as it is. -/
theorem yields_append_application (predicate : String) (names : List String)
    (before : List Statement) :
    Yields (modify (append (.application predicate names))) before ⟨⟩
      [.application predicate names] := by
  refine ⟨[], fun g rest hg hl hs => ?_⟩
  obtain ⟨hh, added, n, hadded, -, rfl, -⟩ := extends_append_application predicate names g hg hl
  exact ⟨_, rfl, hh, hadded, hs⟩

/-- A declaration of a declared type is drawn. -/
theorem yields_declareAny (hm : type ∈ schema.typeNames) (before : List Statement) :
    Yields (Domain.declareAny schema) before (.declaration type (nextFor type before) [])
      [.declaration type (nextFor type before) []] :=
  .choose_bind hm (yields_declare type before)

/-- Every block of the language is drawn. -/
theorem yields_addStatement {policy : Policy} {block : List Statement}
    (h : Block schema policy before block) (hn : WellNamed (before ++ block)) :
    ∃ s, Yields (addStatement schema policy) before s block := by
  cases h with
  | @declaration type _ hm =>
    obtain ⟨-, rfl⟩ := wellNamed_append_declaration.mp hn
    refine ⟨.declaration type (nextFor type before) [],
      .choose_bind (a := StatementKind.declaration) ?_ ?_⟩
    · rw [Domain.statementKinds]
      split <;> simp
    · exact yields_declareAny hm before
  | @application predicate _ _ names hp hf =>
    rw [← List.append_assoc] at hn
    have hpredicates : (Domain.schema schema).hasPredicates = true := by
      have := List.ne_nil_of_mem hp
      simpa [Domain.hasPredicates, Catalog.isEmpty, Schema.predicateList] using this
    refine ⟨.application predicate names, .choose_bind (a := StatementKind.application) ?_ ?_⟩
    · simp [Domain.statementKinds, hpredicates]
    · refine Yields.choose_bind hp ?_
      refine (yields_predicateArguments hf hn.of_append).bind ?_
      exact (yields_append_application _ _ _).bind_nil (.pure _)

/-- Every row of declarations of declared types is drawn. -/
theorem yields_times_declareAny {header : List Statement} (h : Opens schema header)
    (hn : WellNamed (before ++ header)) :
    Yields (times (Domain.declareAny schema) header.length) before () header := by
  induction header generalizing before with
  | nil => exact .pure ()
  | cons s header ih =>
    obtain ⟨⟨type, hm, name, rfl⟩, hheader⟩ := List.forall_mem_cons.mp h
    rw [← List.singleton_append, ← List.append_assoc] at hn
    obtain ⟨-, rfl⟩ := wellNamed_append_declaration.mp hn.of_append
    exact (yields_declareAny hm before).bind (ih hheader hn)

/-- Every row of blocks is drawn. -/
theorem yields_times_addStatement {policy : Policy} {blocks : List (List Statement)}
    (h : Blocks schema policy before blocks) (hn : WellNamed (before ++ blocks.flatten)) :
    Yields (times (addStatement schema policy) blocks.length) before () blocks.flatten := by
  induction h with
  | nil => exact .pure ()
  | cons h _ ih =>
    rw [List.flatten_cons, ← List.append_assoc] at hn
    obtain ⟨s, hs⟩ := yields_addStatement h hn.of_append
    exact hs.bind (ih hn)

/-- Every program that continues well-named statements is drawn. -/
theorem yields_addProgram {setting : Setting} {p : Program} {header : List Statement}
    {blocks : List (List Statement)} (h : Composed schema setting before p header blocks)
    (hn : WellNamed p.statements) :
    Yields (addProgram schema setting) before p (header ++ blocks.flatten) := by
  have hheader := h.headerCount
  have hrange := h.headerRange
  rw [h.statements, ← List.append_assoc] at hn
  refine .drawInt_bind (i := p.headerCount) (by simp only [headerRange]; omega)
    (by simp only [headerRange]; omega) ?_
  refine .drawInt_bind h.bodyRange.1 h.bodyRange.2 (.note_bind ?_)
  rw [hheader, h.bodyCount, Int.toNat_natCast]
  refine (yields_times_declareAny h.opens hn.of_append).bind ?_
  refine (yields_times_addStatement h.body hn).bind_nil ?_
  refine .get_bind (m := Pure.pure p) (fun g hg hl => ?_) (.pure p)
  have hp : g.draft.finish header.length p.bodyCount = p := by
    have hdraft : g.draft.toList = p.statements := by
      rw [h.statements, ← List.append_assoc]
      exact hl
    rw [Draft.finish, hdraft, ← hheader]
  rw [hp]

/-- The programs that decided draws lead a new generator to are exactly the well-named ones of the
language: whatever can be composed over a schema within a setting is what some answers lead to, each
within the bounds of its draw and none left over. -/
theorem exists_script_iff (schema : Schema) (setting : Setting) (p : Program) :
    (∃ script g, addProgram schema setting (new (Script.answers script)) = .ok p g ∧
      g.source = .answers []) ↔
      (∃ header blocks, Composed schema setting [] p header blocks) ∧ WellNamed p.statements := by
  constructor
  · rintro ⟨script, g, hr, -⟩
    have hgrow := extends_addProgram schema setting (new (Script.answers script))
      (isClear_new _).coherent rfl
    rw [hr] at hgrow
    obtain ⟨hg, added, n, hadded, -, hp, header, blocks, hc, -⟩ := hgrow
    exact ⟨⟨header, blocks, hc⟩, hp.trans hadded.symm ▸ hg.named⟩
  · rintro ⟨⟨header, blocks, hc⟩, hn⟩
    obtain ⟨script, h⟩ := yields_addProgram hc hn
    obtain ⟨g, hr, -, -, hs⟩ := h (new (.answers script)) [] (isClear_new _).coherent rfl
      (by rw [List.append_nil]; rfl)
    exact ⟨script, g, hr, hs⟩

end Generator

end Substance
