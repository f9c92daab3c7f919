import Substance.Proofs.Growth

/-!
# Runs over renamed vocabularies

A generator looks at the names of types and predicates only to tell them apart, to list them in order
and to take the stems of types.  So two generators over vocabularies that differ by a renaming run
alike, as long as the renaming respects these: `Alike` is the two-run law of a computation, `Mirrors`
relates the states on the way, and `alike_addProgram` is the law for programs.

Renamed by nothing (`Renaming.none`), the law says that a program depends on the source, the names
and the statements, and not on what was noted before.
-/

namespace Substance

open Substance.Random Statement

/-! ## Renamings -/

/-- New names for the types and the predicates of a vocabulary. -/
structure Renaming where
  type : String → String
  predicate : String → String

/-- Nothing is renamed. -/
def Renaming.none : Renaming := ⟨id, id⟩

/-- The signature over other types. -/
def Signature.map {ν μ : Type} (f : ν → μ) : Signature ν → Signature μ
  | .objects types => .objects (types.map f)
  | .propositions => .propositions

/-- The statement over the renamed vocabulary.  Objects keep their names. -/
def Statement.rename (r : Renaming) : Statement → Statement
  | .declaration type name arguments => .declaration (r.type type) name arguments
  | .application predicate arguments => .application (r.predicate predicate) arguments

/-- The program over the renamed vocabulary. -/
def Program.rename (r : Renaming) (p : Program) : Program :=
  { p with statements := p.statements.map (·.rename r) }

/-- The type is declared, or wanted by a predicate. -/
def Schema.Mentions (s : Schema) (type : String) : Prop :=
  type ∈ s.typeNames ∨ ∃ predicate types,
    (predicate, .objects types) ∈ s.predicateList ∧ type ∈ types

/-- The renaming takes one schema to the other.  It keeps the order of types and of predicates, tells
the types apart and keeps their stems. -/
structure Renaming.Carries (r : Renaming) (s s' : Schema) : Prop where
  typeNames : s'.typeNames = s.typeNames.map r.type
  predicateList : s'.predicateList =
    s.predicateList.map fun p => (r.predicate p.1, p.2.map r.type)
  injective : ∀ t u, s.Mentions t → s.Mentions u → r.type t = r.type u → t = u
  stem : ∀ t, s.Mentions t → stem (r.type t) = stem t

@[simp] theorem Statement.rename_none (s : Statement) : s.rename .none = s := by
  cases s <;> rfl

@[simp] theorem Program.rename_none (p : Program) : p.rename .none = p := by
  simp [rename]

@[simp] theorem Signature.map_id {ν : Type} (signature : Signature ν) :
    signature.map id = signature := by
  cases signature <;> simp [map]

/-- Renaming nothing takes a schema to itself. -/
theorem Renaming.none_carries (s : Schema) : none.Carries s s where
  typeNames := by simp [none]
  predicateList := by simp [none]
  injective _ _ _ _ h := h
  stem _ _ := rfl

namespace Generator

variable {σ α β : Type}

/-- The second generator stands over the renamed vocabulary where the first one stands. -/
structure Mirrors (r : Renaming) (s : Schema) (g h : Generator σ) : Prop where
  source : h.source = g.source
  counters : h.names.counters = g.names.counters
  declaredOf : ∀ t, s.Mentions t → h.names.declaredOf (r.type t) = g.names.declaredOf t
  draft : h.draft.toList = g.draft.toList.map (·.rename r)

/-- From generators that mirror each other the computations end in such generators: both succeed, with
results as said, or both fail in the same way. -/
def Alike (r : Renaming) (s : Schema) (related : α → β → Prop) (m : Generation σ α)
    (m' : Generation σ β) : Prop :=
  ∀ g h : Generator σ, Mirrors r s g h →
    (∃ a b g₁ h₁, m g = .ok a g₁ ∧ m' h = .ok b h₁ ∧ related a b ∧ Mirrors r s g₁ h₁) ∨
    ∃ e g₁ h₁, m g = .error e g₁ ∧ m' h = .error e h₁ ∧ Mirrors r s g₁ h₁

variable {r : Renaming} {s s' : Schema}

namespace Alike

variable {γ δ : Type} {related : α → β → Prop} {related' : γ → δ → Prop} {m : Generation σ α}
  {m' : Generation σ β} {f : α → Generation σ γ} {f' : β → Generation σ δ}

/-! ## The rules -/

/-- Results that are as said. -/
theorem pure {a : α} {b : β} (h : related a b) :
    Alike (σ := σ) r s related (Pure.pure a) (Pure.pure b) :=
  fun g h₁ hm => .inl ⟨a, b, g, h₁, rfl, rfl, h, hm⟩

/-- One computation after the other. -/
theorem bind (h : Alike r s related m m')
    (hf : ∀ a b, related a b → Alike r s related' (f a) (f' b)) :
    Alike r s related' (m >>= f) (m' >>= f') := by
  intro g h₀ hm
  obtain ⟨a, b, g₁, h₁, hg, hh, hab, hm₁⟩ | ⟨e, g₁, h₁, hg, hh, hm₁⟩ := h g h₀ hm
  · rw [bind_ok hg, bind_ok hh]
    exact hf a b hab g₁ h₁ hm₁
  · rw [bind_error hg, bind_error hh]
    exact .inr ⟨e, g₁, h₁, rfl, rfl, hm₁⟩

/-- What is said of the results may be said more weakly. -/
theorem imp {weaker : α → β → Prop} (h : Alike r s related m m')
    (hw : ∀ a b, related a b → weaker a b) : Alike r s weaker m m' := by
  intro g h₀ hm
  obtain ⟨a, b, g₁, h₁, hg, hh, hab, hm₁⟩ | hfault := h g h₀ hm
  · exact .inl ⟨a, b, g₁, h₁, hg, hh, hw a b hab, hm₁⟩
  · exact .inr hfault

/-- A look at the generators. -/
theorem get_bind {f : Generator σ → Generation σ γ} {f' : Generator σ → Generation σ δ}
    (h : ∀ g h : Generator σ, Mirrors r s g h → Alike r s related' (f g) (f' h)) :
    Alike r s related' (get >>= f) (get >>= f') :=
  fun g h₀ hm => h g h₀ hm g h₀ hm

/-- Notes, whatever they say. -/
theorem note_bind (e e' : Event) {f : PUnit → Generation σ γ} {f' : PUnit → Generation σ δ}
    (h : Alike r s related' (f ⟨⟩) (f' ⟨⟩)) :
    Alike r s related' (modify (note e) >>= f) (modify (note e') >>= f') :=
  fun g h₀ hm => h (g.note e) (h₀.note e') ⟨hm.source, hm.counters, hm.declaredOf, hm.draft⟩

end Alike

/-- Generators that draw the same go on mirroring each other. -/
theorem Mirrors.draw {g h : Generator σ} (hm : Mirrors r s g h) (source : σ) :
    Mirrors r s { g with source } { h with source } :=
  ⟨rfl, hm.counters, hm.declaredOf, hm.draft⟩

section Draws

variable [Source σ]

/-! ## Draws -/

/-- A choice from a list and from its image fall on the same place. -/
theorem alike_choose (l : List α) (f : α → β) :
    Alike (σ := σ) r s (fun a b => a ∈ l ∧ b = f a) (draw (choose l))
      (draw (choose (l.map f))) := by
  intro g h hm
  cases l with
  | nil => exact .inr ⟨_, _, _, rfl, rfl, hm⟩
  | cons a rest =>
    have hl : (a :: rest).length = rest.length + 1 := rfl
    have hl' : ((a :: rest).map f).length = rest.length + 1 := by simp
    have hh := draw_choose hl' h
    rw [hm.source] at hh
    exact .inl ⟨_, _, _, _, draw_choose hl g, hh, ⟨List.get_mem _ _, List.getElem_map f⟩,
      hm.draw _⟩

/-- A choice falls on the same candidate. -/
theorem alike_choose_self (l : List α) :
    Alike (σ := σ) r s Eq (draw (choose l)) (draw (choose l)) := by
  have h := alike_choose (σ := σ) (r := r) (s := s) l id
  rw [List.map_id] at h
  exact h.imp fun _ _ hab => hab.2.symm

/-- The same integer is drawn. -/
theorem alike_drawInt (low high : Int) :
    Alike (σ := σ) r s Eq (draw (drawInt low high)) (draw (drawInt low high)) := by
  intro g h hm
  by_cases hlh : low ≤ high
  · have hh := draw_drawInt hlh h
    rw [hm.source] at hh
    exact .inl ⟨_, _, _, _, draw_drawInt hlh g, hh, rfl, hm.draw _⟩
  · have hlt := Int.not_le.mp hlh
    exact .inr ⟨_, g, h, draw_drawInt_of_lt hlt g, draw_drawInt_of_lt hlt h, hm⟩

end Draws

/-! ## Declarations and arguments -/

/-- A type and its new name are declared under the same object name. -/
theorem alike_declare (hc : r.Carries s s') {type : String} (ht : s.Mentions type) :
    Alike (σ := σ) r s (fun a b => b = a.rename r) (declare type) (declare (r.type type)) := by
  intro g h hm
  have hname : (h.names.fresh (r.type type)).1 = (g.names.fresh type).1 := by
    simp only [Registry.fresh, hc.stem type ht, hm.counters]
  refine .inl ⟨_, _, _, _, rfl, rfl, by rw [hname]; rfl, hm.source, ?_, ?_, ?_⟩
  · change (h.names.fresh (r.type type)).2.counters = (g.names.fresh type).2.counters
    simp only [Registry.fresh, hc.stem type ht, hm.counters]
  · intro t htm
    change (h.names.fresh (r.type type)).2.declaredOf (r.type t) =
      (g.names.fresh type).2.declaredOf t
    rw [Registry.declaredOf_fresh, Registry.declaredOf_fresh, hname, hm.declaredOf t htm,
      hm.declaredOf type ht]
    -- the renamed types are equal exactly where the types are
    by_cases he : type = t
    · rw [if_pos he, if_pos (he ▸ rfl)]
    · rw [if_neg he, if_neg (mt (hc.injective type t ht htm) he)]
  · change (h.draft.append _).toList = (g.draft.append _).toList.map _
    rw [Draft.toList_append, Draft.toList_append, List.map_append, hm.draft, hname]
    rfl

variable [Source σ]

/-- The same object is chosen. -/
theorem alike_chooseDeclared {type : String} (ht : s.Mentions type) :
    Alike (σ := σ) r s Eq (chooseDeclared type) (chooseDeclared (r.type type)) := by
  refine .get_bind fun g h hm => ?_
  rw [hm.declaredOf type ht]
  exact alike_choose_self _

/-- The same object is a new argument. -/
theorem alike_newArgument (hc : r.Carries s s') {type : String} (ht : s.Mentions type) :
    Alike (σ := σ) r s Eq (newArgument type) (newArgument (r.type type)) :=
  (alike_declare hc ht).bind fun _ _ _ => alike_chooseDeclared ht

/-- The same object is an old argument. -/
theorem alike_oldArgument (hc : r.Carries s s') {type : String} (ht : s.Mentions type) :
    Alike (σ := σ) r s Eq (oldArgument type) (oldArgument (r.type type)) := by
  refine .get_bind fun g h hm => ?_
  rw [hm.declaredOf type ht]
  split
  · exact .note_bind _ _ (alike_newArgument hc ht)
  · exact alike_chooseDeclared ht

/-- The same object is an argument. -/
theorem alike_argument (hc : r.Carries s s') (policy : Policy) {type : String}
    (ht : s.Mentions type) :
    Alike (σ := σ) r s Eq (argument policy type) (argument policy (r.type type)) := by
  cases policy with
  | existing => exact alike_oldArgument hc ht
  | generated => exact alike_newArgument hc ht
  | mixed =>
    refine (alike_choose_self [true, false]).bind ?_
    rintro old _ rfl
    cases old with
    | true => exact alike_oldArgument hc ht
    | false => exact alike_newArgument hc ht

/-- The same objects are arguments, one after the other. -/
theorem alike_arguments (hc : r.Carries s s') (policy : Policy) {types : List String}
    (ht : ∀ type ∈ types, s.Mentions type) :
    Alike (σ := σ) r s Eq (types.mapM (argument policy))
      ((types.map r.type).mapM (argument policy)) := by
  induction types with
  | nil => exact .pure rfl
  | cons type types ih =>
    obtain ⟨htype, htypes⟩ := List.forall_mem_cons.mp ht
    rw [List.map_cons, List.mapM_cons, List.mapM_cons]
    refine (alike_argument hc policy htype).bind ?_
    rintro name _ rfl
    refine (ih htypes).bind ?_
    rintro names _ rfl
    exact .pure rfl

/-- The same objects are the arguments of a predicate. -/
theorem alike_predicateArguments (hc : r.Carries s s') (policy : Policy) {predicate : String}
    {signature : Signature String} (hp : (predicate, signature) ∈ s.predicateList) :
    Alike (σ := σ) r s Eq (predicateArguments (argument policy) signature)
      (predicateArguments (argument policy) (signature.map r.type)) := by
  cases signature with
  | objects types => exact alike_arguments hc policy fun t ht => .inr ⟨predicate, types, hp, ht⟩
  | propositions => exact .pure rfl

/-! ## Statements and programs -/

omit [Source σ] in
/-- An application and its new form are added. -/
theorem alike_append (statement : Statement) :
    Alike (σ := σ) r s Eq (modify (append statement)) (modify (append (statement.rename r))) := by
  intro g h hm
  refine .inl ⟨_, _, _, _, rfl, rfl, rfl, hm.source, hm.counters, hm.declaredOf, ?_⟩
  change (h.draft.append _).toList = (g.draft.append _).toList.map _
  rw [Draft.toList_append, Draft.toList_append, List.map_append, hm.draft]
  rfl

/-- A declaration and its new form are added. -/
theorem alike_declareAny (hc : r.Carries s s') :
    Alike (σ := σ) r s (fun a b => b = a.rename r) (Domain.declareAny s)
      (Domain.declareAny s') := by
  have hchoose := alike_choose (σ := σ) (r := r) (s := s) s.typeNames r.type
  rw [← hc.typeNames] at hchoose
  refine hchoose.bind ?_
  rintro type _ ⟨hm, rfl⟩
  exact alike_declare hc (.inl hm)

/-- An application and its new form are added, after the declarations made for it. -/
theorem alike_applyAny (hc : r.Carries s s') (policy : Policy) :
    Alike (σ := σ) r s (fun a b => b = a.rename r) (Domain.applyAny policy s)
      (Domain.applyAny policy s') := by
  have hchoose := alike_choose (σ := σ) (r := r) (s := s) s.predicateList
    fun p => (r.predicate p.1, p.2.map r.type)
  rw [← hc.predicateList] at hchoose
  refine hchoose.bind ?_
  rintro ⟨predicate, signature⟩ _ ⟨hp, rfl⟩
  refine (alike_predicateArguments hc policy hp).bind ?_
  rintro names _ rfl
  exact (alike_append (.application predicate names)).bind fun _ _ _ => .pure rfl

/-- The renaming keeps the kinds of statement. -/
theorem statementKinds_eq (hc : r.Carries s s') :
    (Domain.schema s').statementKinds = (Domain.schema s).statementKinds := by
  have h : s'.predicates.entries = s.predicates.entries.map _ := hc.predicateList
  have hp : (Domain.schema s').hasPredicates = (Domain.schema s).hasPredicates := by
    simp only [Domain.hasPredicates, Catalog.isEmpty, h, List.isEmpty_map]
  rw [Domain.statementKinds, Domain.statementKinds, hp]

/-- A body statement and its new form are added. -/
theorem alike_addStatement (hc : r.Carries s s') (policy : Policy) :
    Alike (σ := σ) r s (fun a b => b = a.rename r) (addStatement s policy)
      (addStatement s' policy) := by
  rw [addStatement, addStatement, statementKinds_eq hc]
  refine (alike_choose_self _).bind ?_
  rintro kind _ rfl
  cases kind with
  | application => exact alike_applyAny hc policy
  | declaration => exact alike_declareAny hc

omit [Source σ] in
/-- What runs alike once does so any number of times. -/
theorem Alike.times {related : α → β → Prop} {m : Generation σ α} {m' : Generation σ β}
    (h : Alike r s related m m') (count : Nat) :
    Alike r s Eq (Generator.times m count) (Generator.times m' count) := by
  induction count with
  | zero => exact .pure rfl
  | succ count ih => exact h.bind fun _ _ _ => ih

/-- A program and its new form are generated. -/
theorem alike_addProgram (hc : r.Carries s s') (setting : Setting) :
    Alike (σ := σ) r s (fun p q => q = p.rename r) (addProgram s setting)
      (addProgram s' setting) := by
  refine (alike_drawInt headerRange.1 headerRange.2).bind ?_
  rintro headerCount _ rfl
  refine (alike_drawInt setting.minLength setting.maxLength).bind ?_
  rintro bodyCount _ rfl
  refine .note_bind _ _ (((alike_declareAny hc).times headerCount.toNat).bind fun _ _ _ => ?_)
  refine ((alike_addStatement hc setting.policy).times bodyCount.toNat).bind fun _ _ _ => ?_
  refine .get_bind fun g h hm => .pure ?_
  rw [Draft.finish, Draft.finish, hm.draft]
  rfl

end Generator

end Substance
