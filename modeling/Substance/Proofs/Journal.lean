import Substance.Batch
import Substance.Proofs.Growth

/-!
# What is noted does not count

A generator notes what happens, for those who follow it, and never looks at its notes.  So what it
generates over any domain is the same whatever was noted before, and a batch comes out the same when
the notes are taken away between its programs.

* `Blind`: a computation that does not look at the notes, with one rule for each way to put
  computations together.
* `blind_addProgram`: programs are generated without a look at the notes.
* `next_journal`, `collect_journal`: iterators do the same whatever was noted.
-/

namespace Substance

open Substance.Random

namespace Generator

variable {σ α β : Type}

/-- The computation ends in the same way, and in the same generator apart from the notes, whatever
was noted before. -/
def Blind (m : Generation σ α) : Prop :=
  ∀ (g : Generator σ) (journal : Array Event),
    (∃ a h notes, m g = .ok a h ∧ m { g with journal } = .ok a { h with journal := notes }) ∨
    ∃ e h notes, m g = .error e h ∧ m { g with journal } = .error e { h with journal := notes }

/-! ## The rules -/

/-- A value is not looked up in the notes. -/
theorem blind_pure (a : α) : Blind (σ := σ) (pure a) :=
  fun g journal => .inl ⟨a, g, journal, rfl, rfl⟩

/-- One computation after the other. -/
theorem Blind.bind {m : Generation σ α} {f : α → Generation σ β} (hm : Blind m)
    (hf : ∀ a, Blind (f a)) : Blind (m >>= f) := by
  intro g journal
  rcases hm g journal with ⟨a, h, notes, hr, hr'⟩ | ⟨e, h, notes, hr, hr'⟩
  · rw [bind_ok hr, bind_ok hr']
    exact hf a h notes
  · exact .inr ⟨e, h, notes, bind_error hr, bind_error hr'⟩

/-- A look at the names and statements. -/
theorem blind_get_bind {f : Generator σ → Generation σ α}
    (hf : ∀ g journal, f { g with journal } = f g) (h : ∀ g, Blind (f g)) :
    Blind (get >>= f) := by
  intro g journal
  have hlook : (get >>= f) { g with journal } = f g { g with journal } :=
    congrFun (hf g journal) _
  rcases h g g journal with ⟨a, h, notes, hr, hr'⟩ | ⟨e, h, notes, hr, hr'⟩
  · exact .inl ⟨a, h, notes, hr, hlook.trans hr'⟩
  · exact .inr ⟨e, h, notes, hr, hlook.trans hr'⟩

/-- What happens is noted. -/
theorem blind_note (e : Event) : Blind (σ := σ) (modify (note e)) :=
  fun g journal => .inl ⟨⟨⟩, g.note e, journal.push e, rfl, rfl⟩

/-- A statement is added. -/
theorem blind_append (s : Statement) : Blind (σ := σ) (modify (append s)) :=
  fun g journal => .inl ⟨⟨⟩, g.append s, journal, rfl, rfl⟩

/-- An object is declared. -/
theorem blind_declare (type : String) : Blind (σ := σ) (declare type) :=
  fun _ _ => .inl ⟨_, _, _, rfl, rfl⟩

/-- A draw looks at the source alone. -/
theorem blind_draw (d : Draw σ α) : Blind (draw d) := by
  intro g journal
  cases hd : d g.source with
  | ok a source => exact .inl ⟨a, { g with source }, journal, by rw [draw, hd], by rw [draw, hd]⟩
  | error e source =>
    exact .inr ⟨.draw e, { g with source }, journal, by rw [draw, hd], by rw [draw, hd]⟩

/-- An outcome that stands already. -/
theorem blind_settle (outcome : Except NameFault α) : Blind (σ := σ) (settle outcome) := by
  intro g journal
  cases outcome with
  | ok a => exact .inl ⟨a, g, journal, rfl, rfl⟩
  | error e => exact .inr ⟨.name e, g, journal, rfl, rfl⟩

/-- The same for every element of a list. -/
theorem blind_mapM {f : α → Generation σ β} (hf : ∀ a, Blind (f a)) (l : List α) :
    Blind (l.mapM f) := by
  induction l with
  | nil => exact blind_pure []
  | cons a l ih =>
    rw [List.mapM_cons]
    exact (hf a).bind fun b => ih.bind fun rest => blind_pure (b :: rest)

/-- The same a number of times. -/
theorem Blind.times {m : Generation σ α} (h : Blind m) (count : Nat) :
    Blind (Generator.times m count) := by
  induction count with
  | zero => exact blind_pure ()
  | succ count ih => exact h.bind fun _ => ih

variable [Source σ]

/-! ## Statements -/

/-- An object is chosen by the names. -/
theorem blind_chooseDeclared (type : String) : Blind (σ := σ) (chooseDeclared type) :=
  blind_get_bind (fun _ _ => rfl) fun _ => blind_draw _

/-- An object is declared and chosen. -/
theorem blind_newArgument (type : String) : Blind (σ := σ) (newArgument type) :=
  (blind_declare type).bind fun _ => blind_chooseDeclared type

/-- An object is chosen, or the first one declared. -/
theorem blind_oldArgument (type : String) : Blind (σ := σ) (oldArgument type) := by
  refine blind_get_bind (fun _ _ => rfl) fun g => ?_
  split
  · exact (blind_note _).bind fun _ => blind_newArgument type
  · exact blind_chooseDeclared type

/-- An argument is found as the policy has it. -/
theorem blind_byPolicy {old new : Generation σ String} (ho : Blind old) (hn : Blind new)
    (policy : Policy) : Blind (byPolicy old new policy) := by
  cases policy with
  | existing => exact ho
  | generated => exact hn
  | mixed =>
    refine (blind_draw _).bind fun fromOld => ?_
    cases fromOld with
    | true => exact ho
    | false => exact hn

/-- An argument is found of a type that plain data names. -/
theorem blind_argumentFor (policy : Policy) (type : Json) :
    Blind (σ := σ) (argumentFor policy type) := by
  have hnew : Blind (σ := σ) (newArgumentFor type) :=
    (blind_settle _).bind fun _ => blind_newArgument _
  refine blind_byPolicy ((blind_settle _).bind fun key => ?_) hnew policy
  cases key with
  | some type => exact blind_oldArgument type
  | none => exact (blind_note _).bind fun _ => hnew

/-- A predicate is applied, with its arguments found in any such way. -/
theorem blind_applyOneOf {ν : Type} {find : ν → Generation σ String}
    (hf : ∀ type, Blind (find type)) (predicates : List (String × Signature ν)) :
    Blind (applyOneOf find predicates) := by
  have harguments : ∀ signature, Blind (predicateArguments find signature) := by
    intro signature
    cases signature with
    | objects types => exact blind_mapM hf types
    | propositions => exact blind_pure []
  exact (blind_draw _).bind fun p => (harguments p.2).bind fun _ =>
    (blind_append _).bind fun _ => blind_pure _

/-- An object of the domain is declared. -/
theorem blind_declareAny (domain : Domain) : Blind (σ := σ) domain.declareAny := by
  cases domain with
  | schema s => exact (blind_draw _).bind fun type => blind_declare type
  | loose l =>
    exact (blind_settle _).bind fun _ => (blind_draw _).bind fun _ =>
      (blind_settle _).bind fun type => blind_declare type

/-- A predicate of the domain is applied. -/
theorem blind_applyAny (policy : Policy) (domain : Domain) :
    Blind (σ := σ) (domain.applyAny policy) := by
  cases domain with
  | schema s =>
    exact blind_applyOneOf (fun type =>
      blind_byPolicy (blind_oldArgument type) (blind_newArgument type) policy) _
  | loose l => exact blind_applyOneOf (blind_argumentFor policy) _

/-- A body statement is added. -/
theorem blind_addStatement (domain : Domain) (policy : Policy) :
    Blind (σ := σ) (addStatement domain policy) := by
  refine (blind_draw _).bind fun kind => ?_
  cases kind with
  | application => exact blind_applyAny policy domain
  | declaration => exact blind_declareAny domain

/-- A program is generated. -/
theorem blind_addProgram (domain : Domain) (setting : Setting) :
    Blind (σ := σ) (addProgram domain setting) := by
  refine (blind_draw _).bind fun headerCount => (blind_draw _).bind fun bodyCount => ?_
  refine (blind_note _).bind fun _ => ?_
  refine ((blind_declareAny domain).times headerCount.toNat).bind fun _ => ?_
  refine ((blind_addStatement domain setting.policy).times bodyCount.toNat).bind fun _ => ?_
  exact blind_get_bind (fun _ _ => rfl) fun _ => blind_pure _

end Generator

namespace Batch

open Generator

variable {σ : Type} [Source σ] {domain : Domain} {setting : Setting}

/-- An iterator answers the same and goes on from the same place, whatever was noted. -/
theorem next_journal (domain : Domain) (setting : Setting) (it : Iterator) (g : Generator σ)
    (journal : Array Event) : ∃ answer it' h notes, next domain setting it g = (answer, it', h) ∧
      next domain setting it { g with journal } = (answer, it', { h with journal := notes }) := by
  have hadvance : ∀ done total, ∃ answer it' h notes,
      advance domain setting done total g = (answer, it', h) ∧
      advance domain setting done total { g with journal } =
        (answer, it', { h with journal := notes }) := by
    intro done total
    simp only [advance]
    split
    · rcases blind_addProgram domain setting g journal with
        ⟨p, h, notes, hr, hr'⟩ | ⟨e, h, notes, hr, hr'⟩
      · rw [hr, hr']
        exact ⟨_, _, _, _, rfl, rfl⟩
      · rw [hr, hr']
        exact ⟨_, _, _, _, rfl, rfl⟩
    · exact ⟨_, _, g, journal, rfl, rfl⟩
  cases it with
  | waiting count =>
    simp only [next]
    split
    · exact ⟨_, _, g, journal, rfl, rfl⟩
    · exact hadvance 0 count.toNat
  | running done total => exact hadvance done total
  | exhausted => exact ⟨_, _, g, journal, rfl, rfl⟩

/-- The same is collected, whatever was noted. -/
theorem collect_journal (domain : Domain) (setting : Setting) (budget : Nat) (it : Iterator)
    (g : Generator σ) (journal : Array Event) :
    (collect domain setting budget it { g with journal }).1 =
      (collect domain setting budget it g).1 := by
  induction budget generalizing it g journal with
  | zero => rfl
  | succ budget ih =>
    obtain ⟨answer, it', h, notes, hr, hr'⟩ := next_journal domain setting it g journal
    rw [collect, collect, hr, hr']
    cases answer with
    | program p => exact congrArg (Except.map (p :: ·)) (ih it' h notes)
    | stop => rfl
    | fault f => rfl

end Batch

end Substance
