import Substance.Proofs.Vocabulary
import Mathlib.Data.List.Induction
import Mathlib.Data.List.Nodup

/-!
# Which names tell objects apart

A name is a stem and a number, written one behind the other, so a name could be read in two ways.
The stem of a type that begins with a character is one character, or the dotted `i` written with
two, the second of which is no digit: such a name tells its stem and its number.  The nameless type
has the empty stem.  Its first object has no name, and its later ones are named by bare numbers,
which another stem may begin with.  No schema that is accepted declares it, but a predicate may ask
for it.

* `numbered_stem_inj`: types that begin with a character have names of their own.
* `WellNamed.nodup_objectNames`: well-named objects of such types have different names.
* `unambiguous_iff`: when the names of all programs tell their objects apart.
-/

namespace Substance

open Substance.Random Statement Text

/-! ## Stems -/

/-- The lower-case form of a character is one character, or a dotted `i`. -/
theorem Text.lowerChar_eq (c : Char) :
    (∃ d, lowerChar c = [d]) ∨ lowerChar c = ['i', Char.ofNat 0x0307] := by
  rw [lowerChar]
  split
  · exact .inr rfl
  · split
    · exact .inl ⟨_, rfl⟩
    · exact .inl ⟨_, rfl⟩

/-- The stem of a type that begins with a character is one character, or a dotted `i`. -/
theorem toList_stem {type : String} (h : type ≠ "") :
    (∃ d, (stem type).toList = [d]) ∨ (stem type).toList = ['i', Char.ofNat 0x0307] := by
  obtain ⟨c, rest, hc⟩ := List.exists_cons_of_ne_nil (mt String.toList_eq_nil_iff.mp h)
  have hstem : (stem type).toList = lowerChar c := by simp [stem, hc, lower]
  rw [hstem]
  exact lowerChar_eq c

/-- Only the nameless type has the empty stem. -/
theorem stem_eq_empty_iff {type : String} : stem type = "" ↔ type = "" := by
  refine ⟨fun h => by_contra fun hne => ?_, fun h => by rw [h]; rfl⟩
  rcases toList_stem hne with ⟨d, hd⟩ | hd <;> simp [h] at hd

namespace Statement

/-! ## Numbers -/

/-- What follows the stem of a name with a number.  The first name has nothing behind its stem. -/
def tail : Nat → List Char
  | 0 => []
  | i + 1 => Nat.toDigits 10 (i + 1)

/-- A name is a stem with what follows it. -/
theorem toList_numbered (p : String) (i : Nat) : (numbered p i).toList = p.toList ++ tail i := by
  cases i with
  | zero => exact (List.append_nil _).symm
  | succ i => simp [numbered, tail]

/-- Only digits follow the stem. -/
theorem isDigit_of_mem_tail {i : Nat} {c : Char} (h : c ∈ tail i) : c.isDigit = true := by
  cases i with
  | zero => cases h
  | succ i => exact Nat.isDigit_of_mem_toDigits (by decide) (by decide) h

/-- Different numbers are written differently. -/
theorem tail_inj {i j : Nat} (h : tail i = tail j) : i = j := by
  cases i with
  | zero =>
    cases j with
    | zero => rfl
    | succ j => exact absurd h.symm Nat.toDigits_ne_nil
  | succ i =>
    cases j with
    | zero => exact absurd h Nat.toDigits_ne_nil
    | succ j =>
      have hn := congrArg (fun l => Nat.ofDigitChars 10 l 0) h
      simpa [tail] using hn

/-- One stem has different names for different numbers. -/
theorem numbered_inj {p : String} {i j : Nat} (h : numbered p i = numbered p j) : i = j := by
  have hl := congrArg String.toList h
  rw [toList_numbered, toList_numbered] at hl
  exact tail_inj (List.append_cancel_left hl)

/-- No number begins with a dot above. -/
theorem tail_ne_dot (i : Nat) (l : List Char) : tail i ≠ Char.ofNat 0x0307 :: l := by
  intro h
  have hdot : (Char.ofNat 0x0307).isDigit = true :=
    isDigit_of_mem_tail (i := i) (by rw [h]; exact List.mem_cons_self)
  exact absurd hdot (by decide)

/-! ## Names -/

/-- The names of the declared objects, in order. -/
def objectNames (l : List Statement) : List String := (objects l).map (·.2)

@[simp] theorem objectNames_append (l m : List Statement) :
    objectNames (l ++ m) = objectNames l ++ objectNames m := by
  simp [objectNames]

@[simp] theorem objectNames_declaration (type name : String) (arguments : List String) :
    objectNames [.declaration type name arguments] = [name] := rfl

@[simp] theorem objectNames_application (predicate : String) (arguments : List String) :
    objectNames [.application predicate arguments] = [] := rfl

/-- The name of an object of a type is one of the names. -/
theorem mem_objectNames_of_mem_namesOf {type name : String} {l : List Statement}
    (h : name ∈ namesOf type l) : name ∈ objectNames l :=
  List.mem_map.mpr ⟨_, mem_namesOf.mp h, rfl⟩

/-- Types that begin with a character have names of their own: a name tells its stem and its
number. -/
theorem numbered_stem_inj {t u : String} (ht : t ≠ "") (hu : u ≠ "") {i j : Nat}
    (h : numbered (stem t) i = numbered (stem u) j) : stem t = stem u ∧ i = j := by
  have hl := congrArg String.toList h
  rw [toList_numbered, toList_numbered] at hl
  suffices hs : (stem t).toList = (stem u).toList by
    have hstem := String.toList_injective hs
    exact ⟨hstem, numbered_inj (hstem ▸ h)⟩
  rcases toList_stem ht with ⟨c, hc⟩ | hc <;> rcases toList_stem hu with ⟨d, hd⟩ | hd <;>
    rw [hc, hd] at hl ⊢
  · exact congrArg (fun c => [c]) (List.cons.inj hl).1
  · exact absurd (List.cons.inj hl).2 (tail_ne_dot i _)
  · exact absurd (List.cons.inj hl).2.symm (tail_ne_dot j _)

/-- A type that begins with a character gives no empty name. -/
theorem numbered_stem_ne_empty {type : String} (h : type ≠ "") (i : Nat) :
    numbered (stem type) i ≠ "" := by
  intro he
  have hl := congrArg String.toList he
  rw [toList_numbered] at hl
  rcases toList_stem h with ⟨d, hd⟩ | hd <;> simp [hd] at hl

variable {l : List Statement} {o : String × String}

/-- A well-named object has a number under its stem. -/
theorem WellNamed.exists_number (h : WellNamed l) (ho : o ∈ objects l) :
    ∃ i < (objectsUnder (stem o.1) l).length, o.2 = numbered (stem o.1) i := by
  have hunder : o ∈ objectsUnder (stem o.1) l := List.mem_filter.mpr ⟨ho, by simp⟩
  obtain ⟨i, hi, hio⟩ := List.getElem_of_mem hunder
  exact ⟨i, hi, h (stem o.1) i o (List.getElem?_eq_some_iff.mpr ⟨hi, hio⟩)⟩

/-- No well-named object of a type that begins with a character has the empty name. -/
theorem WellNamed.empty_notMem_objectNames (h : WellNamed l) (hne : ∀ o ∈ objects l, o.1 ≠ "") :
    "" ∉ objectNames l := by
  intro hm
  obtain ⟨o, ho, he⟩ := List.mem_map.mp hm
  obtain ⟨i, -, hi⟩ := h.exists_number ho
  exact numbered_stem_ne_empty (hne o ho) i (hi.symm.trans he)

/-- The first object under the empty stem has the empty name. -/
theorem WellNamed.empty_mem_objectNames (h : WellNamed l) {name : String}
    (ho : ("", name) ∈ objects l) : "" ∈ objectNames l := by
  have hunder : ("", name) ∈ objectsUnder "" l := List.mem_filter.mpr ⟨ho, decide_eq_true rfl⟩
  have hpos : 0 < (objectsUnder "" l).length := List.length_pos_of_mem hunder
  have hfirst := h "" 0 _ (List.getElem?_eq_getElem hpos)
  exact List.mem_map.mpr ⟨_, (List.mem_filter.mp (List.getElem_mem hpos)).1, hfirst⟩

/-- Well-named objects of types that begin with a character have different names. -/
theorem WellNamed.nodup_objectNames (h : WellNamed l) (hne : ∀ o ∈ objects l, o.1 ≠ "") :
    (objectNames l).Nodup := by
  induction l using List.reverseRecOn with
  | nil => exact List.nodup_nil
  | append_singleton l s ih =>
    have hl : ∀ o ∈ objects l, o.1 ≠ "" := fun o ho =>
      hne o (by rw [objects_append]; exact List.mem_append_left _ ho)
    have hnodup := ih h.of_append hl
    cases s with
    | application predicate arguments =>
      rwa [objectNames_append, objectNames_application, List.append_nil]
    | declaration type name arguments =>
      obtain ⟨hn, rfl⟩ := wellNamed_append_declaration.mp h
      have htype : type ≠ "" := hne (type, nextFor type l) (by simp)
      -- the numbers of the old objects under this stem lie below the new one
      have hnew : ∀ o ∈ objects l, o.2 ≠ nextFor type l := by
        intro o ho he
        obtain ⟨i, hi, hio⟩ := hn.exists_number ho
        rw [hio, nextFor] at he
        obtain ⟨hstem, rfl⟩ := numbered_stem_inj (hl o ho) htype he
        rw [hstem] at hi
        exact Nat.lt_irrefl _ hi
      rw [objectNames_append, objectNames_declaration, List.nodup_append]
      refine ⟨hnodup, by simp, ?_⟩
      rintro name hname other hother rfl
      obtain ⟨o, ho, rfl⟩ := List.mem_map.mp hname
      exact hnew o ho (List.mem_singleton.mp hother)

end Statement

/-! ## Programs -/

/-- The names of statements tell their objects apart: every object has a name of its own, and every
argument is the name of one object. -/
structure Unambiguous (l : List Statement) : Prop where
  named : "" ∉ objectNames l
  distinct : (objectNames l).Nodup
  denotes : ∀ predicate arguments, .application predicate arguments ∈ l →
    ∀ name ∈ arguments, (objectNames l).count name = 1

section

variable {schema : Schema} {setting : Setting} {l : List Statement}

/-- Whatever a predicate is applied to is the name of an object. -/
theorem AppliesRightly.mem_objectNames (h : AppliesRightly schema l) {predicate name : String}
    {arguments : List String} (hl : .application predicate arguments ∈ l)
    (hname : name ∈ arguments) : name ∈ objectNames l := by
  obtain ⟨i, hi, hli⟩ := List.getElem_of_mem hl
  obtain ⟨signature, -, htakes⟩ :=
    h i predicate arguments (List.getElem?_eq_some_iff.mpr ⟨hi, hli⟩)
  suffices hearlier : name ∈ objectNames (l.take i) by
    rw [← List.take_append_drop i l, objectNames_append]
    exact List.mem_append_left _ hearlier
  cases signature with
  | objects types =>
    obtain ⟨k, hk, rfl⟩ := List.getElem_of_mem hname
    have htakes : List.Forall₂ _ types arguments := htakes
    exact mem_objectNames_of_mem_namesOf (htakes.get (htakes.length_eq.symm ▸ hk) hk)
  | propositions =>
    rw [show arguments = [] from htakes] at hname
    cases hname

/-- A program applies predicates of the schema, to objects declared earlier. -/
theorem Composed.appliesRightly {p : Program} {header : List Statement}
    {blocks : List (List Statement)} (h : Composed schema setting [] p header blocks) :
    AppliesRightly schema p.statements := by
  rw [h.statements, List.nil_append]
  have hheader := (appliesRightly_nil schema).append_declarations h.opens.isDeclaration
  exact hheader.append_blocks h.body

/-- Well-named objects of types that begin with a character are told apart by their names. -/
theorem AppliesRightly.unambiguous (h : AppliesRightly schema l) (hn : WellNamed l)
    (hne : ∀ o ∈ objects l, o.1 ≠ "") : Unambiguous l where
  named := hn.empty_notMem_objectNames hne
  distinct := hn.nodup_objectNames hne
  denotes _ _ hl _ hname :=
    List.count_eq_one_of_mem (hn.nodup_objectNames hne) (h.mem_objectNames hl hname)

end

namespace Generator

variable {schema : Schema} {setting : Setting}

/-- A program of a usable schema is unambiguous unless a predicate asks for the nameless type. -/
theorem Drawn.unambiguous (hs : schema.fault? = none) (ht : setting.fault? = none) {p : Program}
    (hp : Drawn schema setting p) (h : ¬schema.Wants "" ∨ setting.maxLength = 0) :
    Unambiguous p.statements := by
  obtain ⟨⟨header, blocks, hc⟩, hn⟩ := drawn_iff.mp hp
  obtain ⟨-, hempty⟩ := schema.fault?_eq_none_iff.mp hs
  refine hc.appliesRightly.unambiguous hn ?_
  rintro ⟨type, name⟩ ho rfl
  obtain ⟨hw, hpos⟩ := (exists_drawn_iff hs ht hempty).mp ⟨p, hp, name, ho⟩
  rcases h with h | h
  · exact h hw
  · omega

/-- The names of all programs over a usable schema and setting tell their objects apart just when no
predicate asks for the nameless type, or no program has a body.  The programs of every batch are
among them. -/
theorem unambiguous_iff (hs : schema.fault? = none) (ht : setting.fault? = none) :
    ((∀ p, Drawn schema setting p → Unambiguous p.statements) ↔
      ¬schema.Wants "" ∨ setting.maxLength = 0) ∧
    ∀ (seed : Int) (n : Nat), ∃ batch, generatePrograms schema setting n seed = .ok batch ∧
      batch.length = n ∧ ∀ p ∈ batch, Drawn schema setting p ∧
        (¬schema.Wants "" → Unambiguous p.statements) := by
  refine ⟨⟨fun h => ?_, fun h p hp => hp.unambiguous hs ht h⟩, fun seed n => ?_⟩
  · obtain ⟨-, hempty⟩ := schema.fault?_eq_none_iff.mp hs
    obtain ⟨hzero, hle⟩ := setting.fault?_eq_none_iff.mp ht
    by_contra hnot
    obtain ⟨hw, hlength⟩ := not_or.mp hnot
    obtain ⟨p, hp, name, ho⟩ :=
      (exists_drawn_iff hs ht hempty).mpr ⟨not_not.mp hw, by omega⟩
    exact (h p hp).named ((drawn_iff.mp hp).2.empty_mem_objectNames ho)
  · obtain ⟨batch, hbatch, hlength, hdrawn⟩ := exists_batch hs ht seed n
    exact ⟨batch, hbatch, hlength, fun p hp =>
      ⟨hdrawn p hp, fun hw => (hdrawn p hp).unambiguous hs ht (.inl hw)⟩⟩

/-- Over sets and points all names tell objects apart. -/
theorem unambiguous_iff_setsAndPoints :
    Schema.setsAndPoints.fault? = none ∧ Setting.fault? ⟨2, 5, .mixed⟩ = none ∧
    ((∀ p, Drawn Schema.setsAndPoints ⟨2, 5, .mixed⟩ p → Unambiguous p.statements) ↔
      ¬Schema.setsAndPoints.Wants "" ∨ (5 : Int) = 0) ∧
    ∀ (seed : Int) (n : Nat), ∃ batch,
      generatePrograms Schema.setsAndPoints ⟨2, 5, .mixed⟩ n seed = .ok batch ∧
      batch.length = n ∧ ∀ p ∈ batch, Drawn Schema.setsAndPoints ⟨2, 5, .mixed⟩ p ∧
        (¬Schema.setsAndPoints.Wants "" → Unambiguous p.statements) :=
  ⟨by decide, by decide, unambiguous_iff (by decide) (by decide)⟩

/-- A vocabulary with a type that begins with a digit, and a predicate on the nameless type. -/
def namelessArgument : Schema := (Schema.empty.addType "1a").addPredicate "P" (.objects [""])

/-- The program that declares an object of the first type and two of the nameless one. -/
def namelessArgumentProgram : Program :=
  ⟨[.declaration "1a" "1" [], .declaration "" "" [], .application "P" [""],
    .declaration "" "1" [], .application "P" ["1"]], 1, 2⟩

/-- Schema and setting are accepted, yet an object has no name, and one name is given to two. -/
theorem not_unambiguous_namelessArgument :
    namelessArgument.fault? = none ∧ Setting.fault? ⟨2, 2, .generated⟩ = none ∧
      Drawn namelessArgument ⟨2, 2, .generated⟩ namelessArgumentProgram ∧
      ¬Unambiguous namelessArgumentProgram.statements ∧
      "" ∈ objectNames namelessArgumentProgram.statements ∧
      (objectNames namelessArgumentProgram.statements).count "1" = 2 := by
  refine ⟨by decide, by decide, drawn_iff.mpr ⟨?_, ?_⟩, fun h => h.named (by decide), by decide,
    by decide⟩
  · have hopens : Opens namelessArgument [.declaration "1a" "1" []] := by
      intro s hs
      exact ⟨"1a", by decide, "1", List.mem_singleton.mp hs⟩
    have hfirst : Finds .generated [.declaration "1a" "1" []] "" [.declaration "" "" []] "" :=
      .new (by decide) (by decide)
    have hsecond : Finds .generated [.declaration "1a" "1" [], .declaration "" "" [],
        .application "P" [""]] "" [.declaration "" "1" []] "1" := .new (by decide) (by decide)
    exact ⟨_, _, rfl, hopens,
      .cons (.application (by decide) (.objects (.cons hfirst .nil)))
        (.cons (.application (by decide) (.objects (.cons hsecond .nil))) .nil),
      rfl, .inl rfl, rfl, by decide, by decide⟩
  · rw [show namelessArgumentProgram.statements =
      (([] ++ [.declaration "1a" "1" []] ++ [.declaration "" "" []]) ++
        [.application "P" [""]] ++ [.declaration "" "1" []]) ++ [.application "P" ["1"]] from rfl,
      wellNamed_append_application, wellNamed_append_declaration, wellNamed_append_application,
      wellNamed_append_declaration, wellNamed_append_declaration]
    exact ⟨⟨⟨wellNamed_nil, by decide⟩, by decide⟩, by decide⟩

end Generator

end Substance
