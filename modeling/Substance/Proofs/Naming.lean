import Substance.Names
import Substance.Program

/-!
# The names of the objects that statements declare

A registry hands out names, a list of statements holds the objects that carry them.  Read off the
statements alone, the objects of a type and the objects under a stem are two views of one list: the
registry's `declared` follows the first and its `counters` the second.  `Registry.Tracks` says that
they do, and that the number of every name is its place under its stem.

* `Registry.Tracks.fresh`: giving a name and declaring an object under it keeps the two in step.
* `Registry.Tracks.eq`: the statements determine the registry.
* `wellNamed_append_declaration`: a well-named list is extended by one name only.
-/

namespace Substance

namespace Statement

/-! ## Objects -/

/-- The type and the name of the object that a statement declares. -/
def object? : Statement → Option (String × String)
  | .declaration type name _ => some (type, name)
  | .application .. => none

/-- The objects that statements declare, in order. -/
def objects (l : List Statement) : List (String × String) := l.filterMap object?

/-- The names of the objects of exactly this type, oldest first. -/
def namesOf (type : String) (l : List Statement) : List String :=
  ((objects l).filter fun o => o.1 = type).map (·.2)

/-- The objects whose types have this stem, oldest first. -/
def objectsUnder (p : String) (l : List Statement) : List (String × String) :=
  (objects l).filter fun o => stem o.1 = p

@[simp] theorem objects_append (l m : List Statement) :
    objects (l ++ m) = objects l ++ objects m := List.filterMap_append

@[simp] theorem objects_declaration (type name : String) (arguments : List String) :
    objects [.declaration type name arguments] = [(type, name)] := rfl

@[simp] theorem objects_application (predicate : String) (arguments : List String) :
    objects [.application predicate arguments] = [] := rfl

@[simp] theorem namesOf_nil (type : String) : namesOf type [] = [] := rfl

@[simp] theorem namesOf_append (type : String) (l m : List Statement) :
    namesOf type (l ++ m) = namesOf type l ++ namesOf type m := by
  simp [namesOf]

@[simp] theorem namesOf_declaration (type other name : String) (arguments : List String) :
    namesOf other [.declaration type name arguments] = if type = other then [name] else [] := by
  by_cases h : type = other <;> simp [namesOf, h]

@[simp] theorem namesOf_application (type predicate : String) (arguments : List String) :
    namesOf type [.application predicate arguments] = [] := rfl

@[simp] theorem objectsUnder_nil (p : String) : objectsUnder p [] = [] := rfl

@[simp] theorem objectsUnder_append (p : String) (l m : List Statement) :
    objectsUnder p (l ++ m) = objectsUnder p l ++ objectsUnder p m := by
  simp [objectsUnder]

@[simp] theorem objectsUnder_declaration (p type name : String) (arguments : List String) :
    objectsUnder p [.declaration type name arguments] =
      if stem type = p then [(type, name)] else [] := by
  by_cases h : stem type = p <;> simp [objectsUnder, h]

@[simp] theorem objectsUnder_application (p predicate : String) (arguments : List String) :
    objectsUnder p [.application predicate arguments] = [] := rfl

/-! ## Numbered names -/

/-- The name with a number under a stem.  The first one is the stem itself. -/
def numbered (p : String) : Nat → String
  | 0 => p
  | i + 1 => p ++ toString (i + 1)

/-- The name of the next object of a type. -/
def nextFor (type : String) (l : List Statement) : String :=
  numbered (stem type) (objectsUnder (stem type) l).length

/-- Every object is named by its place among the objects under its stem. -/
def WellNamed (l : List Statement) : Prop :=
  ∀ p i o, (objectsUnder p l)[i]? = some o → o.2 = numbered p i

/-- No statements are well named. -/
theorem wellNamed_nil : WellNamed [] := by
  intro p i o h
  simp at h

/-- The front of a well-named list is well named. -/
theorem WellNamed.of_append {l m : List Statement} (h : WellNamed (l ++ m)) : WellNamed l := by
  intro p i o ho
  refine h p i o ?_
  rw [objectsUnder_append]
  rw [List.getElem?_append_left (List.getElem?_eq_some_iff.mp ho).1, ho]

/-- A declaration keeps a list well named exactly when it gives the next name. -/
theorem wellNamed_append_declaration {l : List Statement} {type name : String}
    {arguments : List String} :
    WellNamed (l ++ [.declaration type name arguments]) ↔
      WellNamed l ∧ name = nextFor type l := by
  constructor
  · intro h
    refine ⟨h.of_append, h (stem type) _ (type, name) ?_⟩
    simp
  · rintro ⟨h, rfl⟩ p i o ho
    rw [objectsUnder_append, List.getElem?_append] at ho
    split at ho
    · exact h p i o ho
    · next hi =>
      -- the place is the one after the old objects under `p`, so `p` is the stem of the type
      rw [objectsUnder_declaration] at ho
      split at ho
      · next hp =>
        obtain ⟨hi', rfl⟩ := List.getElem?_eq_some_iff.mp ho
        have : i = (objectsUnder p l).length := by
          simp only [List.length_singleton] at hi'
          omega
        subst hp this
        simp [nextFor]
      · simp at ho

/-- Applications do not bear on names. -/
theorem wellNamed_append_application {l : List Statement} {predicate : String}
    {arguments : List String} :
    WellNamed (l ++ [.application predicate arguments]) ↔ WellNamed l := by
  simp [WellNamed]

end Statement

namespace Table

variable {ν : Type}

/-- A value is found under a key exactly when the two are an entry. -/
theorem get?_eq_some_iff {t : Table ν} {k : String} {v : ν} : t.get? k = some v ↔ (k, v) ∈ t := by
  rw [get?, Option.map_eq_some_iff]
  constructor
  · rintro ⟨⟨k', v'⟩, hf, rfl⟩
    obtain ⟨hm, rfl⟩ := Catalog.find?_eq_some_iff.mp hf
    exact hm
  · exact fun hm => ⟨(k, v), Catalog.find?_eq_some_iff.mpr ⟨hm, rfl⟩, rfl⟩

/-- Tables with the same values under the same keys are equal. -/
theorem ext_get? {s t : Table ν} (h : ∀ k, s.get? k = t.get? k) : s = t := by
  refine Catalog.ext_mem fun a => ?_
  rw [show a = (a.1, a.2) from rfl, ← get?_eq_some_iff, ← get?_eq_some_iff, h]

end Table

namespace Registry

open Statement

/-! ## Registries -/

/-- The registry is the one of these statements: it holds the names of each type and the number of
objects under each stem, has no other keys, and every name carries its number. -/
structure Tracks (r : Registry) (l : List Statement) : Prop where
  declared : ∀ type, r.declared.get? type =
    if namesOf type l = [] then none else some (namesOf type l)
  counters : ∀ p, r.counters.get? p =
    if objectsUnder p l = [] then none else some ((objectsUnder p l).length : Int)
  named : WellNamed l

variable {r : Registry} {l : List Statement}

/-- The empty registry is the one of no statements. -/
theorem tracks_empty : empty.Tracks [] where
  declared _ := rfl
  counters _ := rfl
  named := wellNamed_nil

namespace Tracks

/-- The names given for a type are those of its objects. -/
theorem declaredOf (h : r.Tracks l) (type : String) : r.declaredOf type = namesOf type l := by
  rw [Registry.declaredOf, h.declared]
  split
  · next hn => rw [hn, Option.getD_none]
  · rfl

/-- The statements determine the registry. -/
theorem eq {s : Registry} (h : r.Tracks l) (h' : s.Tracks l) : r = s := by
  obtain ⟨counters, declared⟩ := r
  obtain ⟨counters', declared'⟩ := s
  have hc : counters = counters' := Table.ext_get? fun p => (h.counters p).trans (h'.counters p).symm
  have hd : declared = declared' := Table.ext_get? fun t => (h.declared t).trans (h'.declared t).symm
  rw [hc, hd]

/-- A new name is the next one. -/
theorem fresh_name (h : r.Tracks l) (type : String) : (r.fresh type).1 = nextFor type l := by
  rw [fresh, nextName, h.counters, nextFor]
  split
  · next hn =>
    split at hn
    · next hl => rw [hl]; rfl
    · cases hn
  · next hn =>
    split at hn
    · cases hn
    · next hl =>
      cases hn
      -- a stem in use has at least one object, so its number is a successor
      obtain ⟨i, hi⟩ := Nat.exists_eq_succ_of_ne_zero (mt List.length_eq_zero_iff.mp hl)
      rw [hi]
      rfl

/-- Naming an object and declaring it under that name keep registry and statements in step. -/
theorem fresh (h : r.Tracks l) (type : String) (arguments : List String) :
    (r.fresh type).2.Tracks (l ++ [.declaration type (r.fresh type).1 arguments]) where
  declared other := by
    have hd := h.declaredOf type
    simp only [Registry.fresh, Table.get?_set, namesOf_append, namesOf_declaration] at hd ⊢
    split
    · next ht => subst ht; simp [hd]
    · simpa using h.declared other
  counters p := by
    simp only [Registry.fresh, Table.get?_set, objectsUnder_append, objectsUnder_declaration]
    split
    · next hp =>
      subst hp
      rw [nextName, h.counters]
      split <;> next hn => split at hn <;> simp_all
    · simpa using h.counters p
  named := wellNamed_append_declaration.mpr ⟨h.named, h.fresh_name type⟩

/-- Applications do not bear on the registry. -/
theorem application (h : r.Tracks l) (predicate : String) (arguments : List String) :
    r.Tracks (l ++ [.application predicate arguments]) where
  declared type := by simpa using h.declared type
  counters p := by simpa using h.counters p
  named := wellNamed_append_application.mpr h.named

end Tracks

end Registry

end Substance
