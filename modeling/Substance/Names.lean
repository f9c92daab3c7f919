import Substance.Catalog
import Substance.Text.Lowercase

/-!
# Names of objects

An object is named after its type: the first character of the type in lower case, and a number from
the second such name on.  Types that begin alike share their numbers, so a name is never given
twice for types that begin with a character.
-/

namespace Substance

open Text

/-- The stem of the names of a type's objects: its first character, in lower case. -/
def stem (typeName : String) : String := String.ofList (lower (typeName.toList.take 1))

/-- The next name with a stem, and the number that the one after it takes.  The first name is the
stem itself. -/
def nextName (stem : String) (counters : Table Int) : String × Int :=
  match counters.get? stem with
  | none => (stem, 1)
  | some number => (stem ++ toString number, number + 1)

/-- The names given so far. -/
structure Registry where
  /-- The next number of each stem. -/
  counters : Table Int
  /-- The names of each type, oldest first. -/
  declared : Table (List String)
deriving DecidableEq, Repr

namespace Registry

/-- No names. -/
def empty : Registry := ⟨∅, ∅⟩

instance : Inhabited Registry := ⟨empty⟩

/-- The names given for exactly this type, oldest first. -/
def declaredOf (r : Registry) (typeName : String) : List String :=
  (r.declared.get? typeName).getD []

/-- Give a new name for a type. -/
def fresh (r : Registry) (typeName : String) : String × Registry :=
  let next := nextName (stem typeName) r.counters
  (next.1,
    { counters := r.counters.set (stem typeName) next.2
      declared := r.declared.set typeName (r.declaredOf typeName ++ [next.1]) })

/-- Nothing is named at first. -/
@[simp] theorem declaredOf_empty (typeName : String) : empty.declaredOf typeName = [] := rfl

/-- A new name comes after those of its type, and other types keep theirs. -/
theorem declaredOf_fresh (r : Registry) (typeName other : String) :
    (r.fresh typeName).2.declaredOf other =
      if typeName = other then r.declaredOf typeName ++ [(r.fresh typeName).1]
      else r.declaredOf other := by
  simp only [declaredOf, fresh, Table.get?_set]
  split <;> rfl

end Registry

end Substance
