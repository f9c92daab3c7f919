import Substance.Text.Lowercase
import Substance.Text.Quoted

/-!
# Settings

What stays fixed for a batch of programs: the bounds of a body's length and the way in which the
arguments of a predicate are found.
-/

namespace Substance

open Text

/-- How an argument of a predicate is found: an object that exists, one declared for it, or either,
as it falls out. -/
inductive Policy where
  | existing
  | generated
  | mixed
deriving DecidableEq, Repr

namespace Policy

/-- How a policy is called. -/
def name : Policy → String
  | .existing => "existing"
  | .generated => "generated"
  | .mixed => "mixed"

/-- The policies, in the order of their names. -/
def all : List Policy := [.existing, .generated, .mixed]

/-- The policy with a name, in letters of any case. -/
def ofName? (name : String) : Option Policy :=
  all.find? fun p => lower name.toList = p.name.toList

/-- The refusal of a name that no policy has. -/
def unknownMessage (name : String) : String :=
  s!"unknown argument option '{name}' (expected one of [" ++
    ", ".intercalate (all.map fun p => s!"'{p.name}'") ++ "])"

end Policy

/-- Which type a declaration takes for a requested one: exactly this type, or it or one of its
direct subtypes. -/
inductive Generality where
  | concrete
  | general
deriving DecidableEq, Repr

namespace Generality

/-- The generality with a name. -/
def ofName? : String → Option Generality
  | "concrete" => some .concrete
  | "general" => some .general
  | _ => none

/-- The refusal of a name that no generality has. -/
def unknownMessage (name : String) : String :=
  String.ofList (quoted name.toList) ++ " is not a valid GenericOption"

end Generality

/-- The settings of a batch. -/
structure Setting where
  minLength : Int
  maxLength : Int
  policy : Policy
deriving DecidableEq, Repr

/-- What makes a setting unusable. -/
inductive SettingFault where
  | negativeMinimum (minLength : Int)
  | minimumAboveMaximum (minLength maxLength : Int)
deriving DecidableEq, Repr

/-- What is said of an unusable setting. -/
def SettingFault.message : SettingFault → String
  | .negativeMinimum m => s!"minimum length must not be negative (got {m})"
  | .minimumAboveMaximum m n => s!"minimum length {m} exceeds maximum length {n}"

/-- The fault of a setting, unless `0 ≤ minLength ≤ maxLength`.  The bounds are told in full: a limit
on the digits of printed integers is left out. -/
def Setting.fault? (s : Setting) : Option SettingFault :=
  if s.minLength < 0 then some (.negativeMinimum s.minLength)
  else if s.maxLength < s.minLength then some (.minimumAboveMaximum s.minLength s.maxLength)
  else none

/-- A setting is usable when its bounds are in order and not negative. -/
theorem Setting.fault?_eq_none_iff (s : Setting) :
    s.fault? = none ↔ 0 ≤ s.minLength ∧ s.minLength ≤ s.maxLength := by
  unfold fault?
  split
  · simp; omega
  · split
    · simp; omega
    · simp; omega

end Substance
