import Substance.Json.Basic

/-!
# Values as names

Plain data may put any value where the name of a type is wanted.  Texts are compared with texts and
numbers with numbers; true and false count as one and zero.  Any other two values have no order.
-/

namespace Substance

/-- Why a value does not serve as the name of a type. -/
inductive NameFault where
  /-- A single value has no first character. -/
  | single (kind : String)
  /-- An array has no first character. -/
  | array
  /-- An object has no first character. -/
  | object
  /-- Nothing is looked up under a collection. -/
  | collection (kind : String)
  /-- Two values have no order. -/
  | incomparable (kind other : String)
deriving DecidableEq, Repr

/-- What is said of a value that does not serve as a name. -/
def NameFault.message : NameFault → String
  | .single kind => s!"'{kind}' object is not subscriptable"
  | .array => "'list' object has no attribute 'lower'"
  | .object => "unhashable type: 'slice'"
  | .collection kind => s!"unhashable type: '{kind}'"
  | .incomparable kind other => s!"'<' not supported between instances of '{kind}' and '{other}'"

namespace Json

/-- The text that a value is. -/
def text? : Json → Option String
  | .text s => some s
  | _ => none

/-- The text that objects of a type are named after. -/
def asTypeName : Json → Except NameFault String
  | .text s => .ok s
  | .array _ => .error .array
  | .object _ => .error .object
  | v => .error (.single v.kind)

/-- The text under which objects of a type are looked up.  There are none under other single
values. -/
def asKey : Json → Except NameFault (Option String)
  | .text s => .ok (some s)
  | .array items => .error (.collection (Json.array items).kind)
  | .object members => .error (.collection (Json.object members).kind)
  | _ => .ok none

/-- The magnitude of a value that counts as a number. -/
def magnitude? : Json → Option Magnitude
  | .bool b => some (.ofInt (if b then 1 else 0))
  | .integer n => some (.ofInt n)
  | .real r => some r.magnitude
  | _ => none

/-- Do two single values name the same? -/
def isSameName : Json → Json → Bool
  | .null, .null => true
  | .text s, .text t => s = t
  | v, w =>
    match v.magnitude?, w.magnitude? with
    | some m, some n => m = n
    | _, _ => false

/-- Does one name come before another? -/
def isBefore : Json → Json → Except NameFault Bool
  | .text s, .text t => .ok (s < t)
  | v, w =>
    match v.magnitude?, w.magnitude? with
    | some m, some n => .ok (m.isBelow n)
    | _, _ => .error (.incomparable v.kind w.kind)

/-- Does one pair of names come before another?  The first names that differ decide. -/
def isPairBefore (p q : Json × Json) : Except NameFault Bool :=
  if !p.1.isSameName q.1 then p.1.isBefore q.1
  else if !p.2.isSameName q.2 then p.2.isBefore q.2
  else .ok false

end Json

end Substance
