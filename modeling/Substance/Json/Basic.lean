import Substance.Json.Real

/-!
# Plain data

The values of JSON.  Numbers are kept by kind: one written with a point or an exponent is a real
number even when it is whole.  The members of an object stand in the order of their first arrival.
-/

namespace Substance

/-- A value of plain data. -/
inductive Json where
  | null
  | bool (value : Bool)
  | integer (value : Int)
  | real (value : Json.Real)
  | text (value : String)
  | array (items : List Json)
  | object (members : List (String × Json))
deriving Repr

namespace Json

/-- Does the value count as true?  Zeros, empty texts and collections, `null` and `false` do not. -/
def isTruthy : Json → Bool
  | .null => false
  | .bool b => b
  | .integer n => n ≠ 0
  | .real r => r.isNonzero
  | .text s => !s.isEmpty
  | .array items => !items.isEmpty
  | .object members => !members.isEmpty

/-- The name of a value's kind in messages. -/
def kind : Json → String
  | .null => "NoneType"
  | .bool _ => "bool"
  | .integer _ => "int"
  | .real _ => "float"
  | .text _ => "str"
  | .array _ => "list"
  | .object _ => "dict"

/-- Store a member.  A repeated key keeps its first place and takes the new value. -/
def putMember (key : String) (value : Json) : List (String × Json) → List (String × Json)
  | [] => [(key, value)]
  | (k, v) :: rest =>
    if k = key then (key, value) :: rest else (k, v) :: putMember key value rest

end Json

end Substance
