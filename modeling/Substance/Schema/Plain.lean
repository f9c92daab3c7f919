import Substance.Schema.Loose

/-!
# Schemas as plain data

A schema can be given as an object with up to three members: `types`, a list of names; `subtypes`, a
list of pairs of a subtype and its supertype; and `predicates`, an object that gives each predicate
a list of argument types, or an object with `args` or `binary`.  A name may be any value but a
collection, and that of an argument type any value.

Where names are listed, an object counts as the list of its keys, and where the members of a pair or
the pairs themselves are wanted, a text counts as the list of its characters.  The three members are
examined in the order above, and the first fault is the one reported.
-/

namespace Substance

/-- Why plain data is no schema. -/
inductive PlainFault where
  /-- The data is not an object. -/
  | notAnObject (kind : String)
  /-- The member for predicates is not an object. -/
  | predicatesNotAnObject (kind : String)
  /-- Something else stands for a list of names. -/
  | notNames (field : String) (kind : String)
  /-- A collection stands for a name. -/
  | collectionAsName (kind : String)
  /-- Something else stands for the list of pairs. -/
  | notPairs (kind : String)
  /-- Something else stands for a pair. -/
  | notAPair (kind : String)
  | tooFewMembers (count : Nat)
  | tooManyMembers
deriving DecidableEq, Repr

/-- What is said of data that is no schema. -/
def PlainFault.message : PlainFault → String
  | .notAnObject kind => s!"'{kind}' object has no attribute 'get'"
  | .predicatesNotAnObject kind => s!"'{kind}' object has no attribute 'items'"
  | .notNames field kind => s!"'{field}' must be a list of names, not {kind}"
  | .collectionAsName kind => s!"unhashable type: '{kind}'"
  | .notPairs kind => s!"'{kind}' object is not iterable"
  | .notAPair kind => s!"cannot unpack non-iterable {kind} object"
  | .tooFewMembers count => s!"not enough values to unpack (expected 2, got {count})"
  | .tooManyMembers => "too many values to unpack (expected 2)"

namespace Json

/-- The members of a collection: characters of a text, items of an array, keys of an object. -/
def elements? : Json → Option (List Json)
  | .text s => some (s.toList.map fun c => .text (String.singleton c))
  | .array items => some items
  | .object members => some (members.map fun m => .text m.1)
  | _ => none

/-- The items of an array or the keys of an object, where a list of names is wanted. -/
def nameList (field : String) : Json → Except PlainFault (List Json)
  | .array items => .ok items
  | .object members => .ok (members.map fun m => .text m.1)
  | v => .error (.notNames field v.kind)

/-- Refuse a collection where one name is wanted. -/
def checkName : Json → Except PlainFault Unit
  | .array items => .error (.collectionAsName (Json.array items).kind)
  | .object members => .error (.collectionAsName (Json.object members).kind)
  | _ => .ok ()

/-- The two names of a subtype and its supertype. -/
def asPair (v : Json) : Except PlainFault (Json × Json) :=
  match v.elements? with
  | none => .error (.notAPair v.kind)
  | some [child, parent] => do
    checkName child
    checkName parent
    return (child, parent)
  | some (_ :: _ :: _) => .error .tooManyMembers
  | some few => .error (.tooFewMembers few.length)

/-- The pairs of subtypes and supertypes. -/
def asPairs (v : Json) : Except PlainFault (List (Json × Json)) :=
  match v.elements? with
  | none => .error (.notPairs v.kind)
  | some entries => entries.mapM asPair

/-- The signature that a predicate is given. -/
def asSignature (name : String) : Json → Except PlainFault (Signature Json)
  | .object members =>
    if ((members.lookup "binary").getD .null).isTruthy then .ok .propositions
    else .objects <$> nameList name ((members.lookup "args").getD (.array []))
  | v => .objects <$> nameList name v

/-- The predicates and their signatures. -/
def asPredicates : Json → Except PlainFault (List (String × Signature Json))
  | .object members => members.mapM fun (name, v) => do return (name, ← asSignature name v)
  | v => .error (.predicatesNotAnObject v.kind)

end Json

/-- The schema that plain data describes. -/
def LooseSchema.ofPlain : Json → Except PlainFault LooseSchema
  | .object members => do
    let types ← ((members.lookup "types").getD (.array [])).nameList "types"
    types.forM Json.checkName
    let inclusions ← ((members.lookup "subtypes").getD (.array [])).asPairs
    let predicates ← ((members.lookup "predicates").getD (.object [])).asPredicates
    return { types, inclusions, predicates }
  | v => .error (.notAnObject v.kind)

end Substance
