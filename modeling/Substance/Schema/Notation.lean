import Substance.Schema
import Substance.Text.Blank
import Substance.Text.Identifier
import Substance.Text.Lines
import Substance.Text.Split

/-!
# The notation of domains

A domain is written line by line.  After the comment of a line, which begins with two dashes or two
slashes, and the blanks around the rest are set aside, a line is empty or one of

* `type T`,
* `A <: B`,
* `predicate P` or `predicate P : T x * U y`, where each argument is a type and perhaps a variable,
* a declaration that opens with `function`, `operator`, `notation` or `value`, which is skipped.

A predicate whose arguments are all of type `Prop` applies to propositions.  The first line at fault
decides the outcome.
-/

namespace Substance

open Text

/-- The argument type that stands for propositions. -/
def propType : String := "Prop"

/-- What a line of a domain says. -/
inductive Line where
  | blank
  | type (name : String)
  | inclusion (child parent : String)
  | predicate (name : String) (arguments : List Char)
  | skipped (keyword : String)
deriving DecidableEq, Repr

/-- What is wrong with a line. -/
inductive LineFault where
  | unrecognised (line : String)
  | declaredTwice (predicate : String)
  | malformedArgument (argument : String)
  | mixedArguments (predicate : String)
deriving DecidableEq, Repr

/-- What is said of a wrong line. -/
def LineFault.message : LineFault → String
  | .unrecognised line => s!"unrecognised declaration '{line}'"
  | .declaredTwice predicate => s!"predicate '{predicate}' declared twice"
  | .malformedArgument argument => s!"malformed predicate argument '{argument}'"
  | .mixedArguments predicate => s!"predicate '{predicate}' mixes {propType} with object arguments"

namespace Line

/-- A line without its comment. -/
def dropComment : List Char → List Char
  | [] => []
  | '-' :: '-' :: _ => []
  | '/' :: '/' :: _ => []
  | c :: rest => c :: dropComment rest

/-- What counts of a line. -/
def content (raw : List Char) : List Char := strip (dropComment raw)

/-- The text behind a keyword and the blanks that follow it, of which there is at least one. -/
def afterKeyword? (keyword : String) (line : List Char) : Option (List Char) :=
  match keyword.toList.isPrefixOf? line with
  | some (c :: rest) => if isBlank c then some (rest.dropWhile isBlank) else none
  | _ => none

/-- The identifier that a text consists of. -/
def wholeIdentifier? (text : List Char) : Option String :=
  if isIdentifier text then some (String.ofList text) else none

/-- Read `type T`. -/
def readType? (line : List Char) : Option Line := do
  let rest ← afterKeyword? "type" line
  let name ← wholeIdentifier? rest
  return .type name

/-- Read `A <: B`. -/
def readInclusion? (line : List Char) : Option Line := do
  let (child, rest) ← splitIdentifier? line
  match rest.dropWhile isBlank with
  | '<' :: ':' :: rest =>
    let parent ← wholeIdentifier? (rest.dropWhile isBlank)
    return .inclusion (String.ofList child) parent
  | _ => none

/-- Read `predicate P` with or without arguments. -/
def readPredicate? (line : List Char) : Option Line := do
  let rest ← afterKeyword? "predicate" line
  let (name, rest) ← splitIdentifier? rest
  match rest.dropWhile isBlank with
  | [] => return .predicate (String.ofList name) []
  | ':' :: arguments => return .predicate (String.ofList name) arguments
  | _ => none

/-- The words that open a skipped declaration. -/
def skippedKeywords : List String := ["function", "operator", "notation", "value"]

/-- Read a declaration that is skipped. -/
def readSkipped? (line : List Char) : Option Line :=
  let keyword := String.ofList (firstWord line)
  if keyword ∈ skippedKeywords then some (.skipped keyword) else none

/-- Read what counts of a line. -/
def read? (line : List Char) : Option Line :=
  if line.isEmpty then some .blank
  else readType? line <|> readInclusion? line <|> readPredicate? line <|> readSkipped? line

/-- The type of an argument: an identifier, before at most one more that names a variable. -/
def argumentType? (part : List Char) : Option String := do
  let (typeName, rest) ← splitIdentifier? part
  match rest with
  | [] => return String.ofList typeName
  | c :: rest =>
    if isBlank c && isIdentifier (rest.dropWhile isBlank) then return String.ofList typeName
    else none

/-- The types in a list of arguments. -/
def argumentTypes (arguments : List Char) : Except LineFault (List String) :=
  let arguments := strip arguments
  if arguments.isEmpty then .ok []
  else (splitOn '*' arguments).mapM fun part =>
    match argumentType? (strip part) with
    | some typeName => .ok typeName
    | none => .error (.malformedArgument (String.ofList (strip part)))

/-- The signature of a predicate with a list of arguments. -/
def signature (predicate : String) (arguments : List Char) :
    Except LineFault (Signature String) := do
  let types ← argumentTypes arguments
  if types ≠ [] ∧ ∀ t ∈ types, t = propType then return .propositions
  else if propType ∈ types then throw (.mixedArguments predicate)
  else return .objects types

end Line

/-- The first line at fault, counted from one, and what is wrong with it. -/
structure NotationFault where
  line : Nat
  cause : LineFault
deriving DecidableEq, Repr

namespace Schema

/-- Add what a line says. -/
def addLine (s : Schema) : Line → Except LineFault Schema
  | .blank | .skipped _ => .ok s
  | .type name => .ok (s.addType name)
  | .inclusion child parent => .ok (s.addInclusion child parent)
  | .predicate name arguments =>
    if (s.predicates.get? name).isSome then .error (.declaredTwice name)
    else do return s.addPredicate name (← Line.signature name arguments)

/-- Read a line and add what it says. -/
def addRaw (s : Schema) (raw : List Char) : Except LineFault Schema :=
  match Line.read? (Line.content raw) with
  | some line => s.addLine line
  | none => .error (.unrecognised (String.ofList (Line.content raw)))

/-- Add lines, of which the first has the given number. -/
def addLines (number : Nat) (s : Schema) : List (List Char) → Except NotationFault Schema
  | [] => .ok s
  | raw :: rest =>
    match s.addRaw raw with
    | .ok s => addLines (number + 1) s rest
    | .error cause => .error ⟨number, cause⟩

/-- The schema that a text writes. -/
def parse (text : String) : Except NotationFault Schema := addLines 1 empty (lines text.toList)

/-- The skipped declarations before the first line at fault: their line numbers and keywords. -/
def skippedIn (text : String) : List (Nat × String) :=
  let readable := match parse text with
    | .ok _ => lines text.toList
    | .error fault => (lines text.toList).take (fault.line - 1)
  (readable.zipIdx 1).filterMap fun (raw, number) =>
    match Line.read? (Line.content raw) with
    | some (.skipped keyword) => some (number, keyword)
    | _ => none

end Schema

end Substance
