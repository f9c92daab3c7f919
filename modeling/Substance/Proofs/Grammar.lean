import Substance.Schema.Notation
import Mathlib.Data.List.Forall2

/-!
# The grammar of domains

Which texts are domains and what they declare, said without a reader.  A text is cut into lines,
each loses its comment and the blanks around the rest, and what is left of it is of one of a few
forms.  The forms are concatenations, so nothing is said of the order in which they are tried, or of
where a blank or an identifier is taken to end.

* `CutsInto`, `BeforeComment`, `Stripped`, `Contents`: what counts of a text.
* `Line.Says`: the forms of a line.
* `Line.Argument`, `Line.Arguments`, `Line.ArgumentList`: the arguments of a predicate.
* `Grammatical`: which lines make up a domain.
* `Describes`: which schema they declare.
-/

namespace Substance

namespace Text

/-! ## Blanks -/

/-- Every character is blank. -/
def Blanks (text : List Char) : Prop := ∀ c ∈ text, isBlank c = true

/-- There are characters, and every one is blank. -/
def Gap (text : List Char) : Prop := text ≠ [] ∧ Blanks text

/-- Neither end is blank. -/
structure Trimmed (text : List Char) : Prop where
  head : ∀ c ∈ text.head?, isBlank c = false
  last : ∀ c ∈ text.getLast?, isBlank c = false

/-- `Stripped text inner`: without the blanks at its ends the text is `inner`. -/
structure Stripped (text inner : List Char) : Prop where
  around : ∃ front back, Blanks front ∧ Blanks back ∧ text = front ++ (inner ++ back)
  trimmed : Trimmed inner

/-! ## Lines -/

/-- No character ends a line. -/
def Unbroken (line : List Char) : Prop := ∀ c ∈ line, isLineEnd c = false

/-- `CutsInto text ls`: the lines of the text are `ls`. -/
inductive CutsInto : List Char → List (List Char) → Prop
  | nil : CutsInto [] []
  /-- The last line may have no end. -/
  | last {line : List Char} : line ≠ [] → Unbroken line → CutsInto line [line]
  /-- A line that ends with one character, which is not the first half of a longer end. -/
  | single {line rest : List Char} {c : Char} {ls : List (List Char)} : Unbroken line →
      isLineEnd c = true → ¬(c = '\r' ∧ rest.head? = some '\n') → CutsInto rest ls →
      CutsInto (line ++ c :: rest) (line :: ls)
  /-- A line that ends with a carriage return and a line feed. -/
  | double {line rest : List Char} {ls : List (List Char)} : Unbroken line → CutsInto rest ls →
      CutsInto (line ++ '\r' :: '\n' :: rest) (line :: ls)

/-- A comment begins with two dashes or two slashes. -/
def OpensComment (text : List Char) : Prop := ['-', '-'] <+: text ∨ ['/', '/'] <+: text

/-- `BeforeComment line kept`: no comment begins in the line before its end or the comment behind
`kept`. -/
structure BeforeComment (line kept : List Char) : Prop where
  split : ∃ comment, line = kept ++ comment ∧ (comment = [] ∨ OpensComment comment)
  first : ∀ front back, line = front ++ back → OpensComment back → kept.length ≤ front.length

/-- `Contents text ls`: the lines of the text, without their comments and the blanks at their ends,
are `ls`. -/
def Contents (text : List Char) (ls : List (List Char)) : Prop :=
  ∃ raws, CutsInto text raws ∧
    List.Forall₂ (fun raw line => ∃ kept, BeforeComment raw kept ∧ Stripped kept line) raws ls

end Text

open Text

namespace Line

/-! ## Forms of lines -/

/-- `Says line x`: the line is of the form of `x`.  A line of the form `function <: A` counts as an
inclusion and as a skipped declaration; the grammar has it either way. -/
inductive Says : List Char → Line → Prop
  | blank : Says [] .blank
  | type {gap name : List Char} : Gap gap → isIdentifier name = true →
      Says ("type".toList ++ (gap ++ name)) (.type (String.ofList name))
  | inclusion {child before after parent : List Char} : isIdentifier child = true →
      Blanks before → Blanks after → isIdentifier parent = true →
      Says (child ++ (before ++ '<' :: ':' :: (after ++ parent)))
        (.inclusion (String.ofList child) (String.ofList parent))
  | bare {gap name : List Char} : Gap gap → isIdentifier name = true →
      Says ("predicate".toList ++ (gap ++ name)) (.predicate (String.ofList name) [])
  | predicate {gap name before arguments : List Char} : Gap gap → isIdentifier name = true →
      Blanks before →
      Says ("predicate".toList ++ (gap ++ (name ++ (before ++ ':' :: arguments))))
        (.predicate (String.ofList name) arguments)
  | skipped {keyword : String} {rest : List Char} : keyword ∈ skippedKeywords →
      (∀ c ∈ rest.head?, isBlank c = true) → Says (keyword.toList ++ rest) (.skipped keyword)

/-! ## Arguments -/

/-- An argument: a type, and perhaps a variable behind it. -/
inductive Argument : List Char → String → Prop
  | type {name : List Char} : isIdentifier name = true → Argument name (String.ofList name)
  | named {name gap own : List Char} : isIdentifier name = true → Gap gap →
      isIdentifier own = true → Argument (name ++ (gap ++ own)) (String.ofList name)

/-- An argument with blanks around it. -/
def Padded (text : List Char) (type : String) : Prop :=
  ∃ inner, Stripped text inner ∧ Argument inner type

/-- Arguments with blanks around each, and an asterisk between any two. -/
inductive Arguments : List Char → List String → Prop
  | last {text : List Char} {type : String} : Padded text type → Arguments text [type]
  | cons {text rest : List Char} {type : String} {types : List String} : Padded text type →
      Arguments rest types → Arguments (text ++ '*' :: rest) (type :: types)

/-- A list of arguments, which may be blank. -/
inductive ArgumentList : List Char → List String → Prop
  | blank {text : List Char} : Blanks text → ArgumentList text []
  | arguments {text : List Char} {types : List String} : Arguments text types →
      ArgumentList text types

end Line

/-- Propositions do not stand beside objects. -/
def Unmixed (types : List String) : Prop := propType ∈ types → ∀ t ∈ types, t = propType

/-- The signature of a predicate with arguments of these types. -/
def Signature.ofTypes (types : List String) : Signature String :=
  if types ≠ [] ∧ ∀ t ∈ types, t = propType then .propositions else .objects types

/-! ## Domains -/

open Line

/-- The line declares a predicate of this name. -/
def DeclaresPredicate (name : String) (line : List Char) : Prop :=
  ∃ arguments, Says line (.predicate name arguments)

/-- The lines make up a domain: each is of some form, the arguments of predicates are as they should
be, and no two lines declare the same predicate. -/
structure Grammatical (ls : List (List Char)) : Prop where
  forms : ∀ line ∈ ls, ∃ x, Says line x
  arguments : ∀ line ∈ ls, ∀ name arguments, Says line (.predicate name arguments) →
    ∃ types, ArgumentList arguments types ∧ Unmixed types
  once : ls.Pairwise fun line other =>
    ∀ name, DeclaresPredicate name line → ¬DeclaresPredicate name other

/-- The schema has what the lines declare, and nothing else. -/
structure Describes (ls : List (List Char)) (s : Schema) : Prop where
  types : ∀ name, name ∈ s.types ↔ ∃ line ∈ ls, Says line (.type name)
  inclusions : ∀ child parent, ⟨child, parent⟩ ∈ s.inclusions ↔
    ∃ line ∈ ls, Says line (.inclusion child parent)
  predicates : ∀ name signature, (name, signature) ∈ s.predicates ↔
    ∃ line ∈ ls, ∃ arguments types, Says line (.predicate name arguments) ∧
      ArgumentList arguments types ∧ signature = .ofTypes types

end Substance
