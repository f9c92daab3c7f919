/-!
# Programs

A program is a list of statements that declare objects and apply predicates to them.
-/

namespace Substance

/-- A statement of a program. -/
inductive Statement where
  /-- Declare an object of a type, built from constructor arguments when there are any. -/
  | declaration (type name : String) (arguments : List String)
  /-- Apply a predicate to objects. -/
  | application (predicate : String) (arguments : List String)
deriving DecidableEq, Repr

/-- Does the statement declare an object? -/
def Statement.isDeclaration : Statement → Bool
  | .declaration .. => true
  | .application .. => false

/-- Does the statement apply a predicate? -/
def Statement.isApplication (s : Statement) : Bool := !s.isDeclaration

/-- A finished program, with the number of declarations that open it and the number of body
statements drawn for it.  Declarations made for the arguments of a predicate count as neither. -/
structure Program where
  statements : List Statement
  headerCount : Int
  bodyCount : Int
deriving DecidableEq, Repr

namespace Program

/-- The number of statements. -/
def length (p : Program) : Nat := p.statements.length

/-- The declarations of a program, in order. -/
def declarations (p : Program) : List Statement := p.statements.filter (·.isDeclaration)

/-- The applications of a program, in order. -/
def applications (p : Program) : List Statement := p.statements.filter (·.isApplication)

end Program

/-- A program under construction, which only grows. -/
structure Draft where
  statements : Array Statement
deriving DecidableEq, Repr

namespace Draft

/-- The draft without statements. -/
def empty : Draft := ⟨#[]⟩

instance : Inhabited Draft := ⟨empty⟩

/-- Add a statement at the end. -/
def append (d : Draft) (s : Statement) : Draft := ⟨d.statements.push s⟩

/-- The number of statements. -/
def length (d : Draft) : Nat := d.statements.size

/-- The statements, in order. -/
def toList (d : Draft) : List Statement := d.statements.toList

/-- The program of the statements so far. -/
def finish (d : Draft) (headerCount bodyCount : Int) : Program :=
  ⟨d.toList, headerCount, bodyCount⟩

/-- The empty draft has no statements. -/
@[simp] theorem toList_empty : empty.toList = [] := rfl

/-- An added statement is the last one. -/
@[simp] theorem toList_append (d : Draft) (s : Statement) :
    (d.append s).toList = d.toList ++ [s] := by simp [append, toList]

end Draft

end Substance
