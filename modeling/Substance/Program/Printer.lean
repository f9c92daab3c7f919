import Substance.Program

/-!
# Printing programs

A program is printed with one statement to a line, and every line, the last one too, is ended by a
line feed.  A program without statements is printed as one empty line.
-/

namespace Substance

/-- The text of a statement. -/
def Statement.format : Statement → String
  | .declaration type name [] => s!"{type} {name}"
  | .declaration type name arguments =>
    s!"{type} {name} := {type}(" ++ ", ".intercalate arguments ++ ")"
  | .application predicate arguments => s!"{predicate}(" ++ ", ".intercalate arguments ++ ")"

/-- The lines of some statements, without the end of the last one. -/
def formatStatements (statements : List Statement) : String :=
  "\n".intercalate (statements.map Statement.format)

/-- The text of a program. -/
def Program.format (p : Program) : String := formatStatements p.statements ++ "\n"

end Substance
