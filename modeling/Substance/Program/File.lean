import Substance.Storage.Path

/-!
# The files of programs

The programs of a batch are written to numbered files of one directory.
-/

namespace Substance

/-- What the name of a program's file begins with. -/
def fileStem : String := "prog-"

/-- What the name of a program's file ends with. -/
def fileEnding : String := ".sub"

/-- The file of the program with the given number in its batch. -/
def programFile (directory : Path) (number : Nat) : Path :=
  directory.child (fileStem ++ toString number ++ fileEnding)

/-- The files of a batch.  Programs are numbered from one. -/
def programFiles (directory : Path) (count : Int) : List Path :=
  (List.range' 1 count.toNat).map (programFile directory)

end Substance
