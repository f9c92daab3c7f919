import Substance.Storage.Path
import Substance.Text.Quoted

/-!
# The host of a run

What a run needs of its surroundings: files and directories, and two streams of text.
-/

namespace Substance

open Text

/-- Why an operation on a file or directory fails. -/
inductive StorageCause where
  | notFound
  | alreadyExists
  | notADirectory
  | isADirectory
  | nameTooLong
  /-- The path holds a null character, which no file name does. -/
  | nullCharacter
  /-- Another refusal of the operating system. -/
  | other (code : Nat) (text : String)
deriving DecidableEq, Repr

/-- The wording of a cause. -/
def StorageCause.text : StorageCause → String
  | .notFound => "No such file or directory"
  | .alreadyExists => "File exists"
  | .notADirectory => "Not a directory"
  | .isADirectory => "Is a directory"
  | .nameTooLong => "File name too long"
  | .nullCharacter => "embedded null byte"
  | .other _ text => text

/-- The number of a cause. -/
def StorageCause.code : StorageCause → Nat
  | .notFound => 2
  | .alreadyExists => 17
  | .notADirectory => 20
  | .isADirectory => 21
  | .nameTooLong => 36
  | .nullCharacter => 0
  | .other code _ => code

/-- A failed operation and the path it was for. -/
structure StorageFault where
  cause : StorageCause
  path : Path
deriving DecidableEq, Repr

/-- What is said of a failed operation. -/
def StorageFault.message (f : StorageFault) : String :=
  match f.cause with
  | .nullCharacter => f.cause.text
  | cause => s!"[Errno {cause.code}] {cause.text}: " ++
      String.ofList (quoted f.path.toString.toList)

/-- The operations that a host offers. -/
class Host (m : Type → Type) where
  readFile : Path → m (Except StorageCause (List UInt8))
  writeFile : Path → List UInt8 → m (Except StorageCause Unit)
  makeDirectory : Path → m (Except StorageCause Unit)
  isDirectory : Path → m Bool
  workingDirectory : m Path
  /-- Write to the stream of results. -/
  print : String → m Unit
  /-- Write to the stream of messages. -/
  report : String → m Unit

variable {m : Type → Type} [Monad m] [Host m]

/-- Create a directory, unless there is one already. -/
def makeOrKeep (p : Path) : m (Except StorageFault Unit) := do
  match ← Host.makeDirectory p with
  | .ok () => return .ok ()
  | .error .notFound => return .error ⟨.notFound, p⟩
  | .error .nullCharacter => return .error ⟨.nullCharacter, p⟩
  | .error cause => if ← Host.isDirectory p then return .ok () else return .error ⟨cause, p⟩

/-- Create a directory with the directories on the way to it, unless they are there already.  Each
is tried first, and the way to it is made when that fails for want of one. -/
def ensureDirectory (p : Path) : m (Except StorageFault Unit) := do
  match ← makeOrKeep p with
  | .error ⟨.notFound, _⟩ =>
    match p.parent?.attach with
    | none => return .error ⟨.notFound, p⟩
    | some q =>
      match ← ensureDirectory q.1 with
      | .error fault => return .error fault
      | .ok () => makeOrKeep p
  | outcome => return outcome
termination_by p.names.length
decreasing_by exact Path.length_lt_of_parent? q.2

end Substance
