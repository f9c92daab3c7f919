import Substance.CommandLine.Run

/-!
# The program

The command line run on the machine: its files, its environment and its streams.
-/

namespace Substance

/-- The cause of a failure that the machine reports. -/
def StorageCause.ofError : IO.Error → StorageCause
  | .noFileOrDirectory .. => .notFound
  | .alreadyExists .. => .alreadyExists
  | .inappropriateType _ code text =>
    if code = 20 then .notADirectory else if code = 21 then .isADirectory
    else .other code.toNat text
  | .invalidArgument _ code text =>
    if code = 36 then .nameTooLong else .other code.toNat text
  | .permissionDenied _ code text => .other code.toNat text
  | .resourceExhausted _ code text => .other code.toNat text
  | .otherError code text => .other code.toNat text
  | e => .other 5 (toString e)

/-- Do something with the file of a path, and tell why it fails when it does. -/
def onMachine {α : Type} (p : Path) (operation : String → IO α) : IO (Except StorageCause α) := do
  if '\x00' ∈ p.toString.toList then return .error .nullCharacter
  match ← (operation p.toString).toBaseIO with
  | .ok a => return .ok a
  | .error e => return .error (.ofError e)

/-- The machine is a host. -/
instance : Host IO where
  readFile p := onMachine p fun name => do return (← IO.FS.readBinFile name).data.toList
  writeFile p content := onMachine p fun name => IO.FS.writeBinFile name ⟨content.toArray⟩
  makeDirectory p := onMachine p fun name => IO.FS.createDir name
  isDirectory p := do
    match ← onMachine p fun name => do (← IO.FS.realPath name).isDir with
    | .ok answer => return answer
    | .error _ => return false
  workingDirectory := do return .ofString (← IO.currentDir).toString
  print text := do
    let out ← IO.getStdout
    out.putStr text
    out.flush
  report text := do
    let out ← IO.getStderr
    out.putStr text

end Substance

/-- Run the command line with the given words. -/
def main (words : List String) : IO UInt32 := do
  let seed ← IO.getEnv Substance.Defaults.seedVariable
  let directory ← IO.getEnv Substance.Defaults.directoryVariable
  let environment (name : String) : Option String :=
    if name = Substance.Defaults.seedVariable then seed
    else if name = Substance.Defaults.directoryVariable then directory
    else none
  match ← Substance.CommandLine.run environment words with
  | .exit code => return code.toUInt32
  | .abort fault =>
    IO.eprintln fault.message
    return 1
