import Substance.Setting
import Substance.Text.Numeral

/-!
# Defaults

What holds where nothing else is asked for.  The seed and the directory for programs may be set by
the environment.
-/

namespace Substance

open Text

/-- The values that hold where nothing else is asked for. -/
structure Defaults where
  setting : Setting
  /-- The number of programs of a batch. -/
  count : Int
  seed : Int
  /-- The directory for programs, as it was written. -/
  directory : String
deriving DecidableEq, Repr

namespace Defaults

/-- The defaults of an environment that sets nothing. -/
def standard : Defaults :=
  { setting := ⟨1, 10, .mixed⟩, count := 1, seed := 7, directory := "./synthesized/" }

/-- The environment variable that sets the seed. -/
def seedVariable : String := "SUBSYNTH_SEED"

/-- The environment variable that sets the directory. -/
def directoryVariable : String := "SUBSYNTH_OUTPUT_DIR"

/-- A seed that the environment sets and that is no integer. -/
structure SeedFault where
  text : String
  cause : NumeralFault
deriving DecidableEq, Repr

/-- The greatest length of a quoted text in the refusal of a seed. -/
def maxQuoted : Nat := 200

/-- What is said of a bad seed. -/
def SeedFault.message (f : SeedFault) : String :=
  match f.cause with
  | .malformed => "invalid literal for int() with base 10: " ++
      String.ofList ((quoted f.text.toList).take maxQuoted)
  | .tooLong digits => tooLongMessage digits

/-- The defaults of an environment. -/
def ofEnvironment (environment : String → Option String) : Except SeedFault Defaults := do
  let seed ← match environment seedVariable with
    | none => pure standard.seed
    | some text =>
      match readInteger text.toList with
      | .ok seed => pure seed
      | .error cause => throw ⟨text, cause⟩
  let directory := (environment directoryVariable).getD standard.directory
  return { standard with seed, directory }

/-- An environment that sets neither variable leaves the defaults as they are. -/
theorem ofEnvironment_of_unset {environment : String → Option String}
    (hseed : environment seedVariable = none) (hdirectory : environment directoryVariable = none) :
    ofEnvironment environment = .ok standard := by
  rw [ofEnvironment, hseed, hdirectory]
  rfl

end Defaults

end Substance
