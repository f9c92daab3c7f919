/-!
# Switches

The options of the command line and how they are written.  A switch is either a flag, which stands
alone, or gives a field its value.  It has a long spelling, which opens with two dashes, and perhaps
a short one, a dash and a letter.
-/

namespace Substance.CommandLine

/-- The switches that stand alone. -/
inductive Flag where
  | help
  | quiet
  | debug
deriving DecidableEq, Repr

/-- What a switch with a value gives that value to. -/
inductive Field where
  | path
  | count
  | minLength
  | maxLength
  | policy
  | seed
deriving DecidableEq, Repr

/-- The options of the command line. -/
inductive Switch where
  | flag (f : Flag)
  | field (f : Field)
deriving DecidableEq, Repr

/-- How a flag is written. -/
def Flag.spellings : Flag → List String
  | .help => ["-h", "--help"]
  | .quiet => ["--quiet", "-q"]
  | .debug => ["--debug"]

/-- How the switch of a field is written. -/
def Field.spellings : Field → List String
  | .path => ["--path"]
  | .count => ["--num-programs", "-n"]
  | .minLength => ["--min-length"]
  | .maxLength => ["--max-length"]
  | .policy => ["--arg-option"]
  | .seed => ["--seed", "-s"]

namespace Switch

/-- How a switch is written. -/
def spellings : Switch → List String
  | .flag f => f.spellings
  | .field f => f.spellings

/-- How a switch is called in messages. -/
def label (s : Switch) : String := "/".intercalate s.spellings

/-- All switches, in the order in which they are offered. -/
def all : List Switch :=
  [.flag .help, .field .path, .field .count, .field .minLength, .field .maxLength, .field .policy,
    .field .seed, .flag .quiet, .flag .debug]

/-- All spellings, each with its switch. -/
def vocabulary : List (String × Switch) := all.flatMap fun s => s.spellings.map (·, s)

/-- The switch with exactly this spelling. -/
def ofSpelling? (spelling : String) : Option Switch := vocabulary.lookup spelling

/-- No switch is missing from the list. -/
theorem mem_all (s : Switch) : s ∈ all := by
  rcases s with f | f <;> cases f <;> decide

/-- No two switches share a spelling. -/
theorem ofSpelling?_of_mem {s : Switch} {spelling : String} (h : spelling ∈ s.spellings) :
    ofSpelling? spelling = some s := by
  have all_distinct : ∀ s ∈ all, ∀ t ∈ s.spellings, ofSpelling? t = some s := by decide
  exact all_distinct s (mem_all s) spelling h

end Switch

end Substance.CommandLine
