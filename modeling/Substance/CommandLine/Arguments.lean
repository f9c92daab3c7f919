import Substance.CommandLine.Word
import Substance.Defaults

/-!
# Arguments

What a command line asks for.  The words are obeyed from left to right: the first plain word that is
no value names the domain, a switch sets a flag or a field, and what is left over is refused at the
end.  A field that is set twice keeps the later value, and one whose value is the divider is left
without any.
-/

namespace Substance.CommandLine

open Text

/-- What a run is asked to do.  A field that was set to the divider has no value. -/
structure Arguments where
  /-- The path of the domain file. -/
  domain : String
  /-- The directory for programs, as it was written. -/
  directory : Option String
  /-- The number of programs. -/
  count : Option Int
  minLength : Option Int
  maxLength : Option Int
  policy : Option Policy
  seed : Option Int
  /-- Leave the programs out of what is printed. -/
  quiet : Bool
  /-- Report what happens. -/
  debug : Bool
deriving DecidableEq, Repr

/-- Why a command line is not run. -/
inductive Stop where
  /-- Help is asked for. -/
  | help
  | usage (fault : UsageFault)
deriving DecidableEq, Repr

namespace Arguments

/-- What is asked for without any switch. -/
def initial (d : Defaults) (domain : String) : Arguments :=
  { domain, directory := d.directory, count := d.count, minLength := d.setting.minLength
    maxLength := d.setting.maxLength, policy := d.setting.policy, seed := d.seed
    quiet := false, debug := false }

/-- The integer that a field is given. -/
def integer (field : Field) (value : String) : Except UsageFault Int :=
  (readInteger value.toList).mapError fun _ => .notAnInteger field value

/-- The policy with exactly this name. -/
def policyNamed (value : String) : Except UsageFault Policy :=
  match Policy.all.find? fun p => p.name = value with
  | some p => .ok p
  | none => .error (.unknownChoice .policy value (Policy.all.map (·.name)))

/-- Take the value of a field away. -/
def clear (a : Arguments) : Field → Arguments
  | .path => { a with directory := none }
  | .count => { a with count := none }
  | .minLength => { a with minLength := none }
  | .maxLength => { a with maxLength := none }
  | .policy => { a with policy := none }
  | .seed => { a with seed := none }

/-- Give a field its value. -/
def set (a : Arguments) (field : Field) (value : String) : Except UsageFault Arguments :=
  match field with
  | .path => return { a with directory := some value }
  | .count => return { a with count := some (← integer field value) }
  | .minLength => return { a with minLength := some (← integer field value) }
  | .maxLength => return { a with maxLength := some (← integer field value) }
  | .policy => return { a with policy := some (← policyNamed value) }
  | .seed => return { a with seed := some (← integer field value) }

/-- Give a field its value, or none when that is the divider, which the releases of the option
parser that `Arguments.parse` follows take out of values. -/
def assign (a : Arguments) (field : Field) (value : String) : Except UsageFault Arguments :=
  if value = Word.dividerText then .ok (a.clear field) else a.set field value

/-- Obey a flag. -/
def raise (a : Arguments) : Flag → Except Stop Arguments
  | .help => .error .help
  | .quiet => .ok { a with quiet := true }
  | .debug => .ok { a with debug := true }

end Arguments

/-- What the switches of one word ask for: flags, and perhaps a field with its value, which may
stand in the next word. -/
structure Request where
  flags : List Flag
  field : Option (Field × Option String)
deriving DecidableEq, Repr

namespace Request

/-- What a long spelling asks for. -/
def ofLong : Switch → Option String → Except UsageFault Request
  | .field f, value => .ok ⟨[], some (f, value)⟩
  | .flag f, none => .ok ⟨[f], none⟩
  | .flag f, some value => .error (.unwantedValue f value)

/-- What a short spelling asks for, with what is joined to it: a value, or the letter of the next
switch and what is joined to that. -/
def ofJoined : Switch → List Char → Except UsageFault Request
  | .field f, [] => .ok ⟨[], some (f, none)⟩
  | .field f, value => .ok ⟨[], some (f, some (String.ofList value))⟩
  | .flag f, [] => .ok ⟨[f], none⟩
  | .flag f, letter :: tail =>
    match Switch.ofSpelling? (String.ofList ['-', letter]) with
    | some next => do
      let r ← ofJoined next tail
      return { r with flags := f :: r.flags }
    | none => .error (.unwantedValue f (String.ofList (letter :: tail)))

/-- What a short spelling asks for, with what follows in the same word.  One equals sign right after
the spelling is passed over. -/
def ofShort (s : Switch) : List Char → Except UsageFault Request
  | ['='] => ofLong s (some "")
  | '=' :: tail => ofJoined s tail
  | tail => ofJoined s tail

end Request

/-- How far the domain is named. -/
inductive Naming where
  | unnamed
  /-- The divider came before any name. -/
  | divided
  /-- The last word named the domain. -/
  | justNamed
  | named
deriving DecidableEq, Repr

/-- How far a command line is obeyed. -/
structure Progress where
  arguments : Arguments
  naming : Naming
  /-- The flags of the last word, and its field whose value is to come. -/
  pending : Option (List Flag × Field)
  /-- The words that are left over. -/
  extras : List String
deriving DecidableEq, Repr

namespace Progress

/-- Nothing is obeyed yet. -/
def start (d : Defaults) : Progress := ⟨.initial d "", .unnamed, none, []⟩

/-- Leave a word over. -/
def leave (p : Progress) (text : String) : Progress := { p with extras := p.extras ++ [text] }

/-- Note that the name of the domain is no longer the last word. -/
def goOn (p : Progress) : Progress :=
  match p.naming with
  | .justNamed => { p with naming := .named }
  | _ => p

/-- Obey a plain word: it names the domain, if that is still to be named. -/
def plain (p : Progress) (text : String) : Progress :=
  match p.naming with
  | .unnamed | .divided => { p with arguments.domain := text, naming := .justNamed }
  | .justNamed | .named => p.goOn.leave text

/-- Obey the divider.  It is left over unless it stands beside the name of the domain. -/
def divide (p : Progress) : Progress :=
  match p.naming with
  | .unnamed => { p with naming := .divided }
  | .justNamed => p.goOn
  | .divided | .named => p.leave Word.dividerText

/-- Obey flags. -/
def raise (p : Progress) (flags : List Flag) : Except Stop Progress := do
  let arguments ← flags.foldlM Arguments.raise p.arguments
  return { p with arguments }

/-- Obey flags, then give a field its value. -/
def fulfil (p : Progress) (flags : List Flag) (field : Field) (value : String) :
    Except Stop Progress := do
  let p ← p.raise flags
  let arguments ← (p.arguments.assign field value).mapError .usage
  return { p with arguments }

/-- Obey what the switches of a word ask for, or wait for the value. -/
def request (p : Progress) (r : Request) : Except Stop Progress :=
  match r.field with
  | none => p.raise r.flags
  | some (field, some value) => p.fulfil r.flags field value
  | some (field, none) => .ok { p with pending := some (r.flags, field) }

/-- Obey a word. -/
def obey (p : Progress) (w : Word) : Except Stop Progress :=
  match p.pending, w with
  | some (flags, field), .plain value => { p with pending := none }.fulfil flags field value
  | some (_, field), _ => .error (.usage (.missingValue field))
  | none, .plain text => .ok (p.plain text)
  | none, .divider => .ok p.divide
  | none, .unknown text => .ok (p.goOn.leave text)
  | none, .long s value => do p.goOn.request (← (Request.ofLong s value).mapError .usage)
  | none, .short s tail => do p.goOn.request (← (Request.ofShort s tail).mapError .usage)

/-- What is asked for when all words are obeyed. -/
def finish (p : Progress) : Except Stop Arguments :=
  match p.pending, p.naming, p.extras with
  | some (_, field), _, _ => .error (.usage (.missingValue field))
  | none, .unnamed, _ | none, .divided, _ => .error (.usage .missingDomain)
  | none, _, [] => .ok p.arguments
  | none, _, extras => .error (.usage (.unrecognised extras))

end Progress

/-- What a command line asks for.  The option parser that is followed here is that of the earlier
patch releases of 3.11: it takes the divider out of the value of a switch (`Arguments.assign`), and
reads letters that are joined to a flag as switches behind an equals sign too (`Request.ofShort`).
In both the later ones differ. -/
def Arguments.parse (d : Defaults) (words : List String) : Except Stop Arguments := do
  let classified ← (Word.classify words).mapError .usage
  let p ← classified.foldlM Progress.obey (.start d)
  p.finish

end Substance.CommandLine
