import Substance.Domain
import Substance.Json.Reader
import Substance.Schema.Notation
import Substance.Storage.Host
import Substance.Text.Utf8

/-!
# Domain files

A domain is read from a file of UTF-8 text.  A file whose suffix is `.json` holds plain data, any
other file holds the notation of domains.  What is wrong with a file is told together with its path,
and with the number of the line where there is one.
-/

namespace Substance

open Text

/-- Why a file holds no domain. -/
inductive DomainCause where
  /-- The file cannot be read. -/
  | unreadable (cause : StorageCause)
  | line (fault : NotationFault)
  /-- The file should hold plain data, but does not hold JSON. -/
  | notJson (fault : Json.ReadFault)
  /-- The plain data is no schema. -/
  | notASchema (fault : PlainFault)
deriving DecidableEq, Repr

/-- The line at fault, counted from one, or zero when the fault lies with the whole file. -/
def DomainCause.lineNumber : DomainCause → Nat
  | .line fault => fault.line
  | _ => 0

/-- What is wrong, without the place. -/
def DomainCause.text : DomainCause → String
  | .unreadable cause => s!"cannot read domain file: {cause.text}"
  | .line fault => fault.cause.message
  | .notJson fault => s!"invalid JSON domain: {fault.message}"
  | .notASchema fault => s!"invalid JSON domain: {fault.message}"

/-- A fault of a domain, and the file that it was found in. -/
structure DomainFault where
  file : String
  cause : DomainCause
deriving DecidableEq, Repr

/-- What is said of a fault: the file, the line where there is one, and what is wrong. -/
def DomainFault.message (f : DomainFault) : String :=
  if f.cause.lineNumber = 0 then s!"{f.file}: {f.cause.text}"
  else s!"{f.file}:{f.cause.lineNumber}: {f.cause.text}"

/-- Why no domain is loaded. -/
inductive LoadFault where
  | domain (fault : DomainFault)
  /-- The path holds a null character. -/
  | nullCharacter
  /-- The file does not hold UTF-8. -/
  | notText (fault : Utf8.Fault)
deriving DecidableEq, Repr

/-- What is said of a domain that cannot be loaded. -/
def LoadFault.message : LoadFault → String
  | .domain fault => fault.message
  | .nullCharacter => StorageCause.nullCharacter.text
  | .notText fault => fault.message

namespace Domain

/-- Does the path lead to plain data? -/
def isPlainFile (p : Path) : Bool := p.suffix = ".json"

/-- The schema that a text in the notation of domains writes, for a file of the given name. -/
def ofNotation (file text : String) : Except DomainFault Schema :=
  match Schema.parse text with
  | .ok s => .ok s
  | .error fault => .error ⟨file, .line fault⟩

/-- The domain that a JSON text describes, for a file of the given name. -/
def ofJson (file text : String) : Except DomainFault Domain :=
  match Json.read text.toList with
  | .error fault => .error ⟨file, .notJson fault⟩
  | .ok data =>
    match ofPlain data with
    | .error fault => .error ⟨file, .notASchema fault⟩
    | .ok domain => .ok domain

/-- The domain that the text of a file describes. -/
def ofText (p : Path) (text : String) : Except DomainFault Domain :=
  if isPlainFile p then ofJson p.toString text
  else (ofNotation p.toString text).map .schema

/-- The declarations that are skipped in the text of a file: their line numbers and keywords. -/
def skippedInFile (p : Path) (text : String) : List (Nat × String) :=
  if isPlainFile p then [] else Schema.skippedIn text

/-- The text of a file, from what reading it gave. -/
def textOf (p : Path) : Except StorageCause (List UInt8) → Except LoadFault String
  | .error .nullCharacter => .error .nullCharacter
  | .error cause => .error (.domain ⟨p.toString, .unreadable cause⟩)
  | .ok content =>
    match Utf8.decode content with
    | .error fault => .error (.notText fault)
    | .ok text => .ok (String.ofList (unifyNewlines text))

/-- The domain of a file, from what reading it gave. -/
def ofFile (p : Path) (content : Except StorageCause (List UInt8)) : Except LoadFault Domain :=
  match textOf p content with
  | .error fault => .error fault
  | .ok text => (ofText p text).mapError .domain

variable {m : Type → Type} [Monad m] [Host m]

/-- Load the domain of a file. -/
def load (p : Path) : m (Except LoadFault Domain) := return ofFile p (← Host.readFile p)

end Domain

end Substance
