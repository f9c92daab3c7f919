import Substance.CommandLine.Switch
import Substance.Text.Digit
import Substance.Text.Quoted

/-!
# Words of the command line

Every word is classified before any is obeyed.  Words without a dash in front are plain, and so are
those behind the divider `--`.  A long spelling may be cut short as long as only one switch begins
that way, and may be followed by an equals sign and a value.  A short spelling may be followed by a
value or by the letters of further switches, with or without an equals sign before them.  Any other
word with a dash in front is unknown, except that one that looks like a negative number or holds a
space is plain.
-/

namespace Substance.CommandLine

open Text

/-- What is wrong with a command line. -/
inductive UsageFault where
  /-- Several switches begin in this way. -/
  | ambiguous (word : String) (spellings : List String)
  | missingValue (field : Field)
  | unwantedValue (flag : Flag) (value : String)
  | notAnInteger (field : Field) (value : String)
  | unknownChoice (field : Field) (value : String) (choices : List String)
  | missingDomain
  | unrecognised (words : List String)
deriving DecidableEq, Repr

/-- A text in quotes. -/
def quote (text : String) : String := String.ofList (quoted text.toList)

/-- What is said of a wrong command line. -/
def UsageFault.message : UsageFault → String
  | .ambiguous word spellings =>
    s!"ambiguous option: {word} could match " ++ ", ".intercalate spellings
  | .missingValue field => s!"argument {(Switch.field field).label}: expected one argument"
  | .unwantedValue flag value =>
    s!"argument {(Switch.flag flag).label}: ignored explicit argument {quote value}"
  | .notAnInteger field value =>
    s!"argument {(Switch.field field).label}: invalid int value: {quote value}"
  | .unknownChoice field value choices =>
    s!"argument {(Switch.field field).label}: invalid choice: {quote value} (choose from " ++
      ", ".intercalate (choices.map quote) ++ ")"
  | .missingDomain => "the following arguments are required: domain"
  | .unrecognised words => "unrecognized arguments: " ++ " ".intercalate words

/-- A word, by what it is for. -/
inductive Word where
  | plain (text : String)
  /-- The two dashes behind which every word is plain. -/
  | divider
  /-- A switch in its long spelling, with the value behind the equals sign. -/
  | long (s : Switch) (value : Option String)
  /-- A switch in its short spelling, and what follows in the same word. -/
  | short (s : Switch) (tail : List Char)
  | unknown (text : String)
deriving DecidableEq, Repr

namespace Word

/-- Does the text end here, but for one line feed? -/
def atEnd (text : List Char) : Bool := text = [] ∨ text = ['\n']

/-- Does a text look like a negative number, with or without a fraction? -/
def isNegativeNumber : List Char → Bool
  | '-' :: text =>
    let whole := text.takeWhile isDigit
    match text.dropWhile isDigit with
    | '.' :: fraction => !(fraction.takeWhile isDigit).isEmpty && atEnd (fraction.dropWhile isDigit)
    | rest => !whole.isEmpty && atEnd rest
  | _ => false

/-- A word that is no switch. -/
def other (text : List Char) : Word :=
  if isNegativeNumber text ∨ ' ' ∈ text then .plain (String.ofList text)
  else .unknown (String.ofList text)

/-- A word cut at its first equals sign. -/
def cut (text : List Char) : List Char × Option String :=
  (text.takeWhile (· ≠ '='),
    match text.dropWhile (· ≠ '=') with
    | [] => none
    | _ :: value => some (String.ofList value))

/-- The spellings that begin in this way, each with its switch. -/
def completions (opening : List Char) : List (String × Switch) :=
  Switch.vocabulary.filter fun entry => opening.isPrefixOf entry.1.toList

/-- Classify a word that opens with two dashes. -/
def ofLong (text : List Char) : Except UsageFault Word :=
  let (opening, value) := cut text
  match Switch.ofSpelling? (String.ofList opening) with
  | some s => .ok (.long s value)
  | none =>
    match completions opening with
    | [] => .ok (other text)
    | [(_, s)] => .ok (.long s value)
    | several => .error (.ambiguous (String.ofList text) (several.map (·.1)))

/-- Classify a word in front of the divider. -/
def ofText (text : String) : Except UsageFault Word :=
  match text.toList with
  | '-' :: '-' :: rest => ofLong ('-' :: '-' :: rest)
  | '-' :: letter :: tail =>
    match Switch.ofSpelling? (String.ofList ['-', letter]) with
    | some s => .ok (.short s tail)
    | none => .ok (other ('-' :: letter :: tail))
  | _ => .ok (.plain text)

/-- The divider. -/
def dividerText : String := "--"

/-- Classify the words of a command line. -/
def classify : List String → Except UsageFault (List Word)
  | [] => .ok []
  | text :: rest =>
    if text = dividerText then .ok (.divider :: rest.map .plain)
    else do return (← ofText text) :: (← classify rest)

end Word

end Substance.CommandLine
