import Substance.Json.Basic
import Substance.Text.Numeral

/-!
# Reading JSON

A text is read as one JSON value.  A refusal tells what was expected and where, by line, column and
number of characters before.  Beyond the standard, `NaN`, `Infinity` and `-Infinity` are numbers; an
integer of more than 4300 digits is refused.

Readers take the characters still to come and return those they leave, so the place of a refusal is
known by how many are left.
-/

namespace Substance.Json

/-- What is wrong with a text. -/
inductive Reason where
  | byteOrderMark
  | expectingValue
  | expectingName
  | expectingColon
  | expectingComma
  | extraData
  | unterminatedText
  | controlCharacter
  | badEscape
  | badCodeEscape
deriving DecidableEq, Repr

/-- What is said of a wrong text. -/
def Reason.message : Reason → String
  | .byteOrderMark => "Unexpected UTF-8 BOM (decode using utf-8-sig)"
  | .expectingValue => "Expecting value"
  | .expectingName => "Expecting property name enclosed in double quotes"
  | .expectingColon => "Expecting ':' delimiter"
  | .expectingComma => "Expecting ',' delimiter"
  | .extraData => "Extra data"
  | .unterminatedText => "Unterminated string starting at"
  | .controlCharacter => "Invalid control character at"
  | .badEscape => "Invalid \\escape"
  | .badCodeEscape => "Invalid \\uXXXX escape"

/-- Why a text is no JSON value. -/
inductive ReadFault where
  /-- Something is wrong at a place: its line and column from one, and its position from zero. -/
  | malformed (reason : Reason) (line column position : Nat)
  /-- An integer has too many digits. -/
  | longInteger (digits : Nat)
deriving DecidableEq, Repr

/-- What is said of a text that is no JSON value, and where it goes wrong. -/
def ReadFault.message : ReadFault → String
  | .malformed reason line column position =>
    reason.message ++ s!": line {line} column {column} (char {position})"
  | .longInteger digits => Text.tooLongMessage digits

/-- Why reading stopped: at the characters still to come, or by a number too long. -/
inductive Stop where
  | malformed (reason : Reason) (rest : List Char)
  | longInteger (digits : Nat)
deriving DecidableEq, Repr

/-- Is the character white space between values? -/
def isSpace (c : Char) : Bool := c == ' ' || c == '\t' || c == '\n' || c == '\r'

/-- Leave white space out. -/
def skipSpace (s : List Char) : List Char := s.dropWhile isSpace

/-! ## Texts -/

/-- The value of a hexadecimal digit. -/
def hexValue? (c : Char) : Option Nat :=
  if '0' ≤ c ∧ c ≤ '9' then some (c.toNat - '0'.toNat)
  else if 'a' ≤ c ∧ c ≤ 'f' then some (c.toNat - 'a'.toNat + 10)
  else if 'A' ≤ c ∧ c ≤ 'F' then some (c.toNat - 'A'.toNat + 10)
  else none

/-- The number that hexadecimal digits write. -/
def hexNumber? (cs : List Char) : Option Nat :=
  cs.foldlM (fun n c => (hexValue? c).map (16 * n + ·)) 0

/-- The character that an escape of one letter stands for. -/
def simpleEscape? : Char → Option Char
  | '"' => some '"'
  | '\\' => some '\\'
  | '/' => some '/'
  | 'b' => some '\x08'
  | 'f' => some '\x0c'
  | 'n' => some '\n'
  | 'r' => some '\r'
  | 't' => some '\t'
  | _ => none

/-- Does the number open a surrogate pair? -/
def isHighSurrogate (n : Nat) : Bool := 0xD800 ≤ n && n < 0xDC00

/-- Does the number close a surrogate pair? -/
def isLowSurrogate (n : Nat) : Bool := 0xDC00 ≤ n && n < 0xE000

/-- The character with a code point; a surrogate that stands alone is replaced. -/
def character (n : Nat) : Char := if n.isValidChar then Char.ofNat n else '\uFFFD'

/-- Read what follows `\u`: four hexadecimal digits before at least one more character, and the
second half of a surrogate pair when the first half is there.  Returns the character and the number
of characters taken. -/
def codeEscape (s : List Char) : Except Stop (Char × Nat) :=
  if s.length ≤ 4 then .error (.malformed .badCodeEscape ('u' :: s))
  else match hexNumber? (s.take 4) with
    | none => .error (.malformed .badCodeEscape ('u' :: s))
    | some n =>
      match isHighSurrogate n, s.drop 4 with
      | true, '\\' :: 'u' :: more =>
        if more.length ≤ 4 then .ok (character n, 4)
        else match hexNumber? (more.take 4) with
          | none => .error (.malformed .badCodeEscape ('u' :: more))
          | some m =>
            if isLowSurrogate m then
              .ok (character (0x10000 + (n - 0xD800) * 0x400 + (m - 0xDC00)), 10)
            else .ok (character n, 4)
      | _, _ => .ok (character n, 4)

/-- Read a text after its opening quote.  `opening` is the rest from that quote on, and `done` what
was read so far, last character first. -/
def textAfterQuote (opening done : List Char) :
    List Char → Except Stop (String × List Char)
  | [] => .error (.malformed .unterminatedText opening)
  | '"' :: rest => .ok (String.ofList done.reverse, rest)
  | ['\\'] => .error (.malformed .unterminatedText opening)
  | '\\' :: 'u' :: rest =>
    match codeEscape rest with
    | .error stop => .error stop
    | .ok (c, taken) => textAfterQuote opening (c :: done) (rest.drop taken)
  | '\\' :: c :: rest =>
    match simpleEscape? c with
    | none => .error (.malformed .badEscape ('\\' :: c :: rest))
    | some d => textAfterQuote opening (d :: done) rest
  | c :: rest =>
    if c.toNat < 0x20 then .error (.malformed .controlCharacter (c :: rest))
    else textAfterQuote opening (c :: done) rest
termination_by s => s.length

/-! ## Numbers -/

/-- The number that decimal digits write. -/
def decimalNumber (cs : List Char) : Nat := cs.foldl (fun n c => 10 * n + (c.toNat - '0'.toNat)) 0

/-- Split the integer part of a number: its digits and the rest.  A zero in front stands alone. -/
def splitInteger? : List Char → Option (List Char × List Char)
  | '0' :: rest => some (['0'], rest)
  | c :: rest =>
    if c.isDigit then some (c :: rest.takeWhile Char.isDigit, rest.dropWhile Char.isDigit) else none
  | [] => none

/-- Split the digits after a point, when there are any. -/
def splitFraction : List Char → List Char × List Char
  | '.' :: rest =>
    match rest.takeWhile Char.isDigit with
    | [] => ([], '.' :: rest)
    | digits => (digits, rest.dropWhile Char.isDigit)
  | s => ([], s)

/-- Split an exponent, when its letter has digits after it. -/
def splitExponent? : List Char → Option (Int × List Char)
  | e :: rest =>
    if e = 'e' ∨ e = 'E' then
      let (negative, body) := match rest with
        | '-' :: body => (true, body)
        | '+' :: body => (false, body)
        | body => (false, body)
      match body.takeWhile Char.isDigit with
      | [] => none
      | digits =>
        let n : Int := decimalNumber digits
        some (if negative then -n else n, body.dropWhile Char.isDigit)
    else none
  | [] => none

/-- Read a number without its sign. -/
def number (negative : Bool) (s : List Char) : Option (Except Stop (Json × List Char)) :=
  match splitInteger? s with
  | none => none
  | some (whole, rest) => some <|
    let (fraction, rest) := splitFraction rest
    match fraction, splitExponent? rest with
    | [], none =>
      if whole.length > Text.maxDigits then .error (.longInteger whole.length)
      else
        let n : Int := decimalNumber whole
        .ok (.integer (if negative then -n else n), rest)
    | fraction, none =>
      .ok (.real (.decimal negative (decimalNumber (whole ++ fraction)) (-fraction.length)), rest)
    | fraction, some (e, rest) =>
      let exponent := e - fraction.length
      .ok (.real (.decimal negative (decimalNumber (whole ++ fraction)) exponent), rest)

/-! ## Values -/

/-- Read a value that is not a text, an array or an object. -/
def scalar (s : List Char) : Except Stop (Json × List Char) :=
  match s with
  | 'n' :: 'u' :: 'l' :: 'l' :: rest => .ok (.null, rest)
  | 't' :: 'r' :: 'u' :: 'e' :: rest => .ok (.bool true, rest)
  | 'f' :: 'a' :: 'l' :: 's' :: 'e' :: rest => .ok (.bool false, rest)
  | 'N' :: 'a' :: 'N' :: rest => .ok (.real .nan, rest)
  | 'I' :: 'n' :: 'f' :: 'i' :: 'n' :: 'i' :: 't' :: 'y' :: rest =>
    .ok (.real (.infinity false), rest)
  | '-' :: 'I' :: 'n' :: 'f' :: 'i' :: 'n' :: 'i' :: 't' :: 'y' :: rest =>
    .ok (.real (.infinity true), rest)
  | '-' :: rest => (number true rest).getD (.error (.malformed .expectingValue s))
  | _ => (number false s).getD (.error (.malformed .expectingValue s))

mutual

/-- Read a value.  `steps` bounds the number of steps into and along collections. -/
def value : (steps : Nat) → List Char → Except Stop (Json × List Char)
  | 0, s => .error (.malformed .expectingValue s)
  | _ + 1, '"' :: rest => do
    let (t, rest) ← textAfterQuote ('"' :: rest) [] rest
    return (.text t, rest)
  | steps + 1, '[' :: rest =>
    match skipSpace rest with
    | ']' :: rest => .ok (.array [], rest)
    | rest => do
      let (items, rest) ← itemsFrom steps rest
      return (.array items, rest)
  | steps + 1, '\x7b' :: rest =>
    match skipSpace rest with
    | '\x7d' :: rest => .ok (.object [], rest)
    | rest => do
      let (members, rest) ← membersFrom steps [] rest
      return (.object members, rest)
  | _ + 1, s => scalar s

/-- Read the items of an array up to its end. -/
def itemsFrom : (steps : Nat) → List Char → Except Stop (List Json × List Char)
  | 0, s => .error (.malformed .expectingValue s)
  | steps + 1, s => do
    let (item, rest) ← value steps s
    match skipSpace rest with
    | ']' :: rest => return ([item], rest)
    | ',' :: rest =>
      let (items, rest) ← itemsFrom steps (skipSpace rest)
      return (item :: items, rest)
    | rest => .error (.malformed .expectingComma rest)

/-- Read the members of an object up to its end, after those read before. -/
def membersFrom : (steps : Nat) → List (String × Json) → List Char →
    Except Stop (List (String × Json) × List Char)
  | 0, _, s => .error (.malformed .expectingValue s)
  | steps + 1, done, '"' :: rest => do
    let (key, rest) ← textAfterQuote ('"' :: rest) [] rest
    match skipSpace rest with
    | ':' :: rest =>
      let (member, rest) ← value steps (skipSpace rest)
      let done := putMember key member done
      match skipSpace rest with
      | '\x7d' :: rest => return (done, rest)
      | ',' :: rest => membersFrom steps done (skipSpace rest)
      | rest => .error (.malformed .expectingComma rest)
    | rest => .error (.malformed .expectingColon rest)
  | _ + 1, _, s => .error (.malformed .expectingName s)

end

/-- Read a whole text. -/
def document (text : List Char) : Except Stop Json :=
  match text with
  | '\uFEFF' :: _ => .error (.malformed .byteOrderMark text)
  | _ => do
    let (v, rest) ← value (2 * text.length + 2) (skipSpace text)
    match skipSpace rest with
    | [] => return v
    | rest => .error (.malformed .extraData rest)

/-- The refusal that a stop means, by the place where it came. -/
def Stop.fault (text : List Char) : Stop → ReadFault
  | .malformed reason rest =>
    let position := text.length - rest.length
    let before := text.take position
    let column := (before.reverse.takeWhile (· ≠ '\n')).length + 1
    .malformed reason (before.count '\n' + 1) column position
  | .longInteger digits => .longInteger digits

/-- The value that a text writes. -/
def read (text : List Char) : Except ReadFault Json :=
  match document text with
  | .ok v => .ok v
  | .error stop => .error (stop.fault text)

end Substance.Json
