import Substance.Text.Blank
import Substance.Text.Digit

/-!
# Integer numerals

An integer is written with an optional sign and decimal digits of any script, between which single
underscores may stand.  Blanks around it do not count, information separators excepted.  Numerals
of more than 4300 digits are refused.
-/

namespace Substance.Text

/-- Why a text is no integer numeral. -/
inductive NumeralFault where
  | malformed
  | tooLong (digits : Nat)
deriving DecidableEq, Repr

/-- The greatest number of digits of a numeral. -/
def maxDigits : Nat := 4300

/-- The refusal of a numeral with too many digits. -/
def tooLongMessage (digits : Nat) : String :=
  s!"Exceeds the limit ({maxDigits} digits) for integer string conversion: value has {digits} " ++
    "digits; use sys.set_int_max_str_digits() to increase the limit"

/-- May the character stand around a numeral? -/
def isPadding (c : Char) : Bool := isBlank c && !(0x1C ≤ c.toNat && c.toNat ≤ 0x1F)

/-- Take the sign off a numeral: is it negative, and what follows? -/
def splitSign : List Char → Bool × List Char
  | '-' :: rest => (true, rest)
  | '+' :: rest => (false, rest)
  | text => (false, text)

/-- Do underscores stand only between two digits of the row? -/
def wellSpaced : List Char → Bool
  | [] => false
  | [c] => c != '_'
  | '_' :: _ => false
  | _ :: '_' :: rest => wellSpaced rest
  | _ :: rest => wellSpaced rest

/-- The integer that a numeral denotes. -/
def readInteger (text : List Char) : Except NumeralFault Int :=
  let (negative, body) := splitSign (text.dropWhile isPadding)
  let row := body.takeWhile fun c => isDigit c || c == '_'
  let digits := row.filter isDigit
  if !wellSpaced row then .error .malformed
  else if digits.length > maxDigits then .error (.tooLong digits.length)
  else if !(body.dropWhile fun c => isDigit c || c == '_').all isPadding then .error .malformed
  else
    let value := readDigits 0 digits
    .ok (if negative then -(value : Int) else value)

example : (readInteger " -1_0 ".toList).toOption = some (-10) := by decide +kernel

end Substance.Text
