/-!
# Decimal digits

Every script writes its ten decimal digits at ten consecutive code points, zero first.
-/

namespace Substance.Text

/-- The code points of the digits zero. -/
def zeros : List Nat := [
  0x0030, 0x0660, 0x06F0, 0x07C0, 0x0966, 0x09E6, 0x0A66, 0x0AE6, 0x0B66, 0x0BE6, 0x0C66, 0x0CE6,
  0x0D66, 0x0DE6, 0x0E50, 0x0ED0, 0x0F20, 0x1040, 0x1090, 0x17E0, 0x1810, 0x1946, 0x19D0, 0x1A80,
  0x1A90, 0x1B50, 0x1BB0, 0x1C40, 0x1C50, 0xA620, 0xA8D0, 0xA900, 0xA9D0, 0xA9F0, 0xAA50, 0xABF0,
  0xFF10, 0x104A0, 0x10D30, 0x11066, 0x110F0, 0x11136, 0x111D0, 0x112F0, 0x11450, 0x114D0,
  0x11650, 0x116C0, 0x11730, 0x118E0, 0x11950, 0x11C50, 0x11D50, 0x11DA0, 0x16A60, 0x16AC0,
  0x16B50, 0x1D7CE, 0x1D7D8, 0x1D7E2, 0x1D7EC, 0x1D7F6, 0x1E140, 0x1E2F0, 0x1E950, 0x1FBF0]

/-- The value of a decimal digit of any script. -/
def digitValue? (c : Char) : Option Nat :=
  (zeros.find? fun z => z ≤ c.toNat && c.toNat < z + 10).map (c.toNat - ·)

/-- Is the character a decimal digit of any script? -/
def isDigit (c : Char) : Bool := (digitValue? c).isSome

/-- The number that a row of digits denotes, after the value of those read before. -/
def readDigits (value : Nat) (digits : List Char) : Nat :=
  digits.foldl (fun n c => 10 * n + (digitValue? c).getD 0) value

/-- The code points of the digits of ASCII. -/
theorem toNat_of_isAsciiDigit {c : Char} (h : c.isDigit = true) : 48 ≤ c.toNat ∧ c.toNat ≤ 57 := by
  simpa [Char.isDigit, UInt32.le_iff_toNat_le] using h

/-- The digits of ASCII are the first of all scripts. -/
theorem digitValue?_of_isAsciiDigit {c : Char} (h : c.isDigit = true) :
    digitValue? c = some (c.toNat - '0'.toNat) := by
  obtain ⟨hlow, hhigh⟩ := toNat_of_isAsciiDigit h
  rw [digitValue?, zeros, List.find?_cons_of_pos (by simp; omega)]
  rfl

/-- The digits of ASCII are digits. -/
theorem isDigit_of_isAsciiDigit {c : Char} (h : c.isDigit = true) : isDigit c = true := by
  rw [isDigit, digitValue?_of_isAsciiDigit h]
  rfl

/-- A row of digits of ASCII denotes the number that is written so. -/
theorem readDigits_eq_ofDigitChars {digits : List Char} (h : ∀ c ∈ digits, c.isDigit = true)
    (value : Nat) : readDigits value digits = Nat.ofDigitChars 10 digits value := by
  induction digits generalizing value with
  | nil => simp [readDigits]
  | cons c digits ih =>
    obtain ⟨hc, hdigits⟩ := List.forall_mem_cons.mp h
    have hrest := ih hdigits (10 * value + (c.toNat - '0'.toNat))
    rw [Nat.ofDigitChars_cons, ← hrest, readDigits, List.foldl_cons,
      digitValue?_of_isAsciiDigit hc]
    rfl

end Substance.Text
