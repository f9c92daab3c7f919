import Substance.Proofs.Cutting
import Substance.Text.Numeral

/-!
# Decimals are read back

An integer written in decimal is a numeral, and it denotes that integer, as long as it has no more
digits than a numeral may have (`FewDigits`, `readInteger_toString`).  A sign stands before the
digits, and nothing else: decimals need no padding and no underscores.
-/

namespace Substance.Text

/-- The integer has no more digits than a numeral may have. -/
def FewDigits (n : Int) : Prop := (Nat.toDigits 10 n.natAbs).length ≤ maxDigits

instance : DecidablePred FewDigits := fun n =>
  inferInstanceAs (Decidable ((Nat.toDigits 10 n.natAbs).length ≤ maxDigits))

variable {digits : List Char}

/-- A row without underscores is well spaced. -/
theorem wellSpaced_of_notMem {row : List Char} (hne : row ≠ []) (h : '_' ∉ row) :
    wellSpaced row = true := by
  fun_induction wellSpaced row with
  | case1 => exact absurd rfl hne
  | case2 c => simpa using Ne.symm (List.ne_of_not_mem_cons h)
  | case3 => simp at h
  | case4 => simp at h
  | case5 c rest hrest _ _ ih => exact ih hrest (List.not_mem_of_not_mem_cons h)

/-- No digit of ASCII is padding. -/
theorem isPadding_of_isAsciiDigit {c : Char} (h : c.isDigit = true) : isPadding c = false := by
  have hblank : isBlank c = false :=
    isBlank_eq_false_of_isIdentifierPart (by simp [isIdentifierPart, Char.isAlphanum, h])
  rw [isPadding, hblank, Bool.false_and]

/-- A row of digits has no padding in front. -/
theorem dropWhile_isPadding_digits (h : ∀ c ∈ digits, c.isDigit = true) :
    digits.dropWhile isPadding = digits := by
  cases digits with
  | nil => rfl
  | cons c rest =>
    refine List.dropWhile_cons_of_neg ?_
    rw [isPadding_of_isAsciiDigit (h c List.mem_cons_self)]
    decide

/-- A row of digits has no sign. -/
theorem splitSign_digits (h : ∀ c ∈ digits, c.isDigit = true) :
    splitSign digits = (false, digits) := by
  fun_cases splitSign digits with
  | case1 rest => exact absurd (h '-' List.mem_cons_self) (by decide)
  | case2 rest => exact absurd (h '+' List.mem_cons_self) (by decide)
  | case3 => rfl

/-- The numeral of a sign and a row of digits of ASCII, not too many of them, denotes the number
that is written so. -/
theorem readInteger_of_splitSign {text : List Char} {negative : Bool}
    (hsign : splitSign (text.dropWhile isPadding) = (negative, digits)) (hne : digits ≠ [])
    (hdigits : ∀ c ∈ digits, c.isDigit = true) (hlength : digits.length ≤ maxDigits) :
    readInteger text = .ok (if negative then -(Nat.ofDigitChars 10 digits 0 : Int)
      else Nat.ofDigitChars 10 digits 0) := by
  have hrow : ∀ c ∈ digits, (isDigit c || c == '_') = true := fun c hc => by
    rw [isDigit_of_isAsciiDigit (hdigits c hc), Bool.true_or]
  have htake : digits.takeWhile (fun c => isDigit c || c == '_') = digits :=
    List.takeWhile_eq_self_iff.mpr hrow
  have hdrop : digits.dropWhile (fun c => isDigit c || c == '_') = [] :=
    List.dropWhile_eq_nil_iff.mpr hrow
  have hfilter : digits.filter isDigit = digits :=
    List.filter_eq_self.mpr fun c hc => isDigit_of_isAsciiDigit (hdigits c hc)
  have hspaced : wellSpaced digits = true :=
    wellSpaced_of_notMem hne fun hm => absurd (hdigits '_' hm) (by decide)
  simp only [readInteger, hsign, htake, hdrop, hfilter, hspaced, readDigits_eq_ofDigitChars hdigits,
    Nat.not_lt.mpr hlength, if_false, Bool.not_true, List.all_nil, Bool.false_eq_true]

/-- The decimal of an integer of few enough digits is read as that integer. -/
theorem readInteger_toString {n : Int} (h : FewDigits n) :
    readInteger (toString n).toList = .ok n := by
  have hdigits : ∀ c ∈ Nat.toDigits 10 n.natAbs, c.isDigit = true := fun c hc =>
    Nat.isDigit_of_mem_toDigits (by decide) (by decide) hc
  cases n with
  | ofNat m =>
    have htext : (toString (Int.ofNat m)).toList = Nat.toDigits 10 m := Nat.toList_repr
    have hsign : splitSign ((Nat.toDigits 10 m).dropWhile isPadding) =
        (false, Nat.toDigits 10 m) :=
      (congrArg splitSign (dropWhile_isPadding_digits hdigits)).trans (splitSign_digits hdigits)
    rw [htext, readInteger_of_splitSign hsign Nat.toDigits_ne_nil hdigits h,
      Nat.ofDigitChars_ten_toDigits]
    rfl
  | negSucc m =>
    have htext : (toString (Int.negSucc m)).toList = '-' :: Nat.toDigits 10 (m + 1) := by
      rw [Int.toString_eq_repr, Int.repr, String.toList_append, Nat.toList_repr]
      rfl
    have hsign : splitSign (('-' :: Nat.toDigits 10 (m + 1)).dropWhile isPadding) =
        (true, Nat.toDigits 10 (m + 1)) := rfl
    rw [htext, readInteger_of_splitSign hsign Nat.toDigits_ne_nil hdigits h,
      Nat.ofDigitChars_ten_toDigits]
    rfl

end Substance.Text
