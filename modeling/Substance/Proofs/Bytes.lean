import Substance.Text.Utf8
import Mathlib.Algebra.Ring.Nat
import Mathlib.Tactic.MkIffOfInductiveProp

/-!
# Bytes of texts

Bytes are read as a text exactly if they are the bytes of that text.  The form of a code point is a
first byte, which holds its highest bits behind a mark of its length, and bytes that follow, which
hold six bits each.  The table of first bytes leaves out the code points that have a shorter form,
the surrogates, and those past the last one, by the range of the byte that comes next.

* `utf8EncodeChar_eq`: the form of a character.
* `continuation_trail_append`, `opens_of_continuation`: the bytes that follow, in both directions.
* `opens_iff_of_ofByte?`, `exists_ofByte?`: the table of first bytes against the forms.
* `decode_eq_ok_iff`: whole texts.
-/

namespace Substance.Text.Utf8

/-! ## Forms of characters -/

/-- The bytes that follow the first one, with six bits of the code point in each. -/
def trail : Nat → Nat → List UInt8
  | 0, _ => []
  | n + 1, code => UInt8.ofNat (code / 64 ^ n % 64 + 0x80) :: trail n code

theorem length_trail (n code : Nat) : (trail n code).length = n := by
  induction n with
  | zero => rfl
  | succ n ih => rw [trail, List.length_cons, ih]

/-- The number of bytes that follow the first one in the form of a code point. -/
def following (code : Nat) : Nat :=
  if code < 0x80 then 0 else if code < 0x800 then 1 else if code < 0x10000 then 2 else 3

theorem following_cases (code : Nat) :
    following code = 0 ∧ code < 0x80 ∨
    following code = 1 ∧ 0x80 ≤ code ∧ code < 0x800 ∨
    following code = 2 ∧ 0x800 ≤ code ∧ code < 0x10000 ∨
    following code = 3 ∧ 0x10000 ≤ code := by
  rw [following]
  grind

/-- What a first byte holds besides bits of the code point, when so many bytes follow it. -/
def mark : Nat → Nat
  | 0 => 0
  | 1 => 0xC0
  | 2 => 0xE0
  | _ => 0xF0

/-- The form of a character: a first byte, and those that follow it. -/
theorem utf8EncodeChar_eq (c : Char) : String.utf8EncodeChar c =
    UInt8.ofNat (c.toNat / 64 ^ following c.toNat + mark (following c.toNat)) ::
      trail (following c.toNat) c.toNat := by
  have hvalid : c.toNat < 0xD800 ∨ 0xDFFF < c.toNat ∧ c.toNat < 0x110000 := c.valid
  have hval : c.val.toNat = c.toNat := rfl
  rw [String.utf8EncodeChar, hval]
  generalize c.toNat = code at hvalid
  rcases following_cases code with ⟨hf, hlt⟩ | ⟨hf, hle, hlt⟩ | ⟨hf, hle, hlt⟩ | ⟨hf, hle⟩
  · simp [hf, mark, trail, show code ≤ 127 by omega]
  · have hbits : code / 64 % 32 = code / 64 := Nat.mod_eq_of_lt (by omega)
    simp [hf, mark, trail, hbits, show ¬code ≤ 127 by omega, show code ≤ 2047 by omega]
  · have hbits : code / 4096 % 16 = code / 4096 := Nat.mod_eq_of_lt (by omega)
    simp [hf, mark, trail, hbits, show ¬code ≤ 127 by omega, show ¬code ≤ 2047 by omega,
      show code ≤ 65535 by omega]
  · have hbits : code / 262144 % 8 = code / 262144 := Nat.mod_eq_of_lt (by omega)
    simp [hf, mark, trail, hbits, show ¬code ≤ 127 by omega, show ¬code ≤ 2047 by omega,
      show ¬code ≤ 65535 by omega]

/-- A number below 256 is that of a byte. -/
theorem toNat_ofNat_of_lt {n : Nat} (h : n < 256) : (UInt8.ofNat n).toNat = n := by
  rw [UInt8.toNat_ofNat', Nat.mod_eq_of_lt h]

/-- A code point is that of a character. -/
theorem toNat_ofNat_of_isValidChar {code : Nat} (h : code.isValidChar) :
    (Char.ofNat code).toNat = code := by
  rw [Char.ofNat, dif_pos h]
  rfl

/-- The first byte of the form of a code point is a byte. -/
theorem first_lt {code : Nat} (hcode : code.isValidChar) :
    code / 64 ^ following code + mark (following code) < 256 := by
  rw [Nat.isValidChar] at hcode
  rcases following_cases code with ⟨hf, hlt⟩ | ⟨hf, hle, hlt⟩ | ⟨hf, hle, hlt⟩ | ⟨hf, hle⟩
  all_goals
    simp only [hf, mark, Nat.reducePow, Nat.pow_zero, Nat.div_one]
    omega

/-! ## Bytes that follow -/

/-- The code point begins with the bits of the first byte, and its next six bits are in the range of
the byte that comes next. -/
@[mk_iff]
structure Lead.Opens (lead : Lead) (code : Nat) : Prop where
  front : code / 64 ^ lead.follow = lead.bits
  next : lead.follow = 0 ∨ lead.low ≤ code / 64 ^ (lead.follow - 1) % 64 + 0x80 ∧
    code / 64 ^ (lead.follow - 1) % 64 + 0x80 ≤ lead.high

/-- Six more bits stand behind those in front. -/
theorem div_pow_eq (code n : Nat) :
    code / 64 ^ n = code / 64 ^ (n + 1) * 64 + code / 64 ^ n % 64 := by
  rw [Nat.pow_succ, ← Nat.div_div_eq_div_mul]
  omega

/-- The bytes that follow in a form are read into its code point. -/
theorem continuation_trail_append {bits n low high code : Nat}
    (ho : Lead.Opens ⟨bits, n, low, high⟩ code) (rest : List UInt8) :
    continuation bits n low high (trail n code ++ rest) = .ok code := by
  induction n generalizing bits low high with
  | zero => exact congrArg Except.ok (ho.front.symm.trans (Nat.div_one code))
  | succ n ih =>
    obtain rfl : code / 64 ^ (n + 1) = bits := ho.front
    have hbyte := toNat_ofNat_of_lt (n := code / 64 ^ n % 64 + 0x80) (by omega)
    have hnext : low ≤ code / 64 ^ n % 64 + 0x80 ∧ code / 64 ^ n % 64 + 0x80 ≤ high :=
      ho.next.resolve_left (Nat.succ_ne_zero n)
    have hrest : Lead.Opens ⟨code / 64 ^ (n + 1) * 64 + code / 64 ^ n % 64, n, 0x80, 0xBF⟩ code := by
      refine ⟨div_pow_eq code n, .inr ?_⟩
      constructor <;> dsimp only <;> omega
    rw [trail, List.cons_append, continuation, hbyte, if_pos hnext, Nat.add_sub_cancel, ih hrest]

/-- Bytes are read into a code point only if they are those that follow in its form. -/
theorem opens_of_continuation {bits n low high code : Nat} {bytes : List UInt8}
    (hrange : n ≠ 0 → 0x80 ≤ low ∧ high ≤ 0xBF)
    (h : continuation bits n low high bytes = .ok code) :
    Lead.Opens ⟨bits, n, low, high⟩ code ∧ ∃ rest, bytes = trail n code ++ rest := by
  induction n generalizing bits low high bytes with
  | zero =>
    rw [continuation] at h
    cases h
    exact ⟨⟨Nat.div_one _, .inl rfl⟩, bytes, rfl⟩
  | succ n ih =>
    obtain ⟨hlow, hhigh⟩ := hrange (Nat.succ_ne_zero n)
    cases bytes with
    | nil => cases h
    | cons b bytes =>
      rw [continuation] at h
      split at h
      · next hb =>
        split at h
        · next hc =>
          cases h
          obtain ⟨ho, rest, rfl⟩ := ih (fun _ => ⟨Nat.le_refl _, Nat.le_refl _⟩) hc
          have hfront : code / 64 ^ n = bits * 64 + (b.toNat - 0x80) := ho.front
          have hbyte : code / 64 ^ n % 64 + 0x80 = b.toNat := by omega
          refine ⟨⟨?_, .inr ?_⟩, rest, ?_⟩
          · have hsplit := div_pow_eq code n
            dsimp only
            omega
          · rw [← hbyte] at hb
            exact hb
          · rw [trail, List.cons_append, hbyte, UInt8.ofNat_toNat]
        · cases h
      · cases h

/-! ## First bytes -/

/-- The table of first bytes, row by row. -/
theorem ofByte?_eq_some_iff {b : UInt8} {lead : Lead} : Lead.ofByte? b = some lead ↔
    (b.toNat < 0x80 ∧ lead = ⟨b.toNat, 0, 0, 0⟩) ∨
    (0xC2 ≤ b.toNat ∧ b.toNat < 0xE0 ∧ lead = ⟨b.toNat - 0xC0, 1, 0x80, 0xBF⟩) ∨
    (b.toNat = 0xE0 ∧ lead = ⟨0, 2, 0xA0, 0xBF⟩) ∨
    (b.toNat = 0xED ∧ lead = ⟨13, 2, 0x80, 0x9F⟩) ∨
    (0xE0 < b.toNat ∧ b.toNat < 0xF0 ∧ b.toNat ≠ 0xED ∧
      lead = ⟨b.toNat - 0xE0, 2, 0x80, 0xBF⟩) ∨
    (b.toNat = 0xF0 ∧ lead = ⟨0, 3, 0x90, 0xBF⟩) ∨
    (0xF0 < b.toNat ∧ b.toNat < 0xF4 ∧ lead = ⟨b.toNat - 0xF0, 3, 0x80, 0xBF⟩) ∨
    (b.toNat = 0xF4 ∧ lead = ⟨4, 3, 0x80, 0x8F⟩) := by
  rw [Lead.ofByte?]
  grind

/-- The bytes that no form begins with. -/
theorem ofByte?_eq_none_iff {b : UInt8} :
    Lead.ofByte? b = none ↔ 0x80 ≤ b.toNat ∧ b.toNat < 0xC2 ∨ 0xF4 < b.toNat := by
  rw [Lead.ofByte?]
  grind

/-- The byte that comes next after a first one is one that follows. -/
theorem range_of_ofByte? {b : UInt8} {lead : Lead} (h : Lead.ofByte? b = some lead) :
    lead.follow ≠ 0 → 0x80 ≤ lead.low ∧ lead.high ≤ 0xBF := by
  have := ofByte?_eq_some_iff.mp h
  grind

/-- A first byte opens just the code points whose form begins with it. -/
theorem opens_iff_of_ofByte? {b : UInt8} {lead : Lead} (h : Lead.ofByte? b = some lead)
    (code : Nat) : lead.Opens code ↔ code.isValidChar ∧ lead.follow = following code ∧
      b.toNat = code / 64 ^ lead.follow + mark lead.follow := by
  have hcases := following_cases code
  rw [Lead.opens_iff, Nat.isValidChar]
  rcases ofByte?_eq_some_iff.mp h with ⟨hb, rfl⟩ | ⟨hb, hb', rfl⟩ | ⟨hb, rfl⟩ | ⟨hb, rfl⟩ |
    ⟨hb, hb', hne, rfl⟩ | ⟨hb, rfl⟩ | ⟨hb, hb', rfl⟩ | ⟨hb, rfl⟩
  all_goals
    simp only [mark, Nat.reducePow, Nat.reduceSub, Nat.pow_zero, Nat.div_one, true_or, and_true,
      reduceCtorEq, false_or]
    omega

/-- The form of every code point begins with some first byte. -/
theorem exists_ofByte? {b : UInt8} {code : Nat} (hcode : code.isValidChar)
    (hb : b.toNat = code / 64 ^ following code + mark (following code)) :
    ∃ lead, Lead.ofByte? b = some lead ∧ lead.follow = following code := by
  rw [Nat.isValidChar] at hcode
  rcases following_cases code with ⟨hf, hlt⟩ | ⟨hf, hle, hlt⟩ | ⟨hf, hle, hlt⟩ | ⟨hf, hle⟩
  all_goals
    simp only [hf, mark, Nat.reducePow, Nat.pow_zero, Nat.div_one] at hb ⊢
    cases hl : Lead.ofByte? b with
    | none =>
      have := ofByte?_eq_none_iff.mp hl
      omega
    | some lead =>
      have := ofByte?_eq_some_iff.mp hl
      exact ⟨lead, rfl, by grind⟩

/-! ## Whole texts -/

/-- The bytes of a text are those of its characters. -/
theorem encode_eq (text : String) : encode text = text.toList.flatMap String.utf8EncodeChar := by
  rw [encode, String.toUTF8_eq_toByteArray, ← String.utf8Encode_toList]
  simp [List.utf8Encode]

/-- A character at the front is read. -/
theorem decodeFrom_utf8EncodeChar_append (position : Nat) (c : Char) (rest : List UInt8) :
    decodeFrom position (String.utf8EncodeChar c ++ rest) =
      (decodeFrom (position + 1 + following c.toNat) rest).map (c :: ·) := by
  have hvalid : c.toNat.isValidChar := c.valid
  have hb := toNat_ofNat_of_lt (first_lt hvalid)
  obtain ⟨lead, hlead, hfollow⟩ := exists_ofByte? hvalid hb
  have hopens := (opens_iff_of_ofByte? hlead c.toNat).mpr ⟨hvalid, hfollow, hfollow ▸ hb⟩
  have hread := continuation_trail_append hopens rest
  rw [utf8EncodeChar_eq, List.cons_append, decodeFrom, hlead]
  dsimp only
  rw [← hfollow, hread]
  dsimp only
  rw [List.drop_left' (length_trail _ _), Char.ofNat_toNat]
  cases decodeFrom (position + 1 + lead.follow) rest <;> rfl

/-- The bytes of characters are read as these. -/
theorem decodeFrom_flatMap (position : Nat) (text : List Char) :
    decodeFrom position (text.flatMap String.utf8EncodeChar) = .ok text := by
  induction text generalizing position with
  | nil => rw [List.flatMap_nil, decodeFrom]
  | cons c text ih =>
    rw [List.flatMap_cons, decodeFrom_utf8EncodeChar_append, ih]
    rfl

/-- Bytes that are read are those of the characters. -/
theorem eq_flatMap_of_decodeFrom {position : Nat} {bytes : List UInt8} {text : List Char}
    (h : decodeFrom position bytes = .ok text) : bytes = text.flatMap String.utf8EncodeChar := by
  fun_induction decodeFrom position bytes generalizing text with
  | case1 =>
    cases h
    rfl
  | case4 position b bytes lead hlead code hcode text' hrest ih =>
    cases h
    obtain ⟨hopens, rest, hbytes⟩ := opens_of_continuation (range_of_ofByte? hlead) hcode
    obtain ⟨hvalid, hfollow, hb⟩ := (opens_iff_of_ofByte? hlead code).mp hopens
    have hform : String.utf8EncodeChar (Char.ofNat code) = b :: trail lead.follow code := by
      rw [utf8EncodeChar_eq, toNat_ofNat_of_isValidChar hvalid, ← hfollow, ← hb, UInt8.ofNat_toNat]
    have hdrop : bytes.drop lead.follow = rest := by
      rw [hbytes, List.drop_left' (length_trail _ _)]
    rw [List.flatMap_cons, hform, List.cons_append, ← ih hrest, hdrop, hbytes]
  | _ => cases h

/-- Bytes are read as a text exactly if they are the bytes of that text. -/
theorem decode_eq_ok_iff {bytes : List UInt8} {text : List Char} :
    decode bytes = .ok text ↔ bytes = encode (String.ofList text) := by
  rw [encode_eq, String.toList_ofList]
  constructor
  · intro h
    exact eq_flatMap_of_decodeFrom h
  · rintro rfl
    exact decodeFrom_flatMap 0 text

/-- The bytes of a text are read as this text. -/
theorem decode_encode (text : String) : decode (encode text) = .ok text.toList := by
  rw [decode_eq_ok_iff, String.ofList_toList]

end Substance.Text.Utf8
