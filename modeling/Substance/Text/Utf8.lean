/-!
# UTF-8

Bytes are read as UTF-8 without tolerance: overlong forms, surrogates and code points past U+10FFFF
are refused.  A refusal tells the place of the first bad sequence, the bytes of it that were
readable together, and what is wrong.
-/

namespace Substance.Text.Utf8

/-- What is wrong with a sequence of bytes. -/
inductive Reason where
  | invalidStart
  | invalidContinuation
  | unexpectedEnd
deriving DecidableEq, Repr

/-- A refusal: the bad sequence starts at `position` and holds the given bytes. -/
structure Fault where
  position : Nat
  bytes : List UInt8
  reason : Reason
deriving DecidableEq, Repr

/-- The wording of a reason. -/
def Reason.message : Reason → String
  | .invalidStart => "invalid start byte"
  | .invalidContinuation => "invalid continuation byte"
  | .unexpectedEnd => "unexpected end of data"

/-- The two hexadecimal digits of a byte. -/
def byteHex (b : UInt8) : String :=
  String.ofList [Nat.digitChar (b.toNat / 16), Nat.digitChar (b.toNat % 16)]

/-- What is said of bytes that are no text. -/
def Fault.message (f : Fault) : String :=
  match f.bytes with
  | [b] => s!"'utf-8' codec can't decode byte 0x{byteHex b} in position {f.position}: " ++
      f.reason.message
  | bytes => s!"'utf-8' codec can't decode bytes in position {f.position}-" ++
      s!"{f.position + bytes.length - 1}: " ++ f.reason.message

/-- What a first byte says: the high bits of the code point, the number of bytes that follow, and
the range of the first of them. -/
structure Lead where
  bits : Nat
  follow : Nat
  low : Nat
  high : Nat
deriving DecidableEq, Repr

/-- The meaning of a first byte.  The narrow ranges leave out overlong forms, surrogates and code
points past the last one. -/
def Lead.ofByte? (b : UInt8) : Option Lead :=
  let n := b.toNat
  if n < 0x80 then some ⟨n, 0, 0, 0⟩
  else if n < 0xC2 then none
  else if n < 0xE0 then some ⟨n - 0xC0, 1, 0x80, 0xBF⟩
  else if n = 0xE0 then some ⟨0, 2, 0xA0, 0xBF⟩
  else if n = 0xED then some ⟨13, 2, 0x80, 0x9F⟩
  else if n < 0xF0 then some ⟨n - 0xE0, 2, 0x80, 0xBF⟩
  else if n = 0xF0 then some ⟨0, 3, 0x90, 0xBF⟩
  else if n < 0xF4 then some ⟨n - 0xF0, 3, 0x80, 0xBF⟩
  else if n = 0xF4 then some ⟨4, 3, 0x80, 0x8F⟩
  else none

/-- Read the bytes that follow a first byte into the code point.  A failure tells how many of them
were good and why the next one is not. -/
def continuation (bits : Nat) : (follow low high : Nat) → List UInt8 → Except (Nat × Reason) Nat
  | 0, _, _, _ => .ok bits
  | _ + 1, _, _, [] => .error (0, .unexpectedEnd)
  | follow + 1, low, high, b :: rest =>
    if low ≤ b.toNat ∧ b.toNat ≤ high then
      match continuation (bits * 64 + (b.toNat - 0x80)) follow 0x80 0xBF rest with
      | .ok code => .ok code
      | .error (good, reason) => .error (good + 1, reason)
    else .error (0, .invalidContinuation)

/-- Read bytes that stand at the given position. -/
def decodeFrom (position : Nat) : List UInt8 → Except Fault (List Char)
  | [] => .ok []
  | b :: rest =>
    match Lead.ofByte? b with
    | none => .error ⟨position, [b], .invalidStart⟩
    | some lead =>
      match continuation lead.bits lead.follow lead.low lead.high rest with
      | .error (good, reason) => .error ⟨position, b :: rest.take good, reason⟩
      | .ok code =>
        match decodeFrom (position + 1 + lead.follow) (rest.drop lead.follow) with
        | .ok text => .ok (Char.ofNat code :: text)
        | .error fault => .error fault
termination_by bytes => bytes.length

/-- The bytes of a text. -/
def encode (text : String) : List UInt8 := text.toUTF8.data.toList

/-- The text that bytes stand for. -/
def decode (bytes : List UInt8) : Except Fault (List Char) := decodeFrom 0 bytes

end Substance.Text.Utf8
