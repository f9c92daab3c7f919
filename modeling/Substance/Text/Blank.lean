/-!
# Blank characters

The characters that separate words and pad lines: the Unicode white space characters together with
the four information separators U+001C to U+001F.  A zero-width space and a byte order mark are not
blank.
-/

namespace Substance.Text

/-- A range of code points, both ends included. -/
structure CodeRange where
  first : Nat
  last : Nat
deriving DecidableEq, Repr

/-- Does the range hold the character? -/
def CodeRange.contains (r : CodeRange) (c : Char) : Bool := r.first ≤ c.toNat && c.toNat ≤ r.last

/-- The code points of the blank characters. -/
def blankRanges : List CodeRange := [
  ⟨0x0009, 0x000D⟩, ⟨0x001C, 0x0020⟩, ⟨0x0085, 0x0085⟩, ⟨0x00A0, 0x00A0⟩, ⟨0x1680, 0x1680⟩,
  ⟨0x2000, 0x200A⟩, ⟨0x2028, 0x2029⟩, ⟨0x202F, 0x202F⟩, ⟨0x205F, 0x205F⟩, ⟨0x3000, 0x3000⟩]

/-- Is the character blank? -/
def isBlank (c : Char) : Bool := blankRanges.any (·.contains c)

/-- Take characters of a class away from both ends of a text. -/
def trim (p : Char → Bool) (text : List Char) : List Char :=
  ((text.dropWhile p).reverse.dropWhile p).reverse

/-- Take the blanks away from both ends of a text. -/
def strip (text : List Char) : List Char := trim isBlank text

/-- The characters up to the first blank, the blanks in front set aside. -/
def firstWord (text : List Char) : List Char :=
  (text.dropWhile isBlank).takeWhile (!isBlank ·)

end Substance.Text
