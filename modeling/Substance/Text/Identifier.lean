/-!
# Identifiers

An identifier begins with an ASCII letter or an underscore and goes on with letters, digits,
underscores and primes.
-/

namespace Substance.Text

/-- May the character begin an identifier? -/
def isIdentifierStart (c : Char) : Bool := c.isAlpha || c == '_'

/-- May the character stand inside an identifier? -/
def isIdentifierPart (c : Char) : Bool := c.isAlphanum || c == '_' || c == '\''

/-- Is the text an identifier? -/
def isIdentifier : List Char → Bool
  | [] => false
  | c :: rest => isIdentifierStart c && rest.all isIdentifierPart

/-- Take the longest identifier off the front of a text. -/
def splitIdentifier? : List Char → Option (List Char × List Char)
  | [] => none
  | c :: rest =>
    if isIdentifierStart c then
      some (c :: rest.takeWhile isIdentifierPart, rest.dropWhile isIdentifierPart)
    else none

/-- Nothing is lost when an identifier is taken off. -/
theorem append_of_splitIdentifier? {text name rest : List Char}
    (h : splitIdentifier? text = some (name, rest)) : name ++ rest = text := by
  cases text with
  | nil => cases h
  | cons c tail =>
    rw [splitIdentifier?] at h
    split at h
    · cases h; simp
    · cases h

/-- What is taken off is an identifier. -/
theorem isIdentifier_of_splitIdentifier? {text name rest : List Char}
    (h : splitIdentifier? text = some (name, rest)) : isIdentifier name = true := by
  cases text with
  | nil => cases h
  | cons c tail =>
    rw [splitIdentifier?] at h
    split at h
    · next hc => cases h; simp [isIdentifier, hc]
    · cases h

end Substance.Text
