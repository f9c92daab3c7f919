/-!
# Cutting texts at a separator
-/

namespace Substance.Text

/-- The parts of a text between separators.  There is one more part than there are separators. -/
def splitOn (separator : Char) : List Char → List (List Char)
  | [] => [[]]
  | c :: rest =>
    if c = separator then [] :: splitOn separator rest
    else match splitOn separator rest with
      | [] => [[c]]
      | part :: parts => (c :: part) :: parts

/-- There is one more part than there are separators. -/
theorem length_splitOn (separator : Char) (text : List Char) :
    (splitOn separator text).length = text.count separator + 1 := by
  induction text with
  | nil => rfl
  | cons c rest ih =>
    rw [splitOn]
    split
    · next h => simp [h, ih]
    · next h =>
      cases hs : splitOn separator rest with
      | nil => simp [hs] at ih
      | cons part parts =>
        rw [hs] at ih
        simpa [List.count_cons, h] using ih

end Substance.Text
