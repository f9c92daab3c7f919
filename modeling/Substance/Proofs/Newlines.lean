import Substance.Proofs.Cutting

/-!
# Where lines end

The lines of a text are the same however its line ends are written, and a text up to the end of one
of its lines has the lines up to there.

* `lines_unifyNewlines`: carriage returns may be written as line feeds.
* `front`, `front_prefix`, `lines_front`: the first lines of a text.
-/

namespace Substance.Text

/-- The text up to the end of so many lines, with the characters that end them. -/
def front : Nat → List Char → List Char
  | 0, _ => []
  | _ + 1, [] => []
  | count + 1, '\r' :: '\n' :: rest => '\r' :: '\n' :: front count rest
  | count + 1, c :: rest =>
    if isLineEnd c then c :: front count rest else c :: front (count + 1) rest

variable {c : Char} {rest : List Char}

/-- A carriage return and a line feed end one line. -/
theorem lines_crlf (rest : List Char) : lines ('\r' :: '\n' :: rest) = [] :: lines rest := by
  rw [lines]

/-- A line feed ends a line, whatever follows it. -/
theorem lines_lf (rest : List Char) : lines ('\n' :: rest) = [] :: lines rest :=
  lines_cons_of_isLineEnd (by decide) fun h => absurd h.1 (by decide)

/-- What is not a carriage return before a line feed, said of the first character behind it. -/
theorem not_crlf (h : ∀ more, c = '\r' → rest = '\n' :: more → False) :
    ¬(c = '\r' ∧ rest.head? = some '\n') := by
  rintro ⟨hc, hhead⟩
  obtain ⟨more, hmore⟩ := List.head?_eq_some_iff.mp hhead
  exact h more hc hmore

/-- The lines are the same when every line end that is a carriage return, alone or before a line
feed, is written as a line feed. -/
theorem lines_unifyNewlines (text : List Char) : lines (unifyNewlines text) = lines text := by
  fun_induction unifyNewlines text with
  | case1 => rfl
  | case2 rest ih => rw [lines_crlf, lines_lf, ih]
  | case3 rest hrest ih =>
    have halone := not_crlf (c := '\r') fun more _ => hrest more
    rw [lines_lf, lines_cons_of_isLineEnd (by decide) halone, ih]
  | case4 c rest _ hc ih =>
    have halone : ∀ more : List Char, ¬(c = '\r' ∧ more.head? = some '\n') := fun _ h => hc h.1
    cases hend : isLineEnd c with
    | true =>
      rw [lines_cons_of_isLineEnd hend (halone _), lines_cons_of_isLineEnd hend (halone _), ih]
    | false => rw [lines_cons_of_unbroken hend, lines_cons_of_unbroken hend, ih]

/-- The first lines stand at the front of the text. -/
theorem front_prefix (count : Nat) (text : List Char) : front count text <+: text := by
  fun_induction front count text with
  | case1 => exact List.nil_prefix
  | case2 => exact List.nil_prefix
  | case3 _ _ ih => simpa using ih
  | case4 _ _ _ _ _ ih => simpa using ih
  | case5 _ _ _ _ _ ih => simpa using ih

/-- Up to the end of so many lines a text has just these. -/
theorem lines_front (count : Nat) (text : List Char) :
    lines (front count text) = (lines text).take count := by
  fun_induction front count text with
  | case1 => rfl
  | case2 => rfl
  | case3 count rest ih => rw [lines_crlf, lines_crlf, ih, List.take_succ_cons]
  | case4 count c rest hrest hend ih =>
    -- the cut does not bring a line feed behind a carriage return
    have hfront : ¬(c = '\r' ∧ (front count rest).head? = some '\n') := by
      refine not_crlf fun more hc hmore => ?_
      obtain ⟨back, hback⟩ := hmore ▸ front_prefix count rest
      exact hrest (more ++ back) hc hback.symm
    rw [lines_cons_of_isLineEnd hend hfront, lines_cons_of_isLineEnd hend (not_crlf hrest), ih,
      List.take_succ_cons]
  | case5 count c rest _ hend ih =>
    have hinner : isLineEnd c = false := by simpa using hend
    rw [lines_cons_of_unbroken hinner, lines_cons_of_unbroken hinner, ih]
    cases lines rest <;> simp

end Substance.Text
