import Substance.Domain.File
import Substance.Proofs.Newlines
import Substance.Proofs.Parsing

/-!
# The line at fault

A text that is no domain is told so by the first of its lines that the lines before it do not let
through.  Of those lines only the predicates count that they declare, and the lines behind it do not
count at all.

* `addLines_append`, `addLines_eq_error_iff`: lines are added up to the first that is refused.
* `addRaw_eq_error_of_predicates`: what a refusal depends on.
* `parse_front_succ`, `exists_parse_eq_error_iff`: a text up to the end of one of its lines.
* `parse_eq_error_of_declaredBefore`: what a fault takes from the lines before it.
* `toldByLine`: the line that is told.
-/

namespace Substance

open Text Line Schema

variable {s s' : Schema} {raw : List Char} {raws : List (List Char)} {cause : LineFault}
  {text other file : String} {i j : Nat}

/-! ## The first line that is refused -/

/-- Lines are added to what the lines before them leave, and counted on. -/
theorem addLines_append (number : Nat) (s : Schema) (raws more : List (List Char)) :
    addLines number s (raws ++ more) =
      (addLines number s raws).bind fun s' => addLines (number + raws.length) s' more := by
  induction raws generalizing number s with
  | nil => rfl
  | cons raw raws ih =>
    rw [List.cons_append, addLines, addLines]
    cases s.addRaw raw with
    | error e => rfl
    | ok s₁ =>
      dsimp only
      rw [ih, List.length_cons, Nat.add_right_comm, Nat.add_assoc]

/-- A fault is that of the first line that is refused: those before it are added, and it is not. -/
theorem addLines_eq_error_iff {number k : Nat} : addLines number s raws = .error ⟨k, cause⟩ ↔
    ∃ i raw s', k = number + i ∧ raws[i]? = some raw ∧
      addLines number s (raws.take i) = .ok s' ∧ s'.addRaw raw = .error cause := by
  induction raws generalizing number s with
  | nil => simp [addLines]
  | cons raw raws ih =>
    rw [addLines]
    cases hadd : s.addRaw raw with
    | error e =>
      constructor
      · intro h
        cases h
        exact ⟨0, raw, s, rfl, rfl, rfl, hadd⟩
      · rintro ⟨i, raw', s', rfl, hraw, hfront, hrefused⟩
        cases i with
        | zero =>
          cases hraw
          cases hfront
          rw [hadd] at hrefused
          cases hrefused
          rfl
        | succ i => simp [addLines, hadd] at hfront
    | ok s₁ =>
      dsimp only
      rw [ih]
      constructor
      · rintro ⟨i, raw', s', rfl, hraw, hfront, hrefused⟩
        refine ⟨i + 1, raw', s', Nat.add_right_comm number 1 i, hraw, ?_, hrefused⟩
        rw [List.take_succ_cons, addLines, hadd]
        exact hfront
      · rintro ⟨i, raw', s', rfl, hraw, hfront, hrefused⟩
        cases i with
        | zero =>
          cases hraw
          cases hfront
          rw [hadd] at hrefused
          cases hrefused
        | succ i =>
          rw [List.take_succ_cons, addLines, hadd] at hfront
          exact ⟨i, raw', s', (Nat.add_right_comm number 1 i).symm, hraw, hfront, hrefused⟩

/-- A line is refused in view of the names of the predicates so far, and of nothing else. -/
theorem addRaw_eq_error_of_predicates
    (h : ∀ name, s.predicates.get? name = none ↔ s'.predicates.get? name = none)
    (he : s.addRaw raw = .error cause) : s'.addRaw raw = .error cause := by
  rw [addRaw] at he ⊢
  cases hr : read? (content raw) with
  | none =>
    rw [hr] at he
    cases he
    rfl
  | some x =>
    rw [hr] at he
    cases x with
    | predicate name arguments =>
      dsimp only at he ⊢
      rw [addLine] at he ⊢
      cases hp : s.predicates.get? name with
      | none =>
        rw [hp] at he
        rw [(h name).mp hp]
        cases hs : Line.signature name arguments with
        | error e =>
          rw [hs] at he
          cases he
          rfl
        | ok signature => simp [hs, bind, Except.bind, pure, Except.pure] at he
      | some signature =>
        rw [hp] at he
        cases he
        obtain ⟨signature', hp'⟩ := Option.ne_none_iff_exists'.mp
          (mt (h name).mpr (by rw [hp]; exact Option.some_ne_none _))
        rw [hp']
        rfl
    | _ => cases he

/-! ## The first lines of a text -/

/-- The characters write a domain. -/
def IsDomain (text : List Char) : Prop := ∃ s, parse (String.ofList text) = .ok s

/-- The text up to the end of one of its lines is read line by line. -/
theorem parse_front (text : String) (count : Nat) :
    parse (String.ofList (front count text.toList)) =
      addLines 1 Schema.empty ((lines text.toList).take count) := by
  rw [parse, String.toList_ofList, lines_front]

/-- A fault is told of the line behind which a text is no longer a domain. -/
theorem parse_eq_error_iff {k : Nat} : parse text = .error ⟨k, cause⟩ ↔
    ∃ i raw s', k = i + 1 ∧ (lines text.toList)[i]? = some raw ∧
      parse (String.ofList (front i text.toList)) = .ok s' ∧ s'.addRaw raw = .error cause := by
  simp only [parse_front, Nat.add_comm _ 1]
  exact addLines_eq_error_iff

/-- Behind the first lines the next one is added, or it is at fault. -/
theorem parse_front_succ (hraw : (lines text.toList)[i]? = some raw)
    (hfront : parse (String.ofList (front i text.toList)) = .ok s) :
    parse (String.ofList (front (i + 1) text.toList)) =
      (s.addRaw raw).mapError fun cause => ⟨i + 1, cause⟩ := by
  rw [parse_front] at hfront ⊢
  obtain ⟨hi, -⟩ := List.getElem?_eq_some_iff.mp hraw
  have hlength : 1 + ((lines text.toList).take i).length = i + 1 := by
    rw [List.length_take_of_le (Nat.le_of_lt hi), Nat.add_comm]
  rw [List.take_add_one, hraw, Option.toList_some, addLines_append, hfront, hlength, Except.bind,
    addLines]
  cases s.addRaw raw <;> rfl

/-- The text up to the end of its last line has all of its lines. -/
theorem parse_front_succ_of_length_le (hi : (lines text.toList).length ≤ i) :
    parse (String.ofList (front (i + 1) text.toList)) =
      parse (String.ofList (front i text.toList)) := by
  rw [parse_front, parse_front, List.take_of_length_le hi, List.take_of_length_le (by omega)]

/-- A line is at fault exactly if the text is a domain up to its beginning, and is none up to its
end. -/
theorem exists_parse_eq_error_iff {k : Nat} : (∃ cause, parse text = .error ⟨k, cause⟩) ↔
    IsDomain (front (k - 1) text.toList) ∧ ¬IsDomain (front k text.toList) := by
  constructor
  · rintro ⟨cause, h⟩
    obtain ⟨i, raw, s, rfl, hraw, hfront, hrefused⟩ := parse_eq_error_iff.mp h
    refine ⟨⟨s, hfront⟩, ?_⟩
    rintro ⟨s', hs'⟩
    rw [parse_front_succ hraw hfront, hrefused] at hs'
    cases hs'
  · rintro ⟨⟨s, hs⟩, hnot⟩
    cases k with
    | zero => exact absurd ⟨s, hs⟩ hnot
    | succ i =>
      rw [Nat.add_sub_cancel] at hs
      cases hraw : (lines text.toList)[i]? with
      | none =>
        have hsame := parse_front_succ_of_length_le (List.getElem?_eq_none_iff.mp hraw)
        exact absurd ⟨s, hsame.trans hs⟩ hnot
      | some raw =>
        cases hadd : s.addRaw raw with
        | ok s' =>
          have hnext := parse_front_succ hraw hs
          rw [hadd] at hnext
          exact absurd ⟨s', hnext⟩ hnot
        | error cause => exact ⟨cause, parse_eq_error_iff.mpr ⟨i, raw, s, rfl, hraw, hs, hadd⟩⟩

/-- The line at fault is one of the text. -/
theorem line_bounds_of_parse {k : Nat} (h : parse text = .error ⟨k, cause⟩) :
    1 ≤ k ∧ k ≤ (lines text.toList).length := by
  obtain ⟨i, raw, s, rfl, hraw, -⟩ := parse_eq_error_iff.mp h
  obtain ⟨hi, -⟩ := List.getElem?_eq_some_iff.mp hraw
  exact ⟨Nat.succ_pos i, hi⟩

/-- The lines behind the one at fault do not count. -/
theorem parse_eq_error_of_take_eq {k : Nat} (h : parse text = .error ⟨k, cause⟩)
    (hsame : (lines other.toList).take k = (lines text.toList).take k) :
    parse other = .error ⟨k, cause⟩ := by
  obtain ⟨i, raw, s, rfl, hraw, hfront, hrefused⟩ := parse_eq_error_iff.mp h
  refine parse_eq_error_iff.mpr ⟨i, raw, s, rfl, ?_, ?_, hrefused⟩
  · rw [← hraw, ← List.getElem?_take_of_lt (Nat.lt_succ_self i), hsame,
      List.getElem?_take_of_lt (Nat.lt_succ_self i)]
  · have hbefore : (lines other.toList).take i = (lines text.toList).take i := by
      have htake := congrArg (List.take i) hsame
      rwa [List.take_take, List.take_take, Nat.min_eq_left (Nat.le_succ i)] at htake
    rw [parse_front, hbefore, ← parse_front, hfront]

/-! ## What a line takes from those before it -/

/-- One of the first lines of the text declares a predicate of this name. -/
def DeclaredBefore (count : Nat) (text : String) (name : String) : Prop :=
  ∃ raw ∈ (lines text.toList).take count, DeclaresPredicate name (content raw)

/-- The schema of the first lines has the predicates that these declare. -/
theorem get?_eq_none_iff_of_front (hfront : parse (String.ofList (front i text.toList)) = .ok s)
    (name : String) : s.predicates.get? name = none ↔ ¬DeclaredBefore i text name := by
  rw [parse_front] at hfront
  have hdescribes := describes_empty.addLines hfront
  have hgrammatical := (exists_addLines_iff describes_empty grammatical_nil 1 _).mp ⟨s, hfront⟩
  rw [hdescribes.get?_eq_none_iff hgrammatical, List.nil_append, List.forall_mem_map]
  simp only [DeclaredBefore, not_exists, not_and]

/-- A line is at fault, and for the same cause, wherever it stands behind lines that make up a domain
and declare the same predicates. -/
theorem parse_eq_error_of_declaredBefore (hraw : (lines text.toList)[i]? = some raw)
    (hraw' : (lines other.toList)[j]? = some raw) (hfront' : IsDomain (front j other.toList))
    (hnames : ∀ name, DeclaredBefore i text name ↔ DeclaredBefore j other name)
    (h : parse text = .error ⟨i + 1, cause⟩) : parse other = .error ⟨j + 1, cause⟩ := by
  obtain ⟨_, _, s, hi, hline, hfront, hrefused⟩ := parse_eq_error_iff.mp h
  obtain rfl := Nat.succ.inj hi
  obtain rfl := Option.some.inj (hraw.symm.trans hline)
  obtain ⟨s', hfront'⟩ := hfront'
  refine parse_eq_error_iff.mpr ⟨j, raw, s', rfl, hraw', hfront', ?_⟩
  refine addRaw_eq_error_of_predicates (fun name => ?_) hrefused
  rw [get?_eq_none_iff_of_front hfront, get?_eq_none_iff_of_front hfront', hnames]

/-! ## Texts for a file -/

/-- What counts of a line begins with a word, unless nothing of it counts. -/
theorem firstWord_content_ne_nil (h : content raw ≠ []) : firstWord (content raw) ≠ [] := by
  obtain ⟨c, rest, hline⟩ := List.exists_cons_of_ne_nil h
  have hc : isBlank c = false := (trimmed_content raw).head c (by rw [hline]; rfl)
  simp [hline, firstWord, hc]

/-- A fault of a text is told with the name of its file. -/
theorem ofNotation_eq_error_iff {fault : DomainFault} : Domain.ofNotation file text = .error fault ↔
    ∃ told, parse text = .error told ∧ fault = ⟨file, .line told⟩ := by
  rw [Domain.ofNotation]
  cases parse text with
  | ok s => simp
  | error told => simp [eq_comm]

/-- A fault of a line is told for a file exactly if it is one of the text. -/
theorem ofNotation_eq_line_iff {told : NotationFault} :
    Domain.ofNotation file text = .error ⟨file, .line told⟩ ↔ parse text = .error told := by
  rw [ofNotation_eq_error_iff]
  constructor
  · rintro ⟨other, h, hsame⟩
    cases hsame
    exact h
  · intro h
    exact ⟨told, h, rfl⟩

/-- A fault of a line is told with its number. -/
theorem message_line {k : Nat} (hk : 1 ≤ k) (cause : LineFault) :
    (DomainFault.mk file (.line ⟨k, cause⟩)).message = s!"{file}:{k}: " ++ cause.message := by
  have hnumber : (DomainCause.line ⟨k, cause⟩).lineNumber = k := rfl
  have htext : (DomainCause.line ⟨k, cause⟩).text = cause.message := rfl
  rw [DomainFault.message]
  dsimp only
  rw [hnumber, htext, if_neg (Nat.ne_of_gt hk)]
  simp only [toString, String.append_assoc]

/-- How a text for a file is told that it is no domain. -/
structure ToldByLine (file text : String) : Prop where
  /-- The text is read, or some line of it is at fault. -/
  outcome : (∃ s, Domain.ofNotation file text = .ok s) ∨
    ∃ k cause, Domain.ofNotation file text = .error ⟨file, .line ⟨k, cause⟩⟩
  /-- A line of which something counts has a first word. -/
  words : ∀ raw ∈ lines text.toList, content raw ≠ [] → firstWord (content raw) ≠ []
  /-- A line is at fault exactly if the text is a domain up to its beginning and none up to its
  end. -/
  line : ∀ k, (∃ cause, Domain.ofNotation file text = .error ⟨file, .line ⟨k, cause⟩⟩) ↔
    IsDomain (front (k - 1) text.toList) ∧ ¬IsDomain (front k text.toList)
  /-- It is one of the text, and what is said begins with the file and the number of the line. -/
  place : ∀ k cause, Domain.ofNotation file text = .error ⟨file, .line ⟨k, cause⟩⟩ →
    1 ≤ k ∧ k ≤ (lines text.toList).length ∧
      (DomainFault.mk file (.line ⟨k, cause⟩)).message = s!"{file}:{k}: " ++ cause.message
  /-- The lines behind it do not count. -/
  behind : ∀ k cause other, (lines other.toList).take k = (lines text.toList).take k →
    Domain.ofNotation file text = .error ⟨file, .line ⟨k, cause⟩⟩ →
      Domain.ofNotation file other = .error ⟨file, .line ⟨k, cause⟩⟩
  /-- Of the lines before it only the predicates count that they declare: another text, in which the
  same line stands behind lines that make up a domain and declare the same predicates, has the same
  fault there. -/
  before : ∀ i j other raw, (lines text.toList)[i]? = some raw →
    (lines other.toList)[j]? = some raw →
    IsDomain (front i text.toList) → IsDomain (front j other.toList) →
    (∀ name, DeclaredBefore i text name ↔ DeclaredBefore j other name) →
    ∀ cause, Domain.ofNotation file text = .error ⟨file, .line ⟨i + 1, cause⟩⟩ ↔
      Domain.ofNotation file other = .error ⟨file, .line ⟨j + 1, cause⟩⟩

/-- Every text is told by the line that it is no domain, if it is none. -/
theorem toldByLine (file text : String) : ToldByLine file text where
  outcome := by
    cases h : Domain.ofNotation file text with
    | ok s => exact .inl ⟨s, rfl⟩
    | error fault =>
      obtain ⟨⟨k, cause⟩, -, rfl⟩ := ofNotation_eq_error_iff.mp h
      exact .inr ⟨k, cause, rfl⟩
  words raw _ h := firstWord_content_ne_nil h
  line k := by
    simp only [ofNotation_eq_line_iff]
    exact exists_parse_eq_error_iff
  place k cause h := by
    obtain ⟨hk, hlength⟩ := line_bounds_of_parse (ofNotation_eq_line_iff.mp h)
    exact ⟨hk, hlength, message_line hk cause⟩
  behind k cause other hsame h := by
    rw [ofNotation_eq_line_iff] at h ⊢
    exact parse_eq_error_of_take_eq h hsame
  before i j other raw hraw hraw' hfront hfront' hnames cause := by
    rw [ofNotation_eq_line_iff, ofNotation_eq_line_iff]
    constructor
    · exact parse_eq_error_of_declaredBefore hraw hraw' hfront' hnames
    · exact parse_eq_error_of_declaredBefore hraw' hraw hfront fun name => (hnames name).symm

/-- Lines are counted at every kind of line end. -/
example : Domain.ofNotation "d.dsl" "type A\r\n\r\rpredicate P -- a comment\u2028predicate P" =
    .error ⟨"d.dsl", .line ⟨5, .declaredTwice "P"⟩⟩ := by decide +kernel

end Substance
