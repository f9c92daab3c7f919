import Substance.Proofs.Bytes
import Substance.Proofs.Lexical

/-!
# Printing loses nothing

Statements whose words are identifiers can be told from their text: an identifier ends where no
further character belongs to it, what comes next tells the forms of statements apart, and no line
end stands within a line.  So programs of such statements are printed alike only if they have the
same statements, and the same holds of the bytes that are written for them.

* `append_inj_of_head`: the front of a class of characters and what follows it.
* `toList_format`: the text of a statement as a word and what follows it.
* `Statement.IsLexical.eq_of_format_eq`: statements.
* `format_eq_iff`: programs.
-/

namespace Substance

open Text

/-- The words of a statement. -/
def Statement.words : Statement → List String
  | .declaration type name arguments => type :: name :: arguments
  | .application predicate arguments => predicate :: arguments

/-- The words of a statement are identifiers. -/
def Statement.IsLexical (s : Statement) : Prop := ∀ word ∈ s.words, IsWord word

/-! ## Fronts -/

/-- Texts determine their fronts of a class of characters, and what follows these. -/
theorem append_inj_of_head {p : Char → Bool} {front front' rest rest' : List Char}
    (hf : ∀ c ∈ front, p c = true) (hf' : ∀ c ∈ front', p c = true)
    (hr : ∀ c ∈ rest.head?, p c = false) (hr' : ∀ c ∈ rest'.head?, p c = false)
    (h : front ++ rest = front' ++ rest') : front = front' ∧ rest = rest' := by
  constructor
  · rw [← takeWhile_append_of_head hf hr, h, takeWhile_append_of_head hf' hr']
  · rw [← dropWhile_append_of_head hf hr, h, dropWhile_append_of_head hf' hr']

/-- Texts determine the identifiers that they begin with, and what follows these. -/
theorem word_append_inj {word word' : String} {rest rest' : List Char} (hw : IsWord word)
    (hw' : IsWord word') (hr : ∀ c ∈ rest.head?, isIdentifierPart c = false)
    (hr' : ∀ c ∈ rest'.head?, isIdentifierPart c = false)
    (h : word.toList ++ rest = word'.toList ++ rest') : word = word' ∧ rest = rest' := by
  obtain ⟨hword, hrest⟩ := append_inj_of_head (isIdentifierPart_of_mem hw)
    (isIdentifierPart_of_mem hw') hr hr' h
  exact ⟨String.toList_inj.mp hword, hrest⟩

/-- Texts determine their first lines, and what follows these. -/
theorem line_append_inj {line line' rest rest' : List Char} (hl : '\n' ∉ line) (hl' : '\n' ∉ line')
    (h : line ++ '\n' :: rest = line' ++ '\n' :: rest') : line = line' ∧ rest = rest' := by
  have hclass : ∀ {l : List Char}, '\n' ∉ l → ∀ c ∈ l, (c != '\n') = true := fun hn c hc =>
    bne_iff_ne.mpr fun he => hn (he ▸ hc)
  obtain ⟨hline, hrest⟩ := append_inj_of_head (hclass hl) (hclass hl') (by simp) (by simp) h
  exact ⟨hline, (List.cons.inj hrest).2⟩

/-! ## Statements -/

/-- The words in parentheses, up to the one that closes them. -/
def listed (words : List String) : List Char :=
  [',', ' '].intercalate (words.map String.toList) ++ [')']

/-- What follows the first one of the words in parentheses. -/
def listedRest : List String → List Char
  | [] => [')']
  | words => ',' :: ' ' :: listed words

/-- A listed word comes before the rest. -/
theorem listed_cons (word : String) (words : List String) :
    listed (word :: words) = word.toList ++ listedRest words := by
  cases words with
  | nil => simp [listed, listedRest]
  | cons next words => simp [listed, listedRest, List.intercalate_cons_cons]

/-- What follows a listed word does not belong to it. -/
theorem isIdentifierPart_of_mem_head?_listedRest (words : List String) :
    ∀ c ∈ (listedRest words).head?, isIdentifierPart c = false := by
  cases words <;> simp only [listedRest, List.head?_cons, Option.mem_some_iff] <;> rintro c rfl <;>
    decide

/-- A parenthesis that closes is not where a listed word begins. -/
theorem listed_cons_ne {word : String} (hw : IsWord word) (words : List String) :
    listed (word :: words) ≠ [')'] := by
  intro h
  rw [listed_cons] at h
  cases hword : word.toList with
  | nil =>
    rw [IsWord, hword] at hw
    cases hw
  | cons c rest =>
    rw [hword] at h
    obtain rfl := (List.cons.inj h).1
    have hpart := isIdentifierPart_of_mem hw ')' (by rw [hword]; exact List.mem_cons_self)
    exact absurd hpart (by decide)

/-- Identifiers can be told from their list. -/
theorem listed_inj {words words' : List String} (hw : ∀ word ∈ words, IsWord word)
    (hw' : ∀ word ∈ words', IsWord word) (h : listed words = listed words') : words = words' := by
  induction words generalizing words' with
  | nil =>
    cases words' with
    | nil => rfl
    | cons word words' => exact absurd h.symm (listed_cons_ne (hw' word List.mem_cons_self) words')
  | cons word words ih =>
    obtain ⟨hword, hwords⟩ := List.forall_mem_cons.mp hw
    cases words' with
    | nil => exact absurd h (listed_cons_ne hword words)
    | cons word' words' =>
      obtain ⟨hword', hwords'⟩ := List.forall_mem_cons.mp hw'
      rw [listed_cons, listed_cons] at h
      obtain ⟨rfl, hrest⟩ := word_append_inj hword hword'
        (isIdentifierPart_of_mem_head?_listedRest words)
        (isIdentifierPart_of_mem_head?_listedRest words') h
      -- the rests end at once, or both go on with a comma
      cases words with
      | nil =>
        cases words' with
        | nil => rfl
        | cons next' words' => cases hrest
      | cons next words =>
        cases words' with
        | nil => cases hrest
        | cons next' words' =>
          rw [ih hwords hwords' (List.cons.inj (List.cons.inj hrest).2).2]

/-- What follows the name of an object: nothing, or its type once more with constructor arguments.
-/
def construction (type : String) : List String → List Char
  | [] => []
  | arguments => ' ' :: ':' :: '=' :: ' ' :: (type.toList ++ '(' :: listed arguments)

/-- What follows the first word of a statement. -/
def Statement.rest : Statement → List Char
  | .declaration type name arguments => ' ' :: (name.toList ++ construction type arguments)
  | .application _ arguments => '(' :: listed arguments

/-- The first word of a statement. -/
def Statement.head : Statement → String
  | .declaration type _ _ => type
  | .application predicate _ => predicate

/-- A statement is printed as its first word and what follows it. -/
theorem toList_format (s : Statement) : s.format.toList = s.head.toList ++ s.rest := by
  cases s with
  | declaration type name arguments =>
    cases arguments with
    | nil =>
      rw [toList_format_declaration, Statement.head, Statement.rest, construction, List.append_nil]
    | cons a arguments =>
      simp [Statement.format, Statement.head, Statement.rest, construction, listed, toString]
  | application predicate arguments =>
    rw [toList_format_application, Statement.head, Statement.rest, listed]

/-- What follows the name of an object does not belong to it. -/
theorem isIdentifierPart_of_mem_head?_construction (type : String) (arguments : List String) :
    ∀ c ∈ (construction type arguments).head?, isIdentifierPart c = false := by
  cases arguments with
  | nil => simp [construction]
  | cons a arguments =>
    simp only [construction, List.head?_cons, Option.mem_some_iff]
    rintro c rfl
    decide

/-- Constructor arguments can be told from what follows the name of an object. -/
theorem construction_inj {type : String} {arguments arguments' : List String}
    (ha : ∀ a ∈ arguments, IsWord a) (ha' : ∀ a ∈ arguments', IsWord a)
    (h : construction type arguments = construction type arguments') : arguments = arguments' := by
  cases arguments with
  | nil =>
    cases arguments' with
    | nil => rfl
    | cons a' arguments' => cases h
  | cons a arguments =>
    cases arguments' with
    | nil => cases h
    | cons a' arguments' =>
      simp only [construction, List.cons.injEq, true_and, List.append_cancel_left_eq] at h
      exact listed_inj ha ha' h

namespace Statement

/-- What follows the first word of a statement does not belong to it. -/
theorem isIdentifierPart_of_mem_head?_rest (s : Statement) :
    ∀ c ∈ s.rest.head?, isIdentifierPart c = false := by
  cases s <;> simp only [rest, List.head?_cons, Option.mem_some_iff] <;> rintro c rfl <;> decide

namespace IsLexical

variable {s t : Statement}

/-- The first word of a statement is an identifier. -/
theorem isWord_head (h : s.IsLexical) : IsWord s.head := by
  cases s <;> exact h _ List.mem_cons_self

/-- Statements of identifiers that are printed alike are the same. -/
theorem eq_of_format_eq (hs : s.IsLexical) (ht : t.IsLexical) (h : s.format = t.format) :
    s = t := by
  have htext : s.head.toList ++ s.rest = t.head.toList ++ t.rest := by
    rw [← toList_format, ← toList_format, h]
  obtain ⟨hhead, hrest⟩ := word_append_inj hs.isWord_head ht.isWord_head
    s.isIdentifierPart_of_mem_head?_rest t.isIdentifierPart_of_mem_head?_rest htext
  cases s with
  | declaration type name arguments =>
    cases t with
    | declaration type' name' arguments' =>
      obtain rfl : type = type' := hhead
      obtain ⟨hname, harguments⟩ := List.forall_mem_cons.mp (List.forall_mem_cons.mp hs).2
      obtain ⟨hname', harguments'⟩ := List.forall_mem_cons.mp (List.forall_mem_cons.mp ht).2
      obtain ⟨rfl, hconstruction⟩ := word_append_inj hname hname'
        (isIdentifierPart_of_mem_head?_construction type arguments)
        (isIdentifierPart_of_mem_head?_construction type arguments') (List.cons.inj hrest).2
      rw [construction_inj harguments harguments' hconstruction]
    | application predicate' arguments' => cases hrest
  | application predicate arguments =>
    cases t with
    | declaration type' name' arguments' => cases hrest
    | application predicate' arguments' =>
      obtain rfl : predicate = predicate' := hhead
      rw [listed_inj (List.forall_mem_cons.mp hs).2 (List.forall_mem_cons.mp ht).2
        (List.cons.inj hrest).2]

/-- A statement of identifiers is printed on one line. -/
theorem newline_notMem (h : s.IsLexical) : '\n' ∉ s.format.toList := by
  have hword : ∀ {word : String}, IsWord word → '\n' ∉ word.toList := fun hw =>
    notMem_of_isIdentifier hw (by decide)
  have hlisted : ∀ {words : List String}, (∀ word ∈ words, IsWord word) →
      '\n' ∉ listed words := by
    intro words hw
    rw [listed, List.mem_append, not_or]
    refine ⟨notMem_intercalate (by decide) ?_, by decide⟩
    exact List.forall_mem_map.mpr fun word hm => hword (hw word hm)
  rw [toList_format, List.mem_append, not_or]
  refine ⟨hword h.isWord_head, ?_⟩
  cases s with
  | declaration type name arguments =>
    obtain ⟨htype, hrest⟩ := List.forall_mem_cons.mp h
    obtain ⟨hname, harguments⟩ := List.forall_mem_cons.mp hrest
    cases arguments with
    | nil => simp [rest, construction, hword hname]
    | cons a arguments =>
      simp [rest, construction, hword hname, hword htype, hlisted harguments]
  | application predicate arguments =>
    simp [rest, hlisted (List.forall_mem_cons.mp h).2]

/-- A statement of identifiers is not printed as an empty line. -/
theorem format_ne_nil (h : s.IsLexical) : s.format.toList ≠ [] := by
  rw [toList_format]
  intro hnil
  have hhead := h.isWord_head
  rw [IsWord, (List.append_eq_nil_iff.mp hnil).1] at hhead
  cases hhead

end IsLexical

end Statement

/-! ## Programs -/

/-- Statements of identifiers can be told from their lines. -/
theorem lines_inj {l m : List Statement} (hl : ∀ s ∈ l, s.IsLexical) (hm : ∀ s ∈ m, s.IsLexical)
    (h : (l.flatMap fun s => s.format.toList ++ ['\n']) =
      m.flatMap fun s => s.format.toList ++ ['\n']) : l = m := by
  induction l generalizing m with
  | nil =>
    cases m with
    | nil => rfl
    | cons t m => simp at h
  | cons s l ih =>
    obtain ⟨hs, hl⟩ := List.forall_mem_cons.mp hl
    cases m with
    | nil => simp at h
    | cons t m =>
      obtain ⟨ht, hm⟩ := List.forall_mem_cons.mp hm
      simp only [List.flatMap_cons, List.append_assoc, List.singleton_append] at h
      obtain ⟨hline, hrest⟩ := line_append_inj hs.newline_notMem ht.newline_notMem h
      rw [hs.eq_of_format_eq ht (String.toList_inj.mp hline), ih hl hm hrest]

/-- A program without statements is printed as an empty line, and any other as the lines of its
statements. -/
theorem toList_format_program (p : Program) : p.format.toList =
    if p.statements = [] then ['\n']
    else p.statements.flatMap fun s => s.format.toList ++ ['\n'] := by
  rw [Program.format, formatStatements]
  split
  · next hnil => rw [hnil]; rfl
  · next hne =>
    rw [toList_intercalate_newline (List.map_eq_nil_iff.not.mpr hne), List.flatMap_map]

/-- A program that is printed as an empty line has no statements. -/
theorem eq_nil_of_flatMap_eq {l : List Statement} (hl : ∀ s ∈ l, s.IsLexical)
    (h : (l.flatMap fun s => s.format.toList ++ ['\n']) = ['\n']) : l = [] := by
  cases l with
  | nil => rfl
  | cons s l =>
    obtain ⟨hs, -⟩ := List.forall_mem_cons.mp hl
    simp only [List.flatMap_cons, List.append_assoc, List.singleton_append] at h
    have hline := (line_append_inj hs.newline_notMem List.not_mem_nil
      (h.trans (List.nil_append ['\n']).symm)).1
    exact absurd hline hs.format_ne_nil

/-- Programs of identifiers are printed alike only if they have the same statements, and the bytes
that are written for them are the same only then. -/
theorem format_eq_iff {p q : Program} (hp : ∀ s ∈ p.statements, s.IsLexical)
    (hq : ∀ s ∈ q.statements, s.IsLexical) :
    (p.format = q.format ↔ p.statements = q.statements) ∧
      (Utf8.encode p.format = Utf8.encode q.format ↔ p.statements = q.statements) := by
  have hformat : p.format = q.format → p.statements = q.statements := by
    intro h
    have htext : p.format.toList = q.format.toList := by rw [h]
    rw [toList_format_program, toList_format_program] at htext
    split at htext <;> split at htext
    · next hpn hqn => rw [hpn, hqn]
    · next hpn hqn => exact absurd (eq_nil_of_flatMap_eq hq htext.symm) hqn
    · next hpn hqn => exact absurd (eq_nil_of_flatMap_eq hp htext) hpn
    · exact lines_inj hp hq htext
  have hsame : p.statements = q.statements → p.format = q.format := fun h => by
    rw [Program.format, Program.format, h]
  refine ⟨⟨hformat, hsame⟩, fun h => hformat ?_, fun h => by rw [hsame h]⟩
  have hdecode := Utf8.decode_encode p.format
  rw [h, Utf8.decode_encode] at hdecode
  exact String.toList_inj.mp (Except.ok.inj hdecode).symm

/-- A pair that is built from two points, which a predicate is applied to. -/
def constructedPair : Program :=
  ⟨[.declaration "Point" "p" [], .declaration "Point" "p'" [],
    .declaration "Pair" "p1" ["p", "p'"], .application "Flat" ["p1"]], 0, 0⟩

/-- The text of a pair that is built from two points tells that it is built. -/
theorem format_eq_iff_constructedPair :
    (∀ s ∈ constructedPair.statements, s.IsLexical) ∧
      ∀ q : Program, (∀ s ∈ q.statements, s.IsLexical) →
        (q.format = constructedPair.format ↔ q.statements = constructedPair.statements) := by
  have h : ∀ s ∈ constructedPair.statements, s.IsLexical := by
    unfold Statement.IsLexical
    decide
  exact ⟨h, fun q hq => (format_eq_iff hq h).1⟩

end Substance
