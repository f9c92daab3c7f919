import Substance.Program.Printer
import Substance.Proofs.Distinct
import Substance.Proofs.Parsing

/-!
# The lines of printed programs

A program over a domain that was read from a text is printed in words of the notation of domains.
The notation lets only identifiers into a schema, an object is named by the first letter of its type
and a number, and the generator brings in no other word.  So every line of the printed program is one
of two forms, and the lines are as many as the statements.

* `Describes.lexical`: the names of a schema that was read are identifiers.
* `isIdentifier_numbered`: the objects of a type that is an identifier are named by identifiers.
* `Composed.plain`: no statement of a program has constructor arguments.
* `Drawn.worded`: the words of a program that is drawn are identifiers.
* `exists_printed_batch`: how the programs of a batch are printed.
-/

namespace Substance

open Statement Text

/-- The text is an identifier. -/
abbrev IsWord (word : String) : Prop := isIdentifier word.toList = true

/-! ## Names of objects -/

namespace Text

/-- The characters that begin identifiers are of ASCII. -/
theorem toNat_lt_of_isIdentifierStart {c : Char} (h : isIdentifierStart c = true) :
    c.toNat < 128 := by
  rw [isIdentifierStart, Bool.or_eq_true, beq_iff_eq] at h
  rcases h with h | rfl
  · have hcode := toNat_of_isAlphanum (Bool.or_eq_true_iff.mpr (.inl h))
    omega
  · decide

/-- The lower-case form of a character that begins identifiers begins identifiers. -/
theorem isIdentifierStart_of_mem_lowerChar {c d : Char} (hc : isIdentifierStart c = true)
    (hd : d ∈ lowerChar c) : isIdentifierStart d = true := by
  -- a computation, which depends on no instance for bounded quantifiers
  have hascii : (List.range 128).all (fun n => !isIdentifierStart (Char.ofNat n) ||
      (lowerChar (Char.ofNat n)).all isIdentifierStart) = true := by decide +kernel
  have hc' := List.all_eq_true.mp hascii c.toNat
    (List.mem_range.mpr (toNat_lt_of_isIdentifierStart hc))
  rw [Char.ofNat_toNat, hc, Bool.not_true, Bool.false_or, List.all_eq_true] at hc'
  exact hc' d hd

/-- An identifier goes on with characters that may stand inside one. -/
theorem isIdentifier_append {front back : List Char} (hf : isIdentifier front = true)
    (hb : ∀ c ∈ back, isIdentifierPart c = true) : isIdentifier (front ++ back) = true := by
  cases front with
  | nil => cases hf
  | cons c front =>
    rw [isIdentifier, Bool.and_eq_true, List.all_eq_true] at hf
    rw [List.cons_append, isIdentifier, Bool.and_eq_true, List.all_eq_true]
    exact ⟨hf.1, List.forall_mem_append.mpr ⟨hf.2, hb⟩⟩

end Text

/-- The stem of an identifier is an identifier. -/
theorem isWord_stem {type : String} (h : IsWord type) : IsWord (stem type) := by
  cases htype : type.toList with
  | nil =>
    rw [IsWord, htype] at h
    cases h
  | cons c rest =>
    rw [IsWord, htype, isIdentifier, Bool.and_eq_true] at h
    have hstem : (stem type).toList = lowerChar c := by simp [stem, htype, lower]
    have hstart : ∀ d ∈ lowerChar c, isIdentifierStart d = true := fun d =>
      isIdentifierStart_of_mem_lowerChar h.1
    rw [IsWord, hstem]
    rcases lowerChar_eq c with ⟨d, hd⟩ | hd
    · rw [hd] at hstart ⊢
      simp [isIdentifier, hstart d (by simp)]
    · -- a dotted `i` is no form of a letter of ASCII
      rw [hd] at hstart
      exact absurd (hstart (Char.ofNat 0x0307) (by simp)) (by decide)

/-- The objects of a type that is an identifier are named by identifiers. -/
theorem isIdentifier_numbered {type : String} (h : IsWord type) (i : Nat) :
    IsWord (numbered (stem type) i) := by
  rw [IsWord, toList_numbered]
  refine isIdentifier_append (isWord_stem h) fun c hc => ?_
  simp only [isIdentifierPart, Char.isAlphanum, isDigit_of_mem_tail hc, Bool.or_true, Bool.true_or]

/-! ## Names of schemas -/

/-- The names of types and predicates, and of the types that predicates ask for, are identifiers. -/
structure Schema.Lexical (s : Schema) : Prop where
  types : ∀ type ∈ s.typeNames, IsWord type
  predicates : ∀ entry ∈ s.predicateList, IsWord entry.1
  wants : ∀ type, s.Wants type → IsWord type

/-- The type of an argument is an identifier. -/
theorem Line.Argument.isWord {text : List Char} {type : String} (h : Line.Argument text type) :
    IsWord type := by
  cases h <;> simpa [IsWord] using ‹isIdentifier _ = true›

/-- The types of arguments are identifiers. -/
theorem Line.Arguments.isWord {text : List Char} {types : List String}
    (h : Line.Arguments text types) : ∀ type ∈ types, IsWord type := by
  induction h with
  | last hp =>
    obtain ⟨inner, -, h⟩ := hp
    simpa using h.isWord
  | cons hp _ ih =>
    obtain ⟨inner, -, h⟩ := hp
    exact List.forall_mem_cons.mpr ⟨h.isWord, ih⟩

/-- The types of a list of arguments are identifiers. -/
theorem Line.ArgumentList.isWord {text : List Char} {types : List String}
    (h : Line.ArgumentList text types) : ∀ type ∈ types, IsWord type := by
  cases h with
  | blank => exact List.forall_mem_nil _
  | arguments h => exact h.isWord

/-- Only identifiers are declared as types. -/
theorem Line.Says.isWord_type {line : List Char} {name : String} (h : Line.Says line (.type name)) :
    IsWord name := by
  cases h with
  | type _ hname => simpa [IsWord] using hname

/-- Only identifiers are declared as predicates. -/
theorem Line.Says.isWord_predicate {line arguments : List Char} {name : String}
    (h : Line.Says line (.predicate name arguments)) : IsWord name := by
  cases h with
  | bare _ hname => simpa [IsWord] using hname
  | predicate _ hname _ => simpa [IsWord] using hname

/-- What lines describe is named by identifiers. -/
theorem Describes.lexical {ls : List (List Char)} {s : Schema} (h : Describes ls s) :
    s.Lexical where
  types type hm := by
    obtain ⟨line, -, hline⟩ := (h.types type).mp hm
    exact hline.isWord_type
  predicates := by
    rintro ⟨name, signature⟩ hm
    obtain ⟨line, -, arguments, types, hline, -, -⟩ := (h.predicates name signature).mp hm
    exact hline.isWord_predicate
  wants := by
    rintro type ⟨predicate, types, hm, ht⟩
    obtain ⟨line, -, arguments, others, -, harguments, hs⟩ := (h.predicates predicate _).mp hm
    rw [Signature.ofTypes] at hs
    split at hs
    · cases hs
    · cases hs
      exact harguments.isWord type ht

/-! ## Words of programs -/

/-- A declaration without constructor arguments, or an application. -/
def Statement.IsPlain : Statement → Prop
  | .declaration _ _ arguments => arguments = []
  | .application .. => True

section

variable {schema : Schema} {setting : Setting} {policy : Policy} {before added : List Statement}
  {type name : String} {types names : List String} {signature : Signature String}

/-- An argument is declared without constructor arguments. -/
theorem Finds.plain (h : Finds policy before type added name) : ∀ s ∈ added, s.IsPlain := by
  rcases h.eq_nil_or_declaration with rfl | ⟨own, rfl⟩
  · exact List.forall_mem_nil _
  · exact List.forall_mem_singleton.mpr rfl

/-- Arguments are declared without constructor arguments. -/
theorem FindsAll.plain (h : FindsAll policy before types added names) :
    ∀ s ∈ added, s.IsPlain := by
  induction h with
  | nil => exact List.forall_mem_nil _
  | cons h _ ih => exact List.forall_mem_append.mpr ⟨h.plain, ih⟩

/-- The statements of a block have no constructor arguments. -/
theorem Block.plain (h : Block schema policy before added) : ∀ s ∈ added, s.IsPlain := by
  cases h with
  | declaration => exact List.forall_mem_singleton.mpr rfl
  | application _ hf =>
    refine List.forall_mem_append.mpr ⟨?_, List.forall_mem_singleton.mpr trivial⟩
    cases hf with
    | objects hf => exact hf.plain
    | propositions => exact List.forall_mem_nil _

/-- The statements of a row of blocks have no constructor arguments. -/
theorem Blocks.plain {blocks : List (List Statement)} (h : Blocks schema policy before blocks) :
    ∀ s ∈ blocks.flatten, s.IsPlain := by
  induction h with
  | nil => exact List.forall_mem_nil _
  | cons h _ ih => exact List.forall_mem_append.mpr ⟨h.plain, ih⟩

/-- The statements of a program have no constructor arguments. -/
theorem Composed.plain {p : Program} {header : List Statement} {blocks : List (List Statement)}
    (h : Composed schema setting [] p header blocks) : ∀ s ∈ p.statements, s.IsPlain := by
  rw [h.statements, List.nil_append]
  refine List.forall_mem_append.mpr ⟨fun s hs => ?_, h.body.plain⟩
  obtain ⟨type, -, name, rfl⟩ := h.opens s hs
  rfl

end

/-- The words of a statement are identifiers, and there are no constructor arguments. -/
def Statement.IsWorded : Statement → Prop
  | .declaration type name arguments => IsWord type ∧ IsWord name ∧ arguments = []
  | .application predicate arguments => IsWord predicate ∧ ∀ name ∈ arguments, IsWord name

namespace Generator

variable {schema : Schema} {setting : Setting} {p : Program}

/-- The words of a program that is drawn are identifiers. -/
theorem Drawn.worded (hs : schema.Lexical) (hp : Drawn schema setting p) :
    ∀ s ∈ p.statements, s.IsWorded := by
  obtain ⟨⟨header, blocks, hc⟩, hn⟩ := drawn_iff.mp hp
  have hobject : ∀ o ∈ objects p.statements, IsWord o.1 ∧ IsWord o.2 := by
    intro o ho
    have htype : IsWord o.1 :=
      (hc.type_of_object ho).elim (hs.types o.1) fun hw => hs.wants o.1 hw.1
    obtain ⟨i, -, hi⟩ := hn.exists_number ho
    exact ⟨htype, hi ▸ isIdentifier_numbered htype i⟩
  intro s hm
  cases s with
  | declaration type name arguments =>
    obtain ⟨htype, hname⟩ := hobject (type, name) (List.mem_filterMap.mpr ⟨_, hm, rfl⟩)
    exact ⟨htype, hname, hc.plain _ hm⟩
  | application predicate arguments =>
    obtain ⟨i, hi, hli⟩ := List.getElem_of_mem hm
    obtain ⟨signature, hsignature, -⟩ :=
      hc.appliesRightly i predicate arguments (List.getElem?_eq_some_iff.mpr ⟨hi, hli⟩)
    refine ⟨hs.predicates (predicate, signature) (Table.get?_eq_some_iff.mp hsignature), ?_⟩
    intro name hname
    obtain ⟨o, ho, rfl⟩ := List.mem_map.mp (hc.appliesRightly.mem_objectNames hm hname)
    exact (hobject o ho).2

end Generator

/-! ## Lines -/

/-- The two forms of a line: a type and the name of its object, or a predicate and the names of its
arguments. -/
inductive PrintedLine : List Char → Prop
  | declaration {type name : List Char} : isIdentifier type = true → isIdentifier name = true →
      PrintedLine (type ++ ' ' :: name)
  | application {predicate : List Char} {arguments : List (List Char)} :
      isIdentifier predicate = true → (∀ name ∈ arguments, isIdentifier name = true) →
      PrintedLine (predicate ++ '(' :: ([',', ' '].intercalate arguments ++ [')']))

/-- A character that is neither of the separator nor of the parts does not stand between them. -/
theorem notMem_intercalate {c : Char} {separator : List Char} {parts : List (List Char)}
    (hs : c ∉ separator) (hp : ∀ part ∈ parts, c ∉ part) : c ∉ separator.intercalate parts := by
  induction parts with
  | nil => simp
  | cons part parts ih =>
    obtain ⟨hpart, hparts⟩ := List.forall_mem_cons.mp hp
    cases parts with
    | nil => simpa using hpart
    | cons next parts =>
      rw [List.intercalate_cons_cons, List.append_assoc]
      simp only [List.mem_append, not_or]
      exact ⟨hpart, hs, ih hparts⟩

/-- No line end stands within a line. -/
theorem PrintedLine.newline_notMem {line : List Char} (h : PrintedLine line) : '\n' ∉ line := by
  have hword : ∀ {word : List Char}, isIdentifier word = true → '\n' ∉ word := fun hw =>
    notMem_of_isIdentifier hw (by decide)
  cases h with
  | declaration htype hname => simp [hword htype, hword hname]
  | application hpredicate harguments =>
    have hmiddle := notMem_intercalate (show '\n' ∉ [',', ' '] by decide)
      fun name hm => hword (harguments name hm)
    simp [hword hpredicate, hmiddle]

/-- A declaration without constructor arguments is printed as its type and its name. -/
theorem toList_format_declaration (type name : String) :
    (Statement.declaration type name []).format.toList = type.toList ++ ' ' :: name.toList := by
  simp [Statement.format, toString]

/-- An application is printed as its predicate with its arguments in parentheses. -/
theorem toList_format_application (predicate : String) (arguments : List String) :
    (Statement.application predicate arguments).format.toList = predicate.toList ++
      '(' :: ([',', ' '].intercalate (arguments.map String.toList) ++ [')']) := by
  simp [Statement.format, toString]

/-- The line of a statement whose words are identifiers. -/
theorem Statement.IsWorded.printedLine {s : Statement} (h : s.IsWorded) :
    PrintedLine s.format.toList := by
  cases s with
  | declaration type name arguments =>
    obtain ⟨htype, hname, rfl⟩ := h
    rw [toList_format_declaration]
    exact .declaration htype hname
  | application predicate arguments =>
    obtain ⟨hpredicate, harguments⟩ := h
    rw [toList_format_application]
    exact .application hpredicate (by simpa using harguments)

/-- A statement whose words are identifiers is printed with a parenthesis just when it is an
application. -/
theorem Statement.IsWorded.parenthesis_mem_iff {s : Statement} (h : s.IsWorded) :
    '(' ∈ s.format.toList ↔ s.isApplication = true := by
  have hword : ∀ {word : String}, IsWord word → '(' ∉ word.toList := fun hw =>
    notMem_of_isIdentifier hw (by decide)
  cases s with
  | declaration type name arguments =>
    obtain ⟨htype, hname, rfl⟩ := h
    rw [toList_format_declaration]
    simp [Statement.isApplication, Statement.isDeclaration, hword htype, hword hname]
  | application predicate arguments =>
    rw [toList_format_application]
    simp [Statement.isApplication, Statement.isDeclaration]

/-! ## Programs -/

/-- Texts with a line feed between any two and at the end are the lines that each ends. -/
theorem toList_intercalate_newline {texts : List String} (h : texts ≠ []) :
    ("\n".intercalate texts ++ "\n").toList = texts.flatMap fun text => text.toList ++ ['\n'] := by
  induction texts with
  | nil => exact absurd rfl h
  | cons text texts ih =>
    cases texts with
    | nil => simp
    | cons next texts =>
      rw [String.intercalate_cons_cons, List.flatMap_cons, ← ih (List.cons_ne_nil _ _)]
      simp

/-- The text of a program is made of these lines, one to a statement, each ended by one line feed and
of one of the two forms.  Those with a parenthesis are the applications. -/
structure PrintedAs (p : Program) (ls : List (List Char)) : Prop where
  text : p.format.toList = ls.flatMap (· ++ ['\n'])
  length : ls.length = p.length
  ended : ∀ line ∈ ls, '\n' ∉ line
  forms : ∀ line ∈ ls, PrintedLine line
  applications : (ls.filter ('(' ∈ ·)).length = p.applications.length

/-- A program whose words are identifiers is printed line by line. -/
theorem printedAs_of_worded {p : Program} (hne : p.statements ≠ [])
    (h : ∀ s ∈ p.statements, s.IsWorded) :
    PrintedAs p (p.statements.map fun s => s.format.toList) where
  text := by
    rw [Program.format, formatStatements,
      toList_intercalate_newline (List.map_eq_nil_iff.not.mpr hne), List.flatMap_map,
      List.flatMap_map]
  length := List.length_map _
  ended := by
    rintro _ hline
    obtain ⟨s, hs, rfl⟩ := List.mem_map.mp hline
    exact (h s hs).printedLine.newline_notMem
  forms := by
    rintro _ hline
    obtain ⟨s, hs, rfl⟩ := List.mem_map.mp hline
    exact (h s hs).printedLine
  applications := by
    rw [List.filter_map, List.length_map, Program.applications]
    refine congrArg List.length (List.filter_congr fun s hs => ?_)
    rw [Bool.eq_iff_iff, ← (h s hs).parenthesis_mem_iff]
    simp

/-- A program has statements. -/
theorem Composed.statements_ne_nil {schema : Schema} {setting : Setting} {p : Program}
    {header : List Statement} {blocks : List (List Statement)}
    (h : Composed schema setting [] p header blocks) : p.statements ≠ [] := by
  have hheader : header ≠ [] := by
    rintro rfl
    have hlength := h.headerRange
    simp at hlength
  rw [h.statements]
  simp [hheader]

/-- A schema of identifiers is usable when it declares a type. -/
theorem Schema.Lexical.fault?_eq_none {s : Schema} (h : s.Lexical) (hne : s.typeNames ≠ []) :
    s.fault? = none :=
  s.fault?_eq_none_iff.mpr ⟨hne, fun hm => absurd (h.types "" hm) (by decide)⟩

namespace Generator

/-- Over a domain that a text with some line for a type writes, a batch has the number of programs
that was asked for, and each is printed line by line in identifiers. -/
theorem exists_printed_batch {text : String} {ls : List (List Char)} {s : Schema}
    {setting : Setting} (hc : Contents text.toList ls) (hparse : Schema.parse text = .ok s)
    (htype : ∃ line ∈ ls, ∃ name, Line.Says line (.type name)) (ht : setting.fault? = none)
    (seed : Int) (n : Nat) :
    ∃ batch, generatePrograms s setting n seed = .ok batch ∧ batch.length = n ∧
      ∀ p ∈ batch, ∃ lines, PrintedAs p lines := by
  have hdescribes := describes_of_parse hc hparse
  have hlexical := hdescribes.lexical
  obtain ⟨line, hline, name, hsays⟩ := htype
  have hne : s.typeNames ≠ [] :=
    List.ne_nil_of_mem ((hdescribes.types name).mpr ⟨line, hline, hsays⟩)
  obtain ⟨batch, hbatch, hlength, hdrawn⟩ :=
    exists_batch (hlexical.fault?_eq_none hne) ht seed n
  refine ⟨batch, hbatch, hlength, fun p hp => ?_⟩
  obtain ⟨⟨header, blocks, hcomposed⟩, -⟩ := drawn_iff.mp (hdrawn p hp)
  exact ⟨_, printedAs_of_worded hcomposed.statements_ne_nil ((hdrawn p hp).worded hlexical)⟩

/-- Sets and points written as a text, with comments, an inclusion and a notation. -/
def setsAndPointsText : String :=
  "type Set -- a set\n type Point\n\nPoint <: Set\npredicate In : Point p * Set s'\n" ++
    "predicate Not : Prop p\nnotation \"{a}\" // skipped\n"

/-- What the text of sets and points declares. -/
def setsAndPointsOfText : Schema :=
  (((Schema.empty.addType "Set").addType "Point").addInclusion "Point" "Set").addPredicate "In"
    (.objects ["Point", "Set"]) |>.addPredicate "Not" .propositions

/-- Three programs over the sets and points of the text are printed line by line. -/
theorem exists_printed_batch_setsAndPoints :
    Schema.parse setsAndPointsText = .ok setsAndPointsOfText ∧
      Setting.fault? ⟨1, 4, .mixed⟩ = none ∧
      ∃ batch, generatePrograms setsAndPointsOfText ⟨1, 4, .mixed⟩ 3 1 = .ok batch ∧
        batch.length = 3 ∧ ∀ p ∈ batch, ∃ lines, PrintedAs p lines := by
  have hparse : Schema.parse setsAndPointsText = .ok setsAndPointsOfText := by decide +kernel
  have hsays : Line.Says ("type".toList ++ ([' '] ++ "Point".toList)) (.type "Point") :=
    .type (gap_iff.mpr ⟨' ', [], rfl, by decide, List.forall_mem_nil _⟩) (by decide)
  refine ⟨hparse, by decide, ?_⟩
  exact exists_printed_batch (contents_iff.mpr rfl) hparse
    ⟨_, by decide +kernel, _, hsays⟩ (by decide) 1 3

end Generator

end Substance
