import Substance.Proofs.Layout
import Substance.Proofs.Lexical
import Substance.Schema.Record

/-!
# Schemas in the notation of domains

Each declaration of a schema can be written as a line, provided that its names are identifiers and
no type of objects is taken for the type of propositions.  Just these schemas are read from texts,
and from the lines of its declarations, in any order, a schema is read back.

* `Declaration.format`, `Schema.declarations`: the declarations of a schema and their lines.
* `Declaration.Worded.form`, `content_format`: a line says what its declaration does.
* `grammatical_formats`, `describes_formats`: the lines of all declarations.
* `parse_formats`: a schema is read back.
* `worded_of_parse`: what is read can be written.
-/

namespace Substance

open Text Line

/-! ## Declarations -/

/-- What a schema declares. -/
inductive Declaration where
  | type (name : String)
  | inclusion (child parent : String)
  | predicate (name : String) (signature : Signature String)
deriving DecidableEq, Repr

/-- The types that are written as the arguments of a predicate. -/
def Signature.arguments : Signature String → List String
  | .objects types => types
  | .propositions => [propType]

/-- The signature can be written: types are identifiers, and that of propositions is none of those of
objects. -/
def Signature.Worded : Signature String → Prop
  | .objects types => ∀ type ∈ types, IsWord type ∧ type ≠ propType
  | .propositions => True

namespace Declaration

/-- The line of a declaration. -/
def format : Declaration → String
  | .type name => s!"type {name}"
  | .inclusion child parent => s!"{child} <: {parent}"
  | .predicate name signature =>
    if signature.arguments = [] then s!"predicate {name}"
    else s!"predicate {name} : " ++ " * ".intercalate signature.arguments

/-- The declaration can be written. -/
def Worded : Declaration → Prop
  | .type name => IsWord name
  | .inclusion child parent => IsWord child ∧ IsWord parent
  | .predicate name signature => IsWord name ∧ signature.Worded

/-- The predicate that is declared. -/
def predicate? : Declaration → Option String
  | .predicate name _ => some name
  | _ => none

end Declaration

namespace Schema

variable {s : Schema} {name child parent : String} {signature : Signature String}

/-- The declarations of a schema. -/
def declarations (s : Schema) : List Declaration :=
  s.types.entries.map .type ++ (s.inclusions.entries.map (fun i => .inclusion i.child i.parent) ++
    s.predicates.entries.map fun entry => .predicate entry.1 entry.2)

theorem type_mem_declarations : .type name ∈ s.declarations ↔ name ∈ s.types := by
  simp only [declarations, List.mem_append, List.mem_map, reduceCtorEq, and_false, exists_false,
    or_false, Declaration.type.injEq, exists_eq_right]
  exact Iff.rfl

theorem inclusion_mem_declarations :
    .inclusion child parent ∈ s.declarations ↔ ⟨child, parent⟩ ∈ s.inclusions := by
  simp only [declarations, List.mem_append, List.mem_map, reduceCtorEq, and_false, exists_false,
    false_or, or_false, Declaration.inclusion.injEq]
  constructor
  · rintro ⟨i, hi, rfl, rfl⟩
    exact hi
  · intro hi
    exact ⟨_, hi, rfl, rfl⟩

theorem predicate_mem_declarations :
    .predicate name signature ∈ s.declarations ↔ (name, signature) ∈ s.predicates := by
  simp only [declarations, List.mem_append, List.mem_map, reduceCtorEq, and_false, exists_false,
    false_or, Declaration.predicate.injEq]
  constructor
  · rintro ⟨entry, hentry, rfl, rfl⟩
    exact hentry
  · intro hentry
    exact ⟨_, hentry, rfl, rfl⟩

/-- No predicate is declared twice. -/
theorem nodup_predicates (s : Schema) : (s.declarations.filterMap Declaration.predicate?).Nodup := by
  have hnames : s.declarations.filterMap Declaration.predicate? =
      s.predicates.entries.map Prod.fst := by
    simp [declarations, List.filterMap_append, List.filterMap_map, Function.comp_def,
      Declaration.predicate?]
  rw [hnames, List.Nodup, List.pairwise_map]
  refine s.predicates.increasing.imp ?_
  intro entry other h he
  exact KeyOrder.irrefl entry.1 (he ▸ h)

end Schema

/-! ## Lines of declarations -/

/-- What is written behind the colon, if there are arguments. -/
def Signature.argumentText (signature : Signature String) : List Char :=
  if signature.arguments = [] then []
  else ' ' :: [' ', '*', ' '].intercalate (signature.arguments.map String.toList)

/-- What the line of a declaration says. -/
def Declaration.line : Declaration → Line
  | .type name => .type name
  | .inclusion child parent => .inclusion child parent
  | .predicate name signature => .predicate name signature.argumentText

section

variable {word : String} {words : List String} {signature : Signature String} {d : Declaration}

/-- A space is blank. -/
theorem blanks_space : Blanks [' '] := List.forall_mem_singleton.mpr (by decide)

/-- A space is a gap. -/
theorem gap_space : Gap [' '] := ⟨List.cons_ne_nil _ _, blanks_space⟩

/-- A word is an argument. -/
theorem padded_of_isWord (h : IsWord word) : Padded word.toList word := by
  have hhead := isBlank_head?_of_isIdentifier h
  have hlast : ∀ c ∈ word.toList.getLast?, isBlank c = false := fun c hc =>
    isBlank_eq_false_of_isIdentifierPart (isIdentifierPart_of_mem h c (List.mem_of_mem_getLast? hc))
  have hargument := Argument.type h
  rw [String.ofList_toList] at hargument
  exact ⟨_, ⟨⟨[], [], blanks_nil, blanks_nil, by simp⟩, hhead, hlast⟩, hargument⟩

/-- Words with asterisks between them are arguments. -/
theorem arguments_intercalate (hne : words ≠ []) (h : ∀ word ∈ words, IsWord word) :
    Arguments ([' ', '*', ' '].intercalate (words.map String.toList)) words := by
  induction words with
  | nil => exact absurd rfl hne
  | cons word words ih =>
    obtain ⟨hword, hwords⟩ := List.forall_mem_cons.mp h
    have hpadded := padded_of_isWord hword
    cases words with
    | nil => simpa using Arguments.last hpadded
    | cons next words =>
      have hrest := (arguments_blanks_append_iff blanks_space).mpr (ih (List.cons_ne_nil _ _) hwords)
      have hfirst := (padded_append_iff blanks_nil blanks_space).mpr hpadded
      rw [List.map_cons, List.map_cons, List.intercalate_cons_cons, ← List.map_cons]
      simpa using Arguments.cons hfirst hrest

/-- The types among the arguments are identifiers. -/
theorem Signature.Worded.isWord (h : signature.Worded) :
    ∀ word ∈ signature.arguments, IsWord word := by
  cases signature with
  | objects types => exact fun type hm => (h type hm).1
  | propositions => exact List.forall_mem_singleton.mpr (by decide)

/-- The arguments that are written are of the types of the signature. -/
theorem Signature.Worded.argumentList (h : signature.Worded) :
    ArgumentList signature.argumentText signature.arguments := by
  rw [Signature.argumentText]
  split
  · next hnil =>
    rw [hnil]
    exact .blank blanks_nil
  · next hne =>
    have hlist := arguments_intercalate hne h.isWord
    exact .arguments ((arguments_blanks_append_iff blanks_space).mpr hlist)

/-- The types that are written are not mixed. -/
theorem Signature.Worded.unmixed (h : signature.Worded) : Unmixed signature.arguments := by
  cases signature with
  | objects types => exact fun hm => absurd rfl (h propType hm).2
  | propositions => exact fun _ => List.forall_mem_singleton.mpr rfl

/-- The signature is told from the types that are written. -/
theorem Signature.Worded.ofTypes (h : signature.Worded) :
    Signature.ofTypes signature.arguments = signature := by
  rw [Signature.ofTypes]
  cases signature with
  | objects types =>
    refine if_neg fun hall => ?_
    obtain ⟨type, hm⟩ := List.exists_mem_of_ne_nil _ hall.1
    exact (h type hm).2 (hall.2 type hm)
  | propositions => exact if_pos ⟨List.cons_ne_nil _ _, List.forall_mem_singleton.mpr rfl⟩

/-- A type is written behind its keyword. -/
theorem toList_format_type (name : String) :
    (Declaration.type name).format.toList = "type".toList ++ ([' '] ++ name.toList) := by
  simp [Declaration.format, toString]

/-- A subtype is written before its supertype. -/
theorem toList_format_inclusion (child parent : String) :
    (Declaration.inclusion child parent).format.toList =
      child.toList ++ ([' '] ++ '<' :: ':' :: ([' '] ++ parent.toList)) := by
  simp [Declaration.format, toString]

/-- A predicate without arguments is written behind its keyword. -/
theorem toList_format_bare {name : String} (h : signature.arguments = []) :
    (Declaration.predicate name signature).format.toList =
      "predicate".toList ++ ([' '] ++ name.toList) := by
  simp [Declaration.format, toString, h]

/-- The arguments of a predicate are written behind a colon. -/
theorem toList_format_predicate {name : String} (h : signature.arguments ≠ []) :
    (Declaration.predicate name signature).format.toList = "predicate".toList ++ ([' '] ++
      (name.toList ++ ([' '] ++ ':' :: (' ' ::
        [' ', '*', ' '].intercalate (signature.arguments.map String.toList))))) := by
  simp [Declaration.format, toString, h]

/-- The line of a declaration says what it declares. -/
theorem Declaration.Worded.form (h : d.Worded) : Says d.format.toList d.line := by
  cases d with
  | type name =>
    have hform := Says.type gap_space h
    rwa [String.ofList_toList, ← toList_format_type] at hform
  | inclusion child parent =>
    have hform := Says.inclusion h.1 blanks_space blanks_space h.2
    rwa [String.ofList_toList, String.ofList_toList, ← toList_format_inclusion] at hform
  | predicate name signature =>
    rw [Declaration.line, Signature.argumentText]
    split
    · next hnil =>
      have hform := Says.bare gap_space h.1
      rwa [String.ofList_toList, ← toList_format_bare hnil] at hform
    · next hne =>
      have hform := @Says.predicate _ _ _
        (' ' :: [' ', '*', ' '].intercalate (signature.arguments.map String.toList))
        gap_space h.1 blanks_space
      rwa [String.ofList_toList, ← toList_format_predicate hne] at hform

/-- Only parts of identifiers, spaces, angle brackets, colons and asterisks are written. -/
theorem Declaration.Worded.notMem_format {c : Char} (h : d.Worded)
    (hc : isIdentifierPart c = false) (hmark : c ∉ [' ', '<', ':', '*']) :
    c ∉ d.format.toList := by
  have hword : ∀ {chars : List Char}, isIdentifier chars = true → c ∉ chars := fun hw =>
    notMem_of_isIdentifier hw hc
  have htype : c ∉ "type".toList := hword (by decide)
  have hpredicate : c ∉ "predicate".toList := hword (by decide)
  simp only [List.mem_cons, List.not_mem_nil, or_false, not_or] at hmark
  obtain ⟨hspace, hbracket, hcolon, hasterisk⟩ := hmark
  cases d with
  | type name =>
    rw [toList_format_type]
    simp only [List.mem_append, List.mem_singleton, not_or]
    exact ⟨htype, hspace, hword h⟩
  | inclusion child parent =>
    rw [toList_format_inclusion]
    simp only [List.mem_append, List.mem_cons, List.not_mem_nil, or_false, not_or]
    exact ⟨hword h.1, hspace, hbracket, hcolon, hspace, hword h.2⟩
  | predicate name signature =>
    by_cases hnil : signature.arguments = []
    · rw [toList_format_bare hnil]
      simp only [List.mem_append, List.mem_singleton, not_or]
      exact ⟨hpredicate, hspace, hword h.1⟩
    · have hseparator : c ∉ [' ', '*', ' '] := by simp [hspace, hasterisk]
      have harguments : ∀ part ∈ signature.arguments.map String.toList, c ∉ part := by
        simpa using fun word hm => hword (h.2.isWord word hm)
      have hlist := notMem_intercalate hseparator harguments
      rw [toList_format_predicate hnil]
      simp only [List.mem_append, List.mem_cons, List.not_mem_nil, or_false, not_or]
      exact ⟨hpredicate, hspace, hword h.1, hspace, hcolon, hspace, hlist⟩

/-- What lies between separators ends with its last part. -/
theorem exists_intercalate_eq (separator : List Char) {parts : List (List Char)} (hne : parts ≠ []) :
    ∃ front, ∃ last ∈ parts, separator.intercalate parts = front ++ last := by
  induction parts with
  | nil => exact absurd rfl hne
  | cons part parts ih =>
    cases parts with
    | nil => exact ⟨[], part, List.mem_cons_self, by simp⟩
    | cons next parts =>
      obtain ⟨front, last, hlast, hrest⟩ := ih (List.cons_ne_nil _ _)
      refine ⟨part ++ (separator ++ front), last, List.mem_cons_of_mem part hlast, ?_⟩
      rw [List.intercalate_cons_cons, hrest]
      simp only [List.append_assoc]

/-- A line begins and ends with an identifier. -/
theorem Declaration.Worded.trimmed (h : d.Worded) : Trimmed d.format.toList := by
  cases d with
  | type name =>
    rw [toList_format_type]
    exact trimmed_named (by decide) h
  | inclusion child parent =>
    rw [toList_format_inclusion]
    exact @trimmed_named _ [' ', '<', ':', ' '] _ h.1 h.2
  | predicate name signature =>
    by_cases hnil : signature.arguments = []
    · rw [toList_format_bare hnil]
      exact trimmed_named (by decide) h.1
    · obtain ⟨front, last, hlast, heq⟩ := exists_intercalate_eq [' ', '*', ' ']
        (mt List.map_eq_nil_iff.mp hnil)
      obtain ⟨word, hword, rfl⟩ := List.mem_map.mp hlast
      have hline : (Declaration.predicate name signature).format.toList = "predicate".toList ++
          (([' '] ++ (name.toList ++ ([' '] ++ ':' :: (' ' :: front)))) ++ word.toList) := by
        rw [toList_format_predicate hnil, heq]
        simp only [List.append_assoc, List.cons_append]
      rw [hline]
      exact trimmed_named (by decide) (h.2.isWord word hword)

/-- All of a line counts. -/
theorem Declaration.Worded.content_format (h : d.Worded) :
    content d.format.toList = d.format.toList :=
  content_eq_self (h.notMem_format (by decide) (by decide))
    (h.notMem_format (by decide) (by decide)) h.trimmed

/-- A line is not broken. -/
theorem Declaration.Worded.unbroken (h : d.Worded) : Unbroken d.format.toList := by
  intro c hc
  by_contra hend
  rw [Bool.not_eq_false] at hend
  refine h.notMem_format (isIdentifierPart_eq_false_of_isBlank (isBlank_of_isLineEnd hend)) ?_ hc
  intro hmark
  have hmarks : [' ', '<', ':', '*'].all (!isLineEnd ·) = true := by decide
  have hc := List.all_eq_true.mp hmarks c hmark
  rw [hend] at hc
  cases hc

end

/-! ## All lines -/

section

variable {s : Schema} {ds : List Declaration} {d : Declaration} {x : Line} {text : String}

/-- The lines of declarations. -/
def formats (ds : List Declaration) : List (List Char) := ds.map fun d => d.format.toList

/-- The text that has these lines, each ended by a line feed. -/
def written (ds : List Declaration) : String := String.join (ds.map fun d => d.format ++ "\n")

/-- The lines of the text are those of the declarations. -/
theorem cutsInto_written (hds : ∀ d ∈ ds, d.Worded) :
    CutsInto (written ds).toList (formats ds) := by
  induction ds with
  | nil => exact .nil
  | cons d ds ih =>
    obtain ⟨hd, hds⟩ := List.forall_mem_cons.mp hds
    have htext : (written (d :: ds)).toList = d.format.toList ++ '\n' :: (written ds).toList := by
      simp [written, String.join_cons]
    rw [htext]
    exact .single hd.unbroken (by decide) (by simp) (ih hds)

/-- A declaration is not skipped. -/
theorem Declaration.line_ne_skipped (d : Declaration) (keyword : String) :
    d.line ≠ .skipped keyword := by
  cases d <;> nofun

/-- Apart from skipped declarations, a line says what its declaration does and nothing else. -/
theorem Declaration.Worded.says_iff (h : d.Worded) (hx : ∀ keyword, x ≠ .skipped keyword) :
    Says d.format.toList x ↔ d.line = x :=
  says_iff_of_read? h.trimmed (h.form.read?_eq_some h.trimmed d.line_ne_skipped) hx

/-- What is said by some line is what some declaration does. -/
theorem exists_says_iff (hds : ∀ d ∈ ds, d.Worded) (hx : ∀ keyword, x ≠ .skipped keyword) :
    (∃ line ∈ formats ds, Says line x) ↔ ∃ d ∈ ds, d.line = x := by
  simp only [formats, List.mem_map, exists_exists_and_eq_and]
  refine exists_congr fun d => and_congr_right fun hd => ?_
  exact (hds d hd).says_iff hx

/-- A line that declares a predicate is that of such a declaration, with its arguments. -/
theorem Declaration.Worded.exists_eq_predicate {name : String} {arguments : List Char}
    (h : d.Worded) (hform : Says d.format.toList (.predicate name arguments)) :
    ∃ signature, d = .predicate name signature ∧ signature.argumentText = arguments := by
  have hline := (h.says_iff (by simp)).mp hform
  cases d with
  | predicate other signature =>
    rw [Declaration.line, Line.predicate.injEq] at hline
    obtain ⟨rfl, harguments⟩ := hline
    exact ⟨signature, rfl, harguments⟩
  | _ => cases hline

/-- The predicates of lines are those of the declarations. -/
theorem declaresPredicate_format_iff {name : String} (h : d.Worded) :
    DeclaresPredicate name d.format.toList ↔ d.predicate? = some name := by
  constructor
  · rintro ⟨arguments, hform⟩
    obtain ⟨signature, rfl, -⟩ := h.exists_eq_predicate hform
    rfl
  · intro hname
    cases d with
    | predicate other signature =>
      cases hname
      exact ⟨_, h.form⟩
    | _ => cases hname

/-- The lines of declarations are grammatical, if no predicate is declared twice. -/
theorem grammatical_formats (hds : ∀ d ∈ ds, d.Worded)
    (honce : (ds.filterMap Declaration.predicate?).Nodup) : Grammatical (formats ds) where
  forms line hline := by
    obtain ⟨d, hd, rfl⟩ := List.mem_map.mp hline
    exact ⟨d.line, (hds d hd).form⟩
  arguments line hline name arguments hform := by
    obtain ⟨d, hd, rfl⟩ := List.mem_map.mp hline
    obtain ⟨signature, rfl, rfl⟩ := (hds d hd).exists_eq_predicate hform
    have hworded := (hds _ hd).2
    exact ⟨signature.arguments, hworded.argumentList, hworded.unmixed⟩
  once := by
    rw [List.Nodup, List.pairwise_filterMap] at honce
    rw [formats, List.pairwise_map]
    refine honce.imp_of_mem fun {d e} hd he hne name hname hother => ?_
    rw [declaresPredicate_format_iff (hds d hd)] at hname
    rw [declaresPredicate_format_iff (hds e he)] at hother
    exact hne name hname name hother rfl

/-- The lines of its declarations describe a schema. -/
theorem describes_formats (hds : ∀ d ∈ ds, d.Worded) (hs : ∀ d, d ∈ ds ↔ d ∈ s.declarations) :
    Describes (formats ds) s where
  types name := by
    rw [exists_says_iff hds (by simp), ← Schema.type_mem_declarations, ← hs]
    constructor
    · intro h
      exact ⟨_, h, rfl⟩
    · rintro ⟨d, hd, hline⟩
      cases d <;> cases hline
      exact hd
  inclusions child parent := by
    rw [exists_says_iff hds (by simp), ← Schema.inclusion_mem_declarations, ← hs]
    constructor
    · intro h
      exact ⟨_, h, rfl⟩
    · rintro ⟨d, hd, hline⟩
      cases d <;> cases hline
      exact hd
  predicates name signature := by
    rw [← Schema.predicate_mem_declarations, ← hs]
    constructor
    · intro h
      have hworded := hds _ h
      exact ⟨_, List.mem_map_of_mem h, _, _, hworded.form, hworded.2.argumentList,
        hworded.2.ofTypes.symm⟩
    · rintro ⟨line, hline, arguments, types, hform, htypes, rfl⟩
      obtain ⟨d, hd, rfl⟩ := List.mem_map.mp hline
      obtain ⟨signature, rfl, rfl⟩ := (hds d hd).exists_eq_predicate hform
      have hworded := (hds _ hd).2
      rw [htypes.unique hworded.argumentList, hworded.ofTypes]
      exact hd

/-- From the lines of its declarations, in any order, a schema is read back. -/
theorem parse_formats (hs : ∀ d ∈ s.declarations, d.Worded) (hds : ds.Perm s.declarations)
    (htext : CutsInto text.toList (formats ds)) : Schema.parse text = .ok s := by
  have hworded : ∀ d ∈ ds, d.Worded := fun d hd => hs d (hds.mem_iff.mp hd)
  have hcontents : Contents text.toList (formats ds) := by
    rw [contents_iff, cutsInto_iff.mp htext, formats, List.map_map]
    exact List.map_congr_left fun d hd => (hworded d hd).content_format
  have honce : (ds.filterMap Declaration.predicate?).Nodup :=
    (hds.filterMap _).nodup_iff.mpr s.nodup_predicates
  obtain ⟨s', hs'⟩ := (exists_parse_iff hcontents).mpr (grammatical_formats hworded honce)
  rw [hs', (describes_of_parse hcontents hs').unique
    (describes_formats hworded fun d => hds.mem_iff)]

/-! ## Schemas of texts -/

/-- Subtypes and supertypes that are declared are identifiers. -/
theorem Line.Says.isWord_inclusion {line : List Char} {child parent : String}
    (h : Says line (.inclusion child parent)) : IsWord child ∧ IsWord parent := by
  cases h with
  | inclusion hchild _ _ hparent =>
    rw [IsWord, IsWord, String.toList_ofList, String.toList_ofList]
    exact ⟨hchild, hparent⟩

/-- A signature of types that are not mixed can be written. -/
theorem worded_ofTypes {types : List String} (hwords : ∀ type ∈ types, IsWord type)
    (hunmixed : Unmixed types) : (Signature.ofTypes types).Worded := by
  rw [Signature.ofTypes]
  split
  · trivial
  · next hnot =>
    intro type hm
    refine ⟨hwords type hm, ?_⟩
    rintro rfl
    exact hnot ⟨List.ne_nil_of_mem hm, hunmixed hm⟩

/-- What is read from a text can be written. -/
theorem worded_of_parse (h : Schema.parse text = .ok s) : ∀ d ∈ s.declarations, d.Worded := by
  have hcontents : Contents text.toList ((lines text.toList).map content) := contents_iff.mpr rfl
  have hgrammatical := (exists_parse_iff hcontents).mp ⟨s, h⟩
  have hdescribes := describes_of_parse hcontents h
  intro d hd
  cases d with
  | type name =>
    rw [Schema.type_mem_declarations, hdescribes.types] at hd
    obtain ⟨line, -, hform⟩ := hd
    exact hform.isWord_type
  | inclusion child parent =>
    rw [Schema.inclusion_mem_declarations, hdescribes.inclusions] at hd
    obtain ⟨line, -, hform⟩ := hd
    exact hform.isWord_inclusion
  | predicate name signature =>
    rw [Schema.predicate_mem_declarations, hdescribes.predicates] at hd
    obtain ⟨line, hline, arguments, types, hform, htypes, rfl⟩ := hd
    obtain ⟨others, hothers, hunmixed⟩ := hgrammatical.arguments line hline name arguments hform
    obtain rfl := htypes.unique hothers
    exact ⟨hform.isWord_predicate, worded_ofTypes htypes.isWord hunmixed⟩

end

end Substance
