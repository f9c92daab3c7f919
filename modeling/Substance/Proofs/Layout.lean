import Substance.Proofs.Iterators
import Substance.Proofs.Parsing
import Mathlib.Logic.Relation

/-!
# The layout of domains

A generator looks at the names of types and at the predicates, both in the order of names, and at
nothing else.  So a batch is the same over schemas that have these in common.  How a domain is laid
out is not among what it looks at: neither the order in which members are given, nor the order of
lines, comments, variables of arguments, or declarations of anything else.

* `SameVocabulary.generatePrograms_eq`: schemas with the same types and predicates.
* `sameVocabulary_of_schema?`: members given in any order, with repetitions.
* `Edit`: what may be done to the lines of a text.
* `Edit.sameDeclarations`, `sameDeclarations_of_edits`: one edit, and any number of them.
* `generatePrograms_layout`: the batches of schemas, of members in some order, and of texts.
-/

namespace Substance

open Text Line Substance.Random

/-! ## Generation -/

/-- Schemas with the same types and the same predicates. -/
structure SameVocabulary (s s' : Schema) : Prop where
  types : ∀ name, name ∈ s.types ↔ name ∈ s'.types
  predicates : ∀ name, s.predicates.get? name = s'.predicates.get? name

namespace SameVocabulary

variable {s s' : Schema} {σ : Type} [Source σ]

/-- The schemas are the same but for their inclusions. -/
theorem eq_with_inclusions (h : SameVocabulary s s') :
    s' = { s with inclusions := s'.inclusions } := by
  have htypes : s.types = s'.types := Catalog.ext_mem h.types
  have hpredicates : s.predicates = s'.predicates := Table.ext_get? h.predicates
  rw [htypes, hpredicates]

/-- Programs are generated alike, since no step looks at the inclusions. -/
theorem addProgram_eq (h : SameVocabulary s s') (setting : Setting) :
    (Generator.addProgram s setting : Generation σ Program) = Generator.addProgram s' setting := by
  rw [h.eq_with_inclusions]
  rfl

/-- The schemas are fit for generation alike. -/
theorem check_eq (h : SameVocabulary s s') (setting : Setting) :
    Batch.check s setting = Batch.check s' setting := by
  rw [h.eq_with_inclusions]
  rfl

/-- The schemas have the same batches. -/
theorem generatePrograms_eq (h : SameVocabulary s s') (setting : Setting) (count seed : Int) :
    generatePrograms s setting count seed = generatePrograms s' setting count seed := by
  simp only [generatePrograms, Batch.prepare, Batch.programs, Batch.rest, h.check_eq,
    Batch.collect_congr (h.addProgram_eq setting)]

end SameVocabulary

/-! ## Members in some order -/

/-- Where no two entries share a key, a catalog has those that it was made of. -/
theorem mem_ofList_of_key {α κ : Type} [LT κ] [DecidableLT κ] [KeyOrder κ] {key : α → κ}
    {l : List α} (h : ∀ a ∈ l, ∀ b ∈ l, key a = key b → a = b) {a : α} :
    a ∈ (Catalog.ofList l : Catalog key) ↔ a ∈ l := by
  have hfold : ∀ c : Catalog key, (∀ b ∈ c, ∀ d ∈ l, key b = key d → b = d) →
      (a ∈ l.foldl Catalog.put c ↔ a ∈ c ∨ a ∈ l) := by
    induction l with
    | nil => simp
    | cons b l ih =>
      intro c hc
      have hput : ∀ d, d ∈ c.put b ↔ d ∈ c ∨ d = b := by
        intro d
        rw [Catalog.mem_put]
        constructor
        · rintro (hd | ⟨hd, -⟩)
          · exact .inr hd
          · exact .inl hd
        · rintro (hd | hd)
          · by_cases hk : key d = key b
            · exact .inl (hc d hd b List.mem_cons_self hk)
            · exact .inr ⟨hd, hk⟩
          · exact .inl hd
      have hrest : ∀ d ∈ c.put b, ∀ e ∈ l, key d = key e → d = e := by
        intro d hd e he
        rcases (hput d).mp hd with hd | rfl
        · exact hc d hd e (List.mem_cons_of_mem b he)
        · exact h d List.mem_cons_self e (List.mem_cons_of_mem d he)
      have hl : ∀ d ∈ l, ∀ e ∈ l, key d = key e → d = e := fun d hd e he =>
        h d (List.mem_cons_of_mem b hd) e (List.mem_cons_of_mem b he)
      rw [List.foldl_cons, ih hl (c.put b) hrest, hput, List.mem_cons, or_assoc]
  exact (hfold _ fun b hb => absurd hb (Catalog.not_mem_empty b)).trans
    (or_iff_right (Catalog.not_mem_empty a))

/-- The members of a set are those that it was made of. -/
theorem mem_ofList {names : List String} {name : String} :
    name ∈ (Catalog.ofList names : NameSet) ↔ name ∈ names :=
  mem_ofList_of_key fun _ _ _ _ h => h

/-- The value under a key is the last one that was given for it. -/
theorem get?_ofList {ν : Type} (entries : List (String × ν)) (k : String) :
    Table.get? (.ofList entries) k = entries.reverse.lookup k := by
  have hfold : ∀ t : Table ν,
      Table.get? (entries.foldl Catalog.put t) k = (entries.reverse.lookup k).or (t.get? k) := by
    induction entries with
    | nil => intro t; rfl
    | cons entry entries ih =>
      obtain ⟨key, value⟩ := entry
      intro t
      have hset := Table.get?_set t key k value
      rw [Table.set] at hset
      rw [List.foldl_cons, ih, hset, List.reverse_cons, List.lookup_append, Option.or_assoc]
      by_cases hk : key = k
      · simp [hk]
      · simp [List.lookup_cons, hk, beq_eq_false_iff_ne.mpr (Ne.symm hk)]
  exact (hfold .empty).trans Option.or_none

/-- When an inverse is found for every element, the list is made of what was found. -/
theorem eq_map_of_mapM {α β : Type} {f : α → Option β} {g : β → α} {l : List α} {m : List β}
    (hf : ∀ {a b}, f a = some b → a = g b) (h : l.mapM f = some m) : l = m.map g := by
  induction l generalizing m with
  | nil =>
    cases h
    rfl
  | cons a l ih =>
    rw [List.mapM_cons] at h
    obtain ⟨b, hb, h⟩ := Option.bind_eq_some_iff.mp h
    obtain ⟨rest, hrest, h⟩ := Option.bind_eq_some_iff.mp h
    cases h
    rw [List.map_cons, ← hf hb, ← ih hrest]

/-- A value that is a text is that text. -/
theorem Json.eq_text_of_text? {v : Json} {name : String} (h : v.text? = some name) :
    v = .text name := by
  cases v <;> cases h
  rfl

/-- A signature in which every type is named by a text is that of the texts. -/
theorem Signature.eq_toPlain_of_textual? {signature : Signature Json} {texts : Signature String}
    (h : signature.textual? = some texts) : signature = texts.toPlain := by
  cases signature with
  | objects types =>
    obtain ⟨names, hnames, rfl⟩ := Option.map_eq_some_iff.mp h
    rw [Signature.toPlain, ← eq_map_of_mapM Json.eq_text_of_text? hnames]
  | propositions =>
    cases h
    rfl

/-- Signatures that are the same as plain data are the same. -/
theorem Signature.toPlain_inj {a b : Signature String} (h : a.toPlain = b.toPlain) : a = b := by
  cases a <;> cases b <;> simp only [Signature.toPlain, reduceCtorEq, Signature.objects.injEq] at h
  · rw [List.map_injective_iff.mpr (fun _ _ h => Json.text.inj h) h]
  · rfl

/-- What is given for a schema, as texts. -/
theorem LooseSchema.exists_texts {l : LooseSchema} {s : Schema} (h : l.schema? = some s) :
    ∃ names pairs signatures,
      l = ⟨names.map .text, pairs.map fun i => (.text i.child, .text i.parent),
        signatures.map (Prod.map id Signature.toPlain)⟩ ∧
      s = ⟨.ofList names, .ofList pairs, .ofList signatures⟩ := by
  obtain ⟨types, inclusions, predicates⟩ := l
  simp only [LooseSchema.schema?, Option.bind_eq_bind, Option.bind_eq_some_iff, Option.pure_def,
    Option.some.injEq] at h
  obtain ⟨names, hnames, pairs, hpairs, signatures, hsignatures, rfl⟩ := h
  refine ⟨names, pairs, signatures, ?_, rfl⟩
  rw [eq_map_of_mapM Json.eq_text_of_text? hnames, eq_map_of_mapM ?pairs hpairs,
    eq_map_of_mapM ?signatures hsignatures]
  case pairs =>
    rintro ⟨child, parent⟩ b hb
    obtain ⟨childName, hchild, hb⟩ := Option.bind_eq_some_iff.mp hb
    obtain ⟨parentName, hparent, hb⟩ := Option.bind_eq_some_iff.mp hb
    cases hb
    exact congrArg₂ Prod.mk (Json.eq_text_of_text? hchild) (Json.eq_text_of_text? hparent)
  case signatures =>
    rintro ⟨name, signature⟩ b hb
    obtain ⟨texts, htexts, hb⟩ := Option.bind_eq_some_iff.mp hb
    cases hb
    exact congrArg (Prod.mk name) (Signature.eq_toPlain_of_textual? htexts)

/-- Plain data with the same types, and the same last predicate of every name, is given for the same
vocabulary. -/
theorem sameVocabulary_of_schema? {l l' : LooseSchema} {s s' : Schema}
    (hs : l.schema? = some s) (hs' : l'.schema? = some s')
    (htypes : ∀ name, name ∈ l.types ↔ name ∈ l'.types)
    (hpredicates : ∀ name, l.predicates.reverse.lookup name = l'.predicates.reverse.lookup name) :
    SameVocabulary s s' := by
  obtain ⟨names, _, signatures, rfl, rfl⟩ := LooseSchema.exists_texts hs
  obtain ⟨names', _, signatures', rfl, rfl⟩ := LooseSchema.exists_texts hs'
  have hlookup : ∀ (entries : List (String × Signature String)) (name : String),
      (entries.map (Prod.map id Signature.toPlain)).reverse.lookup name =
        (entries.reverse.lookup name).map Signature.toPlain := by
    intro entries name
    rw [← List.map_reverse]
    induction entries.reverse with
    | nil => rfl
    | cons entry rest ih =>
      obtain ⟨key, signature⟩ := entry
      rw [List.map_cons, Prod.map_apply, List.lookup_cons, List.lookup_cons, ih, id]
      split <;> rfl
  constructor
  · intro name
    have h := htypes (.text name)
    rw [mem_ofList, mem_ofList]
    simpa using h
  · intro name
    have h := hpredicates name
    rw [hlookup, hlookup] at h
    rw [get?_ofList, get?_ofList]
    exact Option.map_injective (fun _ _ => Signature.toPlain_inj) h

/-! ## Variables of arguments -/

namespace Line

/-- The parts are the same, or the same but for the variable. -/
inductive RenamesPart : List Char → List Char → Prop
  | same {part : List Char} : '*' ∉ part → RenamesPart part part
  | named {front name gap own own' back : List Char} : Blanks front → isIdentifier name = true →
      Gap gap → isIdentifier own = true → isIdentifier own' = true → Blanks back →
      RenamesPart (front ++ ((name ++ (gap ++ own)) ++ back))
        (front ++ ((name ++ (gap ++ own')) ++ back))

/-- The arguments, with an asterisk between any two, are the same but for variables. -/
inductive RenamesVariables : List Char → List Char → Prop
  | last {part part' : List Char} : RenamesPart part part' → RenamesVariables part part'
  | cons {part part' rest rest' : List Char} : RenamesPart part part' →
      RenamesVariables rest rest' → RenamesVariables (part ++ '*' :: rest) (part' ++ '*' :: rest')

/-- An argument with a variable has no blanks at its ends. -/
theorem trimmed_named {name gap own : List Char} (hname : isIdentifier name = true)
    (hown : isIdentifier own = true) : Trimmed (name ++ (gap ++ own)) where
  head := isBlank_head?_identifier hname (gap ++ own)
  last c hc := by
    have hne : own ≠ [] := by
      rintro rfl
      cases hown
    rw [← List.append_assoc, List.getLast?_append_of_ne_nil _ hne] at hc
    exact isBlank_eq_false_of_isIdentifierPart
      (isIdentifierPart_of_mem hown c (List.mem_of_mem_getLast? hc))

/-- A part with a variable is an argument of the type before the variable. -/
theorem padded_named {front name gap own back : List Char} (hfront : Blanks front)
    (hname : isIdentifier name = true) (hgap : Gap gap) (hown : isIdentifier own = true)
    (hback : Blanks back) :
    Padded (front ++ ((name ++ (gap ++ own)) ++ back)) (String.ofList name) :=
  ⟨_, ⟨⟨front, back, hfront, hback, rfl⟩, trimmed_named hname hown⟩, .named hname hgap hown⟩

/-- A part is of one type, if any. -/
theorem Padded.unique {part : List Char} {type other : String} (h : Padded part type)
    (ho : Padded part other) : type = other :=
  Option.some.inj ((padded_iff.mp h).symm.trans (padded_iff.mp ho))

section

variable {part part' : List Char} {type : String} {types : List String}

/-- A variable may be named anew in either direction. -/
theorem RenamesPart.symm (h : RenamesPart part part') : RenamesPart part' part := by
  cases h with
  | same h => exact .same h
  | named hfront hname hgap hown hown' hback =>
    exact .named hfront hname hgap hown' hown hback

/-- Variables may be named anew in either direction. -/
theorem RenamesVariables.symm (h : RenamesVariables part part') : RenamesVariables part' part := by
  induction h with
  | last h => exact .last h.symm
  | cons h _ ih => exact .cons h.symm ih

/-- The first part ends where the asterisk stands. -/
theorem RenamesPart.asterisk_notMem (h : RenamesPart part part') : '*' ∉ part := by
  cases h with
  | same h => exact h
  | named hfront hname hgap hown _ hback =>
    exact (padded_named hfront hname hgap hown hback).asterisk_notMem

/-- A part keeps its type when its variable is named anew. -/
theorem RenamesPart.padded (h : RenamesPart part part') (hp : Padded part type) :
    Padded part' type := by
  cases h with
  | same => exact hp
  | named hfront hname hgap hown hown' hback =>
    rw [hp.unique (padded_named hfront hname hgap hown hback)]
    exact padded_named hfront hname hgap hown' hback

/-- Blanks have no variable. -/
theorem RenamesPart.blanks (h : RenamesPart part part') (hb : Blanks part) : Blanks part' := by
  cases h with
  | same => exact hb
  | named hfront hname hgap hown _ hback =>
    exact absurd hb (padded_named hfront hname hgap hown hback).not_blanks

/-- Arguments keep their types when variables are named anew. -/
theorem RenamesVariables.arguments (h : RenamesVariables part part') (ha : Arguments part types) :
    Arguments part' types := by
  induction h generalizing types with
  | last h =>
    rw [arguments_iff, splitOn_of_notMem h.asterisk_notMem] at ha
    cases ha with
    | cons hpart hrest =>
      cases hrest
      exact .last (h.padded hpart)
  | cons h _ ih =>
    rw [arguments_iff, splitOn_append h.asterisk_notMem] at ha
    cases ha with
    | cons hpart hrest => exact .cons (h.padded hpart) (ih (arguments_iff.mpr hrest))

/-- A list of arguments keeps its types when variables are named anew. -/
theorem RenamesVariables.argumentList (h : RenamesVariables part part')
    (ha : ArgumentList part types) : ArgumentList part' types := by
  cases ha with
  | arguments ha => exact .arguments (h.arguments ha)
  | blank hb =>
    cases h with
    | last h => exact .blank (h.blanks hb)
    | cons =>
      have hasterisk := hb.notMem (c := '*') (by decide)
      simp at hasterisk

end

end Line

/-! ## Edits -/

/-- `Leaves raw line`: without its comment and the blanks around the rest the line is `line`. -/
def Text.Leaves (raw line : List Char) : Prop :=
  ∃ kept, BeforeComment raw kept ∧ Stripped kept line

/-- What may be done to the lines of a text.  Lines are put in any order, so the other edits are made
to the first line. -/
inductive Edit : List (List Char) → List (List Char) → Prop
  | permute {raws raws' : List (List Char)} : raws.Perm raws' → Edit raws raws'
  /-- A comment is made or taken away, and so are blanks around the rest. -/
  | comment {raw raw' line : List Char} {raws : List (List Char)} : Leaves raw line →
      Leaves raw' line → Edit (raw :: raws) (raw' :: raws)
  | blank {raw : List Char} {raws : List (List Char)} : Leaves raw [] → Edit raws (raw :: raws)
  | inclusion {raw line : List Char} {child parent : String} {raws : List (List Char)} :
      Leaves raw line → Says line (.inclusion child parent) → Edit raws (raw :: raws)
  | skipped {raw line : List Char} {keyword : String} {raws : List (List Char)} :
      Leaves raw line → Says line (.skipped keyword) → Edit raws (raw :: raws)
  /-- A type is declared once more. -/
  | repeated {raw line raw' line' : List Char} {name : String} {raws : List (List Char)} :
      raw' ∈ raws → Leaves raw' line' → Says line' (.type name) → Leaves raw line →
      Says line (.type name) → Edit raws (raw :: raws)
  /-- The variables of a predicate's arguments are named anew. -/
  | renamed {raw line raw' line' arguments arguments' : List Char} {name : String}
      {raws : List (List Char)} : Leaves raw line → Says line (.predicate name arguments) →
      Leaves raw' line' → Says line' (.predicate name arguments') →
      RenamesVariables arguments arguments' → Edit (raw :: raws) (raw' :: raws)

/-- The line declares a predicate of this name and signature. -/
def DeclaresAs (name : String) (signature : Signature String) (line : List Char) : Prop :=
  ∃ arguments types, Says line (.predicate name arguments) ∧ ArgumentList arguments types ∧
    signature = .ofTypes types

/-- The lines are grammatical alike, and declare the same types and predicates. -/
structure SameDeclarations (ls ls' : List (List Char)) : Prop where
  grammatical : Grammatical ls ↔ Grammatical ls'
  types : ∀ name, (∃ line ∈ ls, Says line (.type name)) ↔ ∃ line ∈ ls', Says line (.type name)
  predicates : ∀ name signature, (∃ line ∈ ls, DeclaresAs name signature line) ↔
    ∃ line ∈ ls', DeclaresAs name signature line

section

variable {line line' raw : List Char} {ls ls' raws raws' : List (List Char)}

/-- What is left of a line is what counts of it. -/
theorem leaves_iff : Leaves raw line ↔ content raw = line := content_eq_iff

/-- What counts of a text is what counts of the lines that it is cut into. -/
theorem contents_of_cutsInto {text : List Char} (h : CutsInto text raws) :
    Contents text (raws.map content) := by
  rw [contents_iff, cutsInto_iff.mp h]

namespace SameDeclarations

/-- Lines declare what they declare. -/
theorem refl (ls : List (List Char)) : SameDeclarations ls ls :=
  ⟨.rfl, fun _ => .rfl, fun _ _ => .rfl⟩

/-- What lines declare may be compared in either direction. -/
theorem symm (h : SameDeclarations ls ls') : SameDeclarations ls' ls :=
  ⟨h.grammatical.symm, fun name => (h.types name).symm, fun name signature =>
    (h.predicates name signature).symm⟩

/-- What lines declare may be compared step by step. -/
theorem trans {ls'' : List (List Char)} (h : SameDeclarations ls ls')
    (h' : SameDeclarations ls' ls'') : SameDeclarations ls ls'' :=
  ⟨h.grammatical.trans h'.grammatical, fun name => (h.types name).trans (h'.types name),
    fun name signature => (h.predicates name signature).trans (h'.predicates name signature)⟩

/-- The schemas of lines that declare the same have the same vocabulary. -/
theorem sameVocabulary {s s' : Schema} (h : SameDeclarations ls ls') (hs : Describes ls s)
    (hs' : Describes ls' s') : SameVocabulary s s' where
  types name := (hs.types name).trans ((h.types name).trans (hs'.types name).symm)
  predicates name := by
    apply Option.ext
    intro signature
    rw [Table.get?_eq_some_iff, Table.get?_eq_some_iff]
    exact (hs.predicates name signature).trans
      ((h.predicates name signature).trans (hs'.predicates name signature).symm)

end SameDeclarations

/-- Lines are grammatical with one more in front when this one is in order by itself and declares no
predicate of theirs. -/
theorem grammatical_cons : Grammatical (line :: ls) ↔
    (∃ x, Says line x) ∧
      (∀ name arguments, Says line (.predicate name arguments) →
        ∃ types, ArgumentList arguments types ∧ Unmixed types) ∧
      (∀ other ∈ ls, ∀ name, DeclaresPredicate name line → ¬DeclaresPredicate name other) ∧
      Grammatical ls := by
  constructor
  · rintro ⟨hforms, harguments, honce⟩
    rw [List.forall_mem_cons] at hforms harguments
    rw [List.pairwise_cons] at honce
    exact ⟨hforms.1, harguments.1, honce.1, hforms.2, harguments.2, honce.2⟩
  · rintro ⟨hform, hargs, hnew, hforms, harguments, honce⟩
    exact ⟨List.forall_mem_cons.mpr ⟨hform, hforms⟩, List.forall_mem_cons.mpr ⟨hargs, harguments⟩,
      List.pairwise_cons.mpr ⟨hnew, honce⟩⟩

/-- Lines declare the same in any order. -/
theorem sameDeclarations_of_perm (h : ls.Perm ls') : SameDeclarations ls ls' where
  grammatical := by
    have honce : ∀ {line other : List Char},
        (∀ name, DeclaresPredicate name line → ¬DeclaresPredicate name other) →
          ∀ name, DeclaresPredicate name other → ¬DeclaresPredicate name line :=
      fun hr name ho hl => hr name hl ho
    constructor
    · rintro ⟨hf, ha, ho⟩
      exact ⟨fun l hl => hf l (h.mem_iff.mpr hl), fun l hl => ha l (h.mem_iff.mpr hl),
        (h.pairwise_iff honce).mp ho⟩
    · rintro ⟨hf, ha, ho⟩
      exact ⟨fun l hl => hf l (h.mem_iff.mp hl), fun l hl => ha l (h.mem_iff.mp hl),
        (h.pairwise_iff honce).mpr ho⟩
  types name := by simp only [h.mem_iff]
  predicates name signature := by simp only [h.mem_iff]

/-- A line that declares nothing new adds nothing: it declares no predicate, and every type that it
declares is declared by another line. -/
theorem sameDeclarations_cons (hform : ∃ x, Says line x)
    (htype : ∀ name, Says line (.type name) → ∃ other ∈ ls, Says other (.type name))
    (hpredicate : ∀ name arguments, ¬Says line (.predicate name arguments)) :
    SameDeclarations ls (line :: ls) where
  grammatical := by
    rw [grammatical_cons]
    refine ⟨fun h => ⟨hform, fun name arguments hp => ?_, fun _ _ name hp => ?_, h⟩,
      fun h => h.2.2.2⟩
    · exact absurd hp (hpredicate name arguments)
    · obtain ⟨arguments, hp⟩ := hp
      exact absurd hp (hpredicate name arguments)
  types name := by
    rw [List.exists_mem_cons_iff]
    exact ⟨.inr, fun h => h.elim (htype name) id⟩
  predicates name signature := by
    rw [List.exists_mem_cons_iff]
    refine ⟨.inr, fun h => h.resolve_left ?_⟩
    rintro ⟨arguments, -, hp, -⟩
    exact hpredicate name arguments hp

/-- No line of a skipped declaration is one of a type or of a predicate: they open with different
letters. -/
theorem Line.Says.skipped_ne {keyword : String} (h : Says line (.skipped keyword)) :
    (∀ name, ¬Says line (.type name)) ∧
      ∀ name arguments, ¬Says line (.predicate name arguments) := by
  have hstart : ∀ keyword ∈ skippedKeywords,
      keyword.toList.head? ≠ some 't' ∧ keyword.toList.head? ≠ some 'p' ∧ keyword.toList ≠ [] := by
    decide
  cases h with
  | @skipped keyword rest hkeyword hrest =>
    obtain ⟨ht, hp, hne⟩ := hstart keyword hkeyword
    have hhead : (keyword.toList ++ rest).head? = keyword.toList.head? :=
      List.head?_append_of_ne_nil _ hne
    rw [← hhead] at ht hp
    constructor
    · intro name hsays
      generalize keyword.toList ++ rest = line at ht hsays
      cases hsays
      exact ht rfl
    · intro name arguments hsays
      obtain ⟨gap, word, tail, -, -, hline⟩ := Says.exists_predicate hsays
      exact hp (hline ▸ rfl)

/-- A line declares one type, if any. -/
theorem Line.Says.type_unique {name other : String} (h : Says line (.type name))
    (ho : Says line (.type other)) : name = other :=
  Line.type.inj (Option.some.inj ((readType?_eq_some_iff.mpr ⟨name, rfl, h⟩).symm.trans
    (readType?_eq_some_iff.mpr ⟨other, rfl, ho⟩)))

/-- A line declares one predicate with one list of arguments, if any. -/
theorem Line.Says.predicate_unique {name other : String} {arguments others : List Char}
    (ht : Trimmed line) (h : Says line (.predicate name arguments))
    (ho : Says line (.predicate other others)) : name = other ∧ arguments = others := by
  have hread := (h.read?_eq_some ht (by simp)).symm.trans (ho.read?_eq_some ht (by simp))
  simpa using hread

/-- Nothing else is declared when variables are named anew. -/
theorem sameDeclarations_renamed {name : String} {arguments arguments' : List Char}
    (ht : Trimmed line) (ht' : Trimmed line') (h : Says line (.predicate name arguments))
    (h' : Says line' (.predicate name arguments')) (hr : RenamesVariables arguments arguments') :
    SameDeclarations (line :: ls) (line' :: ls) := by
  -- the edit can be undone, so one direction is enough
  have hstep : ∀ {line line' arguments arguments'}, Trimmed line → Trimmed line' →
      Says line (.predicate name arguments) → Says line' (.predicate name arguments') →
      RenamesVariables arguments arguments' →
      (Grammatical (line :: ls) → Grammatical (line' :: ls)) ∧
      (∀ type, ¬Says line (.type type)) ∧
      ∀ other signature, DeclaresAs other signature line → DeclaresAs other signature line' := by
    intro line line' arguments arguments' ht ht' h h' hr
    refine ⟨fun hg => ?_, fun type htype => htype.type_ne_predicate h, ?_⟩
    · obtain ⟨-, hargs, hnew, hls⟩ := grammatical_cons.mp hg
      refine grammatical_cons.mpr ⟨⟨_, h'⟩, fun other others ho => ?_, fun l hl other ho => ?_, hls⟩
      · obtain ⟨rfl, rfl⟩ := h'.predicate_unique ht' ho
        obtain ⟨types, harguments, hunmixed⟩ := hargs name arguments h
        exact ⟨types, hr.argumentList harguments, hunmixed⟩
      · obtain ⟨others, ho⟩ := ho
        obtain ⟨rfl, -⟩ := h'.predicate_unique ht' ho
        exact hnew l hl name ⟨arguments, h⟩
    · rintro other signature ⟨others, types, ho, harguments, hs⟩
      obtain ⟨rfl, rfl⟩ := h.predicate_unique ht ho
      exact ⟨arguments', types, h', hr.argumentList harguments, hs⟩
  obtain ⟨hg, htype, hp⟩ := hstep ht ht' h h' hr
  obtain ⟨hg', htype', hp'⟩ := hstep ht' ht h' h hr.symm
  refine ⟨⟨hg, hg'⟩, fun type => ?_, fun other signature => ?_⟩
  · rw [List.exists_mem_cons_iff, List.exists_mem_cons_iff, iff_false_intro (htype type),
      iff_false_intro (htype' type)]
  · rw [List.exists_mem_cons_iff, List.exists_mem_cons_iff]
    exact or_congr ⟨hp other signature, hp' other signature⟩ .rfl

/-- An edit keeps what lines declare. -/
theorem Edit.sameDeclarations (h : Edit raws raws') :
    SameDeclarations (raws.map content) (raws'.map content) := by
  cases h with
  | permute h => exact sameDeclarations_of_perm (h.map content)
  | comment h h' =>
    rw [List.map_cons, List.map_cons, leaves_iff.mp h, leaves_iff.mp h']
    exact .refl _
  | blank h =>
    rw [List.map_cons, leaves_iff.mp h]
    exact sameDeclarations_cons ⟨.blank, .blank⟩ (fun _ ht => absurd rfl (ht.ne_nil (by simp)))
      fun _ _ hp => absurd rfl (hp.ne_nil (by simp))
  | inclusion h hi =>
    rw [List.map_cons, leaves_iff.mp h]
    exact sameDeclarations_cons ⟨_, hi⟩ (fun _ ht => absurd hi ht.type_ne_inclusion)
      fun _ _ hp => hi.inclusion_ne_predicate hp
  | skipped h hk =>
    rw [List.map_cons, leaves_iff.mp h]
    exact sameDeclarations_cons ⟨_, hk⟩ (fun name ht => absurd ht (hk.skipped_ne.1 name))
      hk.skipped_ne.2
  | repeated hm hother hdeclared h ht =>
    rw [List.map_cons, leaves_iff.mp h]
    refine sameDeclarations_cons ⟨_, ht⟩ (fun name hname => ?_) fun _ _ => ht.type_ne_predicate
    obtain rfl := ht.type_unique hname
    exact ⟨_, List.mem_map.mpr ⟨_, hm, leaves_iff.mp hother⟩, hdeclared⟩
  | @renamed raw line raw' line' arguments arguments' name raws h hp h' hp' hr =>
    rw [List.map_cons, List.map_cons]
    obtain rfl := leaves_iff.mp h
    obtain rfl := leaves_iff.mp h'
    exact sameDeclarations_renamed (trimmed_content raw) (trimmed_content raw') hp hp' hr

/-- Any number of edits, made or undone, keep what lines declare. -/
theorem sameDeclarations_of_edits (h : Relation.EqvGen Edit raws raws') :
    SameDeclarations (raws.map content) (raws'.map content) := by
  induction h with
  | rel _ _ h => exact h.sameDeclarations
  | refl raws => exact .refl _
  | symm _ _ _ ih => exact ih.symm
  | trans _ _ _ _ _ ih ih' => exact ih.trans ih'

end

/-! ## Batches -/

/-- The layout of a domain does not count.  Batches are the same over schemas with the same types and
predicates, whatever their inclusions; over members given in any order; and over texts that edits
lead from one to the other, which are read alike.  Texts with the same lines in any order are read
alike. -/
theorem generatePrograms_layout :
    (∀ s s', SameVocabulary s s' → ∀ setting count seed,
      generatePrograms s setting count seed = generatePrograms s' setting count seed) ∧
    (∀ (l l' : LooseSchema) (s s' : Schema), l.schema? = some s → l'.schema? = some s' →
      (∀ name, name ∈ l.types ↔ name ∈ l'.types) →
      (∀ name, l.predicates.reverse.lookup name = l'.predicates.reverse.lookup name) →
      ∀ setting count seed, generatePrograms (.ofLoose l) setting count seed =
        generatePrograms (.ofLoose l') setting count seed) ∧
    (∀ (text text' : String) (raws raws' : List (List Char)), CutsInto text.toList raws →
      CutsInto text'.toList raws' → Relation.EqvGen Edit raws raws' →
      ((∃ s, Schema.parse text = .ok s) ↔ ∃ s, Schema.parse text' = .ok s) ∧
      ∀ s s', Schema.parse text = .ok s → Schema.parse text' = .ok s' → ∀ setting count seed,
        generatePrograms s setting count seed = generatePrograms s' setting count seed) ∧
    (∀ (text text' : String) (raws raws' : List (List Char)), CutsInto text.toList raws →
      CutsInto text'.toList raws' → raws.Perm raws' →
      ((∃ s, Schema.parse text = .ok s) ↔ ∃ s, Schema.parse text' = .ok s)) := by
  have hread : ∀ {text text' : String} {raws raws' : List (List Char)},
      CutsInto text.toList raws → CutsInto text'.toList raws' →
      SameDeclarations (raws.map content) (raws'.map content) →
      ((∃ s, Schema.parse text = .ok s) ↔ ∃ s, Schema.parse text' = .ok s) := by
    intro text text' raws raws' hc hc' h
    rw [exists_parse_iff (contents_of_cutsInto hc), exists_parse_iff (contents_of_cutsInto hc')]
    exact h.grammatical
  refine ⟨fun s s' h => h.generatePrograms_eq, ?_, ?_, ?_⟩
  · intro l l' s s' hs hs' htypes hpredicates
    have h := sameVocabulary_of_schema? hs hs' htypes hpredicates
    rw [Domain.ofLoose, Domain.ofLoose, hs, hs']
    exact h.generatePrograms_eq
  · intro text text' raws raws' hc hc' hedits
    have h := sameDeclarations_of_edits hedits
    refine ⟨hread hc hc' h, fun s s' hs hs' => ?_⟩
    exact (h.sameVocabulary (describes_of_parse (contents_of_cutsInto hc) hs)
      (describes_of_parse (contents_of_cutsInto hc') hs')).generatePrograms_eq
  · intro text text' raws raws' hc hc' hperm
    exact hread hc hc' (Edit.permute hperm).sameDeclarations

/-- Points, and a predicate on two of them. -/
def pointsText : String := "type Point\npredicate On : Point p * Point q\n"

/-- The same with other variables, a comment, an inclusion, and the lines turned around. -/
def pointsTextTurned : String :=
  "Point <: Shape\npredicate On : Point a * Point b -- of two\ntype Point"

/-- Both texts are read, and have the same batches. -/
theorem generatePrograms_layout_points : ∃ s s', Schema.parse pointsText = .ok s ∧
    Schema.parse pointsTextTurned = .ok s' ∧ ∀ setting count seed,
      generatePrograms s setting count seed = generatePrograms s' setting count seed := by
  let declared : Schema := (Schema.empty.addType "Point").addPredicate "On"
    (.objects ["Point", "Point"])
  have hread : Schema.parse pointsText = .ok declared := by decide +kernel
  have hread' : Schema.parse pointsTextTurned = .ok (declared.addInclusion "Point" "Shape") := by
    decide +kernel
  have hblank : Gap [' '] := gap_iff.mpr ⟨' ', [], rfl, by decide, List.forall_mem_nil _⟩
  have hpredicate : ∀ arguments, Says ("predicate".toList ++ ([' '] ++ ("On".toList ++ ([' '] ++
      ':' :: arguments)))) (.predicate "On" arguments) := fun _ =>
    .predicate hblank (by decide) hblank.2
  have hpart : ∀ own own' back, isIdentifier [own] = true → isIdentifier [own'] = true →
      Blanks back → RenamesPart ([' '] ++ (("Point".toList ++ ([' '] ++ [own])) ++ back))
        ([' '] ++ (("Point".toList ++ ([' '] ++ [own'])) ++ back)) := fun _ _ _ hown hown' hback =>
    .named hblank.2 (by decide) hblank hown hown' hback
  have hvariables : RenamesVariables " Point p * Point q".toList " Point a * Point b".toList :=
    .cons (hpart 'p' 'a' [' '] (by decide) (by decide) hblank.2)
      (.last (hpart 'q' 'b' [] (by decide) (by decide) blanks_nil))
  have hinclusion : Says ("Point".toList ++ ([' '] ++ '<' :: ':' :: ([' '] ++ "Shape".toList)))
      (.inclusion "Point" "Shape") :=
    .inclusion (by decide) hblank.2 hblank.2 (by decide)
  have hrenamed : Edit ["predicate On : Point p * Point q".toList, "type Point".toList]
      ["predicate On : Point a * Point b -- of two".toList, "type Point".toList] :=
    .renamed (leaves_iff.mpr (by decide)) (hpredicate _) (leaves_iff.mpr (by decide)) (hpredicate _)
      hvariables
  have hedits : Relation.EqvGen Edit
      ["type Point".toList, "predicate On : Point p * Point q".toList]
      ["Point <: Shape".toList, "predicate On : Point a * Point b -- of two".toList,
        "type Point".toList] := by
    refine .trans _ _ _ (.rel _ _ (.permute (List.Perm.swap _ _ _))) ?_
    refine .trans _ _ _ (.rel _ _ hrenamed) ?_
    exact .rel _ _ (.inclusion (leaves_iff.mpr (by decide)) hinclusion)
  refine ⟨declared, _, hread, hread', ?_⟩
  exact (generatePrograms_layout.2.2.1 pointsText pointsTextTurned _ _
    (cutsInto_iff.mpr (by decide)) (cutsInto_iff.mpr (by decide)) hedits).2 _ _ hread hread'

end Substance
