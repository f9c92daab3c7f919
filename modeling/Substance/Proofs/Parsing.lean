import Substance.Proofs.Naming
import Substance.Proofs.Reading

/-!
# Which texts are domains

A text is read line by line, and the schema so far is carried along.  What a line may do depends on
the lines before it in one way only: their predicates may not be declared again.  So the schema so
far describes the lines that were read, and reading goes on just as long as they are grammatical.

* `argumentTypes_eq_ok_iff`, `signature_eq_ok_iff`: lists of arguments.
* `exists_addRaw_iff`, `Describes.addRaw`: one line.
* `Schema.parse_iff`: a text is read exactly if it is a domain, and as the schema that it describes.
-/

namespace Substance

open Text

namespace Line

variable {text : List Char} {type : String} {types : List String}

/-! ## Arguments -/

/-- The type of an argument is read. -/
theorem argumentType?_eq_some_iff :
    argumentType? text = some type ↔ Argument text type := by
  constructor
  · intro h
    simp only [argumentType?, Option.bind_eq_bind, Option.bind_eq_some_iff] at h
    obtain ⟨⟨name, rest⟩, hsplit, h⟩ := h
    dsimp only at h
    obtain ⟨hname, rfl, -⟩ := splitIdentifier?_eq_some_iff.mp hsplit
    split at h
    · cases h
      rw [List.append_nil]
      exact .type hname
    · next c rest =>
      split at h
      · next hc =>
        cases h
        rw [Bool.and_eq_true] at hc
        have hrest := rest.takeWhile_append_dropWhile (p := isBlank)
        rw [← hrest, ← List.cons_append]
        exact .named hname (gap_iff.mpr ⟨c, _, rfl, hc.1, blanks_takeWhile rest⟩) hc.2
      · cases h
  · intro h
    cases h with
    | type hname => simp [argumentType?, splitIdentifier?_self hname]
    | @named name gap own hname hgap hown =>
      obtain ⟨c, gap, rfl, hc, hgap⟩ := gap_iff.mp hgap
      have hsplit := splitIdentifier?_append hname
        (eq_of_mem_head?_cons c (gap ++ own) (isIdentifierPart_eq_false_of_isBlank hc))
      have hend := hgap.dropWhile (isBlank_head?_of_isIdentifier hown)
      simp [argumentType?, hsplit, hc, hend, hown]

/-- No argument holds an asterisk. -/
theorem Argument.asterisk_notMem (h : Argument text type) : '*' ∉ text := by
  cases h with
  | type hname => exact notMem_of_isIdentifier hname (by decide)
  | named hname hgap hown =>
    simp only [List.mem_append, not_or]
    exact ⟨notMem_of_isIdentifier hname (by decide), hgap.2.notMem (by decide),
      notMem_of_isIdentifier hown (by decide)⟩

/-- An argument between blanks is read once they are taken away. -/
theorem padded_iff : Padded text type ↔ argumentType? (strip text) = some type := by
  simp only [Padded, stripped_iff, exists_eq_left', argumentType?_eq_some_iff]

/-- Blanks around an argument do not count. -/
theorem padded_append_iff {front back : List Char} (hf : Blanks front) (hb : Blanks back) :
    Padded (front ++ (text ++ back)) type ↔ Padded text type := by
  rw [padded_iff, padded_iff, strip_append_blanks hf hb]

/-- No asterisk stands within an argument or the blanks around it. -/
theorem Padded.asterisk_notMem (h : Padded text type) : '*' ∉ text := by
  obtain ⟨inner, ⟨⟨front, back, hfront, hback, rfl⟩, -⟩, h⟩ := h
  simp only [List.mem_append, not_or]
  exact ⟨hfront.notMem (by decide), h.asterisk_notMem, hback.notMem (by decide)⟩

/-- Blanks are no argument. -/
theorem Padded.not_blanks (h : Padded text type) : ¬Blanks text := by
  intro hb
  rw [padded_iff, strip_eq_nil_iff.mpr hb] at h
  cases h

/-- Arguments are read part by part. -/
theorem arguments_iff :
    Arguments text types ↔ List.Forall₂ Padded (splitOn '*' text) types := by
  constructor
  · intro h
    induction h with
    | last h => rw [splitOn_of_notMem h.asterisk_notMem]; exact .cons h .nil
    | cons h _ ih => rw [splitOn_append h.asterisk_notMem]; exact .cons h ih
  · intro h
    induction types generalizing text with
    | nil =>
      have hlength := length_splitOn '*' text
      rw [List.forall₂_nil_right_iff.mp h] at hlength
      cases hlength
    | cons type types ih =>
      by_cases hm : '*' ∈ text
      · obtain ⟨part, rest, rfl, hpart⟩ := List.eq_append_cons_of_mem hm
        rw [splitOn_append hpart, List.forall₂_cons] at h
        exact .cons h.1 (ih h.2)
      · rw [splitOn_of_notMem hm, List.forall₂_cons, List.forall₂_nil_left_iff] at h
        obtain ⟨h, rfl⟩ := h
        exact .last h

/-! ## Lists of arguments -/

/-- Blanks in front of arguments do not count. -/
theorem arguments_blanks_append_iff {front : List Char} (hf : Blanks front) :
    Arguments (front ++ text) types ↔ Arguments text types := by
  have hpart : ∀ {part type}, Padded (front ++ part) type ↔ Padded part type := by
    intro part type
    have h : Padded (front ++ (part ++ [])) type ↔ Padded part type :=
      padded_append_iff hf blanks_nil
    rwa [List.append_nil] at h
  constructor
  · intro h
    generalize hl : front ++ text = l at h
    cases h with
    | last h => exact .last (hpart.mp (hl ▸ h))
    | @cons part rest _ _ h hrest =>
      rcases List.append_eq_append_iff.mp hl with ⟨part, rfl, rfl⟩ | ⟨more, rfl, -⟩
      · exact .cons (hpart.mp h) hrest
      · exact absurd (fun c hc => hf c (List.mem_append_left _ hc)) h.not_blanks
  · intro h
    cases h with
    | last h => exact .last (hpart.mpr h)
    | cons h hrest =>
      rw [← List.append_assoc]
      exact .cons (hpart.mpr h) hrest

/-- Blanks behind arguments do not count. -/
theorem arguments_append_blanks_iff {back : List Char} (hb : Blanks back) :
    Arguments (text ++ back) types ↔ Arguments text types := by
  have hpart : ∀ {part type}, Padded (part ++ back) type ↔ Padded part type := by
    intro part type
    exact padded_append_iff blanks_nil hb
  have hasterisk : '*' ∉ back := hb.notMem (by decide)
  constructor
  · intro h
    generalize hl : text ++ back = l at h
    induction h generalizing text with
    | last h => exact .last (hpart.mp (hl ▸ h))
    | @cons part rest _ _ h _ ih =>
      rcases List.append_eq_append_iff.mp hl with ⟨more, -, hmore⟩ | ⟨more, rfl, hmore⟩
      · exact (hasterisk (by simp [hmore])).elim
      · cases more with
        | nil =>
          have hback : back = '*' :: rest := hmore.symm
          exact (hasterisk (hback ▸ List.mem_cons_self)).elim
        | cons c more =>
          obtain ⟨rfl, hrest⟩ := List.cons.inj hmore
          exact .cons h (ih hrest.symm)
  · intro h
    induction h with
    | last h => exact .last (hpart.mpr h)
    | cons h _ ih =>
      rw [List.append_assoc, List.cons_append]
      exact .cons h ih

/-- Blanks around arguments do not count. -/
theorem arguments_strip_iff : Arguments (strip text) types ↔ Arguments text types := by
  obtain ⟨⟨front, back, hfront, hback, htext⟩, -⟩ := stripped_strip text
  conv_rhs => rw [htext]
  rw [arguments_blanks_append_iff hfront, arguments_append_blanks_iff hback]

/-- Blanks are no arguments. -/
theorem Arguments.not_blanks (h : Arguments text types) : ¬Blanks text := by
  cases h with
  | last h => exact h.not_blanks
  | cons => exact fun hb => hb.notMem (c := '*') (by decide) (by simp)

/-- A function that may fail gives a list exactly if it gives every element. -/
theorem mapM_eq_ok_iff {α β ε : Type} {f : α → Except ε β} {l : List α} {m : List β} :
    l.mapM f = .ok m ↔ List.Forall₂ (fun a b => f a = .ok b) l m := by
  induction l generalizing m with
  | nil => cases m <;> simp [pure, Except.pure]
  | cons a l ih =>
    rw [List.mapM_cons]
    cases ha : f a with
    | error e => cases m <;> simp [bind, Except.bind, ha]
    | ok b =>
      cases hl : l.mapM f with
      | error e => cases m <;> simp [bind, Except.bind, ← ih, hl]
      | ok more => cases m <;> simp [bind, Except.bind, pure, Except.pure, ← ih, hl, ha]

/-- The types of a list of arguments are read. -/
theorem argumentTypes_eq_ok_iff : argumentTypes text = .ok types ↔ ArgumentList text types := by
  rw [argumentTypes]
  by_cases hb : Blanks text
  · rw [if_pos (by simp [strip_eq_nil_iff.mpr hb])]
    constructor
    · rintro ⟨⟩
      exact .blank hb
    · intro h
      cases h with
      | blank => rfl
      | arguments h => exact absurd hb h.not_blanks
  · have hlist : ArgumentList text types ↔ Arguments text types := by
      refine ⟨fun h => ?_, .arguments⟩
      cases h with
      | blank h => exact absurd h hb
      | arguments h => exact h
    rw [if_neg (by simpa [strip_eq_nil_iff] using hb), mapM_eq_ok_iff, hlist,
      ← arguments_strip_iff, arguments_iff]
    constructor
    · refine List.Forall₂.imp fun part type h => padded_iff.mpr ?_
      split at h
      · next hpart =>
        cases h
        exact hpart
      · cases h
    · refine List.Forall₂.imp fun part type h => ?_
      rw [padded_iff.mp h]

/-- A list of arguments has one list of types, if any. -/
theorem ArgumentList.unique {others : List String} (h : ArgumentList text types)
    (ho : ArgumentList text others) : types = others :=
  Except.ok.inj ((argumentTypes_eq_ok_iff.mpr h).symm.trans (argumentTypes_eq_ok_iff.mpr ho))

/-- The signature of a predicate is read off its arguments, unless they are mixed. -/
theorem signature_eq_ok_iff {predicate : String} {signature : Signature String} :
    Line.signature predicate text = .ok signature ↔
      ∃ types, ArgumentList text types ∧ Unmixed types ∧ signature = .ofTypes types := by
  simp only [← argumentTypes_eq_ok_iff, Line.signature]
  cases ht : argumentTypes text with
  | error e => simp [bind, Except.bind]
  | ok types =>
    simp only [bind, Except.bind, Except.ok.injEq, exists_eq_left', Signature.ofTypes, Unmixed]
    split
    · next hall =>
      exact ⟨fun h => ⟨fun _ => hall.2, (Except.ok.inj h).symm⟩, fun h => congrArg _ h.2.symm⟩
    · next hall =>
      split
      · next hm =>
        have hmixed : ¬∀ t ∈ types, t = propType := fun h => hall ⟨List.ne_nil_of_mem hm, h⟩
        simp [throw, throwThe, MonadExceptOf.throw, hm, hmixed]
      · next hm => simp [pure, Except.pure, hm, eq_comm]

end Line

/-! ## The schema so far -/

open Line Schema

variable {s s' : Schema} {done : List (List Char)} {raw line : List Char}

/-- What counts of a line has no blanks at its ends. -/
theorem trimmed_content (raw : List Char) : Trimmed (content raw) := (stripped_strip _).trimmed

/-- A line may stand behind others if it is of some form, and the predicate that it declares is new
and has arguments as they should be. -/
structure Fits (done : List (List Char)) (line : List Char) : Prop where
  form : ∃ x, Says line x
  arguments : ∀ name arguments, Says line (.predicate name arguments) →
    ∃ types, ArgumentList arguments types ∧ Unmixed types
  new : ∀ name, DeclaresPredicate name line → ∀ other ∈ done, ¬DeclaresPredicate name other

/-- Lines are grammatical together when each fits behind those before it. -/
theorem grammatical_append_singleton :
    Grammatical (done ++ [line]) ↔ Grammatical done ∧ Fits done line := by
  constructor
  · intro h
    have honce := List.pairwise_append.mp h.once
    exact ⟨⟨fun l hl => h.forms l (List.mem_append_left _ hl),
        fun l hl => h.arguments l (List.mem_append_left _ hl), honce.1⟩,
      h.forms line (by simp), h.arguments line (by simp),
      fun name hn other ho hother => honce.2.2 other ho line (by simp) name hother hn⟩
  · rintro ⟨⟨hforms, harguments, honce⟩, hform, hargs, hnew⟩
    refine ⟨?_, ?_, List.pairwise_append.mpr ⟨honce, List.pairwise_singleton _ _, ?_⟩⟩
    · exact List.forall_mem_append.mpr ⟨hforms, by simpa using hform⟩
    · exact List.forall_mem_append.mpr ⟨harguments, by simpa using hargs⟩
    · intro other ho l hl name hother hn
      rw [List.mem_singleton.mp hl] at hn
      exact hnew name hn other ho hother

/-- A set that a member is put into has it, and its other members as before. -/
theorem mem_put_iff {α : Type} [LT α] [DecidableLT α] [KeyOrder α] {c : Catalog fun a : α => a}
    {a b : α} : b ∈ c.put a ↔ b ∈ c ∨ b = a := by
  rw [Catalog.mem_put, or_comm]
  refine ⟨.imp_left And.left, fun h => ?_⟩
  by_cases he : b = a
  · exact .inr he
  · exact .inl ⟨h.resolve_right he, he⟩

/-- The second schema has what the first one has, and what the line says. -/
structure Adds (s : Schema) (x : Line) (s' : Schema) : Prop where
  types : ∀ name, name ∈ s'.types ↔ name ∈ s.types ∨ x = .type name
  inclusions : ∀ child parent, ⟨child, parent⟩ ∈ s'.inclusions ↔
    ⟨child, parent⟩ ∈ s.inclusions ∨ x = .inclusion child parent
  predicates : ∀ name signature, (name, signature) ∈ s'.predicates ↔
    (name, signature) ∈ s.predicates ∨ ∃ arguments types, x = .predicate name arguments ∧
      ArgumentList arguments types ∧ signature = .ofTypes types

/-- A predicate is added if it is new and its arguments are as they should be. -/
theorem addLine_predicate_eq_ok_iff {name : String} {arguments : List Char} :
    s.addLine (.predicate name arguments) = .ok s' ↔ s.predicates.get? name = none ∧
      ∃ types, ArgumentList arguments types ∧ Unmixed types ∧
        s' = s.addPredicate name (.ofTypes types) := by
  have hsignature : ∀ signature, Line.signature name arguments = .ok signature ↔
      ∃ types, ArgumentList arguments types ∧ Unmixed types ∧ signature = .ofTypes types :=
    fun _ => signature_eq_ok_iff
  rw [addLine]
  cases hp : s.predicates.get? name with
  | some signature => simp
  | none =>
    constructor
    · intro h
      cases hs : Line.signature name arguments with
      | error e => simp [hs, bind, Except.bind] at h
      | ok signature =>
        obtain ⟨types, harguments, hunmixed, rfl⟩ := (hsignature signature).mp hs
        simp only [hs, bind, Except.bind, pure, Except.pure] at h
        exact ⟨rfl, types, harguments, hunmixed, (Except.ok.inj h).symm⟩
    · rintro ⟨-, types, harguments, hunmixed, rfl⟩
      have hs := (hsignature _).mpr ⟨types, harguments, hunmixed, rfl⟩
      simp [hs, bind, Except.bind, pure, Except.pure]

/-- What a line says is added, and nothing else. -/
theorem adds_of_addLine {x : Line} (h : s.addLine x = .ok s') : Adds s x s' := by
  cases x with
  | predicate name arguments =>
    obtain ⟨hp, types, harguments, -, rfl⟩ := addLine_predicate_eq_ok_iff.mp h
    refine ⟨by simp [addPredicate], by simp [addPredicate], fun other signature => ?_⟩
    rw [← Table.get?_eq_some_iff, ← Table.get?_eq_some_iff, addPredicate, Table.get?_set]
    constructor
    · split
      · next he =>
        rintro ⟨⟩
        exact .inr ⟨arguments, types, he ▸ rfl, harguments, rfl⟩
      · exact .inl
    · rintro (hother | ⟨arguments', types', he, harguments', rfl⟩)
      · have hne : name ≠ other := by
          rintro rfl
          rw [hp] at hother
          cases hother
        rwa [if_neg hne]
      · cases he
        rw [if_pos rfl, harguments.unique harguments']
  | type name =>
    cases h
    refine ⟨fun other => ?_, by simp [addType], by simp [addType]⟩
    rw [addType, mem_put_iff, Line.type.injEq, eq_comm (a := name)]
  | inclusion child parent =>
    cases h
    refine ⟨by simp [addInclusion], fun other above => ?_, by simp [addInclusion]⟩
    rw [addInclusion, mem_put_iff, Line.inclusion.injEq, Inclusion.mk.injEq, eq_comm (a := child),
      eq_comm (a := parent)]
  | _ =>
    cases h
    exact ⟨by simp, by simp, by simp⟩

/-! ## One line -/

/-- The form of a line that was read is its only one, apart from that of a skipped declaration. -/
theorem says_iff_of_read? {x y : Line} (ht : Trimmed line) (hr : read? line = some x)
    (hy : ∀ k, y ≠ .skipped k) : Says line y ↔ x = y := by
  constructor
  · intro h
    exact Option.some.inj (hr.symm.trans (h.read?_eq_some ht hy))
  · rintro rfl
    exact says_of_read? ht hr

/-- A predicate is new exactly if no line before declares it. -/
theorem Describes.get?_eq_none_iff (h : Describes done s) (hg : Grammatical done) {name : String} :
    s.predicates.get? name = none ↔ ∀ other ∈ done, ¬DeclaresPredicate name other := by
  constructor
  · rintro hn other ho ⟨arguments, hother⟩
    obtain ⟨types, harguments, -⟩ := hg.arguments other ho name arguments hother
    have hm := (h.predicates name _).mpr ⟨other, ho, arguments, types, hother, harguments, rfl⟩
    rw [← Table.get?_eq_some_iff, hn] at hm
    cases hm
  · intro hn
    rw [Option.eq_none_iff_forall_ne_some]
    intro signature hs
    obtain ⟨other, ho, arguments, -, hother, -⟩ :=
      (h.predicates name signature).mp (Table.get?_eq_some_iff.mp hs)
    exact hn other ho ⟨arguments, hother⟩

/-- A line is added to the schema so far exactly if it fits behind the lines so far. -/
theorem exists_addRaw_iff (h : Describes done s) (hg : Grammatical done) (raw : List Char) :
    (∃ s', s.addRaw raw = .ok s') ↔ Fits done (content raw) := by
  have ht := trimmed_content raw
  rw [addRaw]
  cases hr : read? (content raw) with
  | none =>
    refine ⟨by simp, fun hf => ?_⟩
    obtain ⟨x, hx⟩ := hf.form
    obtain ⟨y, hy⟩ := hx.exists_read? ht
    rw [hr] at hy
    cases hy
  | some x =>
    have hsays : ∀ name arguments, Says (content raw) (.predicate name arguments) →
        x = .predicate name arguments :=
      fun _ _ => (says_iff_of_read? ht hr (by simp)).mp
    constructor
    · rintro ⟨s', hs⟩
      refine ⟨⟨x, says_of_read? ht hr⟩, fun name arguments hp => ?_, fun name hp => ?_⟩
      · obtain rfl := hsays name arguments hp
        obtain ⟨-, types, harguments, hunmixed, -⟩ := addLine_predicate_eq_ok_iff.mp hs
        exact ⟨types, harguments, hunmixed⟩
      · obtain ⟨arguments, hp⟩ := hp
        obtain rfl := hsays name arguments hp
        exact (h.get?_eq_none_iff hg).mp (addLine_predicate_eq_ok_iff.mp hs).1
    · intro hf
      cases x with
      | predicate name arguments =>
        have hp := says_of_read? ht hr
        obtain ⟨types, harguments, hunmixed⟩ := hf.arguments name arguments hp
        have hnew := (h.get?_eq_none_iff hg).mpr (hf.new name ⟨arguments, hp⟩)
        exact ⟨_, addLine_predicate_eq_ok_iff.mpr ⟨hnew, types, harguments, hunmixed, rfl⟩⟩
      | _ => exact ⟨_, rfl⟩

/-- The schema that a line is added to describes the lines so far and this one. -/
theorem Describes.addRaw (h : Describes done s) (hs : s.addRaw raw = .ok s') :
    Describes (done ++ [content raw]) s' := by
  have ht := trimmed_content raw
  rw [Schema.addRaw] at hs
  cases hr : read? (content raw) with
  | none => simp [hr] at hs
  | some x =>
    rw [hr] at hs
    have hadds := adds_of_addLine hs
    refine ⟨fun name => ?_, fun child parent => ?_, fun name signature => ?_⟩
    · rw [hadds.types, h.types, ← says_iff_of_read? ht hr (by simp)]
      simp [or_and_right, exists_or]
    · rw [hadds.inclusions, h.inclusions, ← says_iff_of_read? ht hr (by simp)]
      simp [or_and_right, exists_or]
    · simp only [hadds.predicates, h.predicates, ← says_iff_of_read? ht hr
        (show ∀ k, Line.predicate _ _ ≠ .skipped k by simp)]
      simp [or_and_right, exists_or]

/-! ## All lines -/

/-- Lines that are grammatical together are so up to any of them. -/
theorem Grammatical.of_append {ls more : List (List Char)} (h : Grammatical (ls ++ more)) :
    Grammatical ls where
  forms line hl := h.forms line (List.mem_append_left _ hl)
  arguments line hl := h.arguments line (List.mem_append_left _ hl)
  once := (List.pairwise_append.mp h.once).1

/-- Lines are added to the schema so far exactly if they are grammatical behind the lines so far. -/
theorem exists_addLines_iff (h : Describes done s) (hg : Grammatical done) (number : Nat)
    (raws : List (List Char)) :
    (∃ s', addLines number s raws = .ok s') ↔ Grammatical (done ++ raws.map content) := by
  -- each step moves a line from those to come to those that the schema describes
  induction raws generalizing done s number with
  | nil => simpa [addLines] using hg
  | cons raw raws ih =>
    have hstep := exists_addRaw_iff h hg raw
    rw [List.map_cons, List.append_cons, addLines]
    cases hs : s.addRaw raw with
    | error e =>
      -- a line that does not fit here fits behind no more lines either
      refine ⟨by simp, fun hall => ?_⟩
      obtain ⟨s', hs'⟩ := hstep.mpr (grammatical_append_singleton.mp hall.of_append).2
      rw [hs] at hs'
      cases hs'
    | ok s' =>
      have hfits := hstep.mp ⟨s', hs⟩
      exact ih (h.addRaw hs) (grammatical_append_singleton.mpr ⟨hg, hfits⟩) (number + 1)

/-- The schema that lines are added to describes the lines so far and these. -/
theorem Describes.addLines {number : Nat} {raws : List (List Char)} (h : Describes done s)
    (hs : Schema.addLines number s raws = .ok s') : Describes (done ++ raws.map content) s' := by
  induction raws generalizing done s number with
  | nil =>
    cases hs
    simpa using h
  | cons raw raws ih =>
    rw [Schema.addLines] at hs
    rw [List.map_cons, List.append_cons]
    cases hr : s.addRaw raw with
    | error e => simp [hr] at hs
    | ok s₁ =>
      rw [hr] at hs
      exact ih (h.addRaw hr) hs

/-- No lines are grammatical. -/
theorem grammatical_nil : Grammatical [] := ⟨by simp, by simp, .nil⟩

/-- The schema without members describes no lines. -/
theorem describes_empty : Describes [] Schema.empty where
  types _ := iff_of_false (Catalog.not_mem_empty _) (by simp)
  inclusions _ _ := iff_of_false (Catalog.not_mem_empty _) (by simp)
  predicates _ _ := iff_of_false (Catalog.not_mem_empty _) (by simp)

/-- Lines describe one schema. -/
theorem Describes.unique (h : Describes done s) (h' : Describes done s') : s = s' := by
  have htypes : s.types = s'.types := Catalog.ext_mem fun name =>
    (h.types name).trans (h'.types name).symm
  have hinclusions : s.inclusions = s'.inclusions := Catalog.ext_mem fun i =>
    (h.inclusions i.child i.parent).trans (h'.inclusions i.child i.parent).symm
  have hpredicates : s.predicates = s'.predicates := Catalog.ext_mem fun e =>
    (h.predicates e.1 e.2).trans (h'.predicates e.1 e.2).symm
  cases s
  cases s'
  cases htypes
  cases hinclusions
  cases hpredicates
  rfl

/-- A text is read exactly if its lines are grammatical. -/
theorem exists_parse_iff {text : String} {ls : List (List Char)} (hc : Contents text.toList ls) :
    (∃ s, parse text = .ok s) ↔ Grammatical ls := by
  obtain rfl := contents_iff.mp hc
  exact exists_addLines_iff describes_empty grammatical_nil 1 (lines text.toList)

/-- A text is read as a schema that its lines describe. -/
theorem describes_of_parse {text : String} {ls : List (List Char)} (hc : Contents text.toList ls)
    (h : parse text = .ok s) : Describes ls s := by
  obtain rfl := contents_iff.mp hc
  exact describes_empty.addLines h

/-- A text has lines, which are cut and stripped in one way.  It is read exactly if they are
grammatical, and as the one schema that they describe. -/
theorem Schema.parse_iff (text : String) : ∃ ls, (∀ m, Contents text.toList m ↔ m = ls) ∧
    ((∃ s, parse text = .ok s) ↔ Grammatical ls) ∧
    ∀ s, parse text = .ok s ↔ Grammatical ls ∧ Describes ls s := by
  have hexists : (∃ s, parse text = .ok s) ↔ Grammatical ((lines text.toList).map content) :=
    exists_addLines_iff describes_empty grammatical_nil 1 (lines text.toList)
  have hdescribes : ∀ {s}, parse text = .ok s → Describes ((lines text.toList).map content) s :=
    fun h => describes_empty.addLines h
  refine ⟨(lines text.toList).map content, fun m => ?_, hexists, fun s => ?_⟩
  · exact contents_iff.trans eq_comm
  constructor
  · intro h
    exact ⟨hexists.mp ⟨s, h⟩, hdescribes h⟩
  · rintro ⟨hg, hd⟩
    obtain ⟨s', hs'⟩ := hexists.mpr hg
    rw [hs', (hdescribes hs').unique hd]

end Substance
