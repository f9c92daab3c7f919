import Substance.Proofs.Cutting

/-!
# How lines are read

Each reader of lines finds exactly the lines of its forms.  The readers are tried one after the
other, so a form is found by its own reader only if no earlier one takes the line: an angle bracket
tells inclusions from types, and what follows the first identifier tells predicates from both.  Only
skipped declarations, which are tried last, share lines with another form.

* `readType?_eq_some_iff`, `readInclusion?_eq_some_iff`, `readPredicate?_eq_some_iff`,
  `readSkipped?_eq_some_iff`: the readers, one by one.
* `Says.read?_eq_some`, `says_of_read?`: all of them together.
-/

namespace Substance

open Text

namespace Line

variable {line text rest name : List Char} {x : Line}

/-! ## Keywords -/

/-- A front is taken off exactly when the text begins with it. -/
theorem isPrefixOf?_eq_some_iff {front : List Char} :
    front.isPrefixOf? text = some rest ↔ text = front ++ rest := by
  induction front generalizing text with
  | nil => simp [List.isPrefixOf?]
  | cons c front ih =>
    cases text with
    | nil => simp [List.isPrefixOf?]
    | cons d text =>
      rw [List.isPrefixOf?, List.cons_append, List.cons.injEq]
      split
      · next h => rw [ih, eq_of_beq h, eq_self, true_and]
      · next h => simp [Ne.symm (ne_of_beq_false (Bool.eq_false_iff.mpr h))]

/-- Behind a keyword stands a gap, and then what does not begin with a blank. -/
theorem afterKeyword?_eq_some_iff {keyword : String} : afterKeyword? keyword line = some rest ↔
    ∃ gap, Gap gap ∧ line = keyword.toList ++ (gap ++ rest) ∧
      ∀ c ∈ rest.head?, isBlank c = false := by
  constructor
  · intro h
    rw [afterKeyword?] at h
    split at h
    · next c tail hprefix =>
      split at h
      · next hc =>
        cases h
        refine ⟨c :: tail.takeWhile isBlank, gap_iff.mpr ⟨c, _, rfl, hc, blanks_takeWhile tail⟩, ?_,
          eq_false_of_mem_head?_dropWhile⟩
        rw [List.cons_append, List.takeWhile_append_dropWhile, isPrefixOf?_eq_some_iff.mp hprefix]
      · cases h
    · cases h
  · rintro ⟨gap, hgap, rfl, hrest⟩
    obtain ⟨c, gap, rfl, hc, hgap⟩ := gap_iff.mp hgap
    have hprefix : keyword.toList.isPrefixOf? (keyword.toList ++ (c :: gap ++ rest)) =
        some (c :: (gap ++ rest)) := isPrefixOf?_eq_some_iff.mpr rfl
    simp only [afterKeyword?, hprefix, hc, if_true]
    exact congrArg some (hgap.dropWhile hrest)

/-- What stands behind a keyword and a gap is found there. -/
theorem afterKeyword?_append (keyword : String) {gap : List Char} (hgap : Gap gap)
    (hr : ∀ c ∈ rest.head?, isBlank c = false) :
    afterKeyword? keyword (keyword.toList ++ (gap ++ rest)) = some rest :=
  afterKeyword?_eq_some_iff.mpr ⟨gap, hgap, rfl, hr⟩

/-! ## Identifiers -/

/-- A text is an identifier or it is none. -/
theorem wholeIdentifier?_eq_some_iff {type : String} : wholeIdentifier? text = some type ↔
    isIdentifier text = true ∧ type = String.ofList text := by
  rw [wholeIdentifier?]
  split
  · next h => simp [h, eq_comm]
  · next h => simp [h]

/-- An identifier does not begin with a blank. -/
theorem isBlank_head?_identifier (h : isIdentifier name = true) (rest : List Char) :
    ∀ c ∈ (name ++ rest).head?, isBlank c = false := by
  intro c hc
  cases name with
  | nil => cases h
  | cons d name =>
    obtain rfl := Option.some.inj hc
    exact isBlank_eq_false_of_isIdentifierPart (isIdentifierPart_of_mem h d List.mem_cons_self)

/-- An identifier alone does not begin with a blank either. -/
theorem isBlank_head?_of_isIdentifier (h : isIdentifier name = true) :
    ∀ c ∈ name.head?, isBlank c = false := by
  simpa using isBlank_head?_identifier h []

/-- Behind an identifier a blank ends it. -/
theorem isIdentifierPart_head?_blanks {blanks : List Char} (h : Blanks blanks)
    (hr : ∀ c ∈ rest.head?, isIdentifierPart c = false) :
    ∀ c ∈ (blanks ++ rest).head?, isIdentifierPart c = false := by
  intro c hc
  cases blanks with
  | nil => exact hr c hc
  | cons d blanks =>
    obtain rfl := Option.some.inj hc
    exact isIdentifierPart_eq_false_of_isBlank (h d List.mem_cons_self)

/-! ## Readers -/

/-- Lines of types are read as such. -/
theorem readType?_eq_some_iff :
    readType? line = some x ↔ ∃ name, x = .type name ∧ Says line (.type name) := by
  constructor
  · intro h
    simp only [readType?, Option.bind_eq_bind, Option.bind_eq_some_iff, Option.pure_def,
      Option.some.injEq, afterKeyword?_eq_some_iff, wholeIdentifier?_eq_some_iff] at h
    obtain ⟨name, ⟨gap, hgap, rfl, -⟩, _, ⟨hname, rfl⟩, rfl⟩ := h
    exact ⟨_, rfl, .type hgap hname⟩
  · rintro ⟨_, rfl, h⟩
    cases h with
    | @type gap name hgap hname =>
      have hafter := afterKeyword?_append "type" hgap (isBlank_head?_of_isIdentifier hname)
      rw [readType?, hafter]
      simp [wholeIdentifier?, hname]

/-- Lines of inclusions are read as such. -/
theorem readInclusion?_eq_some_iff : readInclusion? line = some x ↔
    ∃ child parent, x = .inclusion child parent ∧ Says line (.inclusion child parent) := by
  constructor
  · intro h
    simp only [readInclusion?, Option.bind_eq_bind, Option.bind_eq_some_iff] at h
    obtain ⟨⟨child, rest⟩, hsplit, h⟩ := h
    obtain ⟨hchild, rfl, -⟩ := splitIdentifier?_eq_some_iff.mp hsplit
    split at h
    · next after hafter =>
      simp only [Option.bind_eq_some_iff, Option.pure_def, Option.some.injEq,
        wholeIdentifier?_eq_some_iff] at h
      obtain ⟨_, ⟨hparent, rfl⟩, rfl⟩ := h
      refine ⟨_, _, rfl, ?_⟩
      have hsays := Says.inclusion hchild (blanks_takeWhile rest) (blanks_takeWhile after) hparent
      rwa [List.takeWhile_append_dropWhile, ← hafter, List.takeWhile_append_dropWhile] at hsays
    · cases h
  · rintro ⟨child, parent, rfl, h⟩
    cases h with
    | @inclusion child before after parent hchild hbefore hafter hparent =>
      have hsplit := splitIdentifier?_append hchild
        (isIdentifierPart_head?_blanks hbefore
          (eq_of_mem_head?_cons '<' (':' :: (after ++ parent)) (by decide)))
      have hbracket := hbefore.dropWhile
        (eq_of_mem_head?_cons '<' (':' :: (after ++ parent)) (by decide))
      have hend := hafter.dropWhile (isBlank_head?_of_isIdentifier hparent)
      simp [readInclusion?, hsplit, hbracket, hend, wholeIdentifier?, hparent]

/-- No blanks stand at the end of a text without blanks at its ends. -/
theorem eq_nil_of_trimmed_append {front back : List Char} (h : Trimmed (front ++ back))
    (hb : Blanks back) : back = [] := by
  by_contra hne
  have hlast := h.last (back.getLast hne)
    (by rw [List.getLast?_append_of_ne_nil _ hne, List.getLast?_eq_some_getLast hne]; rfl)
  rw [hb _ (List.getLast_mem hne)] at hlast
  cases hlast

/-- Lines of predicates are read as such. -/
theorem readPredicate?_eq_some_iff (ht : Trimmed line) : readPredicate? line = some x ↔
    ∃ name arguments, x = .predicate name arguments ∧ Says line (.predicate name arguments) := by
  constructor
  · intro h
    simp only [readPredicate?, Option.bind_eq_bind, Option.bind_eq_some_iff,
      afterKeyword?_eq_some_iff] at h
    obtain ⟨_, ⟨gap, hgap, rfl, -⟩, ⟨name, rest⟩, hsplit, h⟩ := h
    obtain ⟨hname, rfl, -⟩ := splitIdentifier?_eq_some_iff.mp hsplit
    have hrest := rest.takeWhile_append_dropWhile (p := isBlank)
    split at h
    · next hnil =>
      cases h
      -- the blanks behind the name would stand at the end of the line
      rw [hnil, List.append_nil] at hrest
      obtain rfl : rest = [] := by
        rw [← List.append_assoc, ← List.append_assoc] at ht
        exact eq_nil_of_trimmed_append ht (hrest ▸ blanks_takeWhile rest)
      rw [List.append_nil]
      exact ⟨_, _, rfl, .bare hgap hname⟩
    · next arguments harguments =>
      cases h
      rw [harguments] at hrest
      rw [← hrest]
      exact ⟨_, _, rfl, .predicate hgap hname (blanks_takeWhile rest)⟩
    · cases h
  · rintro ⟨predicate, arguments, rfl, h⟩
    cases h with
    | @bare gap name hgap hname =>
      have hafter := afterKeyword?_append "predicate" hgap (isBlank_head?_of_isIdentifier hname)
      rw [readPredicate?, hafter]
      simp [splitIdentifier?_self hname]
    | @predicate gap name before arguments hgap hname hbefore =>
      have hafter := afterKeyword?_append "predicate" hgap
        (isBlank_head?_identifier hname (before ++ ':' :: arguments))
      have hsplit := splitIdentifier?_append hname
        (isIdentifierPart_head?_blanks hbefore
          (eq_of_mem_head?_cons ':' arguments (by decide)))
      have hcolon := hbefore.dropWhile
        (eq_of_mem_head?_cons ':' arguments (by decide))
      rw [readPredicate?, hafter]
      simp [hsplit, hcolon]

/-- Keywords are words. -/
theorem ne_nil_of_mem_skippedKeywords {keyword : String} (h : keyword ∈ skippedKeywords) :
    keyword.toList ≠ [] ∧ ∀ c ∈ keyword.toList, isBlank c = false := by
  have hwords : skippedKeywords.all fun keyword =>
      !keyword.toList.isEmpty && keyword.toList.all (!isBlank ·) := by decide
  simpa using List.all_eq_true.mp hwords keyword h

/-- The first word of a line that begins with a word goes to the first blank. -/
theorem firstWord_append {word : List Char} (hne : word ≠ [])
    (hw : ∀ c ∈ word, isBlank c = false) (hr : ∀ c ∈ rest.head?, isBlank c = true) :
    firstWord (word ++ rest) = word := by
  have hhead : ∀ c ∈ (word ++ rest).head?, isBlank c = false := by
    intro c hc
    rw [List.head?_append_of_ne_nil _ hne] at hc
    exact hw c (List.mem_of_mem_head? hc)
  have hskip : (word ++ rest).dropWhile isBlank = word ++ rest :=
    blanks_nil.dropWhile hhead
  rw [firstWord, hskip]
  exact takeWhile_append_of_head (by simpa using hw) (by simpa using hr)

/-- Lines that open with the keyword of a skipped declaration are read as such. -/
theorem readSkipped?_eq_some_iff (ht : Trimmed line) : readSkipped? line = some x ↔
    ∃ keyword, x = .skipped keyword ∧ Says line (.skipped keyword) := by
  constructor
  · intro h
    rw [readSkipped?] at h
    split at h
    · next hkeyword =>
      cases h
      have hskip : line.dropWhile isBlank = line :=
        blanks_nil.dropWhile ht.head
      have hsays : Says ((String.ofList (firstWord line)).toList ++ line.dropWhile (!isBlank ·))
          (.skipped (String.ofList (firstWord line))) := by
        refine .skipped hkeyword fun c hc => ?_
        simpa using eq_false_of_mem_head?_dropWhile c hc
      have hline : firstWord line ++ line.dropWhile (!isBlank ·) = line := by
        rw [firstWord, hskip, List.takeWhile_append_dropWhile]
      rw [String.toList_ofList, hline] at hsays
      exact ⟨_, rfl, hsays⟩
    · cases h
  · rintro ⟨keyword, rfl, h⟩
    cases h with
    | @skipped keyword rest hkeyword hrest =>
      obtain ⟨hne, hw⟩ := ne_nil_of_mem_skippedKeywords hkeyword
      simp [readSkipped?, firstWord_append hne hw hrest, hkeyword]

/-! ## Lines of several forms -/

/-- No line of a type is one of an inclusion. -/
theorem Says.type_ne_inclusion {type child parent : String} (h : Says line (.type type)) :
    ¬Says line (.inclusion child parent) := by
  intro hi
  have hbracket : '<' ∈ line := by
    cases hi
    simp
  cases h with
  | type hgap hname =>
    have hkeyword : '<' ∉ "type".toList := by decide
    simp only [List.mem_append] at hbracket
    rcases hbracket with hm | hm | hm
    · exact hkeyword hm
    · exact hgap.2.notMem (by decide) hm
    · exact notMem_of_isIdentifier hname (by decide) hm

/-- A line of a predicate begins with its keyword, a gap and an identifier. -/
theorem Says.exists_predicate {predicate : String} {arguments : List Char}
    (h : Says line (.predicate predicate arguments)) : ∃ gap name tail, Gap gap ∧
      isIdentifier name = true ∧ line = "predicate".toList ++ (gap ++ (name ++ tail)) := by
  cases h with
  | @bare gap name hgap hname => exact ⟨gap, name, [], hgap, hname, by rw [List.append_nil]⟩
  | @predicate gap name before arguments hgap hname _ => exact ⟨gap, name, _, hgap, hname, rfl⟩

/-- No line of a type is one of a predicate. -/
theorem Says.type_ne_predicate {type predicate : String} {arguments : List Char}
    (h : Says line (.type type)) : ¬Says line (.predicate predicate arguments) := by
  intro hp
  obtain ⟨gap, name, tail, -, -, hline⟩ := hp.exists_predicate
  cases h with
  | type => exact absurd (congrArg List.head? hline) (by simp)

/-- No line of an inclusion is one of a predicate: behind the first identifier and the blanks stands
an angle bracket in the one and an identifier in the other. -/
theorem Says.inclusion_ne_predicate {child parent predicate : String} {arguments : List Char}
    (h : Says line (.inclusion child parent)) : ¬Says line (.predicate predicate arguments) := by
  intro hp
  obtain ⟨gap, name, tail, hgap, hname, hline⟩ := hp.exists_predicate
  cases h with
  | @inclusion child before after parent hchild hbefore hafter hparent =>
    have hfirst := splitIdentifier?_append hchild
      (isIdentifierPart_head?_blanks hbefore
        (eq_of_mem_head?_cons '<' (':' :: (after ++ parent)) (by decide)))
    obtain ⟨blank, more, rfl, hblank, -⟩ := gap_iff.mp hgap
    have hkeyword : isIdentifier "predicate".toList = true := by decide
    have hsecond := splitIdentifier?_append hkeyword
      (eq_of_mem_head?_cons blank (more ++ (name ++ tail))
        (isIdentifierPart_eq_false_of_isBlank hblank))
    rw [← List.cons_append, ← hline, hfirst, Option.some.injEq, Prod.mk.injEq] at hsecond
    have hdrop := congrArg (List.dropWhile isBlank) hsecond.2
    rw [hbefore.dropWhile (eq_of_mem_head?_cons '<' _ (by decide)),
      hgap.2.dropWhile (isBlank_head?_identifier hname tail)] at hdrop
    have hstart : '<' ∈ name := by
      cases name with
      | nil => cases hname
      | cons d name => exact (List.cons.inj hdrop).1 ▸ List.mem_cons_self
    exact notMem_of_isIdentifier hname (by decide) hstart

/-! ## All readers -/

/-- The readers are tried in turn. -/
theorem read?_of_ne_nil (hne : line ≠ []) : read? line =
    (readType? line).or
      ((readInclusion? line).or ((readPredicate? line).or (readSkipped? line))) := by
  rw [read?, if_neg (by simpa using hne)]
  simp

/-- What is read is a form of the line. -/
theorem says_of_read? (ht : Trimmed line) (h : read? line = some x) : Says line x := by
  by_cases hne : line = []
  · subst hne
    cases h
    exact .blank
  · rw [read?_of_ne_nil hne, Option.or_eq_some_iff, Option.or_eq_some_iff,
      Option.or_eq_some_iff, readType?_eq_some_iff, readInclusion?_eq_some_iff,
      readPredicate?_eq_some_iff ht, readSkipped?_eq_some_iff ht] at h
    rcases h with ⟨_, rfl, h⟩ | ⟨-, ⟨_, _, rfl, h⟩ | ⟨-, ⟨_, _, rfl, h⟩ | ⟨-, _, rfl, h⟩⟩⟩
    all_goals exact h

/-- Only the blank form has no characters. -/
theorem Says.ne_nil (h : Says line x) (hx : x ≠ .blank) : line ≠ [] := by
  intro hl
  cases h with
  | blank => exact hx rfl
  | skipped hkeyword =>
    exact (ne_nil_of_mem_skippedKeywords hkeyword).1 (List.append_eq_nil_iff.mp hl).1
  | _ => simp at hl

/-- No type is read where the line is of no type. -/
theorem readType?_eq_none (h : ∀ type, ¬Says line (.type type)) : readType? line = none := by
  rw [Option.eq_none_iff_forall_ne_some]
  intro x hx
  obtain ⟨type, -, ht⟩ := readType?_eq_some_iff.mp hx
  exact h type ht

/-- No inclusion is read where the line is of no inclusion. -/
theorem readInclusion?_eq_none (h : ∀ child parent, ¬Says line (.inclusion child parent)) :
    readInclusion? line = none := by
  rw [Option.eq_none_iff_forall_ne_some]
  intro x hx
  obtain ⟨child, parent, -, hi⟩ := readInclusion?_eq_some_iff.mp hx
  exact h child parent hi

/-- A line of some form other than that of a skipped declaration is read as it. -/
theorem Says.read?_eq_some (h : Says line x) (ht : Trimmed line) (hx : ∀ k, x ≠ .skipped k) :
    read? line = some x := by
  cases x with
  | blank => cases h; rfl
  | type type =>
    rw [read?_of_ne_nil (h.ne_nil (by simp)), readType?_eq_some_iff.mpr ⟨_, rfl, h⟩]
    rfl
  | inclusion child parent =>
    have htype := readType?_eq_none fun _ ht => ht.type_ne_inclusion h
    rw [read?_of_ne_nil (h.ne_nil (by simp)), htype,
      readInclusion?_eq_some_iff.mpr ⟨_, _, rfl, h⟩]
    rfl
  | predicate predicate arguments =>
    have htype := readType?_eq_none fun _ ht => ht.type_ne_predicate h
    have hinclusion := readInclusion?_eq_none fun _ _ hi => hi.inclusion_ne_predicate h
    rw [read?_of_ne_nil (h.ne_nil (by simp)), htype, hinclusion,
      (readPredicate?_eq_some_iff ht).mpr ⟨_, _, rfl, h⟩]
    rfl
  | skipped keyword => exact absurd rfl (hx keyword)

/-- A line of some form is read in some way. -/
theorem Says.exists_read? (h : Says line x) (ht : Trimmed line) : ∃ y, read? line = some y := by
  by_cases hx : ∃ k, x = .skipped k
  · obtain ⟨keyword, rfl⟩ := hx
    rw [← Option.isSome_iff_exists, read?_of_ne_nil (h.ne_nil (by simp)),
      (readSkipped?_eq_some_iff ht).mpr ⟨_, rfl, h⟩]
    simp
  · exact ⟨x, h.read?_eq_some ht fun k hk => hx ⟨k, hk⟩⟩

end Line

end Substance
