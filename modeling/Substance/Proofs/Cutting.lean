import Substance.Proofs.Grammar
import Mathlib.Data.List.TakeWhile

/-!
# How texts are cut

The functions that cut a text go character by character; the grammar says where the cuts are.  A cut
is found by a class of characters: the front belongs to the class and what follows does not begin in
it, so the longest front of the class is taken off.

* `takeWhile_append_of_head`, `dropWhile_append_of_head`: the front of a class is taken off.
* `cutsInto_iff`, `beforeComment_iff`, `stripped_iff`: lines, comments and blanks.
* `splitOn_append`: parts between separators.
* `contents_iff`: what counts of a text.
* `splitIdentifier?_eq_some_iff`: an identifier ends where no further character belongs to it.
-/

namespace Substance

namespace Text

/-! ## The front of a class -/

section

variable {p : Char → Bool} {front rest : List Char}

/-- The front of a class is the part before a character outside of it. -/
theorem takeWhile_append_of_head (hf : ∀ c ∈ front, p c = true)
    (hr : ∀ c ∈ rest.head?, p c = false) : (front ++ rest).takeWhile p = front := by
  rw [List.takeWhile_append_of_pos hf]
  cases rest with
  | nil => simp
  | cons c rest => simp [hr c rfl]

/-- Behind the front of a class is the part from a character outside of it on. -/
theorem dropWhile_append_of_head (hf : ∀ c ∈ front, p c = true)
    (hr : ∀ c ∈ rest.head?, p c = false) : (front ++ rest).dropWhile p = rest := by
  rw [List.dropWhile_append_of_pos hf]
  cases rest with
  | nil => rfl
  | cons c rest => simp [hr c rfl]

/-- What is left behind a class does not begin in it. -/
theorem eq_false_of_mem_head?_dropWhile {l : List Char} :
    ∀ c ∈ (l.dropWhile p).head?, p c = false := by
  intro c hc
  have h := List.head?_dropWhile_not p l
  rw [Option.mem_def.mp hc] at h
  exact h

/-- A text begins with its first character. -/
theorem eq_of_mem_head?_cons {b : Bool} (c : Char) (rest : List Char) (h : p c = b) :
    ∀ d ∈ (c :: rest).head?, p d = b := by
  rintro d ⟨⟩
  exact h

/-- The front of a class belongs to it. -/
theorem eq_true_of_mem_takeWhile {l : List Char} : ∀ c ∈ l.takeWhile p, p c = true :=
  fun _ => List.mem_takeWhile_imp

end

/-! ## Blanks -/

section

variable {text front back inner : List Char}

theorem blanks_nil : Blanks [] := List.forall_mem_nil _

/-- The front of blanks is blank. -/
theorem blanks_takeWhile (text : List Char) : Blanks (text.takeWhile isBlank) :=
  eq_true_of_mem_takeWhile

/-- A gap is a blank and further ones. -/
theorem gap_iff :
    Gap text ↔ ∃ c rest, text = c :: rest ∧ isBlank c = true ∧ Blanks rest := by
  constructor
  · rintro ⟨hne, h⟩
    obtain ⟨c, rest, rfl⟩ := List.exists_cons_of_ne_nil hne
    exact ⟨c, rest, rfl, List.forall_mem_cons.mp h⟩
  · rintro ⟨c, rest, rfl, h⟩
    exact ⟨List.cons_ne_nil c rest, List.forall_mem_cons.mpr h⟩

/-- A character that is not blank does not stand among blanks. -/
theorem Blanks.notMem {c : Char} (h : Blanks text) (hc : isBlank c = false) : c ∉ text := by
  intro hm
  rw [h c hm] at hc
  cases hc

theorem Blanks.append (hf : Blanks front) (hb : Blanks back) : Blanks (front ++ back) :=
  List.forall_mem_append.mpr ⟨hf, hb⟩

/-- Blanks in front of a text that does not begin with one are skipped. -/
theorem Blanks.dropWhile (hf : Blanks front) (hr : ∀ c ∈ text.head?, isBlank c = false) :
    (front ++ text).dropWhile isBlank = text :=
  dropWhile_append_of_head hf hr

/-- Blanks alone are skipped to the end. -/
theorem Blanks.dropWhile_eq_nil (h : Blanks text) : text.dropWhile isBlank = [] :=
  List.dropWhile_eq_nil_iff.mpr h

/-- Taking the blanks away leaves a text without blanks at its ends. -/
theorem stripped_strip (text : List Char) : Stripped text (strip text) := by
  obtain ⟨back, hback, hinner⟩ :
      ∃ back, Blanks back ∧ text.dropWhile isBlank = strip text ++ back := by
    refine ⟨((text.dropWhile isBlank).reverse.takeWhile isBlank).reverse, fun c hc => ?_, ?_⟩
    · exact blanks_takeWhile _ c (List.mem_reverse.mp hc)
    · rw [strip, trim, ← List.reverse_append, List.takeWhile_append_dropWhile,
        List.reverse_reverse]
  refine ⟨⟨text.takeWhile isBlank, back, blanks_takeWhile text, hback, ?_⟩, ?_, ?_⟩
  · rw [← hinner, List.takeWhile_append_dropWhile]
  · intro c hc
    refine eq_false_of_mem_head?_dropWhile (l := text) c ?_
    rw [hinner, List.head?_append, Option.mem_def.mp hc]
    rfl
  · intro c hc
    rw [strip, trim, List.getLast?_reverse] at hc
    exact eq_false_of_mem_head?_dropWhile c hc

/-- Taking the blanks away takes all of those at the ends. -/
theorem Stripped.strip_eq (h : Stripped text inner) : strip text = inner := by
  obtain ⟨⟨front, back, hfront, hback, rfl⟩, hhead, hlast⟩ := h
  rw [strip, trim]
  cases inner with
  | nil => rw [List.nil_append, (hfront.append hback).dropWhile_eq_nil]; rfl
  | cons c inner =>
    have hreverse : Blanks back.reverse := fun c hc => hback c (List.mem_reverse.mp hc)
    rw [hfront.dropWhile (by simpa using hhead), List.reverse_append,
      hreverse.dropWhile (by rwa [List.head?_reverse]), List.reverse_reverse]

/-- A text without the blanks at its ends is what is left when they are taken away. -/
theorem stripped_iff : Stripped text inner ↔ strip text = inner :=
  ⟨Stripped.strip_eq, fun h => h ▸ stripped_strip text⟩

/-- Blanks around a text do not count. -/
theorem strip_append_blanks (hf : Blanks front) (hb : Blanks back) :
    strip (front ++ (text ++ back)) = strip text := by
  obtain ⟨⟨front', back', hfront', hback', htext⟩, ht⟩ := stripped_strip text
  have hwhole : front ++ (text ++ back) =
      (front ++ front') ++ (strip text ++ (back' ++ back)) := by
    conv_lhs => rw [htext]
    simp only [List.append_assoc]
  exact Stripped.strip_eq ⟨⟨_, _, hf.append hfront', hback'.append hb, hwhole⟩, ht⟩

/-- Nothing but blanks goes when nothing is left. -/
theorem strip_eq_nil_iff : strip text = [] ↔ Blanks text := by
  constructor
  · intro h
    obtain ⟨⟨front, back, hfront, hback, rfl⟩, -⟩ := stripped_iff.mpr h
    exact hfront.append hback
  · intro h
    exact Stripped.strip_eq ⟨⟨text, [], h, blanks_nil, by simp⟩, by simp, by simp⟩

end

/-! ## Lines -/

section

variable {text line rest : List Char} {c : Char} {ls : List (List Char)}

/-- A character that ends lines is blank. -/
theorem isBlank_of_isLineEnd {c : Char} (h : isLineEnd c = true) : isBlank c = true := by
  simp [isLineEnd, isBlank, blankRanges, CodeRange.contains] at h ⊢
  omega

theorem unbroken_nil : Unbroken [] := List.forall_mem_nil _

theorem unbroken_cons : Unbroken (c :: line) ↔ isLineEnd c = false ∧ Unbroken line :=
  List.forall_mem_cons

/-- A character that ends no line belongs to the first line. -/
theorem lines_cons_of_unbroken (hc : isLineEnd c = false) (text : List Char) :
    lines (c :: text) = match lines text with
      | [] => [[c]]
      | line :: more => (c :: line) :: more := by
  rw [lines]
  · cases lines text <;> simp [hc]
  · rintro rest rfl
    exact absurd hc (by decide)

/-- A text without line ends is one line. -/
theorem lines_of_unbroken (h : Unbroken line) (hne : line ≠ []) : lines line = [line] := by
  induction line with
  | nil => exact absurd rfl hne
  | cons c line ih =>
    obtain ⟨hc, hline⟩ := unbroken_cons.mp h
    rw [lines_cons_of_unbroken hc]
    cases line with
    | nil => rfl
    | cons d line => rw [ih hline (List.cons_ne_nil _ _)]

/-- The first line goes to where an empty line would begin. -/
theorem lines_append_of_unbroken (h : Unbroken line) (hrest : lines rest = [] :: ls) :
    lines (line ++ rest) = line :: ls := by
  induction line with
  | nil => exact hrest
  | cons c line ih =>
    obtain ⟨hc, hline⟩ := unbroken_cons.mp h
    rw [List.cons_append, lines_cons_of_unbroken hc, ih hline]

/-- A line end at the front ends an empty line. -/
theorem lines_cons_of_isLineEnd (hc : isLineEnd c = true)
    (hne : ¬(c = '\r' ∧ rest.head? = some '\n')) : lines (c :: rest) = [] :: lines rest := by
  rw [lines]
  · simp [hc]
  · rintro more rfl rfl
    exact hne ⟨rfl, rfl⟩

/-- A text is cut into its lines. -/
theorem cutsInto_lines (text : List Char) : CutsInto text (lines text) := by
  fun_induction lines text with
  | case1 => exact .nil
  | case2 rest ih => exact @CutsInto.double [] _ _ unbroken_nil ih
  | case3 c rest hne hc ih =>
    refine @CutsInto.single [] _ _ _ unbroken_nil hc ?_ ih
    rintro ⟨rfl, hr⟩
    obtain ⟨more, rfl⟩ := List.head?_eq_some_iff.mp hr
    exact hne more rfl rfl
  | case4 c rest _ hc hl ih =>
    have hc : isLineEnd c = false := Bool.eq_false_iff.mpr hc
    rw [hl] at ih
    cases ih
    exact .last (List.cons_ne_nil _ _) (unbroken_cons.mpr ⟨hc, unbroken_nil⟩)
  | case5 c rest _ hc line more hl ih =>
    have hc : isLineEnd c = false := Bool.eq_false_iff.mpr hc
    rw [hl] at ih
    cases ih with
    | last _ hu => exact .last (List.cons_ne_nil _ _) (unbroken_cons.mpr ⟨hc, hu⟩)
    | single hu he hne h => exact .single (unbroken_cons.mpr ⟨hc, hu⟩) he hne h
    | double hu h => exact .double (unbroken_cons.mpr ⟨hc, hu⟩) h

/-- A text is cut in one way. -/
theorem cutsInto_iff : CutsInto text ls ↔ lines text = ls := by
  refine ⟨fun h => ?_, fun h => h ▸ cutsInto_lines text⟩
  induction h with
  | nil => rfl
  | last hne hu => exact lines_of_unbroken hu hne
  | single hu hc hne _ ih => exact lines_append_of_unbroken hu (ih ▸ lines_cons_of_isLineEnd hc hne)
  | double hu _ ih => exact lines_append_of_unbroken hu (by rw [lines, ih])

end

/-! ## Separators -/

section

variable {separator : Char} {part : List Char}

/-- A text without separators is one part. -/
theorem splitOn_of_notMem (h : separator ∉ part) : splitOn separator part = [part] := by
  induction part with
  | nil => rfl
  | cons c part ih =>
    obtain ⟨hc, hpart⟩ := not_or.mp (mt List.mem_cons.mpr h)
    rw [splitOn, if_neg (Ne.symm hc), ih hpart]

/-- The first part goes to the first separator. -/
theorem splitOn_append (h : separator ∉ part) (rest : List Char) :
    splitOn separator (part ++ separator :: rest) = part :: splitOn separator rest := by
  induction part with
  | nil => rw [List.nil_append, splitOn, if_pos rfl]
  | cons c part ih =>
    obtain ⟨hc, hpart⟩ := not_or.mp (mt List.mem_cons.mpr h)
    rw [List.cons_append, splitOn, if_neg (Ne.symm hc), ih hpart]

/-- The characters of a part are among those of the whole. -/
theorem mem_of_mem_splitOn {separator c : Char} {chars part : List Char}
    (hpart : part ∈ splitOn separator chars) (hc : c ∈ part) : c ∈ chars := by
  induction chars generalizing part with
  | nil =>
    rw [splitOn, List.mem_singleton] at hpart
    rwa [hpart] at hc
  | cons d chars ih =>
    rw [splitOn] at hpart
    split at hpart
    · rcases List.mem_cons.mp hpart with rfl | hpart
      · cases hc
      · exact List.mem_cons_of_mem d (ih hpart hc)
    · split at hpart
      · rw [List.mem_singleton.mp hpart, List.mem_singleton] at hc
        exact hc ▸ List.mem_cons_self
      · next first parts hsplit =>
        rw [hsplit] at ih
        rcases List.mem_cons.mp hpart with rfl | hpart
        · rcases List.mem_cons.mp hc with rfl | hc
          · exact List.mem_cons_self
          · exact List.mem_cons_of_mem d (ih List.mem_cons_self hc)
        · exact List.mem_cons_of_mem d (ih (List.mem_cons_of_mem _ hpart) hc)

end

/-! ## Comments -/

section

variable {line kept : List Char}

/-- No comment opens at a character that makes no mark with the next one. -/
theorem opensComment_cons_iff {c : Char} {rest : List Char} :
    OpensComment (c :: rest) ↔
      (c = '-' ∧ rest.head? = some '-') ∨ (c = '/' ∧ rest.head? = some '/') := by
  cases rest <;> simp [OpensComment, List.cons_prefix_cons, eq_comm]

/-- Dropping the comment leaves what stands before it. -/
theorem beforeComment_dropComment (line : List Char) :
    BeforeComment line (Line.dropComment line) := by
  fun_induction Line.dropComment line with
  | case1 => exact ⟨⟨[], rfl, .inl rfl⟩, fun _ _ _ _ => Nat.zero_le _⟩
  | case2 rest =>
    exact ⟨⟨_, rfl, .inr (.inl ⟨rest, rfl⟩)⟩, fun _ _ _ _ => Nat.zero_le _⟩
  | case3 rest =>
    exact ⟨⟨_, rfl, .inr (.inr ⟨rest, rfl⟩)⟩, fun _ _ _ _ => Nat.zero_le _⟩
  | case4 c rest hdash hslash ih =>
    -- a comment that opens at this character would be one of the two marks
    obtain ⟨⟨comment, hsplit, hopen⟩, hfirst⟩ := ih
    refine ⟨⟨comment, congrArg (c :: ·) hsplit, hopen⟩, fun front back hline ho => ?_⟩
    cases front with
    | nil =>
      rw [List.nil_append] at hline
      rw [← hline, opensComment_cons_iff, List.head?_eq_some_iff, List.head?_eq_some_iff] at ho
      rcases ho with ⟨hc, more, hr⟩ | ⟨hc, more, hr⟩
      · exact absurd hr (hdash more hc)
      · exact absurd hr (hslash more hc)
    | cons d front => exact Nat.succ_le_succ (hfirst front back (List.cons.inj hline).2 ho)

/-- The comment begins in one place. -/
theorem BeforeComment.length_le {other : List Char} (h : BeforeComment line kept)
    (ho : BeforeComment line other) : kept.length ≤ other.length := by
  obtain ⟨comment, hsplit, rfl | hopen⟩ := ho.split
  · obtain ⟨rest, hrest, -⟩ := h.split
    rw [List.append_nil] at hsplit
    simp [← hsplit, hrest]
  · exact h.first other comment hsplit hopen

/-- What stands before the comment is what is left when it is dropped. -/
theorem beforeComment_iff : BeforeComment line kept ↔ Line.dropComment line = kept := by
  refine ⟨fun h => ?_, fun h => h ▸ beforeComment_dropComment line⟩
  have hd := beforeComment_dropComment line
  obtain ⟨rest, hk, -⟩ := h.split
  obtain ⟨more, hm, -⟩ := hd.split
  exact (List.append_inj (hm.symm.trans hk)
    (Nat.le_antisymm (hd.length_le h) (h.length_le hd))).1

end

/-- What counts of a line is what is left without its comment and the blanks around the rest. -/
theorem content_eq_iff {raw line : List Char} :
    (∃ kept, BeforeComment raw kept ∧ Stripped kept line) ↔ Line.content raw = line := by
  simp only [beforeComment_iff, stripped_iff, exists_eq_left', Line.content]

/-- What counts of a line without dashes, slashes and blanks at its ends is all of it. -/
theorem content_eq_self {line : List Char} (hdash : '-' ∉ line) (hslash : '/' ∉ line)
    (ht : Trimmed line) : Line.content line = line := by
  have hstripped : Stripped line line := ⟨⟨[], [], blanks_nil, blanks_nil, by simp⟩, ht⟩
  refine content_eq_iff.mp ⟨line, ⟨⟨[], by simp, .inl rfl⟩, ?_⟩, hstripped⟩
  rintro front back rfl (hopen | hopen)
  · exact absurd (List.mem_append_right front (hopen.subset List.mem_cons_self)) hdash
  · exact absurd (List.mem_append_right front (hopen.subset List.mem_cons_self)) hslash

/-- What counts of a text is what counts of its lines. -/
theorem contents_iff {text : List Char} {ls : List (List Char)} :
    Contents text ls ↔ (lines text).map Line.content = ls := by
  simp only [Contents, cutsInto_iff, exists_eq_left', content_eq_iff]
  rw [← List.forall₂_map_left_iff, List.forall₂_eq_eq_eq]

/-! ## Identifiers -/

section

variable {text name rest : List Char}

/-- An identifier that no further character belongs to is taken off. -/
theorem splitIdentifier?_append (hn : isIdentifier name = true)
    (hr : ∀ c ∈ rest.head?, isIdentifierPart c = false) :
    splitIdentifier? (name ++ rest) = some (name, rest) := by
  cases name with
  | nil => cases hn
  | cons c name =>
    rw [isIdentifier, Bool.and_eq_true, List.all_eq_true] at hn
    rw [List.cons_append, splitIdentifier?, if_pos hn.1, takeWhile_append_of_head hn.2 hr,
      dropWhile_append_of_head hn.2 hr]

/-- An identifier is taken off as a whole. -/
theorem splitIdentifier?_self (hn : isIdentifier name = true) :
    splitIdentifier? name = some (name, []) := by
  have hend : ∀ c ∈ ([] : List Char).head?, isIdentifierPart c = false := by simp
  have h := splitIdentifier?_append hn hend
  rwa [List.append_nil] at h

/-- An identifier ends where no further character belongs to it. -/
theorem splitIdentifier?_eq_some_iff : splitIdentifier? text = some (name, rest) ↔
    isIdentifier name = true ∧ text = name ++ rest ∧
      ∀ c ∈ rest.head?, isIdentifierPart c = false := by
  constructor
  · intro h
    refine ⟨isIdentifier_of_splitIdentifier? h, (append_of_splitIdentifier? h).symm, ?_⟩
    cases text with
    | nil => cases h
    | cons c text =>
      rw [splitIdentifier?] at h
      split at h
      · cases h
        exact eq_false_of_mem_head?_dropWhile
      · cases h
  · rintro ⟨hn, rfl, hr⟩
    exact splitIdentifier?_append hn hr

/-- The first character of an identifier may stand inside one. -/
theorem isIdentifierPart_of_isIdentifierStart {c : Char} (h : isIdentifierStart c = true) :
    isIdentifierPart c = true := by
  rw [isIdentifierStart, Bool.or_eq_true] at h
  simp only [isIdentifierPart, Char.isAlphanum, Bool.or_eq_true]
  exact .inl (h.imp .inl id)

/-- Every character of an identifier may stand inside one. -/
theorem isIdentifierPart_of_mem (hn : isIdentifier name = true) :
    ∀ c ∈ name, isIdentifierPart c = true := by
  cases name with
  | nil => cases hn
  | cons c name =>
    rw [isIdentifier, Bool.and_eq_true, List.all_eq_true] at hn
    exact List.forall_mem_cons.mpr ⟨isIdentifierPart_of_isIdentifierStart hn.1, hn.2⟩

/-- The code points of letters and digits. -/
theorem toNat_of_isAlphanum {c : Char} (h : c.isAlphanum = true) :
    (65 ≤ c.toNat ∧ c.toNat ≤ 90) ∨ (97 ≤ c.toNat ∧ c.toNat ≤ 122) ∨
      (48 ≤ c.toNat ∧ c.toNat ≤ 57) := by
  have hcode : ∀ {low high : UInt32}, low ≤ c.val ∧ c.val ≤ high →
      low.toNat ≤ c.toNat ∧ c.toNat ≤ high.toNat := fun hc =>
    ⟨UInt32.le_iff_toNat_le.mp hc.1, UInt32.le_iff_toNat_le.mp hc.2⟩
  have hrange : ∀ {low high : UInt32}, (decide (low ≤ c.val) && decide (c.val ≤ high)) = true →
      low.toNat ≤ c.toNat ∧ c.toNat ≤ high.toNat := fun hc => hcode (by simpa using hc)
  rcases Bool.or_eq_true_iff.mp h with h | hdigit
  · rcases Bool.or_eq_true_iff.mp h with hupper | hlower
    · exact .inl (hcode (of_decide_eq_true hupper))
    · exact .inr (.inl (hrange hlower))
  · exact .inr (.inr (hrange hdigit))

/-- The characters of identifiers are not blank. -/
theorem isBlank_eq_false_of_isIdentifierPart {c : Char} (h : isIdentifierPart c = true) :
    isBlank c = false := by
  simp only [isIdentifierPart, Bool.or_eq_true, beq_iff_eq] at h
  rcases h with (h | rfl) | rfl
  · have hcode := toNat_of_isAlphanum h
    simp only [isBlank, blankRanges, CodeRange.contains, List.any_cons, List.any_nil,
      Bool.or_eq_false_iff, Bool.and_eq_false_iff, decide_eq_false_iff_not,
      and_true]
    omega
  all_goals decide

/-- A character that belongs to no identifier does not stand in one. -/
theorem notMem_of_isIdentifier {c : Char} (hn : isIdentifier name = true)
    (hc : isIdentifierPart c = false) : c ∉ name := by
  intro hm
  rw [isIdentifierPart_of_mem hn c hm] at hc
  cases hc

/-- Blanks do not stand in identifiers. -/
theorem isIdentifierPart_eq_false_of_isBlank {c : Char} (h : isBlank c = true) :
    isIdentifierPart c = false := by
  rw [← Bool.not_eq_true]
  intro hc
  rw [isBlank_eq_false_of_isIdentifierPart hc] at h
  cases h

end

end Text

end Substance
