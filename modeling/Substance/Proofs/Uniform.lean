import Substance.Random.Draw
import Mathlib.Algebra.BigOperators.Fin
import Mathlib.Algebra.Order.BigOperators.Group.Finset
import Mathlib.Data.Fintype.BigOperators
import Mathlib.Tactic.Ring

/-!
# Draws are uniform

A number below a bound is drawn by rejection.  An attempt takes so many words that they have the
bits of the bound, and makes one candidate of them; the first candidate below the bound is the
answer.  Every number below the bound is the candidate of equally many rows of words, and at least
half of all rows give one of these, for bounds of any size.

* `stream`, `skip`: the words that a source hands out, and the source after some of them.
* `candidate`, `Attempt`: the number that a row of words makes, and the rows of one attempt.
* `bits_eq`, `upTo_of_succeeds`: what the source does, said by its words.
* `card_candidate_eq`: a number is the candidate of how many rows.
* `uniform_drawInt`: the main statement.
-/

namespace Substance.Random

open Finset

/-! ## Words -/

section Words

variable {σ : Type} [WordSource σ]

/-- The source after some words. -/
def skip : Nat → σ → σ
  | 0, s => s
  | count + 1, s => skip count (WordSource.next s).2

/-- The words of a source, in order. -/
def stream (s : σ) : Nat → UInt32 := fun i => (WordSource.next (skip i s)).1

/-- A sequence of words hands them out in order. -/
instance : WordSource (Nat → UInt32) := ⟨fun words => (words 0, fun i => words (i + 1))⟩

/-- Words are skipped one after the other. -/
theorem skip_add (m n : Nat) (s : σ) : skip (m + n) s = skip n (skip m s) := by
  induction m generalizing s with
  | zero => rw [Nat.zero_add, skip]
  | succ m ih => rw [Nat.add_right_comm, skip, skip, ih]

/-- The words after some words. -/
theorem stream_skip (m i : Nat) (s : σ) : stream (skip m s) i = stream s (m + i) := by
  rw [stream, stream, skip_add]

/-- The words of a sequence are those that it consists of. -/
theorem stream_sequence (words : Nat → UInt32) : stream words = words := by
  have hskip : ∀ (count i : Nat) (words : Nat → UInt32),
      skip count words i = words (count + i) := by
    intro count
    induction count with
    | zero => exact fun i words => congrArg words (Nat.zero_add i).symm
    | succ count ih =>
      intro i words
      rw [skip, ih, Nat.add_right_comm]
      rfl
  funext i
  exact (hskip i 0 words).trans rfl

end Words

/-! ## Widths -/

/-- A positive number has a binary digit. -/
theorem bitLength_pos {n : Nat} (hn : 0 < n) : 0 < bitLength n := by
  rw [bitLength, if_neg (Nat.ne_of_gt hn)]
  exact Nat.succ_pos _

/-- A number has as many binary digits as it needs. -/
theorem two_pow_bitLength {n : Nat} (hn : 0 < n) :
    n < 2 ^ bitLength n ∧ 2 ^ bitLength n ≤ 2 * n := by
  rw [bitLength, if_neg (Nat.ne_of_gt hn)]
  refine ⟨Nat.lt_log2_self, ?_⟩
  rw [pow_succ, Nat.mul_comm]
  exact Nat.mul_le_mul_left 2 (Nat.log2_self_le (Nat.ne_of_gt hn))

/-- The number of words that have so many bits. -/
def wordCount (width : Nat) : Nat := (width + 31) / 32

/-- So many words have the bits that are wanted, and one less has not. -/
theorem wordCount_bounds (width : Nat) :
    width ≤ 32 * wordCount width ∧ 32 * wordCount width < width + 32 := by
  rw [wordCount]
  omega

/-! ## Candidates -/

/-- The number of `width` bits that words make.  They fill it from its least significant end, and of
a word that goes beyond its other end only the highest bits count. -/
def candidate (width : Nat) {count : Nat} (words : Fin count → UInt32) : Nat :=
  ∑ i, ((words i).toNat >>> (32 * (i.val + 1) - width)) * 2 ^ (32 * i.val)

/-- The words of one attempt to draw a number below `n`. -/
abbrev Attempt (n : Nat) : Type := Fin (wordCount (bitLength n)) → UInt32

/-- The candidate of an attempt. -/
def Attempt.value {n : Nat} (words : Attempt n) : Nat := candidate (bitLength n) words

/-- The words of the `j`-th attempt. -/
def attempt (n : Nat) (words : Nat → UInt32) (j : Nat) : Attempt n :=
  fun i => words (wordCount (bitLength n) * j + i)

/-- The `j`-th attempt is the first one whose candidate is below `n`. -/
structure Succeeds (n : Nat) (words : Nat → UInt32) (j : Nat) : Prop where
  refused : ∀ i < j, n ≤ (attempt n words i).value
  accepted : (attempt n words j).value < n

/-- A single word gives its highest bits. -/
theorem candidate_one (width : Nat) (words : Fin 1 → UInt32) :
    candidate width words = (words 0).toNat >>> (32 - width) := by
  simp [candidate]

/-- A word that counts whole stands before the rest. -/
theorem candidate_succ {width count : Nat} (h : 32 ≤ width) (words : Fin (count + 1) → UInt32) :
    candidate width words =
      (words 0).toNat + 2 ^ 32 * candidate (width - 32) (Fin.tail words) := by
  have hfirst : 32 * (0 + 1) - width = 0 := by omega
  rw [candidate, Fin.sum_univ_succ, candidate, Finset.mul_sum]
  simp only [Fin.val_zero, hfirst, Nat.shiftRight_zero, Nat.mul_zero, pow_zero, Nat.mul_one,
    Fin.val_succ, Fin.tail]
  refine congrArg ((words 0).toNat + ·) (Finset.sum_congr rfl fun i _ => ?_)
  have hshift : 32 * (i.val + 1 + 1) - width = 32 * (i.val + 1) - (width - 32) := by omega
  rw [hshift, Nat.mul_succ, pow_add]
  ring

section Source

variable {σ : Type} [WordSource σ]

/-- Bits are the candidate of the next words. -/
theorem bits_eq {width count : Nat} (hpos : 0 < width) (hcount : wordCount width = count) (s : σ) :
    bits width s = (candidate width fun i : Fin count => stream s i, skip count s) := by
  induction count generalizing width s with
  | zero =>
    rw [wordCount] at hcount
    omega
  | succ count ih =>
    rw [wordCount] at hcount
    rw [bits]
    split
    · next hle =>
      obtain rfl : count = 0 := by omega
      rw [candidate_one]
      rfl
    · next hlt =>
      have hrest : wordCount (width - 32) = count := by
        rw [wordCount]
        omega
      rw [ih (by omega) hrest, candidate_succ (by omega)]
      rfl

/-- The first attempt is made of the next words, and the others of those after them. -/
theorem bits_attempt {n : Nat} (hn : 0 < n) (s : σ) :
    bits (bitLength n) s =
      ((attempt n (stream s) 0).value, skip (wordCount (bitLength n)) s) := by
  have hwords : attempt n (stream s) 0 = fun i : Fin _ => stream s i := by
    funext i
    rw [attempt, Nat.mul_zero, Nat.zero_add]
  rw [bits_eq (bitLength_pos hn) rfl, Attempt.value, hwords]

/-- Attempts after the first one. -/
theorem attempt_skip (n j : Nat) (s : σ) :
    attempt n (stream (skip (wordCount (bitLength n)) s)) j = attempt n (stream s) (j + 1) := by
  funext i
  rw [attempt, attempt, stream_skip, Nat.mul_succ]
  congr 1
  omega

/-- A draw takes the candidate of the first attempt that succeeds, and uses up the words of all
attempts up to it. -/
theorem upTo_of_succeeds {top j : Nat} {s : σ} (h : Succeeds (top + 1) (stream s) j) :
    (upTo top s).1.val = (attempt (top + 1) (stream s) j).value ∧
      (upTo top s).2 = skip (wordCount (bitLength (top + 1)) * (j + 1)) s := by
  induction j generalizing s with
  | zero =>
    have hsome : tryUpTo top s =
        .inr (⟨_, h.accepted⟩, skip (wordCount (bitLength (top + 1))) s) := by
      simp only [tryUpTo, bits_attempt top.succ_pos, dif_pos h.accepted]
    rw [upTo_eq, hsome, Nat.zero_add, Nat.mul_one]
    exact ⟨rfl, rfl⟩
  | succ j ih =>
    have hnone : tryUpTo top s = .inl (skip (wordCount (bitLength (top + 1))) s) := by
      have hrefused := Nat.not_lt.mpr (h.refused 0 j.succ_pos)
      simp only [tryUpTo, bits_attempt top.succ_pos, dif_neg hrefused]
    have hrest : Succeeds (top + 1) (stream (skip (wordCount (bitLength (top + 1))) s)) j := by
      refine ⟨fun i hi => ?_, ?_⟩
      · rw [attempt_skip]
        exact h.refused (i + 1) (Nat.succ_lt_succ hi)
      · rw [attempt_skip]
        exact h.accepted
    obtain ⟨hvalue, hskip⟩ := ih hrest
    rw [attempt_skip] at hvalue
    rw [upTo_eq, hnone]
    refine ⟨hvalue, hskip.trans ?_⟩
    rw [← skip_add, Nat.mul_succ _ (j + 1), Nat.add_comm]

end Source

/-! ## Counting -/

/-- There are finitely many words. -/
instance finite_word : Finite UInt32 := .of_injective UInt32.toFin fun _ _ => UInt32.toFin_inj.mp

/-- Words can be counted. -/
noncomputable instance fintypeWord : Fintype UInt32 := .ofFinite UInt32

/-- The number of words. -/
theorem card_word : Fintype.card UInt32 = 2 ^ 32 := by
  rw [Fintype.card_congr ⟨UInt32.toFin, UInt32.ofFin, fun _ => rfl, fun _ => rfl⟩]
  exact Fintype.card_fin UInt32.size

/-- So many words have given highest bits. -/
theorem card_highest_eq {shift r : Nat} (hshift : shift ≤ 32) (hr : r < 2 ^ (32 - shift)) :
    #{word : UInt32 | word.toNat >>> shift = r} = 2 ^ shift := by
  have hbound : r * 2 ^ shift + 2 ^ shift ≤ 2 ^ 32 := by
    calc r * 2 ^ shift + 2 ^ shift = (r + 1) * 2 ^ shift := (Nat.succ_mul _ _).symm
      _ ≤ 2 ^ (32 - shift) * 2 ^ shift := Nat.mul_le_mul_right _ hr
      _ = 2 ^ 32 := by rw [← pow_add, Nat.sub_add_cancel hshift]
  have hword : ∀ low < 2 ^ shift,
      (UInt32.ofNat (r * 2 ^ shift + low)).toNat = r * 2 ^ shift + low := fun low hlow =>
    UInt32.toNat_ofNat_of_lt (by change _ < 2 ^ 32; omega)
  rw [← Finset.card_range (2 ^ shift)]
  refine Finset.card_bij' (fun word _ => word.toNat % 2 ^ shift)
    (fun low _ => UInt32.ofNat (r * 2 ^ shift + low)) ?_ ?_ ?_ ?_
  · intro word _
    exact Finset.mem_range.mpr (Nat.mod_lt _ (Nat.two_pow_pos shift))
  · intro low hlow
    have hlow := Finset.mem_range.mp hlow
    rw [mem_filter_univ, hword low hlow, Nat.shiftRight_eq_div_pow, Nat.mul_comm,
      Nat.mul_add_div (Nat.two_pow_pos _), Nat.div_eq_of_lt hlow, Nat.add_zero]
  · intro word hword
    rw [mem_filter_univ, Nat.shiftRight_eq_div_pow] at hword
    rw [← hword, Nat.div_add_mod']
    exact UInt32.ofNat_toNat
  · intro low hlow
    have hlow := Finset.mem_range.mp hlow
    rw [hword low hlow, Nat.mul_comm, Nat.mul_add_mod, Nat.mod_eq_of_lt hlow]

/-- Every number that a single word can give is the candidate of equally many words. -/
theorem card_candidate_one_eq {width r : Nat} (hpos : 0 < width) (hle : width ≤ 32)
    (hr : r < 2 ^ width) :
    #{words : Fin 1 → UInt32 | candidate width words = r} = 2 ^ (32 - width) := by
  have hwidth : 32 - (32 - width) = width := by omega
  have hword := @card_highest_eq (32 - width) r (by omega) (by rwa [hwidth])
  rw [← hword]
  refine Finset.card_bij' (fun words _ => words 0) (fun word _ _ => word) ?_ ?_ ?_ ?_
  · intro words hwords
    rw [mem_filter_univ, candidate_one] at hwords
    rwa [mem_filter_univ]
  · intro word hword
    rw [mem_filter_univ] at hword
    rwa [mem_filter_univ, candidate_one]
  · intro words _
    funext i
    rw [Fin.fin_one_eq_zero i]
  · exact fun word _ => rfl

/-- Where the first word counts whole the candidate determines it, and the others make the rest. -/
theorem card_candidate_succ {width count : Nat} (h : 32 ≤ width) (r : Nat) :
    #{words : Fin (count + 1) → UInt32 | candidate width words = r} =
      #{words : Fin count → UInt32 | candidate (width - 32) words = r / 2 ^ 32} := by
  have hfirst : (UInt32.ofNat (r % 2 ^ 32)).toNat = r % 2 ^ 32 :=
    UInt32.toNat_ofNat_of_lt (Nat.mod_lt _ (Nat.two_pow_pos 32))
  refine Finset.card_bij' (fun words _ => Fin.tail words)
    (fun words _ => Fin.cons (UInt32.ofNat (r % 2 ^ 32)) words) ?_ ?_ ?_ ?_
  · intro words hwords
    have hword := (words 0).toNat_lt
    rw [mem_filter_univ, candidate_succ h] at hwords
    rw [mem_filter_univ]
    omega
  · intro words hwords
    rw [mem_filter_univ] at hwords
    rw [mem_filter_univ, candidate_succ h, Fin.cons_zero, Fin.tail_cons, hfirst]
    omega
  · intro words hwords
    have hword := (words 0).toNat_lt
    rw [mem_filter_univ, candidate_succ h] at hwords
    have hsame : UInt32.ofNat (r % 2 ^ 32) = words 0 := by
      apply UInt32.toNat_inj.mp
      omega
    rw [hsame, Fin.cons_self_tail]
  · exact fun words _ => Fin.tail_cons _ _

/-- Every number of `width` bits is the candidate of equally many rows of words. -/
theorem card_candidate_eq {width count r : Nat} (hle : width ≤ 32 * count)
    (hlt : 32 * count < width + 32) (hpos : 0 < width) (hr : r < 2 ^ width) :
    #{words : Fin count → UInt32 | candidate width words = r} = 2 ^ (32 * count - width) := by
  induction count generalizing width r with
  | zero => omega
  | succ count ih =>
    by_cases hone : width ≤ 32
    · obtain rfl : count = 0 := by omega
      exact card_candidate_one_eq hpos hone hr
    · have hwidth : 32 * (count + 1) - width = 32 * count - (width - 32) := by omega
      have hrest : r / 2 ^ 32 < 2 ^ (width - 32) := by
        rw [Nat.div_lt_iff_lt_mul (Nat.two_pow_pos 32), ← pow_add, Nat.sub_add_cancel (by omega)]
        exact hr
      rw [card_candidate_succ (by omega), ih (by omega) (by omega) (by omega) hrest, hwidth]

/-- The number of rows of words for an attempt. -/
theorem card_attempt (n : Nat) :
    Fintype.card (Attempt n) = 2 ^ (32 * wordCount (bitLength n)) := by
  rw [Fintype.card_pi_const, card_word, ← pow_mul]

/-- Every number below the bound is the candidate of equally many attempts. -/
theorem card_value_eq {n r : Nat} (hr : r < n) :
    #{words : Attempt n | words.value = r} =
      2 ^ (32 * wordCount (bitLength n) - bitLength n) := by
  obtain ⟨hle, hlt⟩ := wordCount_bounds (bitLength n)
  have hn : 0 < n := Nat.zero_lt_of_lt hr
  exact card_candidate_eq hle hlt (bitLength_pos hn) (Nat.lt_trans hr (two_pow_bitLength hn).1)

/-- The number of attempts that succeed. -/
theorem card_value_lt (n : Nat) :
    #{words : Attempt n | words.value < n} =
      n * 2 ^ (32 * wordCount (bitLength n) - bitLength n) := by
  rw [Finset.card_eq_sum_card_fiberwise (f := Attempt.value) (t := range n) (by intro; simp)]
  have hfiber : ∀ r ∈ range n, #{words ∈ {words : Attempt n | words.value < n} |
      Attempt.value words = r} = 2 ^ (32 * wordCount (bitLength n) - bitLength n) := by
    intro r hr
    have hr := Finset.mem_range.mp hr
    rw [← card_value_eq hr, Finset.filter_filter]
    refine congrArg Finset.card (Finset.filter_congr fun words _ => ?_)
    exact and_iff_right_of_imp fun h => h ▸ hr
  rw [Finset.sum_congr rfl hfiber, Finset.sum_const, Finset.card_range, smul_eq_mul]

/-- At least half of all attempts succeed. -/
theorem card_attempt_le {n : Nat} (hn : 0 < n) :
    2 ^ (32 * wordCount (bitLength n)) ≤ 2 * #{words : Attempt n | words.value < n} := by
  obtain ⟨hle, -⟩ := wordCount_bounds (bitLength n)
  calc 2 ^ (32 * wordCount (bitLength n))
      = 2 ^ bitLength n * 2 ^ (32 * wordCount (bitLength n) - bitLength n) := by
        rw [← pow_add, Nat.add_sub_cancel' hle]
    _ ≤ 2 * n * 2 ^ (32 * wordCount (bitLength n) - bitLength n) :=
        Nat.mul_le_mul_right _ (two_pow_bitLength hn).2
    _ = 2 * #{words : Attempt n | words.value < n} := by rw [card_value_lt, Nat.mul_assoc]

/-! ## Draws of integers -/

/-- The number of integers from one to another. -/
def spread (low high : Int) : Nat := (high - low).toNat + 1

/-- The integers between two bounds are equally likely.  Every row of words that is taken at once
gives one of them or none, each is given by the same number of rows, and at least half of all rows
give one. -/
structure Fair (low high : Int) : Prop where
  attempts : Fintype.card (Attempt (spread low high)) =
    2 ^ (32 * wordCount (bitLength (spread low high)))
  equally : ∀ i, low ≤ i → i ≤ high →
    #{words : Attempt (spread low high) | low + words.value = i} =
      2 ^ (32 * wordCount (bitLength (spread low high)) - bitLength (spread low high))
  mostly : 2 ^ (32 * wordCount (bitLength (spread low high))) ≤
    2 * #{words : Attempt (spread low high) | low + words.value ≤ high}

/-- Integers between bounds that are in order are equally likely. -/
theorem fair {low high : Int} (h : low ≤ high) : Fair low high where
  attempts := card_attempt _
  equally i hl hh := by
    have hspread : spread low high = (high - low).toNat + 1 := rfl
    have hi : (i - low).toNat < spread low high := by omega
    rw [← card_value_eq hi]
    refine congrArg Finset.card (Finset.filter_congr fun words _ => ?_)
    omega
  mostly := by
    have hspread : spread low high = (high - low).toNat + 1 := rfl
    have hwithin : ∀ words : Attempt (spread low high),
        low + words.value ≤ high ↔ words.value < spread low high := fun words => by omega
    simp only [hwithin]
    exact card_attempt_le (Nat.succ_pos _)

/-- Where some attempt succeeds there is a first one. -/
theorem exists_succeeds {n : Nat} {words : Nat → UInt32}
    (h : ∃ j, (attempt n words j).value < n) : ∃ j, Succeeds n words j :=
  ⟨Nat.find h, fun _ hi => Nat.not_lt.mp (Nat.find_min h hi), Nat.find_spec h⟩

/-- There is one first attempt that succeeds. -/
theorem Succeeds.unique {n : Nat} {words : Nat → UInt32} {i j : Nat} (hi : Succeeds n words i)
    (hj : Succeeds n words j) : i = j := by
  rcases Nat.lt_trichotomy i j with hlt | rfl | hlt
  · exact absurd hi.accepted (Nat.not_lt.mpr (hj.refused i hlt))
  · rfl
  · exact absurd hj.accepted (Nat.not_lt.mpr (hi.refused j hlt))

/-- An integer that is drawn lies as far above the lower bound as the first attempt says that
succeeds. -/
theorem drawInt_of_succeeds {σ : Type} [WordSource σ] {low high : Int} (h : low ≤ high) {s : σ}
    {j : Nat} (hj : Succeeds (spread low high) (stream s) j) :
    drawInt low high s = .ok (low + (attempt (spread low high) (stream s) j).value)
      (skip (wordCount (bitLength (spread low high)) * (j + 1)) s) := by
  obtain ⟨hvalue, hrest⟩ := upTo_of_succeeds hj
  rw [drawInt, if_pos h]
  simp only [Source.draw, hvalue, hrest]
  rfl

/-- A choice among some elements is that of the element at a place that is drawn. -/
theorem choose_eq {σ α : Type} [Source σ] {l : List α} (h : l ≠ []) (s : σ) :
    ∃ (i : Fin l.length) (t : σ), drawInt 0 (l.length - 1) s = .ok i t ∧
      choose l s = .ok l[i] t := by
  cases l with
  | nil => exact absurd rfl h
  | cons a rest =>
    refine ⟨(Source.draw rest.length s).1, (Source.draw rest.length s).2, ?_, rfl⟩
    have hlength : (((a :: rest).length : Int) - 1 - 0).toNat = rest.length := by simp
    rw [drawInt, if_pos (by simp), hlength]
    simp only [Int.zero_add]

/-- Draws of integers are uniform, whatever the bounds: every integer between them is equally likely
in each attempt, and at least half of the attempts succeed.  Once one succeeds the answer lies
between the bounds; how far above the lower one, and how many words are used up, depends on the
words and the distance of the bounds alone.  Nothing is taken for bounds that are crossed.  A choice
falls on the element at a place that is drawn. -/
theorem uniform_drawInt :
    (∀ low high : Int, low ≤ high → Fair low high) ∧
    (∀ (low high : Int) (words : Nat → UInt32), low ≤ high →
      (∃ j, (attempt (spread low high) words j).value < spread low high) →
      ∃ j offset, Succeeds (spread low high) words j ∧
        offset = (attempt (spread low high) words j).value ∧ low + offset ≤ high ∧
        ∀ low' high' : Int, high' - low' = high - low →
          ∀ {σ : Type} [WordSource σ] (s : σ), stream s = words →
            drawInt low' high' s = .ok (low' + offset)
              (skip (wordCount (bitLength (spread low high)) * (j + 1)) s)) ∧
    (∀ low high : Int, high < low → ∀ {σ : Type} [Source σ] (s : σ),
      drawInt low high s = .error (.emptyRange low high) s) ∧
    ∀ {α : Type} (l : List α), l ≠ [] → ∀ {σ : Type} [Source σ] (s : σ),
      ∃ (i : Fin l.length) (t : σ), drawInt 0 (l.length - 1) s = .ok i t ∧
        choose l s = .ok l[i] t := by
  refine ⟨fun low high => fair, ?_, ?_, fun l hl σ _ s => choose_eq hl s⟩
  · intro low high words h hends
    obtain ⟨j, hj⟩ := exists_succeeds hends
    refine ⟨j, _, hj, rfl, ?_, ?_⟩
    · have hspread : spread low high = (high - low).toNat + 1 := rfl
      have haccepted := hj.accepted
      omega
    · rintro low' high' hdistance σ _ s rfl
      have hspread : spread low' high' = spread low high := by rw [spread, spread, hdistance]
      rw [← hspread] at hj ⊢
      exact drawInt_of_succeeds (by omega) hj
  · intro low high hlt σ _ s
    rw [drawInt, if_neg (Int.not_le.mpr hlt)]

/-- Words for which an attempt by two of them fails, and the next one succeeds. -/
def failingOnce : Nat → UInt32
  | 1 => 0xFFFFFFFF
  | 2 => 7
  | _ => 0

/-- An integer out of `2 ^ 33 + 1` ones is drawn by the second attempt, which uses up the fourth
word. -/
theorem uniform_drawInt_failingOnce :
    Fair (-5) 8589934587 ∧
      drawInt (-5) 8589934587 failingOnce = .ok 2 (skip 4 failingOnce) := by
  obtain ⟨hfair, hdraw, -⟩ := uniform_drawInt
  have hsecond : Succeeds (spread (-5) 8589934587) failingOnce 1 :=
    ⟨by decide +kernel, by decide +kernel⟩
  obtain ⟨j, offset, hj, rfl, -, hanswer⟩ :=
    hdraw (-5) 8589934587 failingOnce (by decide) ⟨1, hsecond.accepted⟩
  obtain rfl := hj.unique hsecond
  have hvalue : (attempt (spread (-5) 8589934587) failingOnce 1).value = 7 := by decide +kernel
  refine ⟨hfair _ _ (by decide), ?_⟩
  rw [hanswer _ _ rfl failingOnce (stream_sequence failingOnce), hvalue]
  rfl

end Substance.Random
