import Substance.Proofs.Distinct
import Substance.Text.Digit

/-!
# When a registry gives a name twice

Types that begin with a character have names of their own (`numbered_stem_inj`).  Only the nameless
type gets in their way: its objects are named by bare numbers, and a number may begin with the digit
that is the stem of another type.  So two names are equal just when one is such a number and the
other the same row of digits, read as a stem and what follows it.

* `Tracks.getElem?_freshAll`: a name is told by its type and the names given before it.
* `numbered_stem_eq_iff`: when two stems with numbers are the same text.
* `freshAll_eq_iff` puts the two together, for the names of any row of types.
-/

namespace Substance

open Statement Text

namespace Statement

/-! ## Numbers that begin with a stem -/

/-- No number but zero begins with the digit zero. -/
theorem toDigits_ne_zero_cons {n : Nat} (h : 0 < n) (l : List Char) :
    Nat.toDigits 10 n ≠ '0' :: l := by
  induction n using Nat.strongRecOn generalizing l with
  | ind n ih =>
    intro hl
    rw [Nat.toDigits_eq_if (by decide)] at hl
    split at hl
    · -- a number of one digit is that digit
      have hdigit := Nat.digitChar_eq_zero.mp (List.cons.inj hl).1
      omega
    · -- the first digit is that of the number without its last one
      obtain ⟨c, rest, hc⟩ :=
        List.exists_cons_of_ne_nil (Nat.toDigits_ne_nil (n := n / 10) (b := 10))
      rw [hc, List.cons_append] at hl
      rw [(List.cons.inj hl).1] at hc
      exact ih (n / 10) (by omega) (by omega) rest hc

/-- What follows a stem begins with a digit from one to nine. -/
theorem digit_of_tail_eq_cons {i : Nat} {d : Char} {l : List Char} (h : tail i = d :: l) :
    '1' ≤ d ∧ d ≤ '9' := by
  have hdigit : d.isDigit = true :=
    isDigit_of_mem_tail (i := i) (by rw [h]; exact List.mem_cons_self)
  have hzero : d ≠ '0' := by
    rintro rfl
    cases i with
    | zero => cases h
    | succ i => exact toDigits_ne_zero_cons i.succ_pos l h
  have hne : d.toNat ≠ 48 := fun he => hzero (Char.toNat_inj.mp he)
  obtain ⟨hlow, hhigh⟩ := toNat_of_isAsciiDigit hdigit
  exact ⟨show 49 ≤ d.toNat by omega, hhigh⟩

/-- The decimal of the first number is the digit, with the decimal of the second one behind it
unless that is zero. -/
def BeginsWith (m : Nat) (d : Char) (k : Nat) : Prop :=
  (k = 0 ∧ toString m = String.singleton d) ∨
    (1 ≤ k ∧ toString m = String.singleton d ++ toString k)

/-- A number of the nameless type, not its first, is the digit that is the stem of another type,
with a number of that type behind it. -/
def Meets (type : String) (m : Nat) (other : String) (k : Nat) : Prop :=
  type = "" ∧ 1 ≤ m ∧
    ∃ d : Char, '1' ≤ d ∧ d ≤ '9' ∧ stem other = String.singleton d ∧ BeginsWith m d k

/-- A number that begins with a digit is the name with what follows under that digit. -/
theorem beginsWith_iff {m k : Nat} {d : Char} (hm : 1 ≤ m) :
    BeginsWith m d k ↔ numbered "" m = numbered (String.singleton d) k := by
  obtain ⟨m, rfl⟩ := Nat.exists_eq_add_of_le' hm
  cases k with
  | zero => simp [BeginsWith, numbered]
  | succ k => simp [BeginsWith, numbered]

/-- A name of the nameless type is one of a type that begins with a character just when the two
numbers meet. -/
theorem numbered_empty_eq_iff {type : String} (h : type ≠ "") (m k : Nat) :
    numbered "" m = numbered (stem type) k ↔ Meets "" m type k := by
  constructor
  · intro he
    have hl : tail m = (stem type).toList ++ tail k := by
      have hlist := congrArg String.toList he
      rwa [toList_numbered, toList_numbered] at hlist
    have hm : 1 ≤ m := by
      by_contra hm
      obtain rfl : m = 0 := by omega
      exact numbered_stem_ne_empty h k he.symm
    rcases toList_stem h with ⟨d, hd⟩ | hd
    · rw [hd] at hl
      obtain ⟨hlow, hhigh⟩ := digit_of_tail_eq_cons hl
      have hstem : stem type = String.singleton d := String.toList_injective (by simpa using hd)
      rw [hstem] at he
      exact ⟨rfl, hm, d, hlow, hhigh, hstem, (beginsWith_iff hm).mpr he⟩
    · -- no number begins with a dotted `i`
      rw [hd] at hl
      exact absurd (digit_of_tail_eq_cons hl) (by decide)
  · rintro ⟨-, hm, d, -, -, hstem, hbegins⟩
    rw [hstem]
    exact (beginsWith_iff hm).mp hbegins

/-- Two stems with numbers, not the same number under one stem, are the same text just when a number
of the nameless type meets one of the other type. -/
theorem numbered_stem_eq_iff {t u : String} {m k : Nat} (hne : stem t = stem u → m ≠ k) :
    numbered (stem t) m = numbered (stem u) k ↔ Meets t m u k ∨ Meets u k t m := by
  by_cases ht : t = "" <;> by_cases hu : u = ""
  · -- one stem, so the numbers differ
    subst ht hu
    have hmeets (a b : Nat) : ¬Meets "" a "" b := by
      rintro ⟨-, -, d, -, -, hstem, -⟩
      rw [stem_eq_empty_iff.mpr rfl] at hstem
      exact String.singleton_ne_empty hstem.symm
    have hdiffers : numbered (stem "") m ≠ numbered (stem "") k := mt numbered_inj (hne rfl)
    simp [hmeets, hdiffers]
  · subst ht
    have hother : ¬Meets u k "" m := fun h => hu h.1
    rw [or_iff_left hother]
    exact numbered_empty_eq_iff hu m k
  · subst hu
    have hother : ¬Meets t m "" k := fun h => ht h.1
    rw [or_iff_right hother, eq_comm]
    exact numbered_empty_eq_iff ht k m
  · -- both types begin with a character
    have hdiffers : numbered (stem t) m ≠ numbered (stem u) k := fun he =>
      hne (numbered_stem_inj ht hu he).1 (numbered_stem_inj ht hu he).2
    simp [Meets, ht, hu, hdiffers]

end Statement

namespace Registry

/-! ## Rows of names -/

/-- Give a new name for each of some types, in order. -/
def freshAll (r : Registry) : List String → List String
  | [] => []
  | type :: types => (r.fresh type).1 :: (r.fresh type).2.freshAll types

/-- The number of the types before a place that have this stem. -/
def countUnder (types : List String) (p : String) (i : Nat) : Nat :=
  (types.take i).countP fun type => stem type = p

/-- A name is given by its type and the objects that already have its stem: those of the statements
that the registry tracks, and those named since. -/
theorem Tracks.getElem?_freshAll {r : Registry} {l : List Statement} (h : r.Tracks l)
    (types : List String) (i : Nat) :
    (r.freshAll types)[i]? = types[i]?.map fun type => numbered (stem type)
      ((objectsUnder (stem type) l).length + countUnder types (stem type) i) := by
  induction types generalizing r l i with
  | nil => simp [freshAll]
  | cons type types ih =>
    cases i with
    | zero => simp [freshAll, h.fresh_name, nextFor, countUnder]
    | succ i =>
      rw [freshAll, List.getElem?_cons_succ, List.getElem?_cons_succ, ih (h.fresh type [])]
      refine congrArg (types[i]?.map ·) (funext fun other => congrArg (numbered (stem other)) ?_)
      rw [objectsUnder_append, objectsUnder_declaration, countUnder, countUnder,
        List.take_succ_cons, List.countP_cons, List.length_append]
      by_cases hstem : stem type = stem other
      · simp only [hstem, if_true, decide_true, List.length_singleton]
        omega
      · simp [hstem]

/-- The name for the `i`-th type has a number under the stem of that type. -/
theorem getElem?_freshAll {types : List String} {i : Nat} {type : String}
    (h : types[i]? = some type) : (empty.freshAll types)[i]? =
      some (numbered (stem type) (countUnder types (stem type) i)) := by
  rw [tracks_empty.getElem?_freshAll, h]
  simp

/-- A type counts for the places behind it. -/
theorem countUnder_lt {types : List String} {i j : Nat} {type : String} (h : types[i]? = some type)
    (hlt : i < j) : countUnder types (stem type) i < countUnder types (stem type) j := by
  have hnext : countUnder types (stem type) (i + 1) = countUnder types (stem type) i + 1 := by
    simp [countUnder, List.take_add_one, h]
  have hmono : countUnder types (stem type) (i + 1) ≤ countUnder types (stem type) j :=
    (List.take_sublist_take_left hlt).countP_le
  omega

/-- Types of one stem at different places take different numbers. -/
theorem countUnder_ne {types : List String} {i j : Nat} {t u : String} (hi : types[i]? = some t)
    (hj : types[j]? = some u) (hne : i ≠ j) (hstem : stem t = stem u) :
    countUnder types (stem t) i ≠ countUnder types (stem u) j := by
  rcases Nat.lt_or_gt_of_ne hne with hlt | hlt
  · rw [← hstem]
    exact Nat.ne_of_lt (countUnder_lt hi hlt)
  · rw [hstem]
    exact Nat.ne_of_gt (countUnder_lt hj hlt)

/-- Whatever types an empty registry, new or cleared, is asked for: it gives one name at two places
just when a number of the nameless type meets one of the other type.  So types that begin with a
character never share a name. -/
theorem freshAll_eq_iff {types : List String} {i j : Nat} {t u : String} (hi : types[i]? = some t)
    (hj : types[j]? = some u) (hne : i ≠ j) :
    ∃ a b, (empty.freshAll types)[i]? = some a ∧ (empty.freshAll types)[j]? = some b ∧
      (a = b ↔
        Meets t (countUnder types (stem t) i) u (countUnder types (stem u) j) ∨
          Meets u (countUnder types (stem u) j) t (countUnder types (stem t) i)) ∧
      (t ≠ "" → u ≠ "" → a ≠ b) := by
  have hiff := numbered_stem_eq_iff (countUnder_ne hi hj hne)
  refine ⟨_, _, getElem?_freshAll hi, getElem?_freshAll hj, hiff, fun ht hu he => ?_⟩
  rcases hiff.mp he with h | h
  · exact ht h.1
  · exact hu h.1

/-- The twelfth object of the nameless type and the second one under the digit one are both named
`11`. -/
theorem freshAll_eq_iff_eleven :
    let types := List.replicate 12 "" ++ ["1a", "1b"]
    types[11]? = some "" ∧ types[13]? = some "1b" ∧ 11 ≠ 13 ∧
      (empty.freshAll types)[11]? = some "11" ∧ (empty.freshAll types)[13]? = some "11" ∧
      ∃ a b, (empty.freshAll types)[11]? = some a ∧ (empty.freshAll types)[13]? = some b ∧
        (a = b ↔
          Meets "" (countUnder types (stem "") 11) "1b" (countUnder types (stem "1b") 13) ∨
            Meets "1b" (countUnder types (stem "1b") 13) "" (countUnder types (stem "") 11)) ∧
        ("" ≠ "" → "1b" ≠ "" → a ≠ b) :=
  ⟨by decide, by decide, by decide, by decide +kernel, by decide +kernel,
    freshAll_eq_iff (by decide) (by decide) (by decide)⟩

end Registry

end Substance
