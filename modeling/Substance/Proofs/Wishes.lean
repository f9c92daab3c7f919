import Substance.CommandLine.Arguments
import Substance.Proofs.Numerals

/-!
# What a command line can ask for

Every choice of settings can be written down: each option in its long spelling, with its value
behind an equals sign, in any order, and the domain behind the divider.  The values may be any
texts, and the domain too.  One value is out of reach: a field that is set to the divider is left
without any.

* `Wish` is what one option asks for, and `Wish.text` how it is written.
* `Wish.ofText_text`: how a written option is classified.
* `Progress.obey_wish` is what obeying one option does, `Progress.foldlM_obey` what obeying all.
* `Arguments.content_foldl_of_notMem`: options do not get in each other's way.
* `Arguments.parse_wishes` is the law of whole command lines.
-/

namespace Substance.CommandLine

open Text

/-! ## Wishes -/

/-- What one option asks for. -/
inductive Wish where
  | directory (path : String)
  | count (n : Int)
  | minLength (n : Int)
  | maxLength (n : Int)
  | policy (p : Policy)
  | seed (n : Int)
  | quiet
  | debug
deriving DecidableEq, Repr

/-- What a switch sets: the value of a field, which may be missing, or whether a flag is raised. -/
inductive Content where
  | text (value : Option String)
  | integer (value : Option Int)
  | policy (value : Option Policy)
  | raised (b : Bool)
deriving DecidableEq, Repr

namespace Wish

/-- The switch that a wish takes. -/
def switch : Wish → Switch
  | .directory _ => .field .path
  | .count _ => .field .count
  | .minLength _ => .field .minLength
  | .maxLength _ => .field .maxLength
  | .policy _ => .field .policy
  | .seed _ => .field .seed
  | .quiet => .flag .quiet
  | .debug => .flag .debug

/-- The long spelling of the switch. -/
def spelling : Wish → String
  | .directory _ => "--path"
  | .count _ => "--num-programs"
  | .minLength _ => "--min-length"
  | .maxLength _ => "--max-length"
  | .policy _ => "--arg-option"
  | .seed _ => "--seed"
  | .quiet => "--quiet"
  | .debug => "--debug"

/-- The value as it is written: integers in decimal, policies by their names. -/
def value? : Wish → Option String
  | .directory path => some path
  | .count n | .minLength n | .maxLength n | .seed n => some (toString n)
  | .policy p => some p.name
  | .quiet | .debug => none

/-- The word for a wish. -/
def text (w : Wish) : String :=
  match w.value? with
  | some value => w.spelling ++ "=" ++ value
  | none => w.spelling

/-- The word, by what it is for. -/
def word (w : Wish) : Word := .long w.switch w.value?

/-- What is wished for. -/
def content : Wish → Content
  | .directory path => .text (some path)
  | .count n | .minLength n | .maxLength n | .seed n => .integer (some n)
  | .policy p => .policy (some p)
  | .quiet | .debug => .raised true

/-- Integers have no more digits than a numeral may have. -/
def Readable : Wish → Prop
  | .count n | .minLength n | .maxLength n | .seed n => FewDigits n
  | .directory _ | .policy _ | .quiet | .debug => True

instance : DecidablePred Readable
  | .count n | .minLength n | .maxLength n | .seed n => inferInstanceAs (Decidable (FewDigits n))
  | .directory _ | .policy _ | .quiet | .debug => inferInstanceAs (Decidable True)

/-- The wish for the directory that is called like the divider. -/
def dividerPath : Wish := .directory Word.dividerText

/-- What a wish comes to: what is wished for, but no value where that is the divider. -/
def outcome (w : Wish) : Content := if w = dividerPath then .text none else w.content

/-- A wish comes to something else just when it is for the directory called like the divider. -/
theorem outcome_eq_content_iff {w : Wish} : w.outcome = w.content ↔ w ≠ dividerPath := by
  rw [outcome]
  constructor
  · rintro h rfl
    exact nomatch h
  · exact fun h => if_neg h

end Wish

namespace Arguments

/-- What the switch of a field or a flag has set.  Asking for help sets nothing. -/
def content (a : Arguments) : Switch → Content
  | .field .path => .text a.directory
  | .field .count => .integer a.count
  | .field .minLength => .integer a.minLength
  | .field .maxLength => .integer a.maxLength
  | .field .policy => .policy a.policy
  | .field .seed => .integer a.seed
  | .flag .quiet => .raised a.quiet
  | .flag .debug => .raised a.debug
  | .flag .help => .raised false

/-- Grant a wish, as far as it can be: the directory called like the divider is no directory. -/
def grant (a : Arguments) : Wish → Arguments
  | .directory path => { a with directory := if path = Word.dividerText then none else some path }
  | .count n => { a with count := some n }
  | .minLength n => { a with minLength := some n }
  | .maxLength n => { a with maxLength := some n }
  | .policy p => { a with policy := some p }
  | .seed n => { a with seed := some n }
  | .quiet => { a with quiet := true }
  | .debug => { a with debug := true }

/-- A wish comes to its outcome. -/
theorem content_grant (w : Wish) (a : Arguments) : (a.grant w).content w.switch = w.outcome := by
  cases w with
  | directory path =>
    by_cases hpath : path = Word.dividerText
    · subst hpath
      rfl
    · have hne : Wish.directory path ≠ .dividerPath := mt Wish.directory.inj hpath
      rw [Wish.outcome, if_neg hne, grant, if_neg hpath]
      rfl
  | _ => rfl

/-- A wish leaves alone what other switches set. -/
theorem content_grant_of_ne {w : Wish} {s : Switch} (h : s ≠ w.switch) (a : Arguments) :
    (a.grant w).content s = a.content s := by
  -- either the switch reads another part of the record, or it is the one that `h` excludes
  cases w <;> rcases s with f | f <;> cases f <;> first | rfl | exact absurd rfl h

/-- Wishes leave alone what their switches do not set. -/
theorem content_foldl_of_notMem {wishes : List Wish} {s : Switch} (h : s ∉ wishes.map Wish.switch)
    (a : Arguments) : (wishes.foldl grant a).content s = a.content s := by
  induction wishes generalizing a with
  | nil => rfl
  | cons w wishes ih =>
    rw [List.foldl_cons, ih (List.not_mem_of_not_mem_cons h),
      content_grant_of_ne (List.ne_of_not_mem_cons h)]

/-- Wishes for different switches all come to their outcomes. -/
theorem content_foldl_of_mem {wishes : List Wish} (hn : (wishes.map Wish.switch).Nodup) {w : Wish}
    (hw : w ∈ wishes) (a : Arguments) :
    (wishes.foldl grant a).content w.switch = w.outcome := by
  induction wishes generalizing a with
  | nil => cases hw
  | cons v wishes ih =>
    obtain ⟨hv, hrest⟩ := List.nodup_cons.mp hn
    rw [List.foldl_cons]
    rcases List.mem_cons.mp hw with rfl | hw
    · -- no later wish is for the same switch
      rw [content_foldl_of_notMem hv, content_grant]
    · exact ih hrest hw (a.grant v)

end Arguments

/-! ## Words -/

/-- Classifying words of which each has a kind and none is the divider. -/
theorem Word.classify_map_append {α : Type} {text : α → String} {word : α → Word}
    (h : ∀ a, Word.ofText (text a) = .ok (word a)) (hne : ∀ a, text a ≠ Word.dividerText)
    (l : List α) (rest : List String) : Word.classify (l.map text ++ rest) =
      (Word.classify rest).map (l.map word ++ ·) := by
  induction l with
  | nil =>
    rw [List.map_nil, List.nil_append]
    cases Word.classify rest <;> rfl
  | cons a l ih =>
    rw [List.map_cons, List.cons_append, Word.classify, if_neg (hne a), h, ih]
    cases Word.classify rest <;> rfl

namespace Wish

/-- The spelling is one of the switch. -/
theorem spelling_mem (w : Wish) : w.spelling ∈ w.switch.spellings := by
  cases w <;> exact List.mem_cons_self

/-- Long spellings open with two dashes. -/
theorem toList_spelling (w : Wish) :
    w.spelling.toList = '-' :: '-' :: w.spelling.toList.drop 2 := by
  cases w <;> simp only [spelling] <;> decide

/-- No long spelling holds an equals sign. -/
theorem equals_notMem_spelling (w : Wish) : '=' ∉ w.spelling.toList := by
  cases w <;> simp only [spelling] <;> decide

/-- A word for a wish is cut into spelling and value. -/
theorem cut_text (w : Wish) : Word.cut w.text.toList = (w.spelling.toList, w.value?) := by
  have hspelling : ∀ c ∈ w.spelling.toList, decide (c ≠ '=') = true := fun c hc =>
    decide_eq_true fun he => w.equals_notMem_spelling (he ▸ hc)
  rw [Word.cut, text]
  cases w.value? with
  | none =>
    rw [List.takeWhile_eq_self_iff.mpr hspelling, List.dropWhile_eq_nil_iff.mpr hspelling]
  | some value =>
    have hlist : (w.spelling ++ "=" ++ value).toList =
        w.spelling.toList ++ '=' :: value.toList := by simp
    simp only [hlist, List.takeWhile_append_of_pos hspelling,
      List.dropWhile_append_of_pos hspelling]
    simp

/-- A word for a wish is classified as its switch with its value. -/
theorem ofText_text (w : Wish) : Word.ofText w.text = .ok w.word := by
  have hopens : ∃ rest, w.text.toList = '-' :: '-' :: rest := by
    rw [text]
    cases w.value? with
    | none => exact ⟨_, w.toList_spelling⟩
    | some value =>
      rw [String.toList_append, String.toList_append, w.toList_spelling]
      exact ⟨_, rfl⟩
  obtain ⟨rest, hrest⟩ := hopens
  have hcut := w.cut_text
  rw [hrest] at hcut
  rw [Word.ofText, hrest]
  simp only [Word.ofLong, hcut, String.ofList_toList, Switch.ofSpelling?_of_mem w.spelling_mem,
    word]

/-- No word for a wish is the divider. -/
theorem text_ne_divider (w : Wish) : w.text ≠ Word.dividerText := by
  intro h
  have hword := w.ofText_text
  rw [h] at hword
  cases hword

end Wish

/-! ## Obeying -/

namespace Arguments

/-- A decimal is the integer of a field. -/
theorem integer_toString (field : Field) {n : Int} (h : FewDigits n) :
    integer field (toString n) = .ok n := by
  rw [integer, readInteger_toString h]
  rfl

/-- No decimal is the divider. -/
theorem toString_ne_divider {n : Int} (h : FewDigits n) : toString n ≠ Word.dividerText := by
  intro he
  have hread := readInteger_toString h
  rw [he] at hread
  cases hread

/-- Giving a field the value of a wish grants the wish. -/
theorem assign_value {w : Wish} {field : Field} {value : String} (hr : w.Readable)
    (hs : w.switch = .field field) (hv : w.value? = some value) (a : Arguments) :
    a.assign field value = .ok (a.grant w) := by
  cases w with
  | directory path =>
    cases hs
    cases hv
    rw [assign, grant]
    split <;> rfl
  | count n | minLength n | maxLength n | seed n =>
    cases hs
    cases hv
    rw [assign, if_neg (toString_ne_divider hr), set, integer_toString _ hr]
    rfl
  | policy p =>
    cases hs
    cases hv
    cases p <;> rfl
  | quiet | debug => cases hs

end Arguments

namespace Progress

variable {a b : Arguments} {extras : List String}

/-- In front of the divider, an option gives its field the value behind the equals sign. -/
theorem obey_field {field : Field} {value : String} (h : a.assign field value = .ok b) :
    obey ⟨a, .unnamed, none, extras⟩ (.long (.field field) (some value)) =
      .ok ⟨b, .unnamed, none, extras⟩ := by
  change (do
    let arguments ← (a.assign field value).mapError Stop.usage
    return (⟨arguments, .unnamed, none, extras⟩ : Progress)) = _
  rw [h]
  rfl

/-- In front of the divider, obeying the word for a wish grants the wish. -/
theorem obey_wish {w : Wish} (hr : w.Readable) (a : Arguments) (extras : List String) :
    obey ⟨a, .unnamed, none, extras⟩ w.word = .ok ⟨a.grant w, .unnamed, none, extras⟩ := by
  cases w with
  | quiet | debug => rfl
  | _ => exact obey_field (Arguments.assign_value hr rfl rfl a)

/-- In front of the divider, obeying the words for wishes grants them one after the other. -/
theorem foldlM_obey {wishes : List Wish} (hr : ∀ w ∈ wishes, w.Readable) (a : Arguments)
    (extras : List String) :
    (wishes.map Wish.word).foldlM obey ⟨a, .unnamed, none, extras⟩ =
      .ok ⟨wishes.foldl Arguments.grant a, .unnamed, none, extras⟩ := by
  induction wishes generalizing a with
  | nil => rfl
  | cons w wishes ih =>
    obtain ⟨hw, hwishes⟩ := List.forall_mem_cons.mp hr
    rw [List.map_cons, List.foldlM_cons, obey_wish hw]
    exact ih hwishes (a.grant w)

end Progress

/-! ## Command lines -/

namespace Arguments

/-- Naming the domain leaves alone what switches set. -/
theorem content_domain (a : Arguments) (domain : String) (s : Switch) :
    { a with domain }.content s = a.content s := by
  rcases s with f | f <;> cases f <;> rfl

/-- What a command line asks for that writes down wishes and, behind the divider, a domain. -/
theorem parse_eq (d : Defaults) (domain : String) {wishes : List Wish}
    (hr : ∀ w ∈ wishes, w.Readable) :
    parse d (wishes.map Wish.text ++ [Word.dividerText, domain]) =
      .ok { wishes.foldl grant (initial d "") with domain } := by
  have hclassify : Word.classify (wishes.map Wish.text ++ [Word.dividerText, domain]) =
      .ok (wishes.map Wish.word ++ [.divider, .plain domain]) :=
    Word.classify_map_append Wish.ofText_text Wish.text_ne_divider wishes _
  have hfold := Progress.foldlM_obey hr (initial d "") []
  -- once the wishes are granted, divider and domain are obeyed by computation
  rw [parse, hclassify]
  change (wishes.map Wish.word ++ [Word.divider, Word.plain domain]).foldlM Progress.obey
    ⟨initial d "", .unnamed, none, []⟩ >>= Progress.finish = _
  rw [List.foldlM_append, hfold]
  rfl

/-- The domain is the one that was named, every wish came to its outcome, and what was not wished
for is as the defaults have it. -/
structure Grants (d : Defaults) (domain : String) (wishes : List Wish) (a : Arguments) : Prop where
  named : a.domain = domain
  given : ∀ w ∈ wishes, a.content w.switch = w.outcome
  kept : ∀ s ∉ wishes.map Wish.switch, a.content s = (initial d domain).content s

/-- Wishes for different switches, in any order, and any domain behind the divider can be asked for
by a command line.  All of them are granted as they were wished just when none is for the directory
called like the divider, and that one alone is left without a value. -/
theorem parse_wishes (d : Defaults) (domain : String) {wishes : List Wish}
    (hn : (wishes.map Wish.switch).Nodup) (hr : ∀ w ∈ wishes, w.Readable) :
    ∃ a, parse d (wishes.map Wish.text ++ [Word.dividerText, domain]) = .ok a ∧
      Grants d domain wishes a ∧
      ((∀ w ∈ wishes, a.content w.switch = w.content) ↔ .dividerPath ∉ wishes) := by
  have hgrants : Grants d domain wishes { wishes.foldl grant (initial d "") with domain } :=
    { named := rfl
      given := fun w hw => (content_domain _ domain _).trans (content_foldl_of_mem hn hw _)
      kept := fun s hs => calc
        _ = (wishes.foldl grant (initial d "")).content s := content_domain _ domain s
        _ = (initial d "").content s := content_foldl_of_notMem hs _
        _ = (initial d domain).content s := (content_domain (initial d "") domain s).symm }
  refine ⟨_, parse_eq d domain hr, hgrants, fun h hw => ?_, fun hne w hw => ?_⟩
  · exact Wish.outcome_eq_content_iff.mp ((hgrants.given _ hw).symm.trans (h _ hw)) rfl
  · exact (hgrants.given w hw).trans (Wish.outcome_eq_content_iff.mpr fun he => hne (he ▸ hw))

/-- All options at once, out of their usual order, with a path that looks like an option, a negative
seed and the divider for a domain. -/
theorem parse_wishes_all :
    let wishes := [.debug, .seed (-5), .directory "--seed=9 =x", .policy .existing, .count 3,
      .maxLength (-7), .quiet, .minLength 0]
    (wishes.map Wish.switch).Nodup ∧ (∀ w ∈ wishes, w.Readable) ∧
      ∃ a, parse .standard (wishes.map Wish.text ++ [Word.dividerText, "--"]) = .ok a ∧
        Grants .standard "--" wishes a ∧
        ((∀ w ∈ wishes, a.content w.switch = w.content) ↔ .dividerPath ∉ wishes) :=
  ⟨by decide, by decide, parse_wishes .standard "--" (by decide) (by decide)⟩

/-- The directory called like the divider cannot be asked for: the field is left without a value. -/
theorem not_content_dividerPath :
    ∃ a, parse .standard ["--path=--", "--", "d.dsl"] = .ok a ∧ a.directory = none ∧
      a.content Wish.dividerPath.switch ≠ Wish.dividerPath.content :=
  ⟨_, rfl, rfl, by decide⟩

end Arguments

end Substance.CommandLine
