import Substance.Proofs.Formats

/-!
# Whole names

Plain data names types by texts, and a domain that is read from it takes these names over as they
stand: each is an item of an array or a key of an object.  A text is refused where names are listed.
There is one place at which a text is taken apart: among the subtypes a text of two characters
counts as the pair of these, and so a type may be named by a character of a longer text.

* `Json.Holds`: the texts that stand in plain data as a whole.
* `Json.Listed`, `Json.Paired`: where names are listed, and where a pair of them is given.
* `LooseSchema.ofPlain_eq_ok`: how the three members are read.
* `WholeButPairs`: what holds of all that is read.
* `WholeButPairs.whole_iff`: when all names are whole.
* `Domain.ofPlain_wholeButPairs`: both of every domain that is read from plain data.
-/

namespace Substance

/-- Where two steps succeed one after the other, each succeeds. -/
theorem exists_of_bind_eq_ok {ε α β : Type} {x : Except ε α} {f : α → Except ε β} {b : β}
    (h : x >>= f = .ok b) : ∃ a, x = .ok a ∧ f a = .ok b := by
  cases x with
  | error e => cases h
  | ok a => exact ⟨a, rfl, h⟩

/-- What is found under a key is stored under it. -/
theorem mem_of_lookup {ν : Type} {entries : List (String × ν)} {key : String} {v : ν}
    (h : entries.lookup key = some v) : (key, v) ∈ entries := by
  obtain ⟨before, after, rfl, -⟩ := List.lookup_eq_some_iff.mp h
  exact List.mem_append_right before List.mem_cons_self

/-- Every member of a list has a counterpart in a list that is related to it. -/
theorem exists_of_forall₂ {α β : Type} {R : α → β → Prop} {l : List α} {m : List β}
    (h : List.Forall₂ R l m) {b : β} (hb : b ∈ m) : ∃ a ∈ l, R a b := by
  obtain ⟨i, hi, rfl⟩ := List.getElem_of_mem hb
  exact ⟨_, List.getElem_mem _, h.get (h.length_eq.symm ▸ hi) hi⟩

namespace Json

/-! ## Texts in plain data -/

/-- The items of an array and the keys of an object. -/
def names : Json → List Json
  | .array items => items
  | .object members => members.map fun m => .text m.1
  | _ => []

/-- `data.Holds name`: the text is an item of an array or a key of an object, at any depth. -/
inductive Holds (name : String) : Json → Prop
  | here {v : Json} : .text name ∈ v.names → Holds name v
  | item {items : List Json} {v : Json} : v ∈ items → Holds name v → Holds name (.array items)
  | member {members : List (String × Json)} {key : String} {v : Json} : (key, v) ∈ members →
      Holds name v → Holds name (.object members)

@[simp] theorem holds_array {name : String} {items : List Json} :
    (array items).Holds name ↔ .text name ∈ items ∨ ∃ v ∈ items, v.Holds name := by
  constructor
  · rintro (hname | ⟨hv, hname⟩)
    · exact .inl hname
    · exact .inr ⟨_, hv, hname⟩
  · rintro (hname | ⟨v, hv, hname⟩)
    · exact .here hname
    · exact .item hv hname

@[simp] theorem holds_object {name : String} {members : List (String × Json)} :
    (object members).Holds name ↔ ∃ m ∈ members, m.1 = name ∨ m.2.Holds name := by
  constructor
  · rintro (hname | _ | ⟨hv, hname⟩)
    · obtain ⟨m, hm, hkey⟩ := List.mem_map.mp hname
      exact ⟨m, hm, .inl (Json.text.inj hkey)⟩
    · exact ⟨_, hv, .inr hname⟩
  · rintro ⟨m, hm, rfl | hname⟩
    · exact .here (List.mem_map_of_mem hm)
    · exact .member hm hname

@[simp] theorem not_holds_text {name s : String} : ¬(text s).Holds name := by
  rintro (hname | _ | _)
  cases hname

/-- The member of an object. -/
def member? (key : String) : Json → Option Json
  | .object members => members.lookup key
  | _ => none

/-- `v.Asks w`: a predicate that is described by `v` takes arguments of the types that `w` lists.
What an object says of arguments does not count when it marks the predicate as one of propositions.
-/
inductive Asks : Json → Json → Prop
  | list {v : Json} : (∀ members, v ≠ .object members) → Asks v v
  | arguments {members : List (String × Json)} {w : Json} :
      ((members.lookup "binary").getD .null).isTruthy = false → members.lookup "args" = some w →
      Asks (.object members) w

/-- `data.Listed v`: the data gives `v` where it lists names. -/
inductive Listed (data : Json) : Json → Prop
  | types {v : Json} : data.member? "types" = some v → Listed data v
  | arguments {members : List (String × Json)} {name : String} {v w : Json} :
      data.member? "predicates" = some (.object members) → (name, v) ∈ members → v.Asks w →
      Listed data w

/-- `data.Paired v`: the data gives `v` where it pairs a subtype with its supertype. -/
def Paired (data v : Json) : Prop := ∃ w, data.member? "subtypes" = some w ∧ v ∈ w.names

section

variable {data v w : Json} {members : List (String × Json)} {key name field : String}

/-- What a member holds, the object holds. -/
theorem Holds.of_member? (h : data.member? key = some v) (hv : v.Holds name) : data.Holds name := by
  cases data with
  | object members => exact .member (mem_of_lookup h) hv
  | _ => cases h

/-- What is asked of a predicate's description, the description holds. -/
theorem Holds.of_asks (h : v.Asks w) (hw : w.Holds name) : v.Holds name := by
  cases h with
  | list => exact hw
  | arguments _ hargs => exact .member (mem_of_lookup hargs) hw

/-- A name that is listed somewhere in the data is held by it. -/
theorem Listed.holds (h : data.Listed v) (hname : .text name ∈ v.names) : data.Holds name := by
  cases h with
  | types hv => exact .of_member? hv (.here hname)
  | arguments hmembers hmem hasks =>
    exact .of_member? hmembers (.member hmem (.of_asks hasks (.here hname)))

/-- A name that is paired somewhere in the data is held by it. -/
theorem Paired.holds (h : data.Paired v) (hname : .text name ∈ v.names) : data.Holds name := by
  obtain ⟨w, hw, hv⟩ := h
  refine .of_member? hw ?_
  cases w with
  | array items => exact .item hv (.here hname)
  | object members =>
    obtain ⟨m, -, rfl⟩ := List.mem_map.mp hv
    cases hname
  | _ => cases hv

/-- The default of a member is looked at when there is no such member. -/
theorem exists_member?_of_getD {default : Json} {P : Json → Prop} (hdefault : ¬P default)
    (h : P ((members.lookup key).getD default)) :
    ∃ v, (Json.object members).member? key = some v ∧ P v := by
  change ∃ v, members.lookup key = some v ∧ P v
  cases hv : members.lookup key with
  | none =>
    rw [hv] at h
    exact absurd h hdefault
  | some v =>
    rw [hv] at h
    exact ⟨v, rfl, h⟩

/-! ## Reading members -/

/-- Names that are listed are given as they stand. -/
theorem nameList_eq_ok {types : List Json} (h : v.nameList field = .ok types) :
    v.names = types := by
  cases v <;> cases h <;> rfl

/-- What a collection counts as is what it has, unless it is a text. -/
theorem elements?_eq_some {entries : List Json} (h : v.elements? = some entries) :
    v.names = entries ∨
      ∃ s, v = .text s ∧ entries = s.toList.map fun c => .text (String.singleton c) := by
  cases v <;> cases h
  case text s => exact .inr ⟨s, rfl, rfl⟩
  case array => exact .inl rfl
  case object => exact .inl rfl

/-- A pair is two names, or a text of two characters. -/
theorem asPair_eq_ok {child parent : Json} (h : v.asPair = .ok (child, parent)) :
    v.names = [child, parent] ∨ ∃ s c d, v = .text s ∧ s.toList = [c, d] ∧
      child = .text (String.singleton c) ∧ parent = .text (String.singleton d) := by
  have hentries : v.elements? = some [child, parent] := by
    rw [asPair] at h
    split at h
    · cases h
    case h_2 first second hentries =>
      obtain ⟨_, -, h⟩ := exists_of_bind_eq_ok h
      obtain ⟨_, -, h⟩ := exists_of_bind_eq_ok h
      cases h
      exact hentries
    · cases h
    · cases h
  rcases elements?_eq_some hentries with hnames | ⟨s, rfl, hs⟩
  · exact .inl hnames
  · match hchars : s.toList, hs with
    | [c, d], hs =>
      cases hs
      exact .inr ⟨s, c, d, rfl, hchars, rfl, rfl⟩

/-- A text that is accepted for a pair has two characters. -/
theorem asPair_text_eq_ok {s : String} {p : Json × Json} (h : (Json.text s).asPair = .ok p) :
    ∃ c d, s.toList = [c, d] ∧
      p = (.text (String.singleton c), .text (String.singleton d)) := by
  obtain ⟨child, parent⟩ := p
  rcases asPair_eq_ok h with hnames | ⟨t, c, d, ht, hchars, rfl, rfl⟩
  · cases hnames
  · cases ht
    exact ⟨c, d, hchars, rfl⟩

/-- A single character is no pair, so a text that stands for the list of pairs is empty. -/
theorem eq_empty_of_asPairs {s : String} {pairs : List (Json × Json)}
    (h : (Json.text s).asPairs = .ok pairs) : s = "" := by
  have hpairs := Line.mapM_eq_ok_iff.mp h
  rw [List.forall₂_map_left_iff] at hpairs
  cases hs : s.toList with
  | nil => exact String.toList_eq_nil_iff.mp hs
  | cons c rest =>
    rw [hs] at hpairs
    obtain ⟨_, _, hpair, -⟩ := List.forall₂_cons_left_iff.mp hpairs
    obtain ⟨_, _, hchars, -⟩ := asPair_text_eq_ok hpair
    rw [String.toList_singleton] at hchars
    cases hchars

/-- Pairs are read one by one. -/
theorem asPairs_eq_ok {pairs : List (Json × Json)} (h : v.asPairs = .ok pairs) :
    List.Forall₂ (fun entry pair => entry.asPair = .ok pair) v.names pairs := by
  cases v <;> try cases h
  case text s =>
    cases eq_empty_of_asPairs h
    exact Line.mapM_eq_ok_iff.mp h
  case array items => exact Line.mapM_eq_ok_iff.mp h
  case object members => exact Line.mapM_eq_ok_iff.mp h

/-- The types that a predicate asks for are read where they are listed. -/
theorem asSignature_of_asks (h : v.Asks w) :
    v.asSignature name = .objects <$> w.nameList name := by
  cases h with
  | list h =>
    cases v
    case object members => exact absurd rfl (h members)
    all_goals rfl
  | arguments hbinary hargs =>
    rw [asSignature, if_neg (by simp [hbinary]), hargs]
    rfl

/-- A predicate that asks for types is given those that are listed. -/
theorem exists_nameList_of_asks {signature : Signature Json} (hasks : v.Asks w)
    (h : v.asSignature name = .ok signature) :
    ∃ types, w.nameList name = .ok types ∧ signature = .objects types := by
  rw [asSignature_of_asks hasks] at h
  cases hnames : w.nameList name with
  | error =>
    rw [hnames] at h
    cases h
  | ok types =>
    rw [hnames] at h
    cases h
    exact ⟨types, rfl, rfl⟩

/-- Predicates are read one by one from an object. -/
theorem asPredicates_eq_ok {predicates : List (String × Signature Json)}
    (h : v.asPredicates = .ok predicates) : ∃ members, v = .object members ∧ List.Forall₂
      (fun m p => m.2.asSignature m.1 = .ok p.2) members predicates := by
  cases v
  case object members =>
    refine ⟨members, rfl, (Line.mapM_eq_ok_iff.mp h).imp fun m p hp => ?_⟩
    obtain ⟨signature, hsignature, hp⟩ := exists_of_bind_eq_ok hp
    cases hp
    exact hsignature
  all_goals cases h

/-- A predicate that lists no types asks for none. -/
theorem exists_asks_of_mem {types : List Json} {type : Json}
    (h : v.asSignature name = .ok (.objects types)) (htype : type ∈ types) : ∃ w, v.Asks w := by
  cases v
  case object members =>
    rw [asSignature] at h
    split at h
    · cases h
    · next hbinary =>
      cases hargs : members.lookup "args" with
      | none =>
        rw [hargs] at h
        cases h
        cases htype
      | some w => exact ⟨w, .arguments (Bool.eq_false_iff.mpr hbinary) hargs⟩
  all_goals exact ⟨_, .list fun _ => Json.noConfusion⟩

end

end Json

/-- The three members are read one after the other, and one that is not there counts as empty. -/
theorem LooseSchema.ofPlain_eq_ok {data : Json} {l : LooseSchema} (h : ofPlain data = .ok l) :
    ∃ members, data = .object members ∧
      ((members.lookup "types").getD (.array [])).nameList "types" = .ok l.types ∧
      ((members.lookup "subtypes").getD (.array [])).asPairs = .ok l.inclusions ∧
      ((members.lookup "predicates").getD (.object [])).asPredicates = .ok l.predicates := by
  cases data
  case object members =>
    obtain ⟨types, htypes, h⟩ := exists_of_bind_eq_ok h
    obtain ⟨-, -, h⟩ := exists_of_bind_eq_ok h
    obtain ⟨inclusions, hinclusions, h⟩ := exists_of_bind_eq_ok h
    obtain ⟨predicates, hpredicates, h⟩ := exists_of_bind_eq_ok h
    cases h
    exact ⟨members, rfl, htypes, hinclusions, hpredicates⟩
  all_goals cases h

/-! ## Names of a schema -/

/-- What a type is named for. -/
inductive Use where
  | declaration
  | endpoint
  | argument
deriving DecidableEq, Repr

/-- `l.Names use name`: the text names a type that is declared, a subtype or a supertype, or a type
of arguments. -/
inductive LooseSchema.Names (l : LooseSchema) : Use → String → Prop
  | declaration {name : String} : .text name ∈ l.types → Names l .declaration name
  | child {name : String} {parent : Json} : (.text name, parent) ∈ l.inclusions →
      Names l .endpoint name
  | parent {name : String} {child : Json} : (child, .text name) ∈ l.inclusions →
      Names l .endpoint name
  | argument {predicate name : String} {types : List Json} :
      (predicate, .objects types) ∈ l.predicates → .text name ∈ types → Names l .argument name

/-- What holds of all that is read from plain data.  Declared types and types of arguments are named
by texts that the data holds, and no text is taken for a list of names.  A text that is taken for a
pair has two characters and gives the pair of these; other names of subtypes and supertypes are
texts that the data holds.  A text that is taken for the list of pairs is empty. -/
structure WholeButPairs (data : Json) (l : LooseSchema) : Prop where
  names : ∀ use name, l.Names use name → data.Holds name ∨
    use = .endpoint ∧ ∃ s, data.Paired (.text s) ∧ ∃ c ∈ s.toList, name = String.singleton c
  lists : ∀ s, ¬data.Listed (.text s)
  pairs : ∀ s, data.Paired (.text s) → ∃ c d, s.toList = [c, d] ∧
    (.text (String.singleton c), .text (String.singleton d)) ∈ l.inclusions
  subtypes : ∀ s, data.member? "subtypes" = some (.text s) → s = ""

section

variable {data : Json} {l : LooseSchema} {d : Domain}

/-- Every name is whole just if the data also holds each character of a text that is taken for a
pair. -/
theorem WholeButPairs.whole_iff (h : WholeButPairs data l) :
    (∀ use name, l.Names use name → data.Holds name) ↔
      ∀ s, data.Paired (.text s) → ∀ c ∈ s.toList, data.Holds (String.singleton c) := by
  constructor
  · intro hwhole s hs
    obtain ⟨c, d, hchars, hpair⟩ := h.pairs s hs
    rw [hchars]
    exact List.forall_mem_cons.mpr ⟨hwhole _ _ (.child hpair),
      List.forall_mem_singleton.mpr (hwhole _ _ (.parent hpair))⟩
  · intro hchars use name hname
    rcases h.names use name hname with hname | ⟨-, s, hs, c, hc, rfl⟩
    · exact hname
    · exact hchars s hs c hc

namespace LooseSchema

/-- A type is declared under a name that is listed. -/
theorem exists_listed_of_mem_types (h : ofPlain data = .ok l) {type : Json}
    (htype : type ∈ l.types) : ∃ v, data.Listed v ∧ type ∈ v.names := by
  obtain ⟨members, rfl, htypes, -, -⟩ := ofPlain_eq_ok h
  have hnames := Json.nameList_eq_ok htypes
  obtain ⟨v, hv, hmem⟩ := Json.exists_member?_of_getD (P := fun v => type ∈ v.names)
    List.not_mem_nil (hnames ▸ htype)
  exact ⟨v, .types hv, hmem⟩

/-- A predicate asks for types under names that are listed. -/
theorem exists_listed_of_mem_predicates (h : ofPlain data = .ok l) {predicate : String}
    {types : List Json} (hpredicate : (predicate, .objects types) ∈ l.predicates) {type : Json}
    (htype : type ∈ types) : ∃ v, data.Listed v ∧ type ∈ v.names := by
  obtain ⟨members, rfl, -, -, hpredicates⟩ := ofPlain_eq_ok h
  obtain ⟨described, hdescribed, hall⟩ := Json.asPredicates_eq_ok hpredicates
  obtain ⟨⟨name, v⟩, hv, hsignature⟩ := exists_of_forall₂ hall hpredicate
  obtain ⟨w, hasks⟩ := Json.exists_asks_of_mem hsignature htype
  obtain ⟨_, hnames, ⟨⟩⟩ := Json.exists_nameList_of_asks hasks hsignature
  obtain rfl := Json.nameList_eq_ok hnames
  obtain ⟨v', hv', described', rfl, hmem⟩ := Json.exists_member?_of_getD
    (P := fun u => ∃ described, u = .object described ∧ (name, v) ∈ described)
    (by rintro ⟨_, ⟨⟩, hmem⟩; cases hmem) ⟨described, hdescribed, hv⟩
  exact ⟨w, .arguments hv' hmem hasks, htype⟩

/-- No text is taken for a list of names. -/
theorem not_listed_text (h : ofPlain data = .ok l) (s : String) : ¬data.Listed (.text s) := by
  obtain ⟨members, rfl, htypes, -, hpredicates⟩ := ofPlain_eq_ok h
  intro hlisted
  cases hlisted with
  | types hv =>
    change members.lookup "types" = some (.text s) at hv
    rw [hv] at htypes
    cases htypes
  | @arguments described name v _ hdescribed hv hasks =>
    change members.lookup "predicates" = some (.object described) at hdescribed
    rw [hdescribed] at hpredicates
    obtain ⟨_, ⟨⟩, hall⟩ := Json.asPredicates_eq_ok hpredicates
    obtain ⟨p, -, hp⟩ := exists_of_forall₂ hall.flip hv
    obtain ⟨_, hnames, -⟩ := Json.exists_nameList_of_asks hasks hp
    cases hnames

/-- Inclusions are the pairs that are given. -/
theorem exists_paired_of_mem (h : ofPlain data = .ok l) {p : Json × Json} (hp : p ∈ l.inclusions) :
    ∃ v, data.Paired v ∧ v.asPair = .ok p := by
  obtain ⟨members, rfl, -, hpairs, -⟩ := ofPlain_eq_ok h
  obtain ⟨v, hv, hpair⟩ := exists_of_forall₂ (Json.asPairs_eq_ok hpairs) hp
  obtain ⟨w, hw, hmem⟩ := Json.exists_member?_of_getD (P := fun w => v ∈ w.names)
    List.not_mem_nil hv
  exact ⟨v, ⟨w, hw, hmem⟩, hpair⟩

/-- Whatever is given for a pair is an inclusion. -/
theorem exists_mem_of_paired (h : ofPlain data = .ok l) {v : Json} (hv : data.Paired v) :
    ∃ p ∈ l.inclusions, v.asPair = .ok p := by
  obtain ⟨members, rfl, -, hpairs, -⟩ := ofPlain_eq_ok h
  obtain ⟨w, hw, hmem⟩ := hv
  change members.lookup "subtypes" = some w at hw
  rw [hw] at hpairs
  exact exists_of_forall₂ (Json.asPairs_eq_ok hpairs).flip hmem

/-- A name of a subtype or a supertype is whole, or a character of a text that is taken for a pair.
-/
theorem holds_or_paired_of_mem (h : ofPlain data = .ok l) {child parent : Json}
    (hp : (child, parent) ∈ l.inclusions) {name : String}
    (hname : .text name = child ∨ .text name = parent) : data.Holds name ∨
      ∃ s, data.Paired (.text s) ∧ ∃ c ∈ s.toList, name = String.singleton c := by
  obtain ⟨v, hv, hpair⟩ := exists_paired_of_mem h hp
  rcases Json.asPair_eq_ok hpair with hnames | ⟨s, c, d, rfl, hchars, rfl, rfl⟩
  · refine .inl (hv.holds ?_)
    rw [hnames]
    simpa using hname
  · refine .inr ⟨s, hv, ?_⟩
    rw [hchars]
    simpa using hname

/-- What is read from plain data is whole but for pairs. -/
theorem wholeButPairs (h : ofPlain data = .ok l) : WholeButPairs data l where
  names use name hname := by
    cases hname with
    | declaration htype =>
      obtain ⟨v, hv, hmem⟩ := exists_listed_of_mem_types h htype
      exact .inl (hv.holds hmem)
    | argument hpredicate htype =>
      obtain ⟨v, hv, hmem⟩ := exists_listed_of_mem_predicates h hpredicate htype
      exact .inl (hv.holds hmem)
    | child hp => exact (holds_or_paired_of_mem h hp (.inl rfl)).imp_right fun hs => ⟨rfl, hs⟩
    | parent hp => exact (holds_or_paired_of_mem h hp (.inr rfl)).imp_right fun hs => ⟨rfl, hs⟩
  lists := not_listed_text h
  pairs s hs := by
    obtain ⟨p, hp, hpair⟩ := exists_mem_of_paired h hs
    obtain ⟨c, d, hchars, rfl⟩ := Json.asPair_text_eq_ok hpair
    exact ⟨c, d, hchars, hp⟩
  subtypes s hs := by
    obtain ⟨members, rfl, -, hpairs, -⟩ := ofPlain_eq_ok h
    change members.lookup "subtypes" = some (.text s) at hs
    rw [hs] at hpairs
    exact Json.eq_empty_of_asPairs hpairs

end LooseSchema

/-- A domain with its types named by values of plain data. -/
def Domain.toLoose : Domain → LooseSchema
  | .schema s => ⟨s.typeNames.map .text, s.inclusions.entries.map fun i =>
      (.text i.child, .text i.parent), s.predicateList.map (Prod.map id Signature.toPlain)⟩
  | .loose l => l

/-- A domain has the types and inclusions that it is given, and of the predicates those that are not
given anew. -/
theorem Domain.mem_toLoose_ofLoose (l : LooseSchema) :
    (∀ type, type ∈ (ofLoose l).toLoose.types ↔ type ∈ l.types) ∧
    (∀ p, p ∈ (ofLoose l).toLoose.inclusions ↔ p ∈ l.inclusions) ∧
    ∀ p, p ∈ (ofLoose l).toLoose.predicates → p ∈ l.predicates := by
  rw [ofLoose]
  cases hs : l.schema? with
  | none => exact ⟨fun _ => .rfl, fun _ => .rfl, fun _ => id⟩
  | some s =>
    obtain ⟨names, pairs, signatures, rfl, rfl⟩ := LooseSchema.exists_texts hs
    have htypes : ∀ name, name ∈ (Catalog.ofList names : NameSet).entries ↔ name ∈ names :=
      fun _ => mem_ofList
    have hpairs : ∀ i, i ∈ (Catalog.ofList pairs : Catalog fun i : Inclusion => i).entries ↔
        i ∈ pairs := fun _ => mem_ofList_of_key fun _ _ _ _ h => h
    have hsignatures : ∀ p ∈ (Catalog.ofList signatures : Table (Signature String)).entries,
        p ∈ signatures := by
      rintro ⟨name, signature⟩ hp
      have hlookup := (get?_ofList signatures name).symm.trans (Table.get?_eq_some_iff.mpr hp)
      exact List.mem_reverse.mp (mem_of_lookup hlookup)
    refine ⟨fun type => ?_, fun p => ?_, fun p hp => ?_⟩
    · simp only [toLoose, Schema.typeNames, List.mem_map, htypes]
    · simp only [toLoose, List.mem_map, hpairs]
    · obtain ⟨e, he, rfl⟩ := List.mem_map.mp hp
      exact List.mem_map_of_mem (hsignatures e he)

/-- A domain has no names but those that it is given. -/
theorem Domain.names_of_ofLoose {use : Use} {name : String}
    (h : (ofLoose l).toLoose.Names use name) : l.Names use name := by
  obtain ⟨htypes, hpairs, hpredicates⟩ := mem_toLoose_ofLoose l
  cases h with
  | declaration htype => exact .declaration ((htypes _).mp htype)
  | child hp => exact .child ((hpairs _).mp hp)
  | parent hp => exact .parent ((hpairs _).mp hp)
  | argument hpredicate htype => exact .argument (hpredicates _ hpredicate) htype

/-- A domain that is read from plain data is whole but for pairs, and its names are all whole just
if the data also holds each character of a text that is taken for a pair. -/
theorem Domain.ofPlain_wholeButPairs (h : Domain.ofPlain data = .ok d) :
    WholeButPairs data d.toLoose ∧
    ((∀ use name, d.toLoose.Names use name → data.Holds name) ↔
      ∀ s, data.Paired (.text s) → ∀ c ∈ s.toList, data.Holds (String.singleton c)) := by
  have hwhole : WholeButPairs data d.toLoose := by
    cases hl : LooseSchema.ofPlain data with
    | error => rw [ofPlain, hl] at h; cases h
    | ok l =>
      rw [ofPlain, hl] at h
      cases h
      have hl := LooseSchema.wholeButPairs hl
      obtain ⟨-, hpairs, -⟩ := mem_toLoose_ofLoose l
      exact
        { hl with
          names := fun use name hname => hl.names use name (names_of_ofLoose hname)
          pairs := fun s hs =>
            (hl.pairs s hs).imp fun c => .imp fun d => .imp_right (hpairs _).mpr }
  exact ⟨hwhole, hwhole.whole_iff⟩

end

/-- Plain data with a text of two characters among its subtypes. -/
def textAmongSubtypes : Json :=
  .object [("types", .array [.text "Set"]), ("subtypes", .array [.text "ab"]),
    ("predicates", .object [("In", .object [("args", .array [.text "Set"])])])]

/-- What is read from it: one character is a subtype of the other. -/
def charactersAsTypes : Schema :=
  ⟨.ofList ["Set"], .ofList [⟨"a", "b"⟩], .ofList [("In", .objects ["Set"])]⟩

/-- All is whole in a domain but the two characters, which the data does not hold. -/
theorem Domain.ofPlain_wholeButPairs_textAmongSubtypes :
    Domain.ofPlain textAmongSubtypes = .ok (.schema charactersAsTypes) ∧
      WholeButPairs textAmongSubtypes (Domain.schema charactersAsTypes).toLoose ∧
      ¬∀ use name, (Domain.schema charactersAsTypes).toLoose.Names use name →
        textAmongSubtypes.Holds name := by
  have h : Domain.ofPlain textAmongSubtypes = .ok (.schema charactersAsTypes) := rfl
  obtain ⟨hwhole, hiff⟩ := Domain.ofPlain_wholeButPairs h
  refine ⟨h, hwhole, fun hall => ?_⟩
  have hpaired : textAmongSubtypes.Paired (.text "ab") := ⟨_, rfl, List.mem_singleton_self _⟩
  have ha := hiff.mp hall "ab" hpaired 'a' (by decide)
  exact absurd ha (by simp [textAmongSubtypes])

/-- A character of a text is taken for the name of a type, although no text of the data is that
character. -/
theorem not_whole_textAmongSubtypes :
    ∃ d, Domain.ofPlain textAmongSubtypes = .ok d ∧ d.toLoose.Names .endpoint "a" ∧
      ¬textAmongSubtypes.Holds "a" ∧ textAmongSubtypes.Paired (.text "ab") := by
  refine ⟨.schema charactersAsTypes, rfl, ?_, ?_, _, rfl, List.mem_singleton_self _⟩
  · have hpair : (.text "a", .text "b") ∈ (Domain.schema charactersAsTypes).toLoose.inclusions :=
      List.mem_cons_self
    exact .child hpair
  · simp [textAmongSubtypes]

end Substance
