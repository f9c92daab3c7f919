/-!
# Collections kept in key order

A catalog holds at most one entry per key, in strictly increasing order of keys.  The order is part
of the type, so two catalogs with the same members are equal however they were filled
(`Catalog.ext_mem`), and listing one needs no sorting.
-/

namespace Substance

/-- A strict order in which any two different keys are comparable. -/
class KeyOrder (κ : Type) [LT κ] : Prop where
  irrefl (a : κ) : ¬a < a
  trans {a b c : κ} : a < b → b < c → a < c
  eq_of_not_lt {a b : κ} : ¬a < b → ¬b < a → a = b

/-- Texts are compared code point by code point. -/
instance : KeyOrder String where
  irrefl := String.lt_irrefl
  trans := String.lt_trans
  eq_of_not_lt h₁ h₂ := String.le_antisymm (String.not_lt.mp h₂) (String.not_lt.mp h₁)

/-- Entries in strictly increasing order of their keys. -/
structure Catalog {α κ : Type} [LT κ] (key : α → κ) where
  entries : List α
  increasing : entries.Pairwise fun a b => key a < key b

/-- A set of texts. -/
abbrev NameSet := Catalog (fun name : String => name)

/-- A map from texts. -/
abbrev Table (ν : Type) := Catalog (fun entry : String × ν => entry.1)

namespace Catalog

variable {α κ : Type} [LT κ] [DecidableLT κ] {key : α → κ}

/-- Place an entry before the first one with a greater key; one with the same key gives way. -/
def place (key : α → κ) (a : α) : List α → List α
  | [] => [a]
  | b :: rest =>
    if key a < key b then a :: b :: rest
    else if key b < key a then b :: place key a rest
    else a :: rest

/-- A placed entry joins those that were there. -/
theorem mem_of_mem_place {a x : α} {l : List α} (h : x ∈ place key a l) : x = a ∨ x ∈ l := by
  induction l with
  | nil => simpa [place] using h
  | cons b rest ih =>
    rw [place] at h
    split at h
    · simpa using h
    · split at h
      · rcases List.mem_cons.mp h with h | h
        · exact .inr (by simp [h])
        · exact (ih h).imp_right (List.mem_cons_of_mem b)
      · rcases List.mem_cons.mp h with h | h
        · exact .inl h
        · exact .inr (List.mem_cons_of_mem b h)

/-- Placing an entry keeps the order. -/
theorem pairwise_place [KeyOrder κ] (a : α) {l : List α}
    (h : l.Pairwise fun a b => key a < key b) :
    (place key a l).Pairwise fun a b => key a < key b := by
  induction l with
  | nil => simp [place]
  | cons b rest ih =>
    obtain ⟨hb, hrest⟩ := List.pairwise_cons.mp h
    rw [place]
    split
    · next hab =>
      refine List.pairwise_cons.mpr ⟨fun x hx => ?_, h⟩
      rcases List.mem_cons.mp hx with rfl | hx
      · exact hab
      · exact KeyOrder.trans hab (hb x hx)
    · next hab =>
      split
      · next hba =>
        refine List.pairwise_cons.mpr ⟨fun x hx => ?_, ih hrest⟩
        rcases mem_of_mem_place hx with rfl | hx
        · exact hba
        · exact hb x hx
      · next hba =>
        refine List.pairwise_cons.mpr ⟨fun x hx => ?_, hrest⟩
        rw [KeyOrder.eq_of_not_lt hab hba]
        exact hb x hx

/-- The catalog without entries. -/
def empty : Catalog key := ⟨[], .nil⟩

instance : EmptyCollection (Catalog key) := ⟨empty⟩

instance : Inhabited (Catalog key) := ⟨empty⟩

instance : Membership α (Catalog key) := ⟨fun c a => a ∈ c.entries⟩

/-- Catalogs are compared by their entries. -/
instance [DecidableEq α] : DecidableEq (Catalog key) := fun c d =>
  decidable_of_iff (c.entries = d.entries)
    ⟨fun h => by cases c; cases d; cases h; rfl, fun h => h ▸ rfl⟩

instance [Repr α] : Repr (Catalog key) := ⟨fun c => reprPrec c.entries⟩

/-- Add an entry, in place of the one with its key. -/
def put [KeyOrder κ] (c : Catalog key) (a : α) : Catalog key :=
  ⟨place key a c.entries, pairwise_place a c.increasing⟩

/-- The catalog of the given entries, of which the last one with a key counts. -/
def ofList [KeyOrder κ] (l : List α) : Catalog key := l.foldl put empty

/-- The entry with the given key. -/
def find? [DecidableEq κ] (c : Catalog key) (k : κ) : Option α :=
  c.entries.find? fun a => key a = k

/-- The keys, in increasing order. -/
def keys (c : Catalog key) : List κ := c.entries.map key

/-- Is there no entry? -/
def isEmpty (c : Catalog key) : Bool := c.entries.isEmpty

omit [DecidableLT κ] in
@[simp] theorem not_mem_empty (a : α) : a ∉ (empty : Catalog key) := List.not_mem_nil

omit [DecidableLT κ] in
/-- Two entries of one catalog with the same key are the same entry. -/
theorem eq_of_key_eq [KeyOrder κ] {l : List α} (h : l.Pairwise fun a b => key a < key b)
    {a b : α} (ha : a ∈ l) (hb : b ∈ l) (hk : key a = key b) : a = b := by
  induction l with
  | nil => cases ha
  | cons c rest ih =>
    obtain ⟨hc, hrest⟩ := List.pairwise_cons.mp h
    rcases List.mem_cons.mp ha with hac | ha <;> rcases List.mem_cons.mp hb with hbc | hb
    · rw [hac, hbc]
    · exact absurd (hk ▸ hac ▸ hc b hb) (KeyOrder.irrefl _)
    · exact absurd (hk ▸ hbc ▸ hc a ha) (KeyOrder.irrefl _)
    · exact ih hrest ha hb

/-- Placing an entry adds it and takes away the one with its key. -/
theorem mem_place [KeyOrder κ] {a x : α} {l : List α}
    (h : l.Pairwise fun a b => key a < key b) :
    x ∈ place key a l ↔ x = a ∨ (x ∈ l ∧ key x ≠ key a) := by
  induction l with
  | nil => simp [place]
  | cons b rest ih =>
    obtain ⟨hb, hrest⟩ := List.pairwise_cons.mp h
    have apart {y : α} (hy : y ∈ rest) : key y ≠ key b := fun hk =>
      KeyOrder.irrefl _ (hk ▸ hb y hy)
    rw [place]
    split
    · next hab =>
      have above : ∀ y ∈ b :: rest, key y ≠ key a := by
        intro y hy hk
        rcases List.mem_cons.mp hy with rfl | hy
        · exact KeyOrder.irrefl _ (hk ▸ hab)
        · exact KeyOrder.irrefl _ (hk ▸ KeyOrder.trans hab (hb y hy))
      rw [List.mem_cons]
      exact or_congr_right ⟨fun hy => ⟨hy, above x hy⟩, And.left⟩
    · next hab =>
      split
      · next hba =>
        have hne : key b ≠ key a := fun hk => KeyOrder.irrefl _ (hk ▸ hba)
        rw [List.mem_cons, ih hrest, List.mem_cons]
        constructor
        · rintro (rfl | rfl | ⟨hx, hk⟩)
          · exact .inr ⟨.inl rfl, hne⟩
          · exact .inl rfl
          · exact .inr ⟨.inr hx, hk⟩
        · rintro (rfl | ⟨rfl | hx, hk⟩)
          · exact .inr (.inl rfl)
          · exact .inl rfl
          · exact .inr (.inr ⟨hx, hk⟩)
      · next hba =>
        have heq : key a = key b := KeyOrder.eq_of_not_lt hab hba
        rw [List.mem_cons, List.mem_cons, heq]
        constructor
        · rintro (rfl | hx)
          · exact .inl rfl
          · exact .inr ⟨.inr hx, apart hx⟩
        · rintro (rfl | ⟨rfl | hx, hk⟩)
          · exact .inl rfl
          · exact absurd rfl hk
          · exact .inr hx

/-- Putting an entry adds it and takes away the one with its key. -/
theorem mem_put [KeyOrder κ] {c : Catalog key} {a x : α} :
    x ∈ c.put a ↔ x = a ∨ (x ∈ c ∧ key x ≠ key a) := mem_place c.increasing

omit [DecidableLT κ] in
/-- Catalogs with the same members are equal. -/
theorem ext_mem [KeyOrder κ] {c d : Catalog key} (h : ∀ a, a ∈ c ↔ a ∈ d) : c = d := by
  suffices heq : c.entries = d.entries by cases c; cases d; cases heq; rfl
  obtain ⟨l, hl⟩ := c
  obtain ⟨m, hm⟩ := d
  change ∀ a, a ∈ l ↔ a ∈ m at h
  change l = m
  induction l generalizing m with
  | nil =>
    cases m with
    | nil => rfl
    | cons b _ => exact absurd ((h b).mpr (by simp)) List.not_mem_nil
  | cons a l ih =>
    cases m with
    | nil => exact absurd ((h a).mp (by simp)) List.not_mem_nil
    | cons b m =>
      obtain ⟨ha, hl'⟩ := List.pairwise_cons.mp hl
      obtain ⟨hb, hm'⟩ := List.pairwise_cons.mp hm
      have hab : a = b := by
        rcases List.mem_cons.mp ((h a).mp (by simp)) with hab | ham
        · exact hab
        · rcases List.mem_cons.mp ((h b).mpr (by simp)) with hba | hbl
          · exact hba.symm
          · exact absurd (KeyOrder.trans (hb a ham) (ha b hbl)) (KeyOrder.irrefl _)
      subst hab
      congr 1
      refine ih hl' m hm' fun x => ⟨fun hx => ?_, fun hx => ?_⟩
      · rcases List.mem_cons.mp ((h x).mp (List.mem_cons_of_mem _ hx)) with rfl | hx'
        · exact absurd (ha x hx) (KeyOrder.irrefl _)
        · exact hx'
      · rcases List.mem_cons.mp ((h x).mpr (List.mem_cons_of_mem _ hx)) with rfl | hx'
        · exact absurd (hb x hx) (KeyOrder.irrefl _)
        · exact hx'

omit [DecidableLT κ] in
/-- Looking a key up finds the entry with that key. -/
theorem find?_eq_some_iff [KeyOrder κ] [DecidableEq κ] {c : Catalog key} {k : κ} {a : α} :
    c.find? k = some a ↔ a ∈ c ∧ key a = k := by
  constructor
  · intro h
    exact ⟨List.mem_of_find?_eq_some h, by simpa using List.find?_some h⟩
  · rintro ⟨ha, rfl⟩
    cases h : c.find? (key a) with
    | none => exact absurd (List.find?_eq_none.mp h a ha) (by simp)
    | some b =>
      have hb : b ∈ c.entries := List.mem_of_find?_eq_some h
      have hk : key b = key a := by simpa using List.find?_some h
      exact congrArg some (eq_of_key_eq c.increasing hb ha hk)

/-- An entry just put is found under its key, and the others as before. -/
theorem find?_put [KeyOrder κ] [DecidableEq κ] (c : Catalog key) (a : α) (k : κ) :
    (c.put a).find? k = if key a = k then some a else c.find? k := by
  apply Option.ext
  intro b
  rw [find?_eq_some_iff, mem_put]
  split
  · next hk =>
    constructor
    · rintro ⟨rfl | ⟨_, hne⟩, hb⟩
      · rfl
      · exact absurd (hb.trans hk.symm) hne
    · intro h
      cases h
      exact ⟨.inl rfl, hk⟩
  · next hk =>
    rw [find?_eq_some_iff]
    constructor
    · rintro ⟨rfl | ⟨hb, _⟩, hkb⟩
      · exact absurd hkb hk
      · exact ⟨hb, hkb⟩
    · rintro ⟨hb, hkb⟩
      exact ⟨.inr ⟨hb, fun hne => hk (hne ▸ hkb)⟩, hkb⟩

end Catalog

namespace Table

variable {ν : Type}

/-- The value stored under a key. -/
def get? (t : Table ν) (k : String) : Option ν := (t.find? k).map (·.2)

/-- Store a value under a key. -/
def set (t : Table ν) (k : String) (v : ν) : Table ν := t.put (k, v)

/-- A stored value is found under its key, and the others as before. -/
theorem get?_set (t : Table ν) (k l : String) (v : ν) :
    (t.set k v).get? l = if k = l then some v else t.get? l := by
  rw [get?, set, Catalog.find?_put]
  split <;> rfl

end Table

end Substance
