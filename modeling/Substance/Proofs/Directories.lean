import Substance.Storage.Tree

/-!
# What is changed in a tree

Files are written and directories are made one by one, and each of these changes one place of the
tree.  No directory ever gives way, so whatever a path led to before, it leads to afterwards.

* `Tree.Keeps`: directories stay directories, and paths lead where they led (`Tree.Keeps.locate`).
* `Tree.writeFile_ok`, `Tree.makeDirectory_ok`: one change.
* `World.change_eq_ok_iff`: the tree of a world is changed, or nothing is.
-/

namespace Substance

namespace Tree

variable {t t' : Tree} {here place : List String} {name : String} {names : List String}
  {workingDirectory p : Path}

/-! ## Paths -/

/-- Where a name leads from a directory. -/
def stepTo (here : List String) (name : String) : List String :=
  if name = ".." then here.dropLast else here ++ [name]

/-- Names are followed from a directory, one by one. -/
theorem walk_cons_eq_ok_iff : t.walk here (name :: names) = .ok place ↔
    t.at? here = some .directory ∧ (name ≠ ".." → name.utf8ByteSize ≤ maxName) ∧
      t.walk (stepTo here name) names = .ok place := by
  rw [walk, stepTo]
  cases hn : t.at? here with
  | none => simp
  | some node =>
    cases node with
    | file content => simp
    | directory =>
      by_cases hup : name = ".."
      · simp [hup]
      · by_cases hlong : name.utf8ByteSize > maxName
        · simp [hup, hlong, Nat.not_le_of_gt hlong]
        · simp [hup, hlong, Nat.le_of_not_gt hlong]

/-- A path without a null character, and not too long, leads where its names do. -/
theorem locate_eq_ok_iff : t.locate workingDirectory p = .ok place ↔
    '\x00' ∉ p.toString.toList ∧ p.toString.utf8ByteSize ≤ maxPath ∧
      t.walk (if p.slashes = 0 then workingDirectory.names else []) p.names = .ok place := by
  rw [locate]
  by_cases hnull : '\x00' ∈ p.toString.toList
  · simp [hnull]
  · by_cases hlong : p.toString.utf8ByteSize > maxPath
    · simp [hnull, hlong, Nat.not_le_of_gt hlong]
    · simp [hnull, hlong, Nat.le_of_not_gt hlong]

/-- The content of a file is read where its path leads. -/
theorem readFile_eq_ok_iff {content : List UInt8} : t.readFile workingDirectory p = .ok content ↔
    ∃ place, t.locate workingDirectory p = .ok place ∧ t.at? place = some (.file content) := by
  rw [readFile]
  cases hl : t.locate workingDirectory p with
  | error cause => exact iff_of_false nofun nofun
  | ok place =>
    simp only [bind, Except.bind]
    cases hn : t.at? place with
    | none => simp [hn, throw, throwThe, MonadExceptOf.throw]
    | some node => cases node <;> simp [hn, throw, throwThe, MonadExceptOf.throw, pure, Except.pure]

/-- Directories stay directories. -/
def Keeps (t t' : Tree) : Prop :=
  ∀ place, t.at? place = some .directory → t'.at? place = some .directory

/-- Names lead where they led. -/
theorem Keeps.walk (h : t.Keeps t') (hw : t.walk here names = .ok place) :
    t'.walk here names = .ok place := by
  induction names generalizing here with
  | nil => exact hw
  | cons name names ih =>
    obtain ⟨hdirectory, hshort, hrest⟩ := walk_cons_eq_ok_iff.mp hw
    exact walk_cons_eq_ok_iff.mpr ⟨h here hdirectory, hshort, ih hrest⟩

/-- A path leads where it led. -/
theorem Keeps.locate (h : t.Keeps t') (hl : t.locate workingDirectory p = .ok place) :
    t'.locate workingDirectory p = .ok place := by
  obtain ⟨hnull, hshort, hw⟩ := locate_eq_ok_iff.mp hl
  exact locate_eq_ok_iff.mpr ⟨hnull, hshort, h.walk hw⟩

/-- A last name leads on from where the names before it lead. -/
theorem walk_append_singleton (hw : t.walk here (names ++ [name]) = .ok place) :
    ∃ directory, t.walk here names = .ok directory ∧ place = stepTo directory name := by
  induction names generalizing here with
  | nil =>
    obtain ⟨-, -, hw⟩ := walk_cons_eq_ok_iff.mp hw
    exact ⟨here, rfl, (Except.ok.inj hw).symm⟩
  | cons first names ih =>
    obtain ⟨hdirectory, hshort, hrest⟩ := walk_cons_eq_ok_iff.mp hw
    obtain ⟨directory, hw, hplace⟩ := ih hrest
    exact ⟨directory, walk_cons_eq_ok_iff.mpr ⟨hdirectory, hshort, hw⟩, hplace⟩

/-! ## Changes -/

/-- What stands at one place is new, and the other places are as they were. -/
structure Changes (t : Tree) (place : List String) (node : Node) (t' : Tree) : Prop where
  new : t'.at? place = some node
  others : ∀ other, other ≠ place → t'.at? other = t.at? other

/-- A thing is put at a place other than the root. -/
theorem changes_put (t : Tree) (node : Node) (h : place ≠ []) :
    t.Changes place node (t.put place node) where
  new := by rw [at?_put t place place node h, if_pos rfl]
  others other ho := by rw [at?_put t place other node h, if_neg ho]

/-- Directories stay where another thing, or a further directory, is changed. -/
theorem Changes.keeps {node : Node} (h : t.Changes place node t')
    (hp : t.at? place = some .directory → node = .directory) : t.Keeps t' := by
  intro other ho
  by_cases he : other = place
  · subst he
    rw [h.new, hp ho]
  · rw [h.others other he, ho]

/-- A file is written where no directory stands. -/
theorem writeFile_ok {content : List UInt8}
    (h : t.writeFile workingDirectory p content = .ok t') : ∃ place,
      t.locate workingDirectory p = .ok place ∧ t.at? place ≠ some .directory ∧
        t.Changes place (.file content) t' := by
  rw [writeFile] at h
  cases hl : t.locate workingDirectory p with
  | error cause =>
    rw [hl] at h
    cases h
  | ok place =>
    simp only [hl, bind, Except.bind] at h
    split at h
    · cases h
    · next hne =>
      have hroot : place ≠ [] := by
        rintro rfl
        exact hne rfl
      cases h
      exact ⟨place, rfl, hne, changes_put t _ hroot⟩

/-- A directory is made where nothing stands. -/
theorem makeDirectory_ok (h : t.makeDirectory workingDirectory p = .ok t') : ∃ place,
    t.locate workingDirectory p = .ok place ∧ t.at? place = none ∧
      t.Changes place .directory t' := by
  rw [makeDirectory] at h
  cases hl : t.locate workingDirectory p with
  | error cause =>
    rw [hl] at h
    cases h
  | ok place =>
    simp only [hl, bind, Except.bind] at h
    split at h
    · cases h
    · next hn =>
      have hroot : place ≠ [] := by
        rintro rfl
        cases hn
      cases h
      exact ⟨place, rfl, hn, changes_put t _ hroot⟩

end Tree

/-! ## Worlds -/

namespace World

variable {w w' : World} {f : Tree → Path → Except StorageCause Tree}

/-- A change of the tree takes place, or fails and leaves all as it was. -/
theorem change_run (f : Tree → Path → Except StorageCause Tree) (w : World) :
    (change f).run w = match f w.tree w.workingDirectory with
      | .ok tree => (.ok (), { w with tree })
      | .error cause => (.error cause, w) := rfl

/-- The tree is changed when the change can be made. -/
theorem change_eq_ok_iff : (change f).run w = (.ok (), w') ↔
    ∃ tree, f w.tree w.workingDirectory = .ok tree ∧ w' = { w with tree } := by
  rw [change_run]
  cases f w.tree w.workingDirectory with
  | ok tree =>
    refine ⟨fun h => ⟨tree, rfl, (Prod.mk.inj h).2.symm⟩, ?_⟩
    rintro ⟨tree', htree, rfl⟩
    cases htree
    rfl
  | error cause => exact iff_of_false nofun nofun

/-- All is as it was when the change cannot be made. -/
theorem eq_of_change_eq_error {cause : StorageCause} (h : (change f).run w = (.error cause, w')) :
    w' = w := by
  rw [change_run] at h
  split at h
  · cases h
  · exact (Prod.mk.inj h).2.symm

end World

end Substance
