import Substance.Proofs.Directories
import Substance.Proofs.Outcome

/-!
# Files of a host

A path leads to a thing, through whatever links lie on the way, and at the thing there stands a
directory, or a file with its content, or nothing.  Several paths may lead to one thing.  This is all
that is asked of the files of a host, together with the laws of the operations on them.

* `FileView`: what is seen of files, with `FileView.Holds` and `FileView.Meet` for the content of a
  file and for paths that lead to one thing.
* `FileView.Changes`: one thing is new, and the rest is as it was.
* `FileView.Lawful`: the laws of a host.  A world obeys them (`World.files_lawful`).
* `FileView.Lawful.ensureDirectory_ok`: when a directory is ensured, directories on the way to it are
  made (`FileView.Makes`), and nothing else is changed.
-/

namespace Substance

variable {S φ ψ ι α : Type}

/-- From states with the same files the computations have the same result and leave the same
files. -/
def View.Parallel (view : View S φ ψ) (x y : StateM S α) : Prop :=
  ∀ s t, view.files t = view.files s →
    (y.run t).1 = (x.run s).1 ∧ view.files (y.run t).2 = view.files (x.run s).2

/-- What is seen of files: the thing that a path leads to when links are followed, what stands there,
and the working directory. -/
structure FileView (φ ι : Type) where
  leadsTo : φ → Path → Option ι
  at? : φ → ι → Option Node
  workingDirectory : φ → Path

namespace FileView

variable (files : FileView φ ι) {f f' f'' : φ} {thing : ι} {node : Node} {p q : Path}
  {content : List UInt8}

/-- The path leads to a file with this content. -/
def Holds (f : φ) (p : Path) (content : List UInt8) : Prop :=
  ∃ thing, files.leadsTo f p = some thing ∧ files.at? f thing = some (.file content)

/-- The paths lead to one thing, as links make them do. -/
def Meet (f : φ) (p q : Path) : Prop :=
  ∃ thing, files.leadsTo f p = some thing ∧ files.leadsTo f q = some thing

/-- An initial part of the path leads to the thing. -/
def OnWay (f : φ) (p : Path) (thing : ι) : Prop :=
  ∃ q : Path, q.slashes = p.slashes ∧ q.names <+: p.names ∧ files.leadsTo f q = some thing

/-! ## Changes -/

/-- Paths lead where they led, and begin where they began. -/
structure Keeps (f f' : φ) : Prop where
  leadsTo (p : Path) (thing : ι) : files.leadsTo f p = some thing → files.leadsTo f' p = some thing
  workingDirectory : files.workingDirectory f' = files.workingDirectory f

/-- One thing is new, and the others are as they were. -/
structure Changes (f : φ) (thing : ι) (node : Node) (f' : φ) : Prop extends files.Keeps f f' where
  new : files.at? f' thing = some node
  others (other : ι) : other ≠ thing → files.at? f' other = files.at? f other

/-- Directories were made where nothing stood, on the way of the path, and nothing else was
changed. -/
structure Makes (p : Path) (f f' : φ) : Prop extends files.Keeps f f' where
  things (thing : ι) : files.at? f' thing = files.at? f thing ∨
    files.at? f thing = none ∧ files.at? f' thing = some .directory ∧ files.OnWay f' p thing

variable {files}

/-- The same thing has one content. -/
theorem Holds.unique {other : List UInt8} (h : files.Holds f p content) (h' : files.Holds f p other) :
    other = content := by
  obtain ⟨thing, hp, hcontent⟩ := h
  obtain ⟨thing', hp', hother⟩ := h'
  obtain rfl := Option.some.inj (hp'.symm.trans hp)
  exact Node.file.inj (Option.some.inj (hother.symm.trans hcontent))

/-- Paths that lead to one thing hold the same. -/
theorem Holds.of_meet (h : files.Holds f q content) (hm : files.Meet f p q) :
    files.Holds f p content := by
  obtain ⟨thing, hq, hcontent⟩ := h
  obtain ⟨thing', hp', hq'⟩ := hm
  obtain rfl := Option.some.inj (hq'.symm.trans hq)
  exact ⟨thing', hp', hcontent⟩

/-- Paths lead where they lead. -/
theorem Keeps.refl (f : φ) : files.Keeps f f := ⟨fun _ _ => id, rfl⟩

/-- Paths lead where they led from change to change. -/
theorem Keeps.trans (h : files.Keeps f f') (h' : files.Keeps f' f'') : files.Keeps f f'' where
  leadsTo p thing hp := h'.leadsTo p thing (h.leadsTo p thing hp)
  workingDirectory := h'.workingDirectory.trans h.workingDirectory

/-- The way of a path goes on through the same things. -/
theorem Keeps.onWay (h : files.Keeps f f') (hw : files.OnWay f p thing) : files.OnWay f' p thing := by
  obtain ⟨q, hs, hn, hq⟩ := hw
  exact ⟨q, hs, hn, h.leadsTo q thing hq⟩

/-- Nothing was made. -/
theorem Makes.refl (p : Path) (f : φ) : files.Makes p f f := ⟨.refl f, fun _ => .inl rfl⟩

/-- Directories were made in two steps. -/
theorem Makes.trans (h : files.Makes p f f') (h' : files.Makes p f' f'') : files.Makes p f f'' where
  toKeeps := h.toKeeps.trans h'.toKeeps
  things thing := by
    rcases h.things thing with hsame | ⟨hnone, hmade, hway⟩
    · rw [← hsame]
      exact h'.things thing
    · rcases h'.things thing with hsame' | ⟨hnone', -⟩
      · exact .inr ⟨hnone, hsame'.trans hmade, h'.toKeeps.onWay hway⟩
      · cases hmade.symm.trans hnone'

/-- What lies on the way to the directory above lies on the way. -/
theorem Makes.of_parent (hq : p.parent? = some q) (h : files.Makes q f f') : files.Makes p f f' where
  toKeeps := h.toKeeps
  things thing := by
    rw [Path.parent?] at hq
    split at hq
    · cases hq
    · cases hq
      refine (h.things thing).imp_right ?_
      rintro ⟨hnone, hmade, q, hs, hn, hq⟩
      exact ⟨hnone, hmade, q, hs, hn.trans (List.dropLast_prefix _), hq⟩

/-- One directory was made. -/
theorem Changes.makes (h : files.Changes f thing .directory f') (hnone : files.at? f thing = none)
    (hp : files.leadsTo f' p = some thing) : files.Makes p f f' where
  toKeeps := h.toKeeps
  things other := by
    by_cases he : other = thing
    · subst he
      exact .inr ⟨hnone, h.new, p, rfl, List.prefix_rfl, hp⟩
    · exact .inl (h.others other he)

/-! ## Laws -/

/-- The laws of a host whose files are seen in this way.  They are those of directories and of files
that keep what is written to them, under whatever names and links these are known; devices and pipes
are no such files.  Of operations that fail they ask only that a directory that is not made leaves the
files as they were. -/
structure Lawful (files : FileView φ ι) (view : View S φ String) [Host (StateM S)] : Prop
    extends view.Lawful where
  /-- What is read is the content of the file that the path leads to. -/
  readFile_ok {p : Path} {content : List UInt8} {s s' : S} :
    (Host.readFile p : StateM S _).run s = (.ok content, s') → files.Holds (view.files s) p content
  /-- A file that was written is what its path leads to, and has the content that was written. -/
  writeFile_ok {p : Path} {content : List UInt8} {s s' : S} :
    (Host.writeFile p content : StateM S _).run s = (.ok (), s') →
      ∃ thing, files.leadsTo (view.files s') p = some thing ∧
        files.Changes (view.files s) thing (.file content) (view.files s')
  /-- A directory that was made is what its path leads to, and nothing stood there. -/
  makeDirectory_ok {p : Path} {s s' : S} :
    (Host.makeDirectory p : StateM S _).run s = (.ok (), s') →
      ∃ thing, files.leadsTo (view.files s') p = some thing ∧
        files.at? (view.files s) thing = none ∧
        files.Changes (view.files s) thing .directory (view.files s')
  /-- A directory that was not made leaves the files as they were. -/
  makeDirectory_error {p : Path} {cause : StorageCause} {s s' : S} :
    (Host.makeDirectory p : StateM S _).run s = (.error cause, s') → view.files s' = view.files s
  /-- Paths begin in the working directory, and to ask for it changes nothing. -/
  workingDirectory (s : S) :
    ((Host.workingDirectory : StateM S Path).run s).1 = files.workingDirectory (view.files s) ∧
      view.Reports "" s ((Host.workingDirectory : StateM S Path).run s).2
  /-- To ask for a directory changes nothing. -/
  isDirectory (p : Path) (s : S) : view.Reports "" s ((Host.isDirectory p : StateM S _).run s).2
  /-- What is printed is seen there alone. -/
  print (text : String) (s : S) :
    view.files ((Host.print text : StateM S Unit).run s).2 = view.files s ∧
      view.printed ((Host.print text : StateM S Unit).run s).2 = view.printed s ++ text
  /-- To write a file prints nothing. -/
  printed_writeFile (p : Path) (content : List UInt8) (s : S) :
    view.printed ((Host.writeFile p content : StateM S _).run s).2 = view.printed s
  /-- To make a directory prints nothing. -/
  printed_makeDirectory (p : Path) (s : S) :
    view.printed ((Host.makeDirectory p : StateM S _).run s).2 = view.printed s
  /-- What becomes of an operation on files is a matter of the files alone. -/
  parallel_readFile (p : Path) : view.Parallel (Host.readFile p : StateM S _) (Host.readFile p)
  parallel_writeFile (p : Path) (content : List UInt8) :
    view.Parallel (Host.writeFile p content : StateM S _) (Host.writeFile p content)
  parallel_makeDirectory (p : Path) :
    view.Parallel (Host.makeDirectory p : StateM S _) (Host.makeDirectory p)
  parallel_isDirectory (p : Path) :
    view.Parallel (Host.isDirectory p : StateM S _) (Host.isDirectory p)

section

variable {view : View S φ String} [Host (StateM S)] {s s' : S}

/-- Whatever is read of a path is what it holds. -/
theorem Holds.eq_of_readFile {other : List UInt8} (hp : files.Holds (view.files s) p content)
    (h : files.Lawful view) (hread : (Host.readFile p : StateM S _).run s = (.ok other, s')) :
    other = content := hp.unique (h.readFile_ok hread)

/-- With success the directory was made, as far as it was not there; with a fault no file was changed.
Nothing was printed. -/
def MakesOrFails (files : FileView φ ι) (view : View S φ String) (p : Path) (s : S) :
    Except StorageFault Unit × S → Prop
  | (.ok (), s') => files.Makes p (view.files s) (view.files s') ∧ view.printed s' = view.printed s
  | (.error _, s') => view.files s' = view.files s ∧ view.printed s' = view.printed s

/-- When a directory cannot be made, it is asked whether it is there. -/
theorem Lawful.makesOrFails_isDirectory (h : files.Lawful view) {s₁ : S}
    (hfiles : view.files s₁ = view.files s) (hprinted : view.printed s₁ = view.printed s)
    (cause : StorageCause) : files.MakesOrFails view p s <|
      (do if ← Host.isDirectory p then return .ok () else return .error ⟨cause, p⟩ :
        StateM S (Except StorageFault Unit)).run s₁ := by
  have hasked := h.isDirectory p s₁
  rw [StateT.run_bind]
  rcases hd : (Host.isDirectory p : StateM S _).run s₁ with ⟨isDirectory, s₂⟩
  rw [hd] at hasked
  have hfiles' : view.files s₂ = view.files s := hasked.files.trans hfiles
  have hprinted' : view.printed s₂ = view.printed s := hasked.printed.trans hprinted
  cases isDirectory with
  | true => exact ⟨hfiles' ▸ .refl p _, hprinted'⟩
  | false => exact ⟨hfiles', hprinted'⟩

/-- A directory is made or kept, or it fails. -/
theorem Lawful.makesOrFails_makeOrKeep (h : files.Lawful view) (p : Path) (s : S) :
    files.MakesOrFails view p s ((makeOrKeep p : StateM S _).run s) := by
  have hprinted := h.printed_makeDirectory p s
  rw [makeOrKeep, StateT.run_bind]
  rcases hm : (Host.makeDirectory p : StateM S _).run s with ⟨cause | _, s₁⟩
  · rw [hm] at hprinted
    have hfiles := h.makeDirectory_error hm
    cases cause with
    | notFound => exact ⟨hfiles, hprinted⟩
    | nullCharacter => exact ⟨hfiles, hprinted⟩
    | _ => exact h.makesOrFails_isDirectory hfiles hprinted _
  · rw [hm] at hprinted
    obtain ⟨thing, hp, hnone, hchanges⟩ := h.makeDirectory_ok hm
    exact ⟨hchanges.makes hnone hp, hprinted⟩

/-- A directory that is ensured was made with those on its way, as far as they were not there, and
nothing else was changed or printed. -/
theorem Lawful.ensureDirectory_ok (h : files.Lawful view) (p : Path) {s s' : S}
    (hs : (ensureDirectory p : StateM S _).run s = (.ok (), s')) :
    files.Makes p (view.files s) (view.files s') ∧ view.printed s' = view.printed s := by
  have hfirst := h.makesOrFails_makeOrKeep p s
  rw [ensureDirectory, StateT.run_bind] at hs
  rcases hr : (makeOrKeep p : StateM S _).run s with ⟨⟨cause, path⟩ | _, s₁⟩
  · rw [hr] at hs hfirst
    obtain ⟨hfiles, hprinted⟩ : view.files s₁ = view.files s ∧ view.printed s₁ = view.printed s :=
      hfirst
    cases cause with
    | notFound =>
      -- there is no way to the directory yet, so that is made first
      cases hq : p.parent?.attach with
      | none =>
        simp only [hq] at hs
        cases hs
      | some q =>
        have hparent : p.parent? = some q.1 := q.2
        simp only [hq] at hs
        change StateT.run (ensureDirectory q.1 >>= _) s₁ = _ at hs
        rw [StateT.run_bind] at hs
        rcases hqs : (ensureDirectory q.1 : StateM S _).run s₁ with ⟨fault | _, s₂⟩
        · rw [hqs] at hs
          cases hs
        · rw [hqs] at hs
          obtain ⟨hmakes, hprinted'⟩ := h.ensureDirectory_ok q.1 hqs
          have hlast := h.makesOrFails_makeOrKeep p s₂
          change (makeOrKeep p : StateM S _).run s₂ = _ at hs
          rw [hs] at hlast
          obtain ⟨hmakes', hprinted''⟩ := hlast
          rw [hfiles] at hmakes
          exact ⟨(hmakes.of_parent hparent).trans hmakes',
            hprinted''.trans (hprinted'.trans hprinted)⟩
    | _ => cases hs
  · rw [hr] at hs hfirst
    cases hs
    exact hfirst
termination_by p.names.length
decreasing_by exact Path.length_lt_of_parent? hparent

end

end FileView

/-! ## Worlds -/

namespace World

/-- What is seen of the files of a world: a path leads to a place of its tree. -/
def files : FileView (Tree × Path) (List String) where
  leadsTo f p := (f.1.locate f.2 p).toOption
  at? f place := f.1.at? place
  workingDirectory := Prod.snd

variable {f : Tree × Path} {p : Path} {place : List String} {content : List UInt8}

/-- A path leads to the place that is found for it. -/
theorem leadsTo_eq_some_iff : files.leadsTo f p = some place ↔ f.1.locate f.2 p = .ok place := by
  change (f.1.locate f.2 p).toOption = some place ↔ _
  cases f.1.locate f.2 p with
  | error cause => exact iff_of_false nofun nofun
  | ok place' => simp [Except.toOption]

/-- A path leads to a file with the content that is read of it. -/
theorem holds_iff : files.Holds f p content ↔ f.1.readFile f.2 p = .ok content := by
  rw [Tree.readFile_eq_ok_iff]
  exact exists_congr fun place => and_congr_left' leadsTo_eq_some_iff

/-- A change of a tree is one of the files. -/
theorem changes_of_tree {t t' : Tree} {node : Node} (h : t.Changes place node t') (hk : t.Keeps t')
    (workingDirectory : Path) : files.Changes (t, workingDirectory) place node
      (t', workingDirectory) where
  leadsTo _ _ hp := leadsTo_eq_some_iff.mpr (hk.locate (leadsTo_eq_some_iff.mp hp))
  workingDirectory := rfl
  new := h.new
  others := h.others

/-- What becomes of a change is a matter of the files. -/
theorem parallel_change (change : Tree → Path → Except StorageCause Tree) :
    view.Parallel (World.change change) (World.change change) := by
  intro w v h
  obtain ⟨htree, hhere⟩ := Prod.mk.inj h
  rw [change_run, change_run, htree, hhere]
  cases change w.tree w.workingDirectory with
  | ok tree => exact ⟨rfl, rfl⟩
  | error cause => exact ⟨rfl, h⟩

/-- What becomes of a question that changes nothing is a matter of the files. -/
theorem parallel_of_files {x : StateM World α} (g : Tree → Path → α)
    (hx : ∀ w, x.run w = (g w.tree w.workingDirectory, w)) : view.Parallel x x := by
  intro w v h
  obtain ⟨htree, hhere⟩ := Prod.mk.inj h
  rw [hx, hx, htree, hhere]
  exact ⟨rfl, h⟩

/-- The files of a world obey the laws. -/
theorem files_lawful : files.Lawful view where
  toLawful := view_lawful
  readFile_ok h := holds_iff.mpr (Prod.mk.inj h).1
  writeFile_ok h := by
    obtain ⟨tree, hwrite, rfl⟩ := change_eq_ok_iff.mp h
    obtain ⟨place, hlocate, hfree, hchanges⟩ := Tree.writeFile_ok hwrite
    have hkeeps := hchanges.keeps fun hd => absurd hd hfree
    exact ⟨place, leadsTo_eq_some_iff.mpr (hkeeps.locate hlocate),
      changes_of_tree hchanges hkeeps _⟩
  makeDirectory_ok h := by
    obtain ⟨tree, hmake, rfl⟩ := change_eq_ok_iff.mp h
    obtain ⟨place, hlocate, hnone, hchanges⟩ := Tree.makeDirectory_ok hmake
    have hkeeps := hchanges.keeps fun _ => rfl
    exact ⟨place, leadsTo_eq_some_iff.mpr (hkeeps.locate hlocate), hnone,
      changes_of_tree hchanges hkeeps _⟩
  makeDirectory_error h := congrArg view.files (eq_of_change_eq_error h)
  workingDirectory w := ⟨rfl, View.reports_empty w⟩
  isDirectory _ w := View.reports_empty w
  print _ _ := ⟨rfl, rfl⟩
  printed_writeFile p content w := by
    change ((World.change _).run w).2.printed = _
    rw [change_run]
    split <;> rfl
  printed_makeDirectory p w := by
    change ((World.change _).run w).2.printed = _
    rw [change_run]
    split <;> rfl
  parallel_readFile p := parallel_of_files (fun tree here => tree.readFile here p) fun _ => rfl
  parallel_writeFile p content := parallel_change fun tree here => tree.writeFile here p content
  parallel_makeDirectory p := parallel_change fun tree here => tree.makeDirectory here p
  parallel_isDirectory p := parallel_of_files (fun tree here => tree.isDirectory here p) fun _ => rfl

end World

end Substance
