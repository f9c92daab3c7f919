import Substance.Proofs.FileView

/-!
# Streams do not count

A run prints and reports, and never looks at what it printed or reported.  So two runs that are asked
for the same, except that one is to be quiet or to report what happens, end in the same way with the
same files.

* `View.Parallel`: computations that do the same to the files, with one rule for each way to put
  computations together.
* `FileView.Lawful.parallel_execute`: runs that differ only in what they print and report.
-/

namespace Substance

variable {S φ ψ α β : Type} {view : View S φ ψ}

/-! ## The rules -/

namespace View

/-- A value. -/
theorem parallel_pure (a : α) : view.Parallel (pure a) (pure a) := fun _ _ h => ⟨rfl, h⟩

/-- One computation after the other. -/
theorem Parallel.bind {x y : StateM S α} {f f' : α → StateM S β} (h : view.Parallel x y)
    (hf : ∀ a, view.Parallel (f a) (f' a)) : view.Parallel (x >>= f) (y >>= f') := by
  intro s t hs
  obtain ⟨hr, hs'⟩ := h s t hs
  change (((f' (y.run t).1).run (y.run t).2).1 = ((f (x.run s).1).run (x.run s).2).1) ∧
    view.files ((f' (y.run t).1).run (y.run t).2).2 = view.files ((f (x.run s).1).run (x.run s).2).2
  rw [hr]
  exact hf _ _ _ hs'

/-- Computations that leave the files as they are. -/
theorem parallel_of_files {x y : StateM S Unit} (hx : ∀ s, view.files (x.run s).2 = view.files s)
    (hy : ∀ s, view.files (y.run s).2 = view.files s) : view.Parallel x y := by
  intro s t h
  exact ⟨rfl, ((hy t).trans h).trans (hx s).symm⟩

end View

namespace CommandLine

/-- One part of a run after the other. -/
theorem parallel_bind {c d : ExceptT RunFault (StateM S) α}
    {f f' : α → ExceptT RunFault (StateM S) β} (h : view.Parallel c.run d.run)
    (hf : ∀ a, view.Parallel (f a).run (f' a).run) :
    view.Parallel (c >>= f).run (d >>= f').run := by
  change view.Parallel (c.run >>= ExceptT.bindCont f) (d.run >>= ExceptT.bindCont f')
  refine h.bind fun result => ?_
  cases result with
  | ok a => exact hf a
  | error fault => exact View.parallel_pure (Except.error fault)

/-- Both parts of a run succeed from the same files, and leave the same files. -/
theorem outcome_ok_of_parallel {c d : ExceptT RunFault (StateM S) α}
    (h : view.Parallel c.run d.run) {s t s' : S} {a : α} (hs : view.files t = view.files s)
    (hc : outcome c s = (.ok a, s')) :
    ∃ t', outcome d t = (.ok a, t') ∧ view.files t' = view.files s' := by
  obtain ⟨hresult, hfiles⟩ := h s t hs
  have hrun : c.run.run s = (.ok a, s') := hc
  rw [hrun] at hresult hfiles
  exact ⟨(d.run.run t).2, Prod.ext hresult rfl, hfiles⟩

/-- An operation of the host within a run. -/
theorem parallel_lift {x y : StateM S α} (h : view.Parallel x y) :
    view.Parallel (liftM x : ExceptT RunFault (StateM S) α).run
      (liftM y : ExceptT RunFault (StateM S) α).run := by
  intro s t hs
  obtain ⟨hr, hs'⟩ := h s t hs
  exact ⟨congrArg Except.ok hr, hs'⟩

/-- An operation that may fail within a run. -/
theorem parallel_attempt {ε : Type} {wrap : ε → RunFault} {x y : StateM S (Except ε α)}
    (h : view.Parallel x y) : view.Parallel (attempt wrap x).run (attempt wrap y).run :=
  h.bind fun result => View.parallel_pure (result.mapError wrap)

/-- A settled matter within a run. -/
theorem parallel_settle {ε : Type} (wrap : ε → RunFault) (x : Except ε α) :
    view.Parallel (settle wrap x : ExceptT RunFault (StateM S) α).run (settle wrap x).run :=
  View.parallel_pure (x.mapError wrap)

end CommandLine

/-! ## Parts of a run -/

namespace FileView.Lawful

open CommandLine

variable {ι : Type} {view : View S φ String} [Host (StateM S)] {files : FileView φ ι}

/-- Reports leave the files as they are, whatever is to be reported. -/
theorem parallel_debug (h : files.Lawful view) (a a' : Arguments) (reports reports' : List String) :
    view.Parallel (debug a reports : StateM S Unit) (debug a' reports') :=
  View.parallel_of_files (fun s => (reports_debug h.toLawful reports s).files)
    fun s => (reports_debug h.toLawful reports' s).files

/-- The working directory is asked for. -/
theorem parallel_workingDirectory (h : files.Lawful view) :
    view.Parallel (Host.workingDirectory : StateM S Path) Host.workingDirectory := by
  intro s t hs
  obtain ⟨hpath, hseen⟩ := h.workingDirectory s
  obtain ⟨hpath', hseen'⟩ := h.workingDirectory t
  refine ⟨?_, (hseen'.files.trans hs).trans hseen.files.symm⟩
  rw [hpath, hpath', hs]

/-- A directory is made or kept. -/
theorem parallel_makeOrKeep (h : files.Lawful view) (p : Path) :
    view.Parallel (makeOrKeep p : StateM S _) (makeOrKeep p) := by
  refine (h.parallel_makeDirectory p).bind fun made => ?_
  have hlook : ∀ cause : StorageCause, view.Parallel
      (do if ← Host.isDirectory p then return .ok () else return .error ⟨cause, p⟩ :
        StateM S (Except StorageFault Unit))
      (do if ← Host.isDirectory p then return .ok () else return .error ⟨cause, p⟩) := by
    intro cause
    refine (h.parallel_isDirectory p).bind fun isDirectory => ?_
    split <;> exact View.parallel_pure _
  cases made with
  | ok _ => exact View.parallel_pure _
  | error cause =>
    cases cause with
    | notFound => exact View.parallel_pure _
    | nullCharacter => exact View.parallel_pure _
    | _ => exact hlook _

/-- A directory is ensured. -/
theorem parallel_ensureDirectory (h : files.Lawful view) (p : Path) :
    view.Parallel (ensureDirectory p : StateM S _) (ensureDirectory p) := by
  rw [ensureDirectory]
  refine (h.parallel_makeOrKeep p).bind fun result => ?_
  rcases result with ⟨cause, path⟩ | _
  · cases cause with
    | notFound =>
      dsimp only
      split
      · exact View.parallel_pure _
      · next q _ =>
        have hq : p.parent? = some q.1 := q.2
        refine (h.parallel_ensureDirectory q.1).bind fun above => ?_
        cases above with
        | error fault => exact View.parallel_pure _
        | ok _ => exact h.parallel_makeOrKeep p
    | _ => exact View.parallel_pure _
  · exact View.parallel_pure _
termination_by p.names.length
decreasing_by exact Path.length_lt_of_parent? hq

/-- A text is printed before the rest, or is not. -/
theorem parallel_print (h : files.Lawful view) {c c' : ExceptT RunFault (StateM S) α}
    (hc : view.Parallel c.run c'.run) (text : String) (prints prints' : Bool) :
    view.Parallel
      (if prints then liftM (Host.print text : StateM S Unit) >>= fun _ => c else c).run
      (if prints' then liftM (Host.print text : StateM S Unit) >>= fun _ => c' else c').run := by
  intro s t hs
  have hprint : ∀ s, view.files ((Host.print text : StateM S Unit).run s).2 = view.files s :=
    fun s => (h.print text s).1
  cases prints <;> cases prints'
  · exact hc s t hs
  · exact hc s _ ((hprint t).trans hs)
  · exact hc _ t (hs.trans (hprint s).symm)
  · exact hc _ _ ((hprint t).trans (hs.trans (hprint s).symm))

/-- Programs are written, whatever is printed and reported of it. -/
theorem parallel_writePrograms (h : files.Lawful view) (a a' : Arguments) (domain : Domain)
    (setting : Setting) (directory : Path) (budget : Nat) :
    ∀ (written : Nat) (it : Iterator) (g : Generator _),
      view.Parallel (writePrograms a domain setting directory written budget it g).run
        (writePrograms a' domain setting directory written budget it g).run := by
  induction budget with
  | zero => exact fun written _ _ => View.parallel_pure _
  | succ budget ih =>
    intro written it g
    rw [writePrograms, writePrograms]
    refine parallel_bind (parallel_lift (h.parallel_debug a a' _ _)) fun _ => ?_
    rcases Batch.next domain setting it g.dropJournal with ⟨answer, it', g'⟩
    cases answer with
    | stop => exact View.parallel_pure _
    | fault f => exact View.parallel_pure _
    | program p =>
      refine parallel_bind (parallel_attempt (h.parallel_writeFile _ _)) fun _ => ?_
      exact h.parallel_print (ih (written + 1) it' g') _ (!a.quiet) (!a'.quiet)

/-- What is asked for is carried out, whatever is printed and reported of it. -/
theorem parallel_carryOut (h : files.Lawful view) (a : Arguments) (quiet debug : Bool)
    (domain : Domain) (setting : Setting) (g : Generator _) (count : Nat) :
    view.Parallel (carryOut a domain setting g count).run
      (carryOut { a with quiet, debug } domain setting g count).run := by
  rw [carryOut, carryOut]
  refine parallel_bind (parallel_settle id _) fun directory => ?_
  refine parallel_bind (parallel_attempt (h.parallel_ensureDirectory directory)) fun _ => ?_
  refine parallel_bind (h.parallel_writePrograms _ _ domain setting directory count 0 _ g) ?_
  intro written
  refine parallel_bind (parallel_lift h.parallel_workingDirectory) fun here => ?_
  exact parallel_lift (View.parallel_of_files (fun s => (h.print _ s).1) fun s => (h.print _ s).1)

/-- Runs that differ only in what they print and report end in the same way, with the same files. -/
theorem parallel_execute (h : files.Lawful view) (a : Arguments) (quiet debug : Bool) :
    view.Parallel (execute a).run (execute { a with quiet, debug }).run := by
  have hload : view.Parallel (loadDomain a).run (loadDomain { a with quiet, debug }).run := by
    refine parallel_bind (parallel_lift (h.parallel_readFile _)) fun content => ?_
    refine parallel_bind (parallel_settle .load _) fun text => ?_
    refine parallel_bind (parallel_lift (h.parallel_debug _ _ _ _)) fun _ => ?_
    exact parallel_settle _ _
  refine parallel_bind hload fun domain => ?_
  refine parallel_bind (parallel_settle id _) fun prepared => ?_
  refine parallel_bind (parallel_settle id _) fun count => ?_
  exact h.parallel_carryOut a quiet debug domain prepared.1 prepared.2 count

end FileView.Lawful

end Substance
