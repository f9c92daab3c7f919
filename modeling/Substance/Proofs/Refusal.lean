import Substance.Proofs.Failure
import Substance.Proofs.Iterators
import Substance.Proofs.Outcome

/-!
# Refused runs

A run reports what is wrong with its domain or with what is asked of it, and is then over.  It does
so before it touches a file or prints: from the moment on when it does, the only faults left are ones
that break it off, since over a usable schema and setting nothing that is generated fails.

* `Unreported`: a part of a run that ends with no fault that is reported.
* `unreported_writePrograms`, `unreported_carryOut`: the second half of a run is such a part.
* `run_exit_one_iff`: when a run is refused, and what is then to be seen of it.
-/

namespace Substance

open Substance.Random

namespace CommandLine

variable {S α β : Type}

/-! ## The second half -/

/-- No fault that the part ends with is reported. -/
def Unreported (c : ExceptT RunFault (StateM S) α) : Prop :=
  ∀ s fault, (outcome c s).1 = .error fault → fault.isReported = false

/-- A value is no fault. -/
theorem unreported_pure (a : α) : Unreported (pure a : ExceptT RunFault (StateM S) α) := nofun

/-- A fault that is not reported. -/
theorem unreported_throw {fault : RunFault} (h : fault.isReported = false) :
    Unreported (throw fault : ExceptT RunFault (StateM S) α) := by
  intro s fault' hf
  cases hf
  exact h

/-- An operation of the host is no fault. -/
theorem unreported_lift (x : StateM S α) :
    Unreported (liftM x : ExceptT RunFault (StateM S) α) := nofun

/-- Parts with no faults that are reported may follow one another. -/
theorem Unreported.bind {c : ExceptT RunFault (StateM S) α}
    {f : α → ExceptT RunFault (StateM S) β} (hc : Unreported c) (hf : ∀ a, Unreported (f a)) :
    Unreported (c >>= f) := by
  intro s fault h
  rcases hr : outcome c s with ⟨a | fault', s'⟩
  · rw [outcome_bind_error hr] at h
    cases h
    exact hc s fault (by rw [hr])
  · rw [outcome_bind_ok hr] at h
    exact hf _ s' fault h

/-- An operation that may fail, where no such failure is reported. -/
theorem unreported_attempt {ε : Type} {wrap : ε → RunFault} (hw : ∀ e, (wrap e).isReported = false)
    (operation : StateM S (Except ε α)) : Unreported (attempt wrap operation) := by
  intro s fault h
  rw [outcome_attempt] at h
  cases hr : (operation.run s).1 with
  | ok a => simp [hr, Except.mapError] at h
  | error e =>
    rw [hr] at h
    cases h
    exact hw e

variable [Host (StateM S)]

/-- The first iterator that programs are written from has handed out nothing. -/
theorem writePrograms_waiting {m : Type → Type} [Monad m] [Host m] (a : Arguments)
    (domain : Domain) (setting : Setting) (directory : Path) (written budget count : Nat)
    (g : Generator Twister) :
    writePrograms (m := m) a domain setting directory written budget (.waiting count) g =
      writePrograms a domain setting directory written budget (.running 0 count) g := by
  cases budget with
  | zero => rfl
  | succ budget => rw [writePrograms, writePrograms, Batch.next_natCast]

/-- Over a usable schema and setting programs are written without any fault that is reported. -/
theorem unreported_writePrograms {schema : Schema} {setting : Setting}
    (hs : schema.fault? = none) (ht : setting.fault? = none) (a : Arguments) (directory : Path)
    (budget : Nat) : ∀ (written done total : Nat) (g : Generator Twister), g.Coherent →
      Unreported (S := S)
        (writePrograms a schema setting directory written budget (.running done total) g) := by
  induction budget with
  | zero => exact fun written _ _ _ _ => unreported_pure written
  | succ budget ih =>
    intro written done total g hg
    have hdrop : g.dropJournal.Coherent := hg
    obtain ⟨hne, hh⟩ := Batch.advance_coherent hs ht hdrop done total
    rw [writePrograms]
    refine (unreported_lift _).bind fun _ => ?_
    rw [Batch.next]
    rcases hr : Batch.advance schema setting done total g.dropJournal with ⟨answer, it, h⟩
    rw [hr] at hne hh
    cases answer with
    | fault f => exact absurd rfl (hne f)
    | stop => exact unreported_pure written
    | program p =>
      obtain ⟨-, rfl⟩ := Batch.advance_program hr
      have hrest := ih (written + 1) (done + 1) total h hh
      refine (unreported_attempt (fun _ => rfl) _).bind fun _ => ?_
      dsimp only
      split
      · exact (unreported_lift _).bind fun _ => hrest
      · exact hrest

/-- What is asked for is carried out without any fault that is reported. -/
theorem unreported_carryOut {a : Arguments} {schema : Schema} {setting : Setting}
    {g : Generator Twister} (h : Prepares a schema setting g) (count : Nat) :
    Unreported (S := S) (carryOut a schema setting g count) := by
  obtain ⟨seed, -, rfl⟩ := h.seed
  rw [carryOut]
  refine Unreported.bind ?_ fun directory => ?_
  · cases hd : a.directory with
    | none => exact unreported_throw rfl
    | some directory => exact unreported_pure _
  refine (unreported_attempt (fun _ => rfl) _).bind fun _ => ?_
  refine Unreported.bind ?_ fun written => ?_
  · rw [writePrograms_waiting]
    exact unreported_writePrograms h.domain h.setting a directory count 0 0 count _
      (Generator.isClear_new _).coherent
  exact (unreported_lift _).bind fun _ => unreported_lift _

/-! ## Whole runs -/

variable {φ ψ : Type} {view : View S φ ψ} {environment : String → Option String}
  {words : List String} {d : Defaults} {a : Arguments}

/-- A run ends with a refusal, or else with a success or a fault that is not reported. -/
theorem outcome_execute_spec (a : Arguments) (s : S) (hs : ∀ l, loaded a s ≠ .ok (.loose l)) :
    (∃ fault, Refused a (loaded a s) fault ∧
      outcome (execute a) s = (.error fault, (outcome (loadDomain a) s).2)) ∨
    (¬∃ fault, Refused a (loaded a s) fault) ∧
      ∀ fault, (outcome (execute a) s).1 = .error fault → fault.isReported = false := by
  rw [outcome_execute]
  rcases request_spec a (loaded a s) with
    ⟨domain, setting, g, count, hl, hprepares, -, hrequest⟩ | ⟨fault, hrequest, hrefused⟩
  · refine .inr ⟨?_, fun fault h => ?_⟩
    · rintro ⟨fault, hrefused⟩
      have hsame := hrequest.symm.trans hrefused.request_eq.1
      cases hsame
    · rw [hrequest] at h
      cases domain with
      | loose l => exact absurd hl (hs l)
      | schema schema => exact unreported_carryOut hprepares count _ fault h
  · rw [hrequest]
    by_cases hreported : fault.isReported = true
    · exact .inl ⟨fault, hrefused hreported, rfl⟩
    · refine .inr ⟨?_, fun fault' h => ?_⟩
      · rintro ⟨fault', hrefused'⟩
        obtain ⟨hsame, hreported'⟩ := hrefused'.request_eq
        rw [hrequest] at hsame
        cases hsame
        exact hreported hreported'
      · cases h
        simpa using hreported

/-- A command line that is understood ends with the exit code one just when what it asks for is
refused: its domain cannot be read, or has no types, or one without a name; its bounds are not in
order; or it asks for a negative number of programs.  Nothing is then to be seen of the run but its
report, behind those lines that are only made when they are asked for: files and what was printed
are as they were. -/
theorem run_exit_one_iff (hview : view.Lawful) (hd : Defaults.ofEnvironment environment = .ok d)
    (ha : Arguments.parse d words = .ok a) (s : S) (hs : ∀ l, loaded a s ≠ .ok (.loose l)) :
    (((run environment words : StateM S Ending).run s).1 = .exit 1 ↔
      ∃ fault, Refused a (loaded a s) fault) ∧
    (((run environment words : StateM S Ending).run s).1 = .exit 1 →
      ∃ fault lines, Refused a (loaded a s) fault ∧ (∀ line ∈ lines, IsDebugLine line) ∧
        view.Reports (debugText a lines ++ s!"Error: {fault.message}\n") s
          ((run environment words : StateM S Ending).run s).2) := by
  rw [run_eq hd ha]
  rcases outcome_execute_spec a s hs with ⟨fault, hrefused, hout⟩ | ⟨hnone, hfaults⟩
  · rw [hout]
    dsimp only
    rw [if_pos hrefused.request_eq.2]
    refine ⟨iff_of_true rfl ⟨fault, hrefused⟩, fun _ => ?_⟩
    obtain ⟨lines, hlines, hreports⟩ := reports_loadDomain hview a s
    exact ⟨fault, lines, hrefused, hlines, hreports.append (hview.report _ _)⟩
  · rcases hout : outcome (execute a) s with ⟨fault | _, s'⟩
    · have hunreported := hfaults fault (by rw [hout])
      dsimp only
      rw [hunreported, if_neg Bool.false_ne_true]
      exact ⟨iff_of_false nofun hnone, nofun⟩
    · exact ⟨iff_of_false nofun hnone, nofun⟩

/-- A world with one file, which holds a domain of one type. -/
def typeWorld : World where
  tree := ⟨[(["d"], .file "type A\n".toUTF8.data.toList)]⟩
  workingDirectory := ⟨1, []⟩
  printed := ""
  reported := ""

/-- The domain of that world. -/
theorem loaded_typeWorld {a : Arguments} (h : a.domain = "d") :
    loaded a typeWorld = .ok (.schema (Schema.empty.addType "A")) := by
  have hread : typeWorld.tree.readFile typeWorld.workingDirectory (.ofString "d") =
      .ok "type A\n".toUTF8.data.toList := by decide +kernel
  have htext : Domain.textOf (.ofString "d") (.ok "type A\n".toUTF8.data.toList) =
      .ok "type A\n" := by decide +kernel
  have hparse : Domain.ofNotation (Path.ofString "d").toString "type A\n" =
      .ok (Schema.empty.addType "A") := by decide +kernel
  have hplain : Domain.isPlainFile (.ofString "d") = false := by decide +kernel
  rw [loaded_world, h, hread, Domain.ofFile, htext]
  dsimp only
  rw [Domain.ofText, hplain, hparse]
  rfl

/-- A command line with bounds that are not in order. -/
def invertedWords : List String := ["d", "--min-length", "5", "--max-length", "2"]

/-- The command line with bounds that are not in order ends with the exit code one, and has changed
no file and printed nothing. -/
theorem run_exit_one_iff_inverted :
    let ended := (run (fun _ => none) invertedWords : StateM World Ending).run typeWorld
    ended.1 = .exit 1 ∧ ended.2.tree = typeWorld.tree ∧ ended.2.printed = "" ∧
      ended.2.reported = "Error: minimum length 5 exceeds maximum length 2\n" := by
  let a : Arguments := ⟨"d", some "./synthesized/", some 1, some 5, some 2, some .mixed, some 7,
    false, false⟩
  have hd : Defaults.ofEnvironment (fun _ => none) = .ok .standard := by decide +kernel
  have ha : Arguments.parse .standard invertedWords = .ok a := by decide +kernel
  have hloaded : loaded a typeWorld = .ok (.schema (Schema.empty.addType "A")) :=
    loaded_typeWorld rfl
  have hrefused : Refused a (loaded a typeWorld)
      (.batch (.setting (.minimumAboveMaximum 5 2))) := by
    rw [hloaded]
    exact .bounds rfl (by decide) rfl rfl (by decide) (by decide)
  obtain ⟨hiff, hseen⟩ := run_exit_one_iff World.view_lawful hd ha typeWorld
    (by rw [hloaded]; nofun)
  have hexit := hiff.mpr ⟨_, hrefused⟩
  intro ended
  obtain ⟨fault, lines, hfault, -, hreports⟩ := hseen hexit
  obtain rfl : fault = .batch (.setting (.minimumAboveMaximum 5 2)) :=
    Except.error.inj (hfault.request_eq.1.symm.trans hrefused.request_eq.1)
  have hquiet : debugText a lines = "" := rfl
  have hmessage : "" ++ ("" ++ s!"Error: {(RunFault.batch (.setting
      (.minimumAboveMaximum 5 2))).message}\n") =
      "Error: minimum length 5 exceeds maximum length 2\n" := by decide +kernel
  rw [hquiet] at hreports
  obtain ⟨htree, -, hprinted⟩ := World.eq_of_reports hreports
  exact ⟨hexit, htree, hprinted, hreports.reported.trans hmessage⟩

end CommandLine

end Substance
