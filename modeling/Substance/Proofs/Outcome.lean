import Substance.CommandLine.Run
import Substance.Storage.Tree

/-!
# Outcomes of runs

On a host with a state, a part of a run starts in some state, and ends with a value or a fault in
another.  A run first reads its domain and looks at what is asked of it, and only then touches files
and prints.

* `View`: what is seen of the state of a host.
* `outcome`: how a part of a run ends, and its laws for sequences and for operations of the host.
* `request`, `carryOut`: what is asked for once the domain is read, and what is done about it.
* `reports_loadDomain`, `outcome_execute`: the first half of a run, and the whole.
-/

namespace Substance

open Substance.Random

/-! ## Views -/

/-- What is seen of a state: the files, what was printed, and the text of the reports. -/
structure View (S φ ψ : Type) where
  files : S → φ
  printed : S → ψ
  reported : S → String

namespace View

variable {S φ ψ : Type} (view : View S φ ψ)

/-- From one state to the other this text is reported, and nothing else is to be seen. -/
structure Reports (text : String) (s s' : S) : Prop where
  files : view.files s' = view.files s
  printed : view.printed s' = view.printed s
  reported : view.reported s' = view.reported s ++ text

/-- Reading leaves all that is seen as it is, and a report is seen among the reports alone. -/
structure Lawful [Host (StateM S)] : Prop where
  readFile (p : Path) (s : S) : view.Reports "" s ((Host.readFile p : StateM S _).run s).2
  report (text : String) (s : S) : view.Reports text s ((Host.report text : StateM S _).run s).2

variable {view} {text more : String} {s s' s'' : S}

/-- Nothing is reported. -/
theorem reports_empty (s : S) : view.Reports "" s s := ⟨rfl, rfl, (String.append_empty).symm⟩

/-- Texts are reported one after the other. -/
theorem Reports.append (h : view.Reports text s s') (h' : view.Reports more s' s'') :
    view.Reports (text ++ more) s s'' where
  files := h'.files.trans h.files
  printed := h'.printed.trans h.printed
  reported := by rw [h'.reported, h.reported, String.append_assoc]

end View

/-- What is seen of a world. -/
def World.view : View World (Tree × Path) String where
  files w := (w.tree, w.workingDirectory)
  printed := World.printed
  reported := World.reported

/-- In a world reading changes nothing, and reports are kept apart. -/
theorem World.view_lawful : World.view.Lawful where
  readFile _ w := View.reports_empty w
  report _ _ := ⟨rfl, rfl, rfl⟩

/-- Where something is reported of a world, the rest of it stays. -/
theorem World.eq_of_reports {text : String} {w w' : World} (h : World.view.Reports text w w') :
    w'.tree = w.tree ∧ w'.workingDirectory = w.workingDirectory ∧ w'.printed = w.printed :=
  ⟨congrArg Prod.fst h.files, congrArg Prod.snd h.files, h.printed⟩

namespace CommandLine

variable {S α β : Type}

/-! ## Outcomes -/

/-- How a part of a run ends, and the state that it leaves. -/
def outcome (c : ExceptT RunFault (StateM S) α) (s : S) : Except RunFault α × S := c.run.run s

section

variable {c : ExceptT RunFault (StateM S) α} {f : α → ExceptT RunFault (StateM S) β} {s s' : S}

/-- A part that succeeds goes on. -/
theorem outcome_bind_ok {a : α} (h : outcome c s = (.ok a, s')) :
    outcome (c >>= f) s = outcome (f a) s' := by
  change (StateT.bind c.run (ExceptT.bindCont f)).run s = _
  have hc : c.run.run s = (.ok a, s') := h
  change (match c.run.run s with | (r, t) => (ExceptT.bindCont f r).run t) = _
  rw [hc]
  rfl

/-- A part that fails ends the run. -/
theorem outcome_bind_error {fault : RunFault} (h : outcome c s = (.error fault, s')) :
    outcome (c >>= f) s = (.error fault, s') := by
  have hc : c.run.run s = (.error fault, s') := h
  change (match c.run.run s with | (r, t) => (ExceptT.bindCont f r).run t) = _
  rw [hc]
  rfl

/-- Where a part succeeds with what follows it, it succeeds, and so does what follows. -/
theorem outcome_bind_eq_ok {b : β} (h : outcome (c >>= f) s = (.ok b, s')) :
    ∃ a t, outcome c s = (.ok a, t) ∧ outcome (f a) t = (.ok b, s') := by
  rcases hc : outcome c s with ⟨fault | a, t⟩
  · rw [outcome_bind_error hc] at h
    cases h
  · rw [outcome_bind_ok hc] at h
    exact ⟨a, t, rfl, h⟩

/-- An operation of the host succeeds. -/
theorem outcome_lift (x : StateM S α) (s : S) :
    outcome (liftM x : ExceptT RunFault (StateM S) α) s = (.ok (x.run s).1, (x.run s).2) := rfl

/-- An operation that may fail. -/
theorem outcome_attempt {ε : Type} (wrap : ε → RunFault) (operation : StateM S (Except ε α))
    (s : S) : outcome (attempt wrap operation) s =
      ((operation.run s).1.mapError wrap, (operation.run s).2) := rfl

/-- An operation that may fail has succeeded. -/
theorem outcome_attempt_eq_ok {ε : Type} {wrap : ε → RunFault}
    {operation : StateM S (Except ε α)} {a : α} (h : outcome (attempt wrap operation) s = (.ok a, s')) :
    operation.run s = (.ok a, s') := by
  rw [outcome_attempt] at h
  rcases hr : operation.run s with ⟨e | b, t⟩
  · rw [hr] at h
    cases h
  · rw [hr] at h
    cases h
    rfl

/-- A settled matter leaves the state as it is. -/
theorem outcome_settle {ε : Type} (wrap : ε → RunFault) (x : Except ε α) (s : S) :
    outcome (settle wrap x) s = (x.mapError wrap, s) := rfl

end

variable [Host (StateM S)] (a : Arguments)

/-! ## Loading -/

/-- The domain that is loaded in a state. -/
def loaded (s : S) : Except LoadFault Domain :=
  ((Domain.load (Path.ofString a.domain) : StateM S _).run s).1

/-- A domain is loaded from what reading its file gives. -/
theorem loaded_eq (s : S) : loaded a s = Domain.ofFile (Path.ofString a.domain)
    ((Host.readFile (Path.ofString a.domain) : StateM S _).run s).1 := by
  rw [loaded, Domain.load, StateT.run_bind]
  rfl

/-- In a world the domain is that of a file of its tree. -/
theorem loaded_world (a : Arguments) (w : World) :
    loaded a w = Domain.ofFile (Path.ofString a.domain)
      (w.tree.readFile w.workingDirectory (Path.ofString a.domain)) := by
  rw [loaded_eq]
  rfl

/-- The text of the reports that are made when they are asked for. -/
def debugText (reports : List String) : String :=
  if a.debug then String.join (reports.map (· ++ "\n")) else ""

variable {φ ψ : Type} {view : View S φ ψ}

variable {a}

/-- Reports are made when they are asked for. -/
theorem reports_debug (hview : view.Lawful) (reports : List String) (s : S) :
    view.Reports (debugText a reports) s ((debug a reports : StateM S Unit).run s).2 := by
  rw [debugText, debug]
  split
  · induction reports generalizing s with
    | nil => exact View.reports_empty s
    | cons line reports ih =>
      rw [List.map_cons, String.join_cons, List.forIn_cons]
      exact (hview.report (line ++ "\n") s).append (ih _)
  · exact View.reports_empty s

/-- A fault is wrapped in one step or in two. -/
theorem mapError_mapError {ε ε' ε'' : Type} (f : ε → ε') (g : ε' → ε'') (x : Except ε α) :
    x.mapError (fun e => g (f e)) = (x.mapError f).mapError g := by
  cases x <;> rfl

/-- What is reported when the domain of a file is loaded. -/
def loadReports (file : Path) (content : Except StorageCause (List UInt8)) : List String :=
  match Domain.textOf file content with
  | .error _ => []
  | .ok text => (Domain.skippedInFile file text).map fun entry =>
    skippedReport file.toString entry.1 entry.2

/-- Make a domain of what reading its file gave. -/
def readDomain {m : Type → Type} [Monad m] [Host m] (a : Arguments) (file : Path)
    (content : Except StorageCause (List UInt8)) : ExceptT RunFault m Domain := do
  let text ← settle .load (Domain.textOf file content)
  debug (m := m) a ((Domain.skippedInFile file text).map fun entry =>
    skippedReport file.toString entry.1 entry.2)
  settle (fun fault => .load (.domain fault)) (Domain.ofText file text)

/-- A file that cannot be read as text is no domain. -/
theorem outcome_readDomain_error {file : Path} {content : Except StorageCause (List UInt8)}
    {fault : LoadFault} (h : Domain.textOf file content = .error fault) (s : S) :
    outcome (readDomain a file content) s = (.error (.load fault), s) := by
  rw [readDomain, h]
  exact outcome_bind_error (outcome_settle .load (.error fault) s)

/-- A text is made a domain behind the reports. -/
theorem outcome_readDomain_ok {file : Path} {content : Except StorageCause (List UInt8)}
    {text : String} (h : Domain.textOf file content = .ok text) (s : S) :
    outcome (readDomain a file content) s =
      ((Domain.ofText file text).mapError fun fault => .load (.domain fault),
        ((debug a (loadReports file content) : StateM S Unit).run s).2) := by
  rw [readDomain, loadReports, h, outcome_bind_ok (outcome_settle .load (.ok text) s),
    outcome_bind_ok (outcome_lift _ _), outcome_settle]

/-- Loading is reading a file and making a domain of it. -/
theorem outcome_loadDomain_eq (a : Arguments) (s : S) : outcome (loadDomain a) s =
    outcome (readDomain a (Path.ofString a.domain)
      ((Host.readFile (Path.ofString a.domain) : StateM S _).run s).1)
      ((Host.readFile (Path.ofString a.domain) : StateM S _).run s).2 := rfl

/-- The domain of a run is the one that is loaded. -/
theorem outcome_loadDomain (a : Arguments) (s : S) :
    (outcome (loadDomain a) s).1 = (loaded a s).mapError .load := by
  rw [outcome_loadDomain_eq, loaded_eq, Domain.ofFile]
  cases htext : Domain.textOf (Path.ofString a.domain) _ with
  | error fault =>
    rw [outcome_readDomain_error htext]
    rfl
  | ok text =>
    rw [outcome_readDomain_ok htext]
    dsimp only
    exact mapError_mapError LoadFault.domain RunFault.load _

/-- The line is marked as one that is reported only when that is asked for. -/
def IsDebugLine (line : String) : Prop := ∃ rest, line = "[DEBUG] " ++ rest

/-- The reports of skipped declarations are marked. -/
theorem isDebugLine_of_mem_loadReports {file : Path} {content : Except StorageCause (List UInt8)}
    {line : String} (h : line ∈ loadReports file content) : IsDebugLine line := by
  have hmarked : ∀ number keyword, IsDebugLine (skippedReport file.toString number keyword) := by
    intro number keyword
    have hmark : toString "[DEBUG] subsynth.domain: " = "[DEBUG] " ++ "subsynth.domain: " := by
      decide
    unfold skippedReport
    rw [hmark]
    simp only [String.append_assoc]
    exact ⟨_, rfl⟩
  rw [loadReports] at h
  split at h
  · cases h
  · rw [List.mem_map] at h
    obtain ⟨entry, hentry⟩ := h
    rw [← hentry.2]
    exact hmarked entry.1 entry.2

/-- Nothing but marked reports is to be seen of loading. -/
theorem reports_loadDomain (hview : view.Lawful) (a : Arguments) (s : S) :
    ∃ reports, (∀ line ∈ reports, IsDebugLine line) ∧
      view.Reports (debugText a reports) s (outcome (loadDomain a) s).2 := by
  have hread := hview.readFile (Path.ofString a.domain) s
  rw [outcome_loadDomain_eq]
  cases htext : Domain.textOf (Path.ofString a.domain)
      ((Host.readFile (Path.ofString a.domain) : StateM S _).run s).1 with
  | error fault =>
    rw [outcome_readDomain_error htext]
    refine ⟨[], List.forall_mem_nil _, ?_⟩
    rw [debugText, List.map_nil, String.join_nil, ite_self]
    exact hread
  | ok text =>
    rw [outcome_readDomain_ok htext]
    refine ⟨loadReports (Path.ofString a.domain)
      ((Host.readFile (Path.ofString a.domain) : StateM S _).run s).1,
      fun _ => isDebugLine_of_mem_loadReports, ?_⟩
    have h := hread.append (reports_debug (a := a) hview (loadReports (Path.ofString a.domain)
      ((Host.readFile (Path.ofString a.domain) : StateM S _).run s).1) _)
    rwa [String.empty_append] at h

/-! ## The two halves -/

/-- What is asked for over what was loaded: a domain, a setting with a generator, and a number of
programs. -/
def request (a : Arguments) (domain : Except LoadFault Domain) :
    Except RunFault (Domain × (Setting × Generator Twister) × Nat) := do
  let domain ← domain.mapError .load
  let prepared ← prepare a domain
  let count ← programCount a
  return (domain, prepared, count)

/-- What is asked for over a domain. -/
theorem request_ok (a : Arguments) (domain : Domain) : request a (.ok domain) = (do
    let prepared ← prepare a domain
    let count ← programCount a
    return (domain, prepared, count)) := rfl

/-- What is asked for over a domain is to be had: every value is there, and domain and setting are fit
for generation. -/
structure Prepares (a : Arguments) (domain : Domain) (setting : Setting) (g : Generator Twister) :
    Prop where
  policy : a.policy = some setting.policy
  minLength : a.minLength = some setting.minLength
  maxLength : a.maxLength = some setting.maxLength
  domain : domain.fault? = none
  setting : setting.fault? = none
  seed : ∃ seed, a.seed = some seed ∧ g = .new (.ofSeed seed)

/-- What is asked for is refused: the first thing amiss is with the domain, the bounds, or the number
of programs.  A value that is not there before it refuses nothing. -/
inductive Refused (a : Arguments) : Except LoadFault Domain → RunFault → Prop
  | load {fault : DomainFault} : Refused a (.error (.domain fault)) (.load (.domain fault))
  | schema {domain : Domain} {policy : Policy} {fault : SchemaFault} : a.policy = some policy →
      domain.fault? = some fault → Refused a (.ok domain) (.batch (.schema fault))
  | minimum {domain : Domain} {policy : Policy} {minLength : Int} : a.policy = some policy →
      domain.fault? = none → a.minLength = some minLength → minLength < 0 →
      Refused a (.ok domain) (.batch (.setting (.negativeMinimum minLength)))
  | bounds {domain : Domain} {policy : Policy} {minLength maxLength : Int} :
      a.policy = some policy → domain.fault? = none → a.minLength = some minLength →
      a.maxLength = some maxLength → 0 ≤ minLength → maxLength < minLength →
      Refused a (.ok domain) (.batch (.setting (.minimumAboveMaximum minLength maxLength)))
  | count {domain : Domain} {setting : Setting} {g : Generator Twister} {count : Int} :
      Prepares a domain setting g → a.count = some count → count < 0 →
      Refused a (.ok domain) (.batch (.negativeCount count))

/-- With policy and bounds at hand the setting decides, and then the seed. -/
theorem prepare_eq {a : Arguments} {domain : Domain} {setting : Setting}
    (hp : a.policy = some setting.policy) (hd : domain.fault? = none)
    (hmin : a.minLength = some setting.minLength) (hmax : a.maxLength = some setting.maxLength)
    (hneg : ¬setting.minLength < 0) : prepare a domain =
      match setting.fault? with
      | some fault => .error (.batch (.setting fault))
      | none => (demand .seed a.seed).map fun seed => (setting, .new (.ofSeed seed)) := by
  rw [prepare, hp, hd, hmin, hmax]
  refine (if_neg hneg).trans ?_
  cases ht : setting.fault? with
  | some fault => simp [demand, bind, Except.bind, throw, throwThe, MonadExceptOf.throw, ht]
  | none => simp [demand, bind, Except.bind, pure, Except.pure, Except.map, ht]

/-- Preparation succeeds when all is there and fit. -/
theorem Prepares.prepare_eq_ok {a : Arguments} {domain : Domain} {setting : Setting}
    {g : Generator Twister} (h : Prepares a domain setting g) :
    prepare a domain = .ok (setting, g) := by
  obtain ⟨seed, hseed, rfl⟩ := h.seed
  have hmin := (setting.fault?_eq_none_iff.mp h.setting).1
  rw [prepare_eq h.policy h.domain h.minLength h.maxLength (by omega), h.setting, hseed]
  rfl

/-- Preparation succeeds with all there and fit, or ends with a fault, which is a refusal if it is
reported. -/
theorem prepare_spec (a : Arguments) (domain : Domain) :
    (∃ setting g, Prepares a domain setting g) ∨
      ∃ fault, prepare a domain = .error fault ∧
        (fault.isReported = true → Refused a (.ok domain) fault) := by
  cases hp : a.policy with
  | none => exact .inr ⟨.noValue .policy, by rw [prepare, hp]; rfl, nofun⟩
  | some policy =>
    cases hd : domain.fault? with
    | some fault => exact .inr ⟨_, by rw [prepare, hp, hd]; rfl, fun _ => .schema hp hd⟩
    | none =>
      cases hmin : a.minLength with
      | none => exact .inr ⟨.noValue .minLength, by rw [prepare, hp, hd, hmin]; rfl, nofun⟩
      | some minLength =>
        by_cases hneg : minLength < 0
        · refine .inr ⟨_, ?_, fun _ => .minimum hp hd hmin hneg⟩
          rw [prepare, hp, hd, hmin]
          exact if_pos hneg
        · cases hmax : a.maxLength with
          | none =>
            refine .inr ⟨.noValue .maxLength, ?_, nofun⟩
            rw [prepare, hp, hd, hmin, hmax]
            exact if_neg hneg
          | some maxLength =>
            let setting : Setting := ⟨minLength, maxLength, policy⟩
            have hprepare := @prepare_eq a domain setting hp hd hmin hmax hneg
            by_cases hlt : maxLength < minLength
            · refine .inr ⟨_, ?_, fun _ => .bounds hp hd hmin hmax (by omega) hlt⟩
              rw [hprepare, Setting.fault?, if_neg hneg, if_pos hlt]
            · have hfit : setting.fault? = none := by
                rw [Setting.fault?, if_neg hneg, if_neg hlt]
              rw [hfit] at hprepare
              cases hs : a.seed with
              | none => exact .inr ⟨.noValue .seed, by rw [hprepare, hs]; rfl, nofun⟩
              | some seed => exact .inl ⟨setting, _, hp, hmin, hmax, hd, hfit, seed, hs, rfl⟩

/-- The number of programs is one that is not negative. -/
theorem programCount_eq {a : Arguments} {count : Int} (h : a.count = some count) :
    programCount a = if count < 0 then .error (.batch (.negativeCount count)) else
      .ok count.toNat := by
  rw [programCount, h]
  by_cases hneg : count < 0
  · rw [if_pos hneg]
    exact if_pos hneg
  · rw [if_neg hneg]
    exact if_neg hneg

/-- What is asked for is to be had, with a number of programs that is not negative. -/
theorem Prepares.request_eq_ok {a : Arguments} {domain : Domain} {setting : Setting}
    {g : Generator Twister} (h : Prepares a domain setting g) {count : Nat}
    (hc : a.count = some (count : Int)) : request a (.ok domain) = .ok (domain, (setting, g), count) := by
  rw [request_ok, h.prepare_eq_ok, programCount_eq hc,
    if_neg (Int.not_lt.mpr (Int.natCast_nonneg count))]
  rfl

/-- What is asked for is to be had, or there is a fault, which is a refusal if it is reported. -/
theorem request_spec (a : Arguments) (l : Except LoadFault Domain) :
    (∃ domain setting g, ∃ count : Nat, l = .ok domain ∧ Prepares a domain setting g ∧
      a.count = some (count : Int) ∧ request a l = .ok (domain, (setting, g), count)) ∨
    ∃ fault, request a l = .error fault ∧ (fault.isReported = true → Refused a l fault) := by
  cases l with
  | error fault =>
    refine .inr ⟨.load fault, rfl, fun hreported => ?_⟩
    cases fault with
    | domain fault => exact .load
    | nullCharacter => cases hreported
    | notText fault => cases hreported
  | ok domain =>
    rcases prepare_spec a domain with ⟨setting, g, hprepares⟩ | ⟨fault, hprepare, hrefused⟩
    · cases hcount : a.count with
      | none =>
        refine .inr ⟨.noValue .count, ?_, nofun⟩
        rw [request_ok, hprepares.prepare_eq_ok, programCount, hcount]
        rfl
      | some count =>
        by_cases hneg : count < 0
        · refine .inr ⟨_, ?_, fun _ => .count hprepares hcount hneg⟩
          rw [request_ok, hprepares.prepare_eq_ok, programCount_eq hcount, if_pos hneg]
          rfl
        · obtain ⟨n, rfl⟩ := Int.eq_ofNat_of_zero_le (Int.not_lt.mp hneg)
          exact .inl ⟨domain, setting, g, n, rfl, hprepares, rfl, hprepares.request_eq_ok hcount⟩
    · rw [request_ok, hprepare]
      exact .inr ⟨fault, rfl, hrefused⟩

/-- What is refused is not to be had, and the refusal is reported. -/
theorem Refused.request_eq {a : Arguments} {l : Except LoadFault Domain} {fault : RunFault}
    (h : Refused a l fault) : request a l = .error fault ∧ fault.isReported = true := by
  cases h with
  | load => exact ⟨rfl, rfl⟩
  | schema hp hd => exact ⟨by rw [request_ok, prepare, hp, hd]; rfl, rfl⟩
  | @minimum domain policy minLength hp hd hmin hneg =>
    have hprepare : prepare a domain = .error (.batch (.setting (.negativeMinimum minLength))) := by
      rw [prepare, hp, hd, hmin]
      exact if_pos hneg
    exact ⟨by rw [request_ok, hprepare]; rfl, rfl⟩
  | @bounds domain policy minLength maxLength hp hd hmin hmax hle hlt =>
    have hprepare := @prepare_eq a domain ⟨minLength, maxLength, policy⟩ hp hd hmin hmax
      (Int.not_lt.mpr hle)
    rw [Setting.fault?, if_neg (Int.not_lt.mpr hle), if_pos hlt] at hprepare
    exact ⟨by rw [request_ok, hprepare]; rfl, rfl⟩
  | count hprepares hcount hneg =>
    refine ⟨?_, rfl⟩
    rw [request_ok, hprepares.prepare_eq_ok, programCount_eq hcount, if_pos hneg]
    rfl

/-- Do what is asked for over a domain. -/
def carryOut {m : Type → Type} [Monad m] [Host m] (a : Arguments) (domain : Domain)
    (setting : Setting) (g : Generator Twister) (count : Nat) : ExceptT RunFault m Unit := do
  let directory ← settle id ((demand .path a.directory).map Path.ofString)
  attempt .storage (ensureDirectory directory)
  let written ← writePrograms a domain setting directory 0 count (.waiting count) g
  Host.print (m := m) (summary written (directory.absolute (← Host.workingDirectory (m := m))))

/-- A run first loads and looks at what is asked of it, and ends there if that is not to be had. -/
theorem outcome_execute (a : Arguments) (s : S) : outcome (execute a) s =
    match request a (loaded a s) with
    | .error fault => (.error fault, (outcome (loadDomain a) s).2)
    | .ok (domain, (setting, g), count) =>
      outcome (carryOut a domain setting g count) (outcome (loadDomain a) s).2 := by
  have hload := outcome_loadDomain a s
  rcases hfront : outcome (loadDomain a) s with ⟨result, s'⟩
  rw [hfront] at hload
  subst hload
  rw [execute]
  cases hloaded : loaded a s with
  | error fault =>
    rw [hloaded] at hfront
    exact outcome_bind_error hfront
  | ok domain =>
    rw [hloaded] at hfront
    rw [outcome_bind_ok hfront, request_ok]
    cases hprepare : prepare a domain with
    | error fault => exact outcome_bind_error (outcome_settle id (.error fault) s')
    | ok prepared =>
      rw [outcome_bind_ok (outcome_settle id (.ok prepared) s')]
      cases hcount : programCount a with
      | error fault => exact outcome_bind_error (outcome_settle id (.error fault) s')
      | ok count => exact outcome_bind_ok (outcome_settle id (.ok count) s')

/-- A command line that is understood is executed, and a fault that is to be reported is. -/
theorem run_eq {environment : String → Option String} {words : List String} {d : Defaults}
    {a : Arguments} (hd : Defaults.ofEnvironment environment = .ok d)
    (ha : Arguments.parse d words = .ok a) (s : S) :
    (run environment words : StateM S Ending).run s =
      match outcome (execute a) s with
      | (.ok (), s') => (.exit 0, s')
      | (.error fault, s') =>
        if fault.isReported then
          (.exit 1, ((Host.report s!"Error: {fault.message}\n" : StateM S Unit).run s').2)
        else (.abort fault, s') := by
  rw [run, hd]
  dsimp only
  rw [ha]
  dsimp only
  rw [StateT.run_bind]
  rcases hr : outcome (execute a) s with ⟨fault | _, s'⟩
  · rw [show (execute a : ExceptT RunFault (StateM S) Unit).run.run s = (.error fault, s') from hr]
    dsimp only
    by_cases hreported : fault.isReported = true
    · rw [if_pos hreported]
      exact congrArg (fun c : StateM S Ending => c.run s') (if_pos hreported)
    · rw [if_neg hreported]
      exact congrArg (fun c : StateM S Ending => c.run s') (if_neg hreported)
  · rw [show (execute a : ExceptT RunFault (StateM S) Unit).run.run s = (.ok (), s') from hr]
    rfl

end CommandLine

end Substance
