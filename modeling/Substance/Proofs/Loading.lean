import Substance.Proofs.Bytes
import Substance.Proofs.Lexical
import Substance.Proofs.Newlines
import Substance.Proofs.Outcome

/-!
# What is loaded from a file

A file that holds the bytes of a text is read as this text would be, since carriage returns end
lines either way.  Whatever else is wrong with a file is told with its path, but for one thing:
bytes that are those of no text break the run off.

* `parse_unifyNewlines`: carriage returns may be written as line feeds.
* `load_eq_ofNotation`: loading a file in the notation of domains.
* `told_ofFile_iff`: which outcomes are told.
* `outcome_execute_of_load_error`: how a run ends when loading fails.
* `told_iff_holdsText`: what is told of a domain that cannot be loaded.
-/

namespace Substance

open Text

variable {p : Path} {text : String} {content : Except StorageCause (List UInt8)}

/-! ## Texts of files -/

/-- Carriage returns may be written as line feeds in a domain. -/
theorem parse_unifyNewlines (text : String) :
    Schema.parse (String.ofList (unifyNewlines text.toList)) = Schema.parse text := by
  rw [Schema.parse, Schema.parse, String.toList_ofList, lines_unifyNewlines]

/-- The bytes of a text are read as this text, with line feeds for carriage returns. -/
theorem textOf_encode (p : Path) (text : String) :
    Domain.textOf p (.ok (Utf8.encode text)) =
      .ok (String.ofList (unifyNewlines text.toList)) := by
  rw [Domain.textOf, Utf8.decode_encode]

/-- A file in the notation of domains holds what the text of its bytes writes. -/
theorem ofFile_encode (hsuffix : p.suffix ≠ ".json") (text : String) :
    Domain.ofFile p (.ok (Utf8.encode text)) =
      ((Domain.ofNotation p.toString text).map .schema).mapError .domain := by
  have hplain : Domain.isPlainFile p = false := by simpa [Domain.isPlainFile] using hsuffix
  rw [Domain.ofFile, textOf_encode]
  dsimp only
  rw [Domain.ofText, hplain, if_neg Bool.false_ne_true, Domain.ofNotation, parse_unifyNewlines]
  rfl

/-- A file that is not of plain data and holds the bytes of a text is loaded as this text is read for
the path of the file: as the same schema, or with the same fault in the same line. -/
theorem load_eq_ofNotation {S : Type} [Host (StateM S)] {s s' : S} (hsuffix : p.suffix ≠ ".json")
    (hread : (Host.readFile p : StateM S _).run s = (.ok (Utf8.encode text), s')) :
    (Domain.load p : StateM S _).run s =
      (((Domain.ofNotation p.toString text).map .schema).mapError .domain, s') := by
  rw [Domain.load, StateT.run_bind, hread, ← ofFile_encode hsuffix]
  rfl

/-- A world with one file. -/
def World.ofFile (name : String) (content : List UInt8) : World where
  tree := ⟨[([name], .file content)]⟩
  workingDirectory := ⟨1, []⟩
  printed := ""
  reported := ""

/-- The text of a domain whose lines end in several ways, and which declares a predicate twice. -/
def mixedEndsText : String := "type A\r\r\npredicate P\u2028predicate P\r"

/-- The predicate is found to be declared twice in the fourth line, by either way to read the line
ends. -/
theorem load_eq_ofNotation_mixedEnds :
    ((Domain.load (.ofString "./mixed.dsl") : StateM World _).run
      (.ofFile "mixed.dsl" (Utf8.encode mixedEndsText))).1 =
    .error (.domain ⟨"mixed.dsl", .line ⟨4, .declaredTwice "P"⟩⟩) := by
  have hread : (Host.readFile (.ofString "./mixed.dsl") : StateM World _).run
      (.ofFile "mixed.dsl" (Utf8.encode mixedEndsText)) =
      (.ok (Utf8.encode mixedEndsText), .ofFile "mixed.dsl" (Utf8.encode mixedEndsText)) := rfl
  have hparse : Domain.ofNotation (Path.ofString "./mixed.dsl").toString mixedEndsText =
      .error ⟨"mixed.dsl", .line ⟨4, .declaredTwice "P"⟩⟩ := by decide +kernel
  rw [load_eq_ofNotation (by decide +kernel) hread, hparse]
  rfl

/-! ## Faults of files -/

/-- A fault that ends loading is told with the path of the file. -/
def Told (p : Path) (l : Except LoadFault Domain) : Prop :=
  ∀ fault, l = .error fault → ∃ cause, fault = .domain ⟨p.toString, cause⟩

/-- If reading gave bytes, they are those of a text. -/
def HoldsText (content : Except StorageCause (List UInt8)) : Prop :=
  ∀ bytes, content = .ok bytes → ∃ text, bytes = Utf8.encode text

/-- What is wrong with the text of a file is found in this file. -/
theorem file_of_ofText {fault : DomainFault} (h : Domain.ofText p text = .error fault) :
    fault.file = p.toString := by
  rw [Domain.ofText] at h
  split at h
  · rw [Domain.ofJson] at h
    split at h
    · cases h
      rfl
    · split at h
      · cases h
        rfl
      · cases h
  · rw [Domain.ofNotation] at h
    split at h
    · cases h
    · cases h
      rfl

/-- A file that could be opened gives a text, or is told to be unreadable; or else its bytes are those
of no text. -/
theorem textOf_cases (hnull : content ≠ .error .nullCharacter) :
    (HoldsText content ∧ ((∃ text, Domain.textOf p content = .ok text) ∨
      ∃ cause, Domain.textOf p content = .error (.domain ⟨p.toString, .unreadable cause⟩))) ∨
    (¬HoldsText content ∧ ∃ fault, Domain.textOf p content = .error (.notText fault)) := by
  cases content with
  | error cause =>
    refine .inl ⟨nofun, .inr ⟨cause, ?_⟩⟩
    cases cause with
    | nullCharacter => exact absurd rfl hnull
    | _ => rfl
  | ok bytes =>
    rw [Domain.textOf]
    cases hdecode : Utf8.decode bytes with
    | ok chars =>
      refine .inl ⟨?_, .inl ⟨_, rfl⟩⟩
      rintro _ ⟨⟩
      exact ⟨String.ofList chars, Utf8.decode_eq_ok_iff.mp hdecode⟩
    | error fault =>
      refine .inr ⟨fun h => ?_, fault, rfl⟩
      obtain ⟨text, rfl⟩ := h bytes rfl
      have hok := Utf8.decode_encode text
      rw [hdecode] at hok
      cases hok

/-- What is wrong with a file is told, just if it does not hold bytes that are those of no text. -/
theorem told_ofFile_iff (hnull : content ≠ .error .nullCharacter) :
    Told p (Domain.ofFile p content) ↔ HoldsText content := by
  rw [Domain.ofFile]
  rcases textOf_cases (p := p) hnull with ⟨hholds, ⟨text, h⟩ | ⟨cause, h⟩⟩ | ⟨hnot, fault, h⟩
  · refine iff_of_true (fun fault hf => ?_) hholds
    rw [h] at hf
    dsimp only at hf
    cases ht : Domain.ofText p text with
    | ok domain =>
      rw [ht] at hf
      cases hf
    | error found =>
      rw [ht] at hf
      cases hf
      exact ⟨found.cause, by rw [← file_of_ofText ht]⟩
  · refine iff_of_true (fun fault hf => ?_) hholds
    rw [h] at hf
    cases hf
    exact ⟨_, rfl⟩
  · refine iff_of_false (fun htold => ?_) hnot
    rw [h] at htold
    obtain ⟨cause, hcause⟩ := htold _ rfl
    cases hcause

/-- Bytes that are those of no text are a fault that is not told. -/
theorem exists_notText_of_ofFile (hnull : content ≠ .error .nullCharacter)
    (hnot : ¬HoldsText content) : ∃ fault, Domain.ofFile p content = .error (.notText fault) := by
  rcases textOf_cases (p := p) hnull with ⟨hholds, -⟩ | ⟨-, fault, h⟩
  · exact absurd hholds hnot
  · exact ⟨fault, by rw [Domain.ofFile, h]⟩

/-! ## Null characters -/

/-- But for slashes and dots, the characters of a path are among those of the text that writes it. -/
theorem Path.notMem_toString_ofString {c : Char} (hslash : c ≠ '/') (hdot : c ≠ '.')
    (h : c ∉ text.toList) : c ∉ (Path.ofString text).toString.toList := by
  rw [Path.toString]
  split
  · simpa using hdot
  · have hnames : ∀ name ∈ (Path.ofString text).names.map String.toList, c ∉ name := by
      intro _ hm hc
      obtain ⟨name, hname, rfl⟩ := List.mem_map.mp hm
      obtain ⟨part, hpart, rfl⟩ := List.mem_map.mp (List.mem_filter.mp hname).1
      rw [String.toList_ofList] at hc
      exact h (mem_of_mem_splitOn hpart hc)
    have hmiddle := notMem_intercalate (show c ∉ ['/'] by simpa using hslash) hnames
    simpa [List.mem_replicate, hslash] using hmiddle

/-- A path is refused for a null character only if it holds one. -/
def RefusesNull (S : Type) [Host (StateM S)] : Prop :=
  ∀ (p : Path) (s : S), ((Host.readFile p : StateM S _).run s).1 = .error .nullCharacter →
    '\x00' ∈ p.toString.toList

/-- On the way through a tree nothing is refused for a null character. -/
theorem Tree.walk_ne_nullCharacter (t : Tree) (names : List String) :
    ∀ here, t.walk here names ≠ .error .nullCharacter := by
  induction names with
  | nil => nofun
  | cons name names ih =>
    intro here
    rw [Tree.walk]
    split
    · nofun
    · nofun
    · split
      · exact ih _
      · split
        · nofun
        · exact ih _

/-- In a world paths are refused for the null characters that they hold. -/
theorem World.refusesNull : RefusesNull World := by
  intro p w h
  by_contra hnot
  change w.tree.readFile w.workingDirectory p = .error .nullCharacter at h
  rw [Tree.readFile] at h
  cases hlocate : w.tree.locate w.workingDirectory p with
  | error cause =>
    rw [hlocate] at h
    cases h
    rw [Tree.locate, if_neg hnot] at hlocate
    split at hlocate
    · cases hlocate
    · exact w.tree.walk_ne_nullCharacter _ _ hlocate
  | ok place =>
    rw [hlocate] at h
    simp only [bind, Except.bind] at h
    split at h <;> cases h

/-! ## Runs -/

namespace CommandLine

variable {S φ ψ : Type} [Host (StateM S)] {view : View S φ ψ}
  {environment : String → Option String} {words : List String} {d : Defaults} {a : Arguments}
  {s : S}

/-- A run that cannot load its domain ends with this fault. -/
theorem outcome_execute_of_load_error {fault : LoadFault} (h : loaded a s = .error fault) :
    outcome (execute a) s = (.error (.load fault), (outcome (loadDomain a) s).2) := by
  rw [outcome_execute, h]
  rfl

/-- The run reports a fault, behind those lines that are only made when they are asked for, and ends
with the exit code one. -/
def EndsWithError (view : View S φ ψ) (a : Arguments) (fault : LoadFault) (s : S)
    (ended : Ending × S) : Prop :=
  ended.1 = .exit 1 ∧ ∃ lines, (∀ line ∈ lines, IsDebugLine line) ∧
    view.Reports (debugText a lines ++ s!"Error: {fault.message}\n") s ended.2

/-- The run is broken off by a fault, of which nothing is reported. -/
def BreaksOff (view : View S φ ψ) (a : Arguments) (fault : LoadFault) (s : S)
    (ended : Ending × S) : Prop :=
  ended.1 = .abort (.load fault) ∧ ∃ lines, (∀ line ∈ lines, IsDebugLine line) ∧
    view.Reports (debugText a lines) s ended.2

/-- A fault that is told is reported. -/
theorem endsWithError_of_loaded (hview : view.Lawful)
    (hd : Defaults.ofEnvironment environment = .ok d) (ha : Arguments.parse d words = .ok a)
    {fault : DomainFault} (h : loaded a s = .error (.domain fault)) :
    EndsWithError view a (.domain fault) s ((run environment words : StateM S Ending).run s) := by
  obtain ⟨lines, hlines, hreports⟩ := reports_loadDomain hview a s
  rw [run_eq hd ha, outcome_execute_of_load_error h]
  exact ⟨rfl, lines, hlines, hreports.append (hview.report _ _)⟩

/-- Bytes that are those of no text break the run off. -/
theorem breaksOff_of_loaded (hview : view.Lawful)
    (hd : Defaults.ofEnvironment environment = .ok d) (ha : Arguments.parse d words = .ok a)
    {fault : Utf8.Fault} (h : loaded a s = .error (.notText fault)) :
    BreaksOff view a (.notText fault) s ((run environment words : StateM S Ending).run s) := by
  obtain ⟨lines, hlines, hreports⟩ := reports_loadDomain hview a s
  rw [run_eq hd ha, outcome_execute_of_load_error h]
  exact ⟨rfl, lines, hlines, hreports⟩

/-- Whatever keeps a domain from being loaded is told with the path of its file, just if the file
does not hold bytes that are those of no text.  If it is told, a run over the file reports it and
ends with the exit code one; if not, the run is broken off. -/
theorem told_iff_holdsText (hview : view.Lawful) (hnull : RefusesNull S) (path : String)
    (hpath : '\x00' ∉ path.toList) (s : S) :
    let content := ((Host.readFile (Path.ofString path) : StateM S _).run s).1
    let result := ((Domain.load (Path.ofString path) : StateM S _).run s).1
    (Told (Path.ofString path) result ↔ HoldsText content) ∧
    ∀ environment words d a, Defaults.ofEnvironment environment = .ok d →
      Arguments.parse d words = .ok a → a.domain = path →
      let ended := (run environment words : StateM S Ending).run s
      (∀ fault, result = .error fault → HoldsText content →
        EndsWithError view a fault s ended) ∧
      (¬HoldsText content →
        ∃ fault, result = .error (.notText fault) ∧ BreaksOff view a (.notText fault) s ended) := by
  intro content result
  have hopened : content ≠ .error .nullCharacter := fun h =>
    Path.notMem_toString_ofString (by decide) (by decide) hpath (hnull _ s h)
  have hresult : result = Domain.ofFile (Path.ofString path) content := by
    simp only [result, Domain.load, StateT.run_bind]
    rfl
  have htold : Told (Path.ofString path) result ↔ HoldsText content :=
    hresult ▸ told_ofFile_iff hopened
  refine ⟨htold, ?_⟩
  rintro environment words d a hd ha rfl ended
  constructor
  · intro fault hfault hholds
    obtain ⟨cause, rfl⟩ := htold.mpr hholds fault hfault
    exact endsWithError_of_loaded hview hd ha hfault
  · intro hnot
    obtain ⟨fault, hfault⟩ := exists_notText_of_ofFile (p := Path.ofString a.domain) hopened hnot
    exact ⟨fault, hresult.trans hfault, breaksOff_of_loaded hview hd ha (hresult.trans hfault)⟩

/-- A world with a file whose second line is no line of a domain. -/
def bogusWorld : World := .ofFile "bogus.dsl" (Utf8.encode "type A\nbogus line\n")

/-- A world with a file of one byte, which is that of no text. -/
def strayWorld : World := .ofFile "stray.dsl" [0xFF]

/-- The line that is no line of a domain is reported with its file. -/
theorem told_iff_holdsText_bogus :
    let ended := (run (fun _ => none) ["bogus.dsl"] : StateM World Ending).run bogusWorld
    ended.1 = .exit 1 ∧ ended.2.tree = bogusWorld.tree ∧
      ended.2.reported = "Error: bogus.dsl:2: unrecognised declaration 'bogus line'\n" := by
  let a : Arguments := .initial .standard "bogus.dsl"
  let fault : DomainFault := ⟨"bogus.dsl", .line ⟨2, .unrecognised "bogus line"⟩⟩
  have hd : Defaults.ofEnvironment (fun _ => none) = .ok .standard :=
    Defaults.ofEnvironment_of_unset rfl rfl
  have ha : Arguments.parse .standard ["bogus.dsl"] = .ok a := by decide +kernel
  have hread : ((Host.readFile (.ofString "bogus.dsl") : StateM World _).run bogusWorld).1 =
      .ok (Utf8.encode "type A\nbogus line\n") := by decide +kernel
  have hparse : Domain.ofNotation (Path.ofString "bogus.dsl").toString "type A\nbogus line\n" =
      .error fault := by decide +kernel
  have hload : ((Domain.load (.ofString "bogus.dsl") : StateM World _).run bogusWorld).1 =
      .error (.domain fault) := by
    have hfile := ofFile_encode (p := .ofString "bogus.dsl") (by decide +kernel)
      "type A\nbogus line\n"
    rw [hparse, ← hread] at hfile
    exact hfile
  have hholds : HoldsText
      ((Host.readFile (.ofString "bogus.dsl") : StateM World _).run bogusWorld).1 := by
    rw [hread]
    rintro _ ⟨⟩
    exact ⟨_, rfl⟩
  obtain ⟨-, hruns⟩ := told_iff_holdsText World.view_lawful World.refusesNull "bogus.dsl"
    (by decide) bogusWorld
  obtain ⟨hexit, lines, -, hreports⟩ := (hruns _ _ _ a hd ha rfl).1 _ hload hholds
  have hquiet : debugText a lines = "" := rfl
  have hmessage : "" ++ ("" ++ s!"Error: {fault.message}\n") =
      "Error: bogus.dsl:2: unrecognised declaration 'bogus line'\n" := by decide +kernel
  rw [hquiet] at hreports
  obtain ⟨htree, -, -⟩ := World.eq_of_reports hreports
  exact ⟨hexit, htree, hreports.reported.trans hmessage⟩

/-- A byte that is that of no text is no null character, and yet what is wrong is not told: the run is
broken off by a fault of decoding. -/
theorem not_told_stray : '\x00' ∉ "stray.dsl".toList ∧
    ¬Told (.ofString "stray.dsl")
      ((Domain.load (.ofString "stray.dsl") : StateM World _).run strayWorld).1 ∧
    ((run (fun _ => none) ["stray.dsl"] : StateM World Ending).run strayWorld).1 =
      .abort (.load (.notText ⟨0, [0xFF], .invalidStart⟩)) := by
  let a : Arguments := .initial .standard "stray.dsl"
  have hd : Defaults.ofEnvironment (fun _ => none) = .ok .standard :=
    Defaults.ofEnvironment_of_unset rfl rfl
  have ha : Arguments.parse .standard ["stray.dsl"] = .ok a := by decide +kernel
  have hread : ((Host.readFile (.ofString "stray.dsl") : StateM World _).run strayWorld).1 =
      .ok [0xFF] := by decide +kernel
  have htext : Domain.textOf (.ofString "stray.dsl") (.ok [0xFF]) =
      .error (.notText ⟨0, [0xFF], .invalidStart⟩) := by decide +kernel
  have hload : loaded a strayWorld = .error (.notText ⟨0, [0xFF], .invalidStart⟩) := by
    have hdomain : a.domain = "stray.dsl" := rfl
    rw [loaded_eq, hdomain, hread, Domain.ofFile, htext]
  refine ⟨by decide, fun htold => ?_, ?_⟩
  · obtain ⟨cause, hcause⟩ := htold _ hload
    cases hcause
  · exact (breaksOff_of_loaded World.view_lawful hd ha hload).1

end CommandLine

end Substance
