import Substance.Proofs.Journal
import Substance.Proofs.Refusal
import Substance.Proofs.Streams

/-!
# What a run delivers

A run that succeeds writes a batch: each program to the file of its number, and nothing else.  It asks
for programs one at a time and writes each before it asks for the next, while a batch is generated at
once; both take the same steps, so they come to the same programs.

* `toString_child_fileName_inj`, `World.not_meet_child_fileName`: the files of a directory are told
  apart, by their paths and, where there are no links, by the places that these lead to.
* `FileView.Saves`: programs are written to the files of a directory, one after the other.
* `FileView.Delivers`: what is to be found of a batch afterwards, links or none.
* `writePrograms_ok`: what is written is what is collected at once.
* `exists_run_exit_zero`: a run succeeds in a world where its files can be written.
* `run_exit_zero`: what a run that succeeds delivers, on any host that obeys the laws of files.
-/

namespace Substance

open Substance.Random

/-! ## Names of files -/

/-- The name of the file of a program. -/
def fileName (number : Nat) : String := s!"prog-{number}.sub"

/-- The file of a program has a name in its directory. -/
theorem programFile_eq (directory : Path) (number : Nat) :
    programFile directory number = directory.child (fileName number) := rfl

/-- Different programs have different names of files. -/
theorem fileName_inj {m n : Nat} (h : fileName m = fileName n) : m = n := by
  have hl := congrArg String.toList h
  rw [fileName, fileName, String.toList_append, String.toList_append, String.toList_append,
    String.toList_append] at hl
  have hdigits := List.append_cancel_left (List.append_cancel_right hl)
  have hn := congrArg (fun l => Nat.ofDigitChars 10 l 0) hdigits
  simpa [toString, Nat.repr] using hn

/-- The name of a file does not lead back. -/
theorem fileName_ne (number : Nat) : fileName number ≠ ".." := by
  intro h
  have hl := congrArg (fun s => s.toList.head?) h
  have hstem : (toString "prog-").toList = ['p', 'r', 'o', 'g', '-'] := rfl
  simp [fileName, hstem] at hl

/-- A last name stands at the end of the text of a path. -/
theorem exists_toString_child (p : Path) :
    ∃ front, ∀ name, (p.child name).toString = front ++ name := by
  have hnames : ∀ names : List String, ∃ front, ∀ name,
      "/".intercalate (names ++ [name]) = front ++ name := by
    intro names
    induction names with
    | nil => exact ⟨"", fun name => by simp⟩
    | cons first names ih =>
      obtain ⟨front, hfront⟩ := ih
      refine ⟨first ++ "/" ++ front, fun name => ?_⟩
      obtain ⟨second, rest, hrest⟩ := List.exists_cons_of_ne_nil
        (List.append_ne_nil_of_right_ne_nil names (List.cons_ne_nil name []))
      rw [List.cons_append, hrest, String.intercalate_cons_cons, ← hrest, hfront]
      simp only [String.append_assoc]
  obtain ⟨front, hfront⟩ := hnames p.names
  refine ⟨String.ofList (List.replicate p.slashes '/') ++ front, fun name => ?_⟩
  rw [Path.toString, if_neg fun h => List.append_ne_nil_of_right_ne_nil _ (List.cons_ne_nil _ _) h.2,
    Path.child, hfront, String.append_assoc]

/-- The files of different programs are written differently. -/
theorem toString_child_fileName_inj {directory : Path} {m n : Nat}
    (h : (directory.child (fileName m)).toString = (directory.child (fileName n)).toString) :
    m = n := by
  obtain ⟨front, hfront⟩ := exists_toString_child directory
  rw [hfront, hfront] at h
  exact fileName_inj (String.append_right_inj _ |>.mp h)

/-- The files of a batch are written differently. -/
theorem nodup_toString_child_fileName (directory : Path) (count : Nat) :
    ((List.range count).map fun i => (directory.child (fileName (i + 1))).toString).Nodup := by
  refine List.Pairwise.map _ (fun m n hne h => hne ?_) List.nodup_range
  exact Nat.succ.inj (toString_child_fileName_inj h)

/-! ## Programs that are saved -/

namespace FileView

variable {φ ι : Type} {files : FileView φ ι} {directory : Path} {k : Nat} {batch : List Program}
  {f f' f'' : φ} {thing : ι}

/-- Programs are written to the files of a directory one after the other.  The number is that of the
programs whose files come before. -/
inductive Saves (files : FileView φ ι) (directory : Path) : Nat → List Program → φ → φ → Prop
  | nil {k : Nat} {f : φ} : Saves files directory k [] f f
  | cons {k : Nat} {p : Program} {batch : List Program} {f f' f'' : φ} {thing : ι} :
      files.leadsTo f' (directory.child (fileName (k + 1))) = some thing →
      files.Changes f thing (.file p.format.toUTF8.data.toList) f' →
      Saves files directory (k + 1) batch f' f'' → Saves files directory k (p :: batch) f f''

/-- Where programs are saved paths lead where they led. -/
theorem Saves.keeps (h : files.Saves directory k batch f f') : files.Keeps f f' := by
  induction h with
  | nil => exact .refl _
  | cons _ hc _ ih => exact hc.toKeeps.trans ih

/-- Saved programs change nothing but the files that their paths lead to. -/
theorem Saves.others (h : files.Saves directory k batch f f')
    (hother : ∀ i < batch.length,
      files.leadsTo f' (directory.child (fileName (k + i + 1))) ≠ some thing) :
    files.at? f' thing = files.at? f thing := by
  induction h with
  | nil => rfl
  | @cons k p batch f f' f'' first hp hc hs ih =>
    have hne : thing ≠ first := by
      rintro rfl
      exact hother 0 (Nat.succ_pos _) (hs.keeps.leadsTo _ _ hp)
    rw [ih fun i hi => ?_, hc.others thing hne]
    rw [Nat.add_right_comm k 1 i]
    exact hother (i + 1) (Nat.succ_lt_succ hi)

/-- A saved program stands in its file, unless one behind it went to the same file. -/
theorem Saves.holds (h : files.Saves directory k batch f f') (i : Nat) (hi : i < batch.length)
    (hlast : ∀ j < batch.length, i < j → ¬files.Meet f'
      (directory.child (fileName (k + i + 1))) (directory.child (fileName (k + j + 1)))) :
    files.Holds f' (directory.child (fileName (k + i + 1)))
      batch[i].format.toUTF8.data.toList := by
  induction h generalizing i with
  | nil => exact absurd hi (Nat.not_lt_zero i)
  | @cons k p batch f f' f'' thing hp hc hs ih =>
    cases i with
    | succ i =>
      have hrest := ih i (Nat.lt_of_succ_lt_succ hi) fun j hj hij => by
        rw [Nat.add_right_comm k 1 i, Nat.add_right_comm k 1 j]
        exact hlast (j + 1) (Nat.succ_lt_succ hj) (Nat.succ_lt_succ hij)
      rwa [Nat.add_right_comm k 1 i] at hrest
    | zero =>
      -- the paths of the other programs lead elsewhere, so what was written first stays
      have hp'' := hs.keeps.leadsTo _ _ hp
      refine ⟨thing, hp'', ?_⟩
      rw [hs.others fun j hj hjthing => ?_, hc.new]
      · rfl
      · rw [Nat.add_right_comm k 1 j] at hjthing
        exact hlast (j + 1) (Nat.succ_lt_succ hj) (Nat.succ_pos j) ⟨thing, hp'', hjthing⟩

/-! ## Batches that are delivered -/

/-- A batch is delivered to a directory: the files of its programs are told apart by their paths, and
each of these leads to a file with the text of its program, unless links make the path of a later
program lead to the same file.  Paths lead where they led, and nothing else is changed but that
directories on the way to the directory were made where nothing stood. -/
structure Delivers (files : FileView φ ι) (directory : Path) (batch : List Program) (f f' : φ) :
    Prop extends files.Keeps f f' where
  nodup : ((List.range batch.length).map fun i =>
    (directory.child (fileName (i + 1))).toString).Nodup
  holds (i : Nat) (hi : i < batch.length) :
    (∀ j < batch.length, i < j → ¬files.Meet f'
      (directory.child (fileName (i + 1))) (directory.child (fileName (j + 1)))) →
    files.Holds f' (directory.child (fileName (i + 1))) batch[i].format.toUTF8.data.toList
  others (thing : ι) :
    (∀ i < batch.length, files.leadsTo f' (directory.child (fileName (i + 1))) ≠ some thing) →
    files.at? f' thing = files.at? f thing ∨
    files.at? f thing = none ∧ files.at? f' thing = some .directory ∧ files.OnWay f' directory thing

/-- A batch is delivered when its programs are saved to a directory that was made. -/
theorem Makes.delivers (hm : files.Makes directory f f') (hs : files.Saves directory 0 batch f' f'') :
    files.Delivers directory batch f f'' where
  toKeeps := hm.toKeeps.trans hs.keeps
  nodup := nodup_toString_child_fileName directory batch.length
  holds i hi hlast := by
    simpa only [Nat.zero_add] using hs.holds i hi fun j hj hij => by
      simpa only [Nat.zero_add] using hlast j hj hij
  others thing hother := by
    have hsame : files.at? f'' thing = files.at? f' thing := by
      refine hs.others fun i hi => ?_
      rw [Nat.zero_add]
      exact hother i hi
    rw [hsame]
    exact (hm.things thing).imp_right fun ⟨hnone, hmade, hway⟩ =>
      ⟨hnone, hmade, hs.keeps.onWay hway⟩

/-- Where links make the paths of several programs lead to one file, it is the last of these programs
that stands there. -/
theorem Delivers.holds_of_meet (h : files.Delivers directory batch f f') {i j : Nat}
    (hj : j < batch.length)
    (hmeet : files.Meet f' (directory.child (fileName (i + 1))) (directory.child (fileName (j + 1))))
    (hlast : ∀ l < batch.length, j < l → ¬files.Meet f'
      (directory.child (fileName (j + 1))) (directory.child (fileName (l + 1)))) :
    files.Holds f' (directory.child (fileName (i + 1))) batch[j].format.toUTF8.data.toList :=
  (h.holds j hj hlast).of_meet hmeet

end FileView

/-! ## Trees and worlds -/

namespace Tree

/-- The files of a number of programs can be written: each path leads to a place, and no directory
stands there. -/
def Ready (t : Tree) (workingDirectory directory : Path) (k count : Nat) : Prop :=
  ∀ i < count, ∃ place, t.locate workingDirectory (programFile directory (k + i + 1)) = .ok place ∧
    t.at? place ≠ some .directory

/-- Where files can be written the first one is, and then the others can be written. -/
theorem Ready.exists_writeFile {t : Tree} {workingDirectory directory : Path} {k count : Nat}
    (h : t.Ready workingDirectory directory k (count + 1)) (content : List UInt8) :
    ∃ t', t.writeFile workingDirectory (programFile directory (k + 1)) content = .ok t' ∧
      t'.Ready workingDirectory directory (k + 1) count := by
  obtain ⟨place, hl, hfree⟩ := h 0 (Nat.succ_pos count)
  have hw : t.writeFile workingDirectory (programFile directory (k + 1)) content =
      .ok (t.put place (.file content)) := by
    rw [Nat.add_zero] at hl
    rw [writeFile, hl]
    simp only [bind, Except.bind]
    rfl
  refine ⟨_, hw, fun i hi => ?_⟩
  obtain ⟨other, hl', hfree'⟩ := h (i + 1) (Nat.succ_lt_succ hi)
  obtain ⟨place', -, hfree'', hc⟩ := writeFile_ok hw
  rw [Nat.add_right_comm k 1 i]
  refine ⟨other, (hc.keeps fun hd => absurd hd hfree'').locate hl', ?_⟩
  by_cases he : other = place'
  · rw [he, hc.new]
    intro h
    cases h
  · rwa [hc.others other he]

end Tree

namespace World

variable {place : List String} {directory : Path} {f f' : Tree × Path} {m n : Nat}
  {batch : List Program}

/-- The file of a program stands by its name in the directory. -/
theorem leadsTo_child_fileName (h : files.leadsTo f (directory.child (fileName n)) = some place) :
    ∃ above, f.1.walk (if directory.slashes = 0 then f.2.names else []) directory.names = .ok above ∧
      place = above ++ [fileName n] := by
  obtain ⟨-, -, hw⟩ := Tree.locate_eq_ok_iff.mp (leadsTo_eq_some_iff.mp h)
  obtain ⟨above, habove, rfl⟩ := Tree.walk_append_singleton hw
  exact ⟨above, habove, if_neg (fileName_ne n)⟩

/-- A world has no links, so the files of different programs are different files. -/
theorem not_meet_child_fileName (hne : m ≠ n) :
    ¬files.Meet f (directory.child (fileName m)) (directory.child (fileName n)) := by
  rintro ⟨place, hm, hn⟩
  obtain ⟨above, habove, rfl⟩ := leadsTo_child_fileName hm
  obtain ⟨above', habove', hsame⟩ := leadsTo_child_fileName hn
  obtain rfl : above' = above := Except.ok.inj (habove'.symm.trans habove)
  exact hne (fileName_inj (List.singleton_inj.mp (List.append_cancel_left hsame)))

/-- Of a batch that is delivered in a world every program is read from the file of its number. -/
theorem readFile_of_delivers (h : files.Delivers directory batch f f') (i : Nat)
    (hi : i < batch.length) : f'.1.readFile f'.2 (directory.child (fileName (i + 1))) =
      .ok batch[i].format.toUTF8.data.toList :=
  holds_iff.mp <| h.holds i hi fun _ _ hij =>
    not_meet_child_fileName fun hsame => absurd (Nat.succ.inj hsame) (Nat.ne_of_lt hij)

end World

namespace CommandLine

/-! ## Programs that are written -/

/-- What is printed of programs that are written. -/
def announcements (a : Arguments) (directory : Path) (k : Nat) (batch : List Program) : String :=
  if a.quiet then ""
  else String.join ((batch.zipIdx (k + 1)).map fun entry =>
    let file := directory.child (fileName entry.2)
    s!"Generated new program ({file.toString}):\n{entry.1.format}\n")

variable {S φ ι : Type} {view : View S φ String} {files : FileView φ ι} {a : Arguments}
  {directory : Path} {s s' : S}

/-- Programs are written from a state on: they are saved and announced. -/
structure Writes (files : FileView φ ι) (view : View S φ String) (a : Arguments) (directory : Path)
    (k : Nat) (batch : List Program) (s s' : S) : Prop where
  saves : files.Saves directory k batch (view.files s) (view.files s')
  printed : view.printed s' = view.printed s ++ announcements a directory k batch

/-- No programs are written. -/
theorem writes_nil (files : FileView φ ι) (view : View S φ String) (a : Arguments)
    (directory : Path) (k : Nat) (s : S) : Writes files view a directory k [] s s where
  saves := .nil
  printed := by rw [announcements, List.zipIdx_nil, List.map_nil, String.join_nil, ite_self,
    String.append_empty]

/-- What is printed of a program, and of those behind it. -/
theorem announcements_cons (a : Arguments) (directory : Path) (k : Nat) (p : Program)
    (batch : List Program) : announcements a directory k (p :: batch) =
      (if a.quiet then "" else announcement (programFile directory (k + 1)) p) ++
        announcements a directory (k + 1) batch := by
  rw [announcements, announcements]
  cases a.quiet with
  | true => rfl
  | false => exact String.join_cons

variable [Host (StateM S)]

/-- A program is announced, or not, before the rest. -/
theorem outcome_announce {α : Type} (h : files.Lawful view) (a : Arguments) (text : String)
    (c : ExceptT RunFault (StateM S) α) (s : S) : ∃ t,
    outcome (if !a.quiet then liftM (Host.print text : StateM S Unit) >>= fun _ => c else c) s =
      outcome c t ∧
    view.files t = view.files s ∧
    view.printed t = view.printed s ++ if a.quiet then "" else text := by
  cases a.quiet with
  | true => exact ⟨s, rfl, rfl, String.append_empty.symm⟩
  | false => exact ⟨_, outcome_bind_ok (outcome_lift _ s), h.print text s⟩

/-- A program is written before others. -/
theorem Writes.cons {k : Nat} {p : Program} {batch : List Program} {text : String} {s₁ s₂ s₃ : S}
    (h : files.Lawful view) (hseen : view.Reports text s s₁)
    (hw : (Host.writeFile (programFile directory (k + 1)) (Text.Utf8.encode p.format) :
      StateM S _).run s₁ = (.ok (), s₂))
    (hfiles : view.files s₃ = view.files s₂)
    (hprinted : view.printed s₃ = view.printed s₂ ++
      if a.quiet then "" else announcement (programFile directory (k + 1)) p)
    (hrest : Writes files view a directory (k + 1) batch s₃ s') :
    Writes files view a directory k (p :: batch) s s' := by
  obtain ⟨thing, hp, hchanges⟩ := h.writeFile_ok hw
  rw [programFile_eq] at hp
  have hsilent := h.printed_writeFile (programFile directory (k + 1)) (Text.Utf8.encode p.format) s₁
  rw [hw] at hsilent
  rw [hseen.files] at hchanges
  refine ⟨.cons hp hchanges (hfiles ▸ hrest.saves), ?_⟩
  rw [hrest.printed, hprinted, hsilent, hseen.printed, announcements_cons, String.append_assoc]

/-- What is written is what is collected at once, if nothing goes wrong. -/
theorem writePrograms_ok (h : files.Lawful view) (a : Arguments) (domain : Domain)
    (setting : Setting) (directory : Path) (budget : Nat) :
    ∀ {written done total n : Nat} {g : Generator Twister} {s s' : S}, done + budget = total →
    outcome (writePrograms a domain setting directory written budget (.running done total) g) s =
      (.ok n, s') →
    ∃ batch, (Batch.collect domain setting (budget + 1) (.running done total) g).1 = .ok batch ∧
      batch.length = budget ∧ n = written + budget ∧
      Writes files view a directory written batch s s' := by
  induction budget with
  | zero =>
    intro written done total n g s s' ht hs
    cases hs
    refine ⟨[], Batch.collect_stop ?_ _, rfl, rfl, writes_nil files view a directory written s⟩
    exact (Batch.advance_stop_iff domain setting done total g).mpr (by omega)
  | succ budget ih =>
    intro written done total n g s s' ht hs
    obtain ⟨answer, it, g', notes, hnext, hdrop⟩ := Batch.next_journal domain setting
      (.running done total) g #[]
    replace hdrop : Batch.next domain setting (.running done total) g.dropJournal =
      (answer, it, { g' with journal := notes }) := hdrop
    have hseen := reports_debug (a := a) h.toLawful (notes.toList.map eventReport) s
    rw [writePrograms, outcome_bind_ok (outcome_lift _ s), hdrop] at hs
    generalize ((debug a (notes.toList.map eventReport) : StateM S Unit).run s).2 = s₁ at hs hseen
    cases answer with
    | stop =>
      have := (Batch.advance_stop_iff domain setting done total g).mp (congrArg Prod.fst hnext)
      omega
    | fault f => cases hs
    | program p =>
      obtain ⟨-, rfl⟩ := Batch.advance_program hnext
      dsimp only at hs
      obtain ⟨_, s₂, hattempt, hs⟩ := outcome_bind_eq_ok hs
      obtain ⟨s₃, hannounce, hfiles, hprinted⟩ := outcome_announce h a
        (announcement (programFile directory (written + 1)) p)
        (writePrograms a domain setting directory (written + 1) budget (.running (done + 1) total)
          { g' with journal := notes }) s₂
      rw [hannounce] at hs
      obtain ⟨batch, hcollect, hlength, hn, hwrites⟩ := ih (by omega) hs
      -- what was noted before a program is forgotten here, which is nothing to its generation
      rw [Batch.collect_journal] at hcollect
      refine ⟨p :: batch, ?_, congrArg (· + 1) hlength, by omega,
        .cons h hseen (outcome_attempt_eq_ok hattempt) hfiles hprinted hwrites⟩
      rw [Batch.collect_program hnext, hcollect]
      rfl

/-! ## Whole runs -/

/-- What is asked for is delivered, if nothing goes wrong, and the directory is named at the end. -/
theorem carryOut_ok (h : files.Lawful view) {domain : Domain} {setting : Setting}
    {g : Generator Twister} {count : Nat}
    (hs : outcome (carryOut a domain setting g count) s = (.ok (), s')) :
    ∃ text batch, a.directory = some text ∧
      (Batch.programs domain setting count g).1 = .ok batch ∧ batch.length = count ∧
      files.Delivers (Path.ofString text) batch (view.files s) (view.files s') ∧
      view.printed s' = view.printed s ++ announcements a (Path.ofString text) 0 batch ++
        summary count ((Path.ofString text).absolute (files.workingDirectory (view.files s))) := by
  rw [carryOut] at hs
  cases hd : a.directory with
  | none =>
    rw [hd, outcome_bind_error (outcome_settle id _ s)] at hs
    cases hs
  | some text =>
    rw [hd, outcome_bind_ok (outcome_settle id _ s)] at hs
    obtain ⟨_, s₁, hattempt, hs⟩ := outcome_bind_eq_ok hs
    obtain ⟨hmakes, hsilent⟩ := h.ensureDirectory_ok _ (outcome_attempt_eq_ok hattempt)
    obtain ⟨n, s₂, hwritten, hs⟩ := outcome_bind_eq_ok hs
    rw [writePrograms_waiting] at hwritten
    obtain ⟨batch, hcollect, hlength, rfl, hsaves, hprinted⟩ :=
      writePrograms_ok h a domain setting (Path.ofString text) count (Nat.zero_add count) hwritten
    have hdelivers := hmakes.delivers hsaves
    obtain ⟨hpath, hasked⟩ := h.workingDirectory s₂
    rw [outcome_bind_ok (outcome_lift _ s₂), outcome_lift, Nat.zero_add, hpath] at hs
    obtain ⟨hfiles, hclosed⟩ := h.print (summary count
      ((Path.ofString text).absolute (files.workingDirectory (view.files s₂))))
      ((Host.workingDirectory : StateM S Path).run s₂).2
    obtain rfl := (Prod.mk.inj hs).2
    refine ⟨text, batch, rfl, ?_, hlength, ?_, ?_⟩
    · rw [Batch.programs_eq_collect]
      exact hcollect
    · rw [hfiles, hasked.files]
      exact hdelivers
    · rw [hclosed, hasked.printed, hprinted, hsilent, hdelivers.workingDirectory]

/-- What is asked for over a domain that is fit for it is generated from a new generator. -/
theorem Prepares.generatePrograms_eq {domain : Domain} {setting : Setting}
    {g : Generator Twister} (h : Prepares a domain setting g) :
    ∃ seed, a.seed = some seed ∧ ∀ count,
      generatePrograms domain setting count seed = (Batch.programs domain setting count g).1 := by
  obtain ⟨seed, hseed, rfl⟩ := h.seed
  refine ⟨seed, hseed, fun count => ?_⟩
  rw [generatePrograms, Batch.prepare, Batch.check, h.domain, h.setting]
  rfl

variable {environment : String → Option String} {words : List String} {d : Defaults}

/-- A run succeeds when it executes what is asked for without a fault. -/
theorem run_eq_exit_zero_iff (hd : Defaults.ofEnvironment environment = .ok d)
    (ha : Arguments.parse d words = .ok a) :
    (run environment words : StateM S Ending).run s = (.exit 0, s') ↔
      outcome (execute a) s = (.ok (), s') := by
  rw [run_eq hd ha]
  rcases outcome (execute a) s with ⟨fault | _, t⟩
  · refine iff_of_false ?_ nofun
    dsimp only
    split
    · exact nofun
    · exact nofun
  · exact ⟨fun h => by cases h; rfl, fun h => by cases h; rfl⟩

/-! ## Runs that succeed -/

variable {w : World}

/-- Over a usable schema and setting programs are written where their files can be. -/
theorem exists_writePrograms {schema : Schema} {setting : Setting} (hs : schema.fault? = none)
    (ht : setting.fault? = none) (a : Arguments) (directory : Path) (budget : Nat) :
    ∀ {written done total : Nat} {g : Generator Twister} {w : World}, g.Coherent →
    done + budget = total → w.tree.Ready w.workingDirectory directory written budget →
    ∃ n w', outcome (writePrograms a schema setting directory written budget
      (.running done total) g) w = (.ok n, w') := by
  induction budget with
  | zero => exact fun _ _ _ => ⟨_, _, rfl⟩
  | succ budget ih =>
    intro written done total g w hg htotal hready
    have hdrop : g.dropJournal.Coherent := hg
    obtain ⟨hne, hh⟩ := Batch.advance_coherent hs ht hdrop done total
    have hstop := Batch.advance_stop_iff schema setting done total g.dropJournal
    rw [writePrograms, outcome_bind_ok (outcome_lift _ w), Batch.next]
    rcases hr : Batch.advance schema setting done total g.dropJournal with ⟨answer, it, h⟩
    rw [hr] at hne hh hstop
    obtain ⟨htree, hhere, -⟩ := World.eq_of_reports
      (reports_debug (a := a) World.view_lawful (h.journal.toList.map eventReport) w)
    dsimp only
    generalize ((debug a (h.journal.toList.map eventReport) : StateM World Unit).run w).2 = w₁ at *
    cases answer with
    | fault f => exact absurd rfl (hne f)
    | stop =>
      have := hstop.mp rfl
      omega
    | program p =>
      obtain ⟨-, rfl⟩ := Batch.advance_program hr
      rw [← htree, ← hhere] at hready
      obtain ⟨tree, hwrite, hready'⟩ := hready.exists_writeFile (Text.Utf8.encode p.format)
      have hwritten := outcome_attempt (RunFault.storage ⟨·, programFile directory (written + 1)⟩)
        (Host.writeFile (programFile directory (written + 1)) (Text.Utf8.encode p.format) :
          StateM World _) w₁
      rw [show (Host.writeFile _ _ : StateM World _).run w₁ = (.ok (), { w₁ with tree }) from
        World.change_eq_ok_iff.mpr ⟨tree, hwrite, rfl⟩] at hwritten
      obtain ⟨w₂, hannounce, hfiles, -⟩ := outcome_announce World.files_lawful a
        (announcement (programFile directory (written + 1)) p)
        (writePrograms a schema setting directory (written + 1) budget (.running (done + 1) total) h)
        { w₁ with tree }
      obtain ⟨htree', hhere'⟩ := Prod.mk.inj hfiles
      rw [outcome_bind_ok hwritten, hannounce]
      refine ih hh (by omega) ?_
      rw [htree', hhere']
      exact hready'

/-- What is asked for over a usable schema is carried out where its files can be written. -/
theorem exists_carryOut {schema : Schema} {setting : Setting} {g : Generator Twister} {count : Nat}
    {text : String} {w₁ : World} (hp : Prepares a schema setting g) (hd : a.directory = some text)
    (hensure : (ensureDirectory (Path.ofString text) : StateM World _).run w = (.ok (), w₁))
    (hready : w₁.tree.Ready w₁.workingDirectory (Path.ofString text) 0 count) :
    ∃ w', outcome (carryOut a schema setting g count) w = (.ok (), w') := by
  obtain ⟨seed, -, rfl⟩ := hp.seed
  obtain ⟨n, w₂, hwrites⟩ := exists_writePrograms hp.domain hp.setting a (Path.ofString text) count
    (Generator.isClear_new (Twister.ofSeed seed)).coherent (Nat.zero_add count) hready
  have hmade := outcome_attempt RunFault.storage
    (ensureDirectory (Path.ofString text) : StateM World _) w
  rw [hensure] at hmade
  rw [carryOut, hd, outcome_bind_ok (outcome_settle id _ w), outcome_bind_ok hmade,
    writePrograms_waiting, outcome_bind_ok hwrites]
  exact ⟨_, rfl⟩

/-- A run over a usable schema succeeds where its files can be written. -/
theorem exists_run_exit_zero {schema : Schema} {setting : Setting} {g : Generator Twister}
    {count : Nat} {text : String} {w₁ : World} (hd : Defaults.ofEnvironment environment = .ok d)
    (ha : Arguments.parse d words = .ok a) (hl : loaded a w = .ok (.schema schema))
    (hp : Prepares a schema setting g) (hc : a.count = some (count : Int))
    (ht : a.directory = some text)
    (hensure : (ensureDirectory (Path.ofString text) : StateM World _).run w = (.ok (), w₁))
    (hready : w₁.tree.Ready w₁.workingDirectory (Path.ofString text) 0 count) :
    ∃ w', (run environment words : StateM World Ending).run w = (.exit 0, w') := by
  obtain ⟨w₂, hcarried⟩ := exists_carryOut hp ht hensure hready
  -- loading leaves reports, which the rest of the run does not look at
  obtain ⟨lines, -, hfront⟩ := reports_loadDomain World.view_lawful a w
  obtain ⟨w', hw', -⟩ := outcome_ok_of_parallel
    (World.files_lawful.parallel_carryOut a a.quiet a.debug schema setting g count) hfront.files
    hcarried
  refine ⟨w', (run_eq_exit_zero_iff hd ha).mpr ?_⟩
  rw [outcome_execute, hl, hp.request_eq_ok hc]
  exact hw'

/-! ## What is delivered -/

/-- A run that succeeds delivers the batch that is generated at once, on any host whose files obey the
laws.  The domain is the one that is loaded from the files as they were before, and setting, number of
programs, seed and directory are those of the command line.  The programs are announced as far as that
is asked for, and at the end their number is said with the directory.  The same files are left by any
command line that asks for the same, but that it may be quiet or ask for reports. -/
theorem run_exit_zero (hfiles : files.Lawful view)
    (hd : Defaults.ofEnvironment environment = .ok d) (ha : Arguments.parse d words = .ok a)
    (hrun : (run environment words : StateM S Ending).run s = (.exit 0, s')) :
    ∃ domain setting seed text batch, ∃ count : Nat,
      loaded a s = .ok domain ∧
      a.minLength = some setting.minLength ∧ a.maxLength = some setting.maxLength ∧
      a.policy = some setting.policy ∧ a.count = some (count : Int) ∧ a.seed = some seed ∧
      a.directory = some text ∧
      generatePrograms domain setting count seed = .ok batch ∧ batch.length = count ∧
      files.Delivers (Path.ofString text) batch (view.files s) (view.files s') ∧
      view.printed s' = view.printed s ++ announcements a (Path.ofString text) 0 batch ++
        (let directory := (Path.ofString text).absolute (files.workingDirectory (view.files s))
        s!"Wrote {count} program(s) to {directory.toString}\n") ∧
      ∀ words' quiet debug, Arguments.parse d words' = .ok { a with quiet, debug } →
        ∃ t, (run environment words' : StateM S Ending).run s = (.exit 0, t) ∧
          view.files t = view.files s' := by
  have hexecute := (run_eq_exit_zero_iff hd ha).mp hrun
  have hparts := hexecute
  rw [outcome_execute] at hparts
  rcases request_spec a (loaded a s) with
    ⟨domain, setting, g, count, hloaded, hprepares, hcount, hrequest⟩ | ⟨fault, hrequest, -⟩
  · rw [hrequest] at hparts
    obtain ⟨lines, -, hfront⟩ := reports_loadDomain hfiles.toLawful a s
    obtain ⟨text, batch, hdirectory, hbatch, hlength, hdelivers, hprinted⟩ :=
      carryOut_ok hfiles hparts
    obtain ⟨seed, hseed, hgenerate⟩ := hprepares.generatePrograms_eq
    rw [hfront.files] at hdelivers hprinted
    rw [hfront.printed] at hprinted
    refine ⟨domain, setting, seed, text, batch, count, hloaded, hprepares.minLength,
      hprepares.maxLength, hprepares.policy, hcount, hseed, hdirectory,
      (hgenerate count).trans hbatch, hlength, hdelivers, hprinted, ?_⟩
    intro words' quiet debug ha'
    obtain ⟨t, ht, hsame⟩ := outcome_ok_of_parallel (hfiles.parallel_execute a quiet debug) rfl
      hexecute
    exact ⟨t, (run_eq_exit_zero_iff hd ha').mpr ht, hsame⟩
  · rw [hrequest] at hparts
    cases hparts

/-- A command line that asks for three programs. -/
def threeWords : List String := ["d", "--num-programs", "3"]

/-- What that command line asks for. -/
def threeArguments : Arguments :=
  ⟨"d", some "./synthesized/", some 3, some 1, some 10, some .mixed, some 7, false, false⟩

/-- The command line that asks for three programs delivers them, whether it is quiet or not, and says
so in its last line. -/
theorem run_exit_zero_three :
    let ended := (run (fun _ => none) threeWords : StateM World Ending).run typeWorld
    let quiet := (run (fun _ => none) ("--quiet" :: threeWords) : StateM World Ending).run typeWorld
    let directory := Path.ofString "./synthesized/"
    ended.1 = .exit 0 ∧
      (∃ batch, generatePrograms (Schema.empty.addType "A") ⟨1, 10, .mixed⟩ 3 7 = .ok batch ∧
        batch.length = 3 ∧
        World.files.Delivers directory batch (World.view.files typeWorld)
          (World.view.files ended.2) ∧
        (∀ i (hi : i < batch.length),
          ended.2.tree.readFile ended.2.workingDirectory (directory.child s!"prog-{i + 1}.sub") =
            .ok batch[i].format.toUTF8.data.toList) ∧
        ended.2.printed = announcements threeArguments directory 0 batch ++
          "Wrote 3 program(s) to /synthesized\n") ∧
      quiet.1 = .exit 0 ∧ quiet.2.tree = ended.2.tree := by
  have hd : Defaults.ofEnvironment (fun _ => none) = .ok .standard := by decide +kernel
  have ha : Arguments.parse .standard threeWords = .ok threeArguments := by decide +kernel
  have ha' : Arguments.parse .standard ("--quiet" :: threeWords) =
      .ok { threeArguments with quiet := true } := by decide +kernel
  have hprepares : Prepares threeArguments (Schema.empty.addType "A") ⟨1, 10, .mixed⟩
      (.new (.ofSeed 7)) := ⟨rfl, rfl, rfl, by decide, by decide, 7, rfl, rfl⟩
  let made := (ensureDirectory (Path.ofString "./synthesized/") : StateM World _).run typeWorld
  have hmade : made.1 = .ok () := by decide +kernel
  have hfree : ∀ i < 3, made.2.tree.locate made.2.workingDirectory
      (programFile (Path.ofString "./synthesized/") (0 + i + 1)) =
        .ok ["synthesized", fileName (0 + i + 1)] ∧
      made.2.tree.at? ["synthesized", fileName (0 + i + 1)] ≠ some .directory := by decide +kernel
  have hthree : threeArguments.count = some ((3 : Nat) : Int) := rfl
  obtain ⟨w', hrun⟩ := exists_run_exit_zero hd ha (loaded_typeWorld rfl) hprepares hthree rfl
    (Prod.ext hmade rfl) fun i hi => ⟨_, hfree i hi⟩
  obtain ⟨domain, ⟨minLength, maxLength, policy⟩, seed, text, batch, count, hloaded, hmin, hmax,
    hpolicy, hcount, hseed, htext, hbatch, hlength, hdelivers, hprinted, hquiet⟩ :=
    run_exit_zero World.files_lawful hd ha hrun
  -- what was asked for is known, so all but the batch is
  obtain rfl := Except.ok.inj ((loaded_typeWorld rfl).symm.trans hloaded)
  cases hmin
  cases hmax
  cases hpolicy
  cases hseed
  cases htext
  obtain rfl : count = 3 := Int.ofNat.inj (Option.some.inj (hcount.symm.trans hthree))
  have hlast : summary 3 ((Path.ofString "./synthesized/").absolute typeWorld.workingDirectory) =
      "Wrote 3 program(s) to /synthesized\n" := by decide +kernel
  obtain ⟨v, hv, hsame⟩ := hquiet _ true false ha'
  intro ended quiet directory
  have hended : ended = (.exit 0, w') := hrun
  have hended' : quiet = (.exit 0, v) := hv
  rw [hended, hended']
  refine ⟨rfl, ⟨batch, hbatch, hlength, hdelivers, World.readFile_of_delivers hdelivers, ?_⟩, rfl,
    (Prod.mk.inj hsame).1⟩
  exact hprinted.trans (congrArg₂ (· ++ ·) String.empty_append hlast)

end CommandLine

end Substance
