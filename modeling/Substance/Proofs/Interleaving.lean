import Substance.Batch
import Substance.Proofs.Renaming
import Substance.Proofs.Shape
import Mathlib.Logic.Function.Iterate
import Mathlib.Tactic.Choose

/-!
# Iterators share one row of programs

Iterators over one generator may be asked in any order, and whole batches may be generated in
between.  Since the generator is cleared after each program and a program does not depend on what was
noted before, a step leaves nothing to the next one but the source of draws.  So the programs that
are handed out, by whichever iterator, are the next ones of one row that the seed determines.

* `Session.serve` is one step of a session and `Session.run` a row of steps.
* `Rows` says what the row of programs is, and `Moves` what it is to go on in it.
* `serve_moves` is the law of one step and `run_moves` of a run.
* `exists_row` is the main statement.
-/

namespace Substance

open Substance.Random Generator

variable {σ : Type}

/-- Two clear generators that draw from the same source mirror each other under any renaming,
whatever they noted. -/
theorem Generator.IsClear.mirrors {r : Renaming} {g h : Generator σ} (schema : Schema)
    (hg : g.IsClear) (hh : h.IsClear) (hs : h.source = g.source) : Mirrors r schema g h := by
  obtain ⟨hgn, hgd⟩ := hg
  obtain ⟨hhn, hhd⟩ := hh
  refine ⟨hs, by rw [hgn, hhn], fun t _ => ?_, ?_⟩
  · rw [hgn, hhn]
    rfl
  · rw [hgd, hhd]
    rfl

namespace Batch

/-! ## Sessions -/

/-- What is asked for: the next program of an iterator, or a number of programs at once. -/
inductive Request (ι : Type) where
  | next (i : ι)
  | generate (count : Int)

/-- What is answered. -/
inductive Reply where
  | next (answer : Answer)
  | generate (outcome : Except BatchFault (List Program))

/-- The programs that are handed out. -/
def Reply.programs : Reply → List Program
  | .next (.program p) => [p]
  | .next _ => []
  | .generate (.ok ps) => ps
  | .generate (.error _) => []

/-- Iterators over one generator. -/
structure Session (ι σ : Type) where
  iterators : ι → Iterator
  generator : Generator σ

/-- Iterators for some numbers of programs, none of which was asked yet. -/
def Session.start {ι : Type} (counts : ι → Int) (g : Generator σ) : Session ι σ :=
  ⟨fun i => .waiting (counts i), g⟩

/-- What was asked and answered, in order. -/
abbrev History (ι : Type) := List (Request ι × Reply)

/-- All programs handed out. -/
def History.programs {ι : Type} (history : History ι) : List Program :=
  history.flatMap fun step => step.2.programs

variable {ι : Type} [DecidableEq ι]

/-- The answers of one iterator. -/
def History.answersOf (history : History ι) (i : ι) : List Answer :=
  history.filterMap fun
    | (.next j, .next a) => if j = i then some a else none
    | _ => none

variable [Source σ]

/-- Answer one request. -/
def Session.serve (schema : Schema) (setting : Setting) (s : Session ι σ) :
    Request ι → Reply × Session ι σ
  | .next i =>
    let outcome := Batch.next schema setting (s.iterators i) s.generator
    (.next outcome.1, ⟨Function.update s.iterators i outcome.2.1, outcome.2.2⟩)
  | .generate count =>
    let outcome := Batch.programs schema setting count s.generator
    (.generate outcome.1, { s with generator := outcome.2 })

/-- Answer requests, one after the other. -/
def Session.run (schema : Schema) (setting : Setting) :
    List (Request ι) → Session ι σ → History ι × Session ι σ
  | [], s => ([], s)
  | request :: rest, s =>
    let outcome := s.serve schema setting request
    let later := Session.run schema setting rest outcome.2
    ((request, outcome.1) :: later.1, later.2)

/-! ## What an iterator answers -/

/-- Programs, at most `n`, and stops once there were `n` of them. -/
def HandsOut (n : Nat) (answers : List Answer) : Prop :=
  ∃ (given : List Program) (k : Nat),
    answers = given.map .program ++ List.replicate k .stop ∧
      given.length ≤ n ∧ (0 < k → given.length = n)

/-- The answers that an iterator gives from now on.  One for a negative number of programs refuses
once. -/
def Gives : Iterator → List Answer → Prop
  | .waiting count, answers =>
    if count < 0 then
      answers = [] ∨ ∃ k, answers = .fault (.negativeCount count) :: List.replicate k .stop
    else HandsOut count.toNat answers
  | .running done total, answers => HandsOut (total - done) answers
  | .exhausted, answers => HandsOut 0 answers

/-- Nothing was asked. -/
theorem handsOut_nil (n : Nat) : HandsOut n [] := ⟨[], 0, rfl, Nat.zero_le n, fun h => nomatch h⟩

/-- One more program is handed out. -/
theorem HandsOut.program {n : Nat} {answers : List Answer} (h : HandsOut n answers) (p : Program) :
    HandsOut (n + 1) (.program p :: answers) := by
  obtain ⟨given, k, rfl, hle, hk⟩ := h
  exact ⟨p :: given, k, rfl, Nat.succ_le_succ hle, fun h => congrArg (· + 1) (hk h)⟩

/-- After the last program there are stops only. -/
theorem HandsOut.eq_replicate {answers : List Answer} (h : HandsOut 0 answers) :
    ∃ k, answers = List.replicate k .stop := by
  obtain ⟨given, k, rfl, hle, -⟩ := h
  obtain rfl := List.length_eq_zero_iff.mp (Nat.le_zero.mp hle)
  exact ⟨k, rfl⟩

/-- After the last program there is one more stop. -/
theorem HandsOut.stop {answers : List Answer} (h : HandsOut 0 answers) :
    HandsOut 0 (.stop :: answers) := by
  obtain ⟨k, rfl⟩ := h.eq_replicate
  exact ⟨[], k + 1, rfl, Nat.le_refl 0, fun _ => rfl⟩

/-- Nothing was asked. -/
theorem gives_nil (it : Iterator) : Gives it [] := by
  cases it with
  | waiting count =>
    rw [Gives]
    split
    · exact .inl rfl
    · exact handsOut_nil _
  | running done total => exact handsOut_nil _
  | exhausted => exact handsOut_nil 0

/-- A waiting iterator gives what one does that has handed out nothing yet. -/
theorem gives_waiting {count : Int} (h : ¬count < 0) (answers : List Answer) :
    Gives (.waiting count) answers ↔ Gives (.running 0 count.toNat) answers := by
  rw [Gives, if_neg h, Gives, Nat.sub_zero]

/-- An iterator for a negative number of programs refuses, and stops from then on. -/
theorem gives_refusal {count : Int} (hneg : count < 0) {answers : List Answer}
    (h : Gives .exhausted answers) :
    Gives (.waiting count) (.fault (.negativeCount count) :: answers) := by
  obtain ⟨k, rfl⟩ := HandsOut.eq_replicate h
  rw [Gives, if_pos hneg]
  exact .inr ⟨k, rfl⟩

/-! ## The row -/

variable {schema : Schema} {setting : Setting} {p : Nat → Program} {sources : Nat → σ} {k : Nat}
  {g : Generator σ}

/-- A clear generator that draws from the `k`-th source generates the `k`-th program and leaves the
next source. -/
def Rows (schema : Schema) (setting : Setting) (p : Nat → Program) (sources : Nat → σ) : Prop :=
  ∀ (k : Nat) (g : Generator σ), g.IsClear → g.source = sources k →
    ∃ h, addProgram schema setting g = .ok (p k) h ∧ h.source = sources (k + 1)

/-- The generator is clear and the `k`-th program is its next one. -/
def Stands (sources : Nat → σ) (k : Nat) (g : Generator σ) : Prop :=
  g.IsClear ∧ g.source = sources k

/-- From the `k`-th program on these programs of the row are handed out.  Where there are none, the
generator stays as it was. -/
structure Moves (p : Nat → Program) (sources : Nat → σ) (k : Nat) (g : Generator σ)
    (handed : List Program) (h : Generator σ) : Prop where
  eq : handed = (List.range' k handed.length).map p
  stands : Stands sources (k + handed.length) h
  still : handed = [] → h = g

/-- Over a usable schema and setting the source of a clear generator determines its next program and
the source that is left. -/
theorem exists_program (hs : schema.fault? = none) (ht : setting.fault? = none) (source : σ) :
    ∃ q t, ∀ g : Generator σ, g.IsClear → g.source = source →
      ∃ h, addProgram schema setting g = .ok q h ∧ h.source = t := by
  have hclear := isClear_new source
  obtain ⟨q, h, hr, -⟩ :=
    (extends_addProgram_total hs ht []).exists_ok hclear.coherent hclear.statements
  refine ⟨q, h.source, fun g hg hsource => ?_⟩
  -- a clear generator mirrors the new one, whatever it noted
  obtain ⟨_, _, h₁, h₂, h₁r, h₂r, rfl, hm⟩ | ⟨e, h₁, h₂, h₁r, -⟩ :=
    alike_addProgram (Renaming.none_carries schema) setting _ g (hclear.mirrors schema hg hsource)
  · obtain ⟨rfl, rfl⟩ := EStateM.Result.ok.inj (h₁r.symm.trans hr)
    exact ⟨h₂, by rwa [Program.rename_none] at h₂r, hm.source⟩
  · exact nomatch h₁r.symm.trans hr

/-- Over a usable schema and setting every source has a row of programs. -/
theorem exists_sources (hs : schema.fault? = none) (ht : setting.fault? = none) (source : σ) :
    ∃ p sources, Rows schema setting p sources ∧ sources 0 = source := by
  choose q t hqt using exists_program (σ := σ) hs ht
  refine ⟨fun k => q (t^[k] source), fun k => t^[k] source, fun k g hg hsource => ?_, rfl⟩
  obtain ⟨h, ha, hh⟩ := hqt _ g hg hsource
  exact ⟨h, ha, hh.trans (Function.iterate_succ_apply' t k source).symm⟩

/-! ## One iterator -/

/-- A waiting iterator does what one does that has handed out nothing yet. -/
theorem next_waiting {count : Int} (h : ¬count < 0) (g : Generator σ) :
    next schema setting (.waiting count) g = next schema setting (.running 0 count.toNat) g :=
  if_neg h

/-- Before the last program an iterator hands out the next one of the row. -/
theorem next_running (hr : Rows schema setting p sources) (hg : Stands sources k g)
    {done total : Nat} (hlt : done < total) :
    ∃ h, next schema setting (.running done total) g =
        (.program (p k), .running (done + 1) total, h) ∧ Stands sources (k + 1) h := by
  obtain ⟨h, ha, hsource⟩ := hr k g hg.1 hg.2
  refine ⟨h.reset.note (.finished (done + 1) total (p k).length), ?_, isClear_reset h, hsource⟩
  simp only [next, advance, if_pos hlt, ha]

/-- After the last program an iterator stops. -/
theorem next_running_stop {done total : Nat} (hle : ¬done < total) (g : Generator σ) :
    next schema setting (.running done total) g = (.stop, .exhausted, g) :=
  if_neg hle

omit [Source σ] in
/-- Nothing is handed out. -/
theorem moves_nil (hg : Stands sources k g) : Moves p sources k g [] g :=
  ⟨rfl, hg, fun _ => rfl⟩

omit [Source σ] in
/-- Programs that are handed out one after the other. -/
theorem Moves.trans {ps qs : List Program} {h h' : Generator σ} (hp : Moves p sources k g ps h)
    (hq : Moves p sources (k + ps.length) h qs h') : Moves p sources k g (ps ++ qs) h' where
  eq := by
    rw [List.length_append, ← List.range'_append_1, List.map_append, ← hp.eq, ← hq.eq]
  stands := by
    rw [List.length_append, ← Nat.add_assoc]
    exact hq.stands
  still hnil := by
    obtain ⟨hps, hqs⟩ := List.append_eq_nil_iff.mp hnil
    rw [hq.still hqs, hp.still hps]

/-- What an iterator answers, where the generator stands at the `k`-th program: that program, or a
stop or a refusal. -/
def NextMoves (schema : Schema) (setting : Setting) (p : Nat → Program) (sources : Nat → σ) (k : Nat)
    (g : Generator σ) (it : Iterator) : Prop :=
  ∃ (answer : Answer) (it' : Iterator) (h : Generator σ),
    next schema setting it g = (answer, it', h) ∧
      Moves p sources k g (Reply.next answer).programs h ∧
      ∀ answers, Gives it' answers → Gives it (answer :: answers)

/-- A running iterator hands out the next program or stops. -/
theorem nextMoves_running (hr : Rows schema setting p sources) (hg : Stands sources k g)
    (done total : Nat) : NextMoves schema setting p sources k g (.running done total) := by
  by_cases hlt : done < total
  · obtain ⟨h, hnext, hh⟩ := next_running hr hg hlt
    refine ⟨_, _, h, hnext, ⟨rfl, hh, nofun⟩, fun answers hgives => ?_⟩
    have hleft : total - done = total - (done + 1) + 1 := by omega
    rw [Gives, hleft]
    exact HandsOut.program hgives (p k)
  · refine ⟨_, _, g, next_running_stop hlt g, moves_nil hg, fun answers hgives => ?_⟩
    have hleft : total - done = 0 := by omega
    rw [Gives, hleft]
    exact HandsOut.stop hgives

/-- Every iterator hands out the next program, stops or refuses. -/
theorem nextMoves (hr : Rows schema setting p sources) (hg : Stands sources k g) (it : Iterator) :
    NextMoves schema setting p sources k g it := by
  cases it with
  | running done total => exact nextMoves_running hr hg done total
  | exhausted => exact ⟨_, _, g, rfl, moves_nil hg, fun _ => HandsOut.stop⟩
  | waiting count =>
    by_cases hneg : count < 0
    · exact ⟨_, _, g, if_pos hneg, moves_nil hg, fun _ => gives_refusal hneg⟩
    · obtain ⟨answer, it', h, hnext, hmoves, hgives⟩ := nextMoves_running hr hg 0 count.toNat
      exact ⟨answer, it', h, (next_waiting hneg g).trans hnext, hmoves,
        fun answers ha => (gives_waiting hneg _).mpr (hgives answers ha)⟩

/-! ## Whole batches -/

/-- What a whole batch comes to: as many programs as were wanted, or a refusal. -/
def Completes (count : Int) : Except BatchFault (List Program) → Prop
  | .ok ps => ps.length = count
  | .error fault => count < 0 ∧ fault = .negativeCount count

/-- An iterator that is asked for all it has hands out the next programs of the row. -/
theorem collect_running (hr : Rows schema setting p sources) {total : Nat} :
    ∀ (left done k : Nat) (g : Generator σ), total - done = left → Stands sources k g →
      ∃ it h, collect schema setting (left + 1) (.running done total) g =
          (.ok ((List.range' k left).map p), it, h) ∧
        Stands sources (k + left) h ∧ (left = 0 → h = g) := by
  intro left
  induction left with
  | zero =>
    intro done k g hleft hg
    refine ⟨.exhausted, g, ?_, hg, fun _ => rfl⟩
    rw [collect, next_running_stop (by omega)]
    rfl
  | succ left ih =>
    intro done k g hleft hg
    obtain ⟨h, hnext, hh⟩ := next_running hr hg (show done < total by omega)
    obtain ⟨it, h', hcollect, hh', -⟩ := ih (done + 1) (k + 1) h (by omega) hh
    refine ⟨it, h', ?_, by rwa [Nat.add_right_comm] at hh', nofun⟩
    rw [collect, hnext]
    simp only [hcollect]
    rfl

/-- Programs generated at once are the next ones of the row. -/
theorem programs_natCast (hr : Rows schema setting p sources) (hg : Stands sources k g)
    (count : Nat) :
    ∃ h, Batch.programs schema setting count g = (.ok ((List.range' k count).map p), h) ∧
      Stands sources (k + count) h ∧ (count = 0 → h = g) := by
  obtain ⟨it, h, hcollect, hh⟩ := collect_running hr count 0 k g (Nat.sub_zero count) hg
  refine ⟨h, ?_, hh⟩
  have hwait : next schema setting (.waiting count) g = next schema setting (.running 0 count) g :=
    next_waiting (by omega) g
  rw [collect] at hcollect
  simp only [Batch.programs, rest, remaining, Int.toNat_natCast, collect, hwait, hcollect]

/-- Programs generated at once are the next ones of the row, as many as were wanted.  A negative
number of programs is refused. -/
theorem programs_moves (hr : Rows schema setting p sources) (hg : Stands sources k g) (count : Int) :
    ∃ outcome h, Batch.programs schema setting count g = (outcome, h) ∧
      Moves p sources k g (Reply.generate outcome).programs h ∧ Completes count outcome := by
  by_cases hneg : count < 0
  · refine ⟨.error (.negativeCount count), g, ?_, moves_nil hg, hneg, rfl⟩
    simp only [Batch.programs, rest, collect, next, if_pos hneg]
  · obtain ⟨count, rfl⟩ := Int.eq_ofNat_of_zero_le (Int.not_lt.mp hneg)
    obtain ⟨h, hrun, hh, hstill⟩ := programs_natCast hr hg count
    have hlen : ((List.range' k count).map p).length = count := by simp
    refine ⟨_, h, hrun, ⟨?_, ?_, fun hnil => hstill ?_⟩, congrArg Nat.cast hlen⟩
    · rw [Reply.programs, hlen]
    · rwa [Reply.programs, hlen]
    · rw [← hlen]
      exact List.length_eq_zero_iff.mpr hnil

/-! ## Sessions -/

/-- The reply is of the kind of the request, and a whole batch comes to what it should. -/
def Fits : Request ι → Reply → Prop
  | .next _, .next _ => True
  | .generate count, .generate outcome => Completes count outcome
  | _, _ => False

/-- Answering one request hands out the next programs of the row, and one answer to the iterator that
was asked. -/
theorem serve_moves (hr : Rows schema setting p sources) (s : Session ι σ)
    (hg : Stands sources k s.generator) (request : Request ι) :
    ∃ reply s', s.serve schema setting request = (reply, s') ∧
      Moves p sources k s.generator reply.programs s'.generator ∧ Fits request reply ∧
      ∀ i later, Gives (s'.iterators i) later →
        Gives (s.iterators i) (History.answersOf [(request, reply)] i ++ later) := by
  cases request with
  | next j =>
    obtain ⟨answer, it, h, hnext, hmoves, hgives⟩ := nextMoves hr hg (s.iterators j)
    refine ⟨.next answer, ⟨Function.update s.iterators j it, h⟩, ?_, hmoves, trivial, ?_⟩
    · rw [Session.serve, hnext]
    · intro i later (hlater : Gives (Function.update s.iterators j it i) later)
      by_cases hi : j = i
      · subst hi
        rw [Function.update_self] at hlater
        simpa [History.answersOf] using hgives later hlater
      · rw [Function.update_of_ne (Ne.symm hi)] at hlater
        simpa [History.answersOf, hi] using hlater
  | generate count =>
    obtain ⟨outcome, h, hrun, hmoves, hcomplete⟩ := programs_moves hr hg count
    refine ⟨.generate outcome, { s with generator := h }, ?_, hmoves, hcomplete, fun _ _ => id⟩
    rw [Session.serve, hrun]

/-- Answering requests hands out the next programs of the row, whatever was asked in which order, and
to each iterator what it should give. -/
theorem run_moves (hr : Rows schema setting p sources) (requests : List (Request ι)) :
    ∀ (k : Nat) (s : Session ι σ), Stands sources k s.generator →
      ∃ history s', s.run schema setting requests = (history, s') ∧
        Moves p sources k s.generator history.programs s'.generator ∧
        history.map Prod.fst = requests ∧ (∀ step ∈ history, Fits step.1 step.2) ∧
        ∀ i, Gives (s.iterators i) (history.answersOf i) := by
  induction requests with
  | nil => exact fun k s hg => ⟨[], s, rfl, moves_nil hg, rfl, nofun, fun i => gives_nil _⟩
  | cons request requests ih =>
    intro k s hg
    obtain ⟨reply, s₁, hserve, hmoves, hfits, hgives⟩ := serve_moves hr s hg request
    obtain ⟨later, s₂, hrun, hmoves', hasked, hfits', hgives'⟩ := ih _ s₁ hmoves.stands
    refine ⟨(request, reply) :: later, s₂, ?_, hmoves.trans hmoves',
      congrArg (request :: ·) hasked, ?_, fun i => ?_⟩
    · rw [Session.run, hserve]
      simp only [hrun]
    · exact List.forall_mem_cons.mpr ⟨hfits, hfits'⟩
    · rw [← List.singleton_append, History.answersOf, List.filterMap_append]
      exact hgives i _ (hgives' i)

/-- What is said of a session: every request is answered; whoever asked, the programs are those of
the row, in order; every iterator gives its number of programs and then stops, or refuses; and whole
batches are complete. -/
structure Orderly (p : Nat → Program) (counts : ι → Int) (requests : List (Request ι))
    (history : History ι) : Prop where
  asked : history.map Prod.fst = requests
  programs : history.programs = (List.range history.programs.length).map p
  answers : ∀ i, Gives (.waiting (counts i)) (history.answersOf i)
  fits : ∀ step ∈ history, Fits step.1 step.2

/-- Iterators for any numbers of programs, asked in any order and with whole batches in between, hand
out the row.  After every run of requests the generator is clear, and a request that hands out
nothing leaves it as it was. -/
def SharesRow (schema : Schema) (setting : Setting) (p : Nat → Program) (g : Generator σ) : Prop :=
  ∀ (ι : Type) [DecidableEq ι] (counts : ι → Int) (requests : List (Request ι)),
    let reached := Session.run schema setting requests (.start counts g)
    Orderly p counts requests reached.1 ∧ reached.2.generator.IsClear ∧
      ∀ request, (reached.2.serve schema setting request).1.programs = [] →
        (reached.2.serve schema setting request).2.generator = reached.2.generator

/-- Where the generator stands at the first program, the row is shared. -/
theorem sharesRow_of_rows (hr : Rows schema setting p sources) (hg : Stands sources 0 g) :
    SharesRow schema setting p g := by
  intro ι _ counts requests
  obtain ⟨history, s, hrun, hmoves, hasked, hfits, hgives⟩ :=
    run_moves hr requests 0 (.start counts g) hg
  rw [hrun]
  refine ⟨⟨hasked, ?_, hgives, hfits⟩, hmoves.stands.1, fun request hnil => ?_⟩
  · rw [List.range_eq_range']
    exact hmoves.eq
  · obtain ⟨reply, s', hserve, hmoves', -⟩ := serve_moves hr s hmoves.stands request
    rw [hserve] at hnil ⊢
    exact hmoves'.still hnil

/-! ## Seeds -/

/-- A usable schema and setting have a generator for every seed. -/
theorem prepare_ok (hs : schema.fault? = none) (ht : setting.fault? = none) (seed : Int) :
    Batch.prepare schema setting seed = .ok (.new (Twister.ofSeed seed)) := by
  have hcheck : Batch.check schema setting = .ok () := by
    rw [check, Domain.fault?, hs, ht]
  rw [prepare, hcheck]
  rfl

/-- Over a usable schema and setting a seed determines one row of programs, which iterators share.  A
batch is the front of the row, and so the front of every longer batch. -/
theorem exists_row {schema : Schema} {setting : Setting} (hs : schema.fault? = none)
    (ht : setting.fault? = none) (seed : Int) :
    ∃ g p, Batch.prepare schema setting seed = .ok g ∧ SharesRow schema setting p g ∧
      ∀ n m : Nat, n ≤ m → ∃ batch, generatePrograms schema setting m seed = .ok batch ∧
        batch = (List.range m).map p ∧ generatePrograms schema setting n seed = .ok (batch.take n) := by
  obtain ⟨p, sources, hr, hzero⟩ := exists_sources hs ht (Twister.ofSeed seed)
  have hg : Stands sources 0 (Generator.new (Twister.ofSeed seed)) :=
    ⟨isClear_new _, hzero.symm⟩
  have hbatch (n : Nat) : generatePrograms schema setting n seed = .ok ((List.range n).map p) := by
    obtain ⟨h, hrun, -⟩ := programs_natCast hr hg n
    rw [generatePrograms, prepare_ok hs ht, List.range_eq_range']
    exact congrArg Prod.fst hrun
  refine ⟨_, p, prepare_ok hs ht seed, sharesRow_of_rows hr hg, fun n m hle => ?_⟩
  refine ⟨_, hbatch m, rfl, ?_⟩
  rw [hbatch, ← List.map_take, List.take_range, Nat.min_eq_left hle]

/-- The row of a seed over sets and points. -/
theorem exists_row_setsAndPoints :
    Schema.setsAndPoints.fault? = none ∧ Setting.fault? ⟨2, 5, .mixed⟩ = none ∧
      ∃ g p, Batch.prepare Schema.setsAndPoints ⟨2, 5, .mixed⟩ 7 = .ok g ∧
        SharesRow Schema.setsAndPoints ⟨2, 5, .mixed⟩ p g ∧
        ∀ n m : Nat, n ≤ m → ∃ batch,
          generatePrograms Schema.setsAndPoints ⟨2, 5, .mixed⟩ m 7 = .ok batch ∧
            batch = (List.range m).map p ∧
            generatePrograms Schema.setsAndPoints ⟨2, 5, .mixed⟩ n 7 = .ok (batch.take n) :=
  ⟨by decide, by decide, exists_row (by decide) (by decide) 7⟩

end Batch

end Substance
