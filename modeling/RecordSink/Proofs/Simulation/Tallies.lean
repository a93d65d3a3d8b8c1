import RecordSink.Proofs.Simulation.Silence

/-!
# Tallies of a simulation

What a simulation counts, in any world and with any sink. An operation comes to one of a few events, each of
which is entered into the counters in its own way and opens or closes a file or leaves it as it is; from this it
follows by induction that the counters of a run add up.
-/

namespace RecordSink.Simulation

open RecordSink.Stream

/-! ## Upshots -/

/-- The counters of a report, but for those of the store. -/
structure Tally where
  operations : Nat
  successes : Nat
  failures : Nat
  filesOpened : Nat
  syncs : Nat
  publishes : Nat
  discards : Nat
  capacityRejections : Nat

def Report.tally (report : Report) : Tally :=
  { operations := report.operations, successes := report.successes, failures := report.failures
    filesOpened := report.filesOpened, syncs := report.syncs, publishes := report.publishes
    discards := report.discards, capacityRejections := report.capacityRejections }

/-- The tally with one more operation. -/
def Tally.count (tally : Tally) (success : Bool) : Tally :=
  { tally with
    operations := tally.operations + 1
    successes := tally.successes + success.toNat
    failures := tally.failures + (!success).toNat }

theorem Report.tally_count (report : Report) (success : Bool) :
    (report.count success).tally = report.tally.count success := by
  cases success <;> rfl

/-- Every operation was a success or a failure, every file that was opened was published or discarded unless it is
open still, and every append that was refused for lack of room was a failure. -/
structure Tally.Balances (tally : Tally) (isOpen : Bool) : Prop where
  operations : tally.operations = tally.successes + tally.failures
  files : tally.filesOpened = tally.publishes + tally.discards + isOpen.toNat
  rejections : tally.capacityRejections ≤ tally.failures

/-- What an operation can come to. A file whose sync or publish fails is discarded, and lost. -/
inductive Upshot where
  | opened
  | unopened
  | taken
  | rejected
  | refused
  | synced
  | published
  | discarded
  | lost

namespace Upshot

/-- The operation counts as a success. -/
def succeeds : Upshot → Bool
  | .opened | .taken | .synced | .published | .discarded => true
  | .unopened | .rejected | .refused | .lost => false

/-- A file was open before. -/
def begins : Upshot → Bool
  | .opened | .unopened => false
  | .taken | .rejected | .refused | .synced | .published | .discarded | .lost => true

/-- A file is open after it. -/
def leaves : Upshot → Bool
  | .opened | .taken | .rejected | .refused | .synced => true
  | .unopened | .published | .discarded | .lost => false

/-- Enters an event into the tally. -/
def enter (tally : Tally) : Upshot → Tally
  | .opened => { tally with filesOpened := tally.filesOpened + 1 }
  | .rejected => { tally with capacityRejections := tally.capacityRejections + 1 }
  | .synced => { tally with syncs := tally.syncs + 1 }
  | .published => { tally with publishes := tally.publishes + 1 }
  | .discarded | .lost => { tally with discards := tally.discards + 1 }
  | .unopened | .taken | .refused => tally

variable {upshot : Upshot} {tally : Tally}

/-- A tally that balances does so after the operation was entered and counted. -/
theorem balances (balanced : tally.Balances upshot.begins) :
    ((upshot.enter tally).count upshot.succeeds).Balances upshot.leaves := by
  obtain ⟨operations, files, rejections⟩ := balanced
  cases upshot <;>
    simp only [begins, Bool.toNat_true, Bool.toNat_false] at files <;>
    constructor <;>
    simp only [enter, Tally.count, succeeds, leaves, Bool.not_true, Bool.not_false, Bool.toNat_true,
      Bool.toNat_false] <;>
    omega

/-- A success is no rejection. -/
theorem rejections_of_succeeds (success : upshot.succeeds = true) :
    (upshot.enter tally).capacityRejections = tally.capacityRejections := by
  cases upshot <;> first | rfl | cases success

theorem failures_enter (upshot : Upshot) (tally : Tally) : (upshot.enter tally).failures = tally.failures := by
  cases upshot <;> rfl

end Upshot

/-! ## What is not counted -/

variable {W : Type} {harness : Harness W} {progress before middle after further : Progress} {step : Step}

/-- Between two moments nothing was counted, and no file was opened, used or closed. -/
structure Uncounted (before after : Progress) : Prop where
  current : after.current = before.current
  files : after.files = before.files
  tally : after.report.tally = before.report.tally

namespace Uncounted

theorem refl (progress : Progress) : Uncounted progress progress := ⟨rfl, rfl, rfl⟩

theorem trans (first : Uncounted before middle) (second : Uncounted middle after) : Uncounted before after :=
  ⟨second.current.trans first.current, second.files.trans first.files, second.tally.trans first.tally⟩

theorem violate (progress : Progress) (message : String) : Uncounted progress (progress.violate message) :=
  ⟨rfl, rfl, rfl⟩

theorem leak (progress : Progress) (name : String) (count : Nat) :
    Uncounted progress (progress.leak name count) :=
  ⟨rfl, rfl, rfl⟩

theorem ite {condition : Prop} [Decidable condition] (first : Uncounted progress before)
    (second : Uncounted progress after) : Uncounted progress (if condition then before else after) := by
  split
  · exact first
  · exact second

theorem expect (harness : Harness W) (name : String) (records : List Bytes) (progress : Progress) (world : W) :
    Uncounted progress (harness.expect name records progress world) := by
  rw [Harness.expect]
  split
  · exact .violate progress _
  split
  · exact .violate progress _
  · exact .ite (.refl progress) (.violate progress _)

theorem checkObject (harness : Harness W) (progress : Progress) (object : String) :
    Uncounted progress (harness.checkObject progress object) := by
  rw [Harness.checkObject]
  dsimp only
  split
  · exact .ite (.refl progress) (.violate progress _)
  split
  · exact .ite (.refl progress) (.violate progress _)
  · exact .violate progress _

theorem foldl {α : Type} {step : Progress → α → Progress}
    (each : ∀ progress member, Uncounted progress (step progress member)) (members : List α)
    (progress : Progress) : Uncounted progress (members.foldl step progress) :=
  List.foldlRecOn members step (.refl progress) fun _ before member _ => before.trans (each _ member)

/-- Comparing a store with published files and its objects with what is known of them counts nothing. -/
theorem survey (harness : Harness W) (published : List (String × List Bytes)) (objects : List String)
    (progress : Progress) (world : W) :
    Uncounted progress (objects.foldl harness.checkObject (published.foldl
      (fun progress entry =>
        harness.expect (harness.settings.config.publishDir ++ "/" ++ entry.1) entry.2 progress world)
      progress)) :=
  (foldl (fun progress entry => .expect harness _ entry.2 progress world) published progress).trans
    (foldl (Uncounted.checkObject harness) objects _)

end Uncounted

/-! ## Operations -/

/-- The current file, if there is one, is open. -/
def Progress.IsLive (progress : Progress) : Prop :=
  ∀ shadow ∈ progress.current, shadow.file.state = .open

theorem Progress.IsLive.of_idle (idle : progress.current = none) : progress.IsLive := by
  rw [IsLive, idle]
  rintro shadow ⟨⟩

/-- An operation had an upshot. -/
structure Has (upshot : Upshot) (before : Progress) (success : Bool) (after : Progress) : Prop where
  success : success = upshot.succeeds
  began : before.current.isSome = upshot.begins
  left : after.current.isSome = upshot.leaves
  files : after.files = before.files
  tally : after.report.tally = upshot.enter before.report.tally

/-- What follows without being counted does not change what an operation comes to. -/
theorem Uncounted.has {upshot : Upshot} {success : Bool} (same : Uncounted middle after)
    (has : Has upshot before success middle) : Has upshot before success after :=
  ⟨has.success, has.began, (congrArg Option.isSome same.current).trans has.left, same.files.trans has.files,
    same.tally.trans has.tally⟩

/-- A file that is open or has failed is discarded, and that is counted. -/
theorem discardShadow_yields (harness : Harness W) {shadow : Shadow}
    (unfinished : shadow.file.state = .open ∨ shadow.file.state = .failed) (progress : Progress) :
    Yields (harness.discardShadow shadow progress) fun result => result.1 = true ∧
      Uncounted { progress with report := { progress.report with discards := progress.report.discards + 1 } }
        result.2 := by
  have permitted : ¬ (shadow.file.state ≠ .open ∧ shadow.file.state ≠ .failed) :=
    fun finished => unfinished.elim finished.1 finished.2
  rw [Harness.discardShadow]
  refine .bind (SinkFile.discard_yields _ permitted) ?_
  rintro ⟨result, file⟩ ⟨⟨leftover, rfl⟩, -⟩
  refine .after fun world => .pure ⟨rfl, ?_⟩
  exact .ite (.trans (.ite (.violate _ _) (.refl _)) (.leak _ _ _)) (.ite (.violate _ _) (.refl _))

/-- A file that could be created is open. -/
theorem createFile_yields (sink : Sink W) (name : String) (marker : Marker) (capacity : Nat) :
    Yields (sink.createFile name marker capacity) fun result =>
      ∀ file, result = .ok file → file.state = .open := by
  rw [Sink.createFile]
  split
  · exact .pure (by simp)
  · next names _ =>
    exact fun world file made =>
      (SinkFile.agrees_create sink.store name names capacity marker world file made).isOpen.mp rfl

theorem create_yields (harness : Harness W) (name : String) (idle : progress.current = none) :
    Yields (harness.create name progress) fun result =>
      (∃ upshot, Has upshot progress result.1 result.2) ∧ result.2.IsLive := by
  rw [Harness.create]
  refine .bind (createFile_yields _ _ _ _) ?_
  intro result opens
  cases result with
  | ok file =>
      refine .pure ⟨⟨.opened, rfl, by rw [idle]; rfl, rfl, rfl, rfl⟩, ?_⟩
      rintro shadow ⟨⟩
      exact opens file rfl
  | error cause =>
      have same := Uncounted.leak progress name 1
      have began : progress.current.isSome = false := by rw [idle]; rfl
      exact .pure ⟨⟨.unopened, same.has ⟨rfl, began, began, rfl, rfl⟩⟩, .of_idle (same.current.trans idle)⟩

theorem append_has (harness : Harness W) (record : Bytes) (live : progress.IsLive)
    (busy : progress.current ≠ none) :
    (∃ upshot, Has upshot progress (harness.append record progress).1 (harness.append record progress).2) ∧
      (harness.append record progress).2.IsLive := by
  obtain ⟨shadow, current⟩ := Option.ne_none_iff_exists'.mp busy
  have began : progress.current.isSome = true := by rw [current]; rfl
  have stays : ∀ result file, shadow.file.append record = (result, file) → file.state = .open := by
    intro result file appended
    obtain ⟨buffer, same⟩ := SinkFile.append_snd record shadow.file
    rw [appended] at same
    cases same
    exact live shadow current
  rw [Harness.append, current]
  dsimp only
  split
  · next file appended =>
    refine ⟨⟨.taken, rfl, began, rfl, ?_, ?_⟩, ?_⟩
    · split <;> rfl
    · split <;> rfl
    · rintro other ⟨⟩
      exact stays _ file appended
  · next file appended =>
    refine ⟨⟨.rejected, rfl, began, rfl, ?_, ?_⟩, ?_⟩
    · split <;> split <;> rfl
    · split <;> split <;> rfl
    · rintro other ⟨⟩
      exact stays _ file appended
  · next cause file _ appended =>
    refine ⟨⟨.refused, rfl, began, rfl, rfl, rfl⟩, ?_⟩
    rintro other ⟨⟩
    exact stays _ file appended

theorem sync_yields (harness : Harness W) (live : progress.IsLive) (busy : progress.current ≠ none) :
    Yields (harness.sync progress) fun result =>
      (∃ upshot, Has upshot progress result.1 result.2) ∧ result.2.IsLive := by
  obtain ⟨shadow, current⟩ := Option.ne_none_iff_exists'.mp busy
  have began : progress.current.isSome = true := by rw [current]; rfl
  rw [Harness.sync, current]
  refine .bind (SinkFile.sync_progress _ (live shadow current)) ?_
  rintro ⟨result, file⟩ (⟨rfl, isOpen, -, -⟩ | ⟨cause, rfl, -, failed⟩)
  · refine .after fun world => .pure ?_
    have same : Uncounted { progress with
        current := none, report := { progress.report with syncs := progress.report.syncs + 1 } } _ :=
      .expect harness file.names.inflight.text (shadow.synced ++ shadow.buffered) _ world
    refine ⟨⟨.synced, rfl, began, rfl, same.files, same.tally⟩, ?_⟩
    rintro other ⟨⟩
    exact isOpen
  · have failed : file.state = .failed := failed
    dsimp only
    rw [if_neg (not_not_intro failed)]
    refine .bind (discardShadow_yields harness (.inr failed) _) ?_
    rintro ⟨success, after⟩ ⟨-, noted⟩
    exact .pure ⟨⟨.lost, noted.has ⟨rfl, began, rfl, rfl, rfl⟩⟩, .of_idle noted.current⟩

theorem publish_yields (harness : Harness W) (live : progress.IsLive) (busy : progress.current ≠ none) :
    Yields (harness.publish progress) fun result =>
      (∃ upshot, Has upshot progress result.1 result.2) ∧ result.2.current = none := by
  obtain ⟨shadow, current⟩ := Option.ne_none_iff_exists'.mp busy
  have began : progress.current.isSome = true := by rw [current]; rfl
  rw [Harness.publish, current]
  refine .bind (SinkFile.publish_progress _ (live shadow current)) ?_
  rintro ⟨result, file⟩ ⟨-, ⟨⟨publication, rfl⟩, -⟩ | ⟨cause, rfl, -, failed⟩⟩
  · have has : ∀ after, Uncounted { progress with
        current := none, report := { progress.report with publishes := progress.report.publishes + 1 } } after →
        (∃ upshot, Has upshot progress true after) ∧ after.current = none :=
      fun after same => ⟨⟨.published, same.has ⟨rfl, began, rfl, rfl, rfl⟩⟩, same.current⟩
    refine .after fun world => .pure (has _ (.trans (.expect harness file.names.publish.text
      (shadow.synced ++ shadow.buffered) _ world) ?_))
    split <;> split <;> exact ⟨rfl, rfl, rfl⟩
  · have failed : file.state = .failed := failed
    refine .bind (discardShadow_yields harness (.inr failed) _) ?_
    rintro ⟨success, after⟩ ⟨-, noted⟩
    exact .pure ⟨⟨.lost, noted.has ⟨rfl, began, rfl, rfl, rfl⟩⟩, noted.current⟩

/-- An operation that is offered has an upshot, and the current file is open after it. -/
theorem execute_yields (live : progress.IsLive) (offered : Offers harness.settings progress step further) :
    Yields (harness.execute step further) fun result =>
      (∃ upshot, Has upshot further result.1 result.2) ∧ result.2.IsLive := by
  cases offered with
  | create idle => exact create_yields harness _ idle
  | append busy random record short => exact .pure (append_has harness record live busy)
  | sync busy random => exact sync_yields harness live busy
  | publish busy random =>
      have published : Yields (harness.publish { progress with random }) _ := publish_yields harness live busy
      intro world
      obtain ⟨has, idle⟩ := published world
      exact ⟨has, .of_idle idle⟩
  | discard busy random =>
      obtain ⟨shadow, current⟩ := Option.ne_none_iff_exists'.mp busy
      rw [Harness.execute, Harness.discard, current]
      intro world
      obtain ⟨success, noted⟩ := discardShadow_yields harness (.inl (live shadow current))
        { progress with random, current := none } world
      exact ⟨⟨.discarded, noted.has ⟨success, rfl, rfl, rfl, rfl⟩⟩, .of_idle noted.current⟩

/-- What is offered is not counted yet. -/
theorem Offers.uncounted (offered : Offers harness.settings progress step further) :
    further.current = progress.current ∧ progress.files ≤ further.files ∧
      further.report.tally = progress.report.tally := by
  cases offered with
  | create => exact ⟨rfl, Nat.le_succ _, rfl⟩
  | _ => exact ⟨rfl, Nat.le_refl _, rfl⟩

/-- A check discards the open file, which is counted, and nothing else is. -/
theorem check_yields (harness : Harness W) (live : progress.IsLive) :
    Yields (harness.checkInvariants progress) fun after => Uncounted { progress with
      current := none
      report := { progress.report with
        discards := progress.report.discards + progress.current.isSome.toNat } } after := by
  rw [Harness.checkInvariants]
  cases current : progress.current with
  | none =>
      have same : Uncounted { progress with current := none } progress := ⟨current, rfl, rfl⟩
      refine .bind (.pure same) fun settled unchanged => .after fun world => .pure ?_
      exact (unchanged.trans (.survey harness _ _ settled world)).trans ⟨rfl, rfl, rfl⟩
  | some shadow =>
      refine .bind (discardShadow_yields harness (.inl (live shadow current)) _) ?_
      rintro ⟨success, settled⟩ ⟨-, noted⟩
      refine .bind (.pure noted) fun settled noted => .after fun world => .pure ?_
      exact (noted.trans (.survey harness _ _ settled world)).trans ⟨rfl, rfl, rfl⟩

/-! ## Runs -/

/-- How far a simulation can come from its beginning, by operations that are offered, runs and checks, however long
its streams grow. -/
inductive Arrives (harness : Harness W) (origin : W) : Progress → W → Prop
  | begin : Arrives harness origin harness.settings.begin origin
  | perform {progress next : Progress} {step : Step} {world : W} (arrives : Arrives harness origin progress world)
      (offered : Offers harness.settings progress step next) :
      Arrives harness origin (harness.perform step next world).1 (harness.perform step next world).2
  | run {progress : Progress} {world : W} (arrives : Arrives harness origin progress world) (operations : Nat) :
      Arrives harness origin (harness.run operations progress world).1 (harness.run operations progress world).2
  | check {progress : Progress} {world : W} (arrives : Arrives harness origin progress world) :
      Arrives harness origin (harness.checkInvariants progress world).1 (harness.checkInvariants progress world).2

/-- A simulation comes wherever it can with short streams. -/
theorem Reached.arrives {origin world : W} (reached : Reached harness origin progress world) :
    Arrives harness origin progress world := by
  induction reached with
  | begin => exact .begin
  | perform _ _ offered arrives => exact arrives.perform offered
  | run _ operations _ arrives => exact arrives.run operations
  | check _ arrives => exact arrives.check

/-- What holds at the beginning and is kept by what is offered, by operations and by checks holds wherever a
simulation comes to. -/
theorem Arrives.keeps {origin world : W} {I : Progress → W → Prop}
    (small : harness.settings.maxRecordSize < lengthBound) (begins : I harness.settings.begin origin)
    (offers : ∀ {progress further step world}, I progress world →
      Offers harness.settings progress step further → I further world)
    (performs : ∀ {progress further step world}, I progress world →
      Offers harness.settings progress step further →
        I (harness.perform step further world).1 (harness.perform step further world).2)
    (checks : ∀ {progress world}, I progress world →
      I (harness.checkInvariants progress world).1 (harness.checkInvariants progress world).2)
    (arrives : Arrives harness origin progress world) : I progress world := by
  induction arrives with
  | begin => exact begins
  | perform _ offered kept => exact performs kept offered
  | @run progress world arrived operations kept =>
      -- within a run the induction is on the operations left, from anywhere that keeps the invariant
      clear arrived
      induction operations generalizing progress world with
      | zero => exact kept
      | succ operations ih =>
          have offered := offers_next harness.settings small progress
          rw [harness.run_succ]
          split
          · exact offers kept offered
          · exact ih (performs kept offered)
  | check _ kept => exact checks kept

/-- The current file is open, and the counters add up. -/
structure Progress.Balances (progress : Progress) : Prop where
  live : progress.IsLive
  tally : progress.report.tally.Balances progress.current.isSome

theorem Progress.Balances.offers (balances : progress.Balances)
    (offered : Offers harness.settings progress step further) : further.Balances := by
  obtain ⟨current, -, tally⟩ := offered.uncounted
  refine ⟨?_, ?_⟩
  · rw [IsLive, current]
    exact balances.live
  · rw [current, tally]
    exact balances.tally

/-- An operation keeps the counters in balance. -/
theorem perform_balances (balances : progress.Balances)
    (offered : Offers harness.settings progress step further) :
    Yields (harness.perform step further) Progress.Balances := by
  have ready := balances.offers offered
  rw [Harness.perform]
  refine .bind (execute_yields balances.live offered) ?_
  rintro ⟨success, after⟩ ⟨⟨upshot, succeeded, began, left, -, entered⟩, live⟩
  have balanced : further.report.tally.Balances upshot.begins := began ▸ ready.tally
  refine .pure ⟨live, ?_⟩
  dsimp only at succeeded left entered ⊢
  rw [Report.tally_count, entered, succeeded, left]
  exact upshot.balances balanced

/-- A check leaves no file open, and the counters in balance. -/
theorem check_balances (harness : Harness W) (balances : progress.Balances) :
    Yields (harness.checkInvariants progress) fun after => after.current = none ∧
      after.report.tally.Balances false := by
  intro world
  have closed := check_yields harness balances.live world
  obtain ⟨operations, files, rejections⟩ := balances.tally
  refine ⟨closed.current, ?_⟩
  rw [closed.tally]
  exact ⟨operations, files.trans (Nat.add_assoc _ _ _), rejections⟩

theorem Progress.Balances.of_idle (idle : progress.current = none) (tally : progress.report.tally.Balances false) :
    progress.Balances := by
  refine ⟨.of_idle idle, ?_⟩
  rw [idle]
  exact tally

/-- The counters are in balance wherever a simulation comes to. -/
theorem Arrives.balances {origin world : W} (small : harness.settings.maxRecordSize < lengthBound)
    (arrives : Arrives harness origin progress world) : progress.Balances := by
  refine arrives.keeps small (.of_idle rfl ⟨rfl, rfl, Nat.le_refl _⟩) Progress.Balances.offers
    (fun balances offered => perform_balances balances offered _) fun balances => ?_
  obtain ⟨idle, tally⟩ := check_balances harness balances _
  exact .of_idle idle tally

/-- The report of a whole run is in balance, and each of its files was published or discarded. -/
theorem balances_of_runOnce {settings : Settings} {markers : Nat → Marker} {operations : Nat} {report : Report}
    (small : settings.maxRecordSize < lengthBound) (reported : runOnce settings markers operations = .ok report) :
    report.tally.Balances false := by
  rw [runOnce] at reported
  obtain ⟨harness, made, reported⟩ := Except.exists_of_bind_eq_ok reported
  cases reported
  have named : harness.settings = settings := by
    rw [Settings.harness] at made
    obtain ⟨sink, -, made⟩ := Except.exists_of_bind_eq_ok made
    cases made
    rfl
  subst named
  have arrived : Arrives harness (.withStore harness.settings.store) _ _ := .run .begin operations
  exact (check_balances harness (arrived.balances small) _).2

end RecordSink.Simulation
