import RecordSink.Proofs.Simulation.Tallies
import RecordSink.Proofs.SinkFile.Unharmed

/-!
# Accounts of a simulation

The counters of a simulation whose store is on trial. They are in balance wherever the simulation comes to,
whatever faults are injected. As long as none is, the open file thrives and no operation fails but an append to a
full buffer, so that every failure is a refusal for lack of room.
-/

namespace RecordSink.Simulation

open Emulator Ordeal RecordSink.Stream

section

variable {τ : Type} {schedule : Schedule} {harness : Harness (Ordeal τ)} {progress further : Progress}
  {step : Step} {start history : History}

/-! ## Harnesses -/

/-- The credential of a simulation. -/
def Settings.credential : Credential := .bearer Settings.token

/-- The sink of a harness is the one of its settings, and is alone with a store on trial. -/
structure Harness.IsAlone (schedule : Schedule) (harness : Harness (Ordeal τ)) : Prop where
  store : harness.sink.store.IsAlone Settings.credential schedule
  config : harness.sink.config = harness.settings.config
  bucket : harness.client.bucket = Settings.bucket

/-- The store has the bucket of a simulation and takes its credential. -/
abbrev Harness.IsWelcome (harness : Harness (Ordeal τ)) (history : History) : Prop :=
  harness.client.IsWelcome Settings.credential history.store

/-- The endpoint of a simulation has no path of its own and no query. -/
theorem Settings.bare_endpoint {url : Url} (found : Client.endpoint? Settings.endpoint = .ok url) :
    url.path = .rooted "/" ∧ url.query = none := by
  have known : (Client.endpoint? Settings.endpoint).toOption.map (fun url => (url.path, url.query)) =
      some (.rooted "/", none) := by
    decide +kernel
  rw [found] at known
  exact Prod.mk.inj (Option.some.inj known)

theorem Settings.isAlone_of_onTrial {settings : Settings} {clock : Clock τ} {markers : Nat → Marker}
    (alone : ∀ number, (schedule number).deeds = [])
    (accepted : settings.onTrial schedule clock markers = .ok harness) :
    harness.settings = settings ∧ harness.IsAlone schedule := by
  rw [onTrial] at accepted
  obtain ⟨sink, connected, made⟩ := Except.exists_of_bind_eq_ok accepted
  cases made
  obtain ⟨-, -, -, addressed⟩ := Sink.connect_eq_ok connected
  rw [Sink.connect] at connected
  obtain ⟨⟨⟩, -, passed⟩ := Except.exists_of_bind_eq_ok connected
  obtain ⟨client, reached, made⟩ := Except.exists_of_bind_eq_ok passed
  cases made
  rw [Client.connect] at reached
  obtain ⟨url, found, made⟩ := Except.exists_of_bind_eq_ok reached
  cases made
  obtain ⟨root, bare⟩ := Settings.bare_endpoint found
  exact ⟨rfl, ⟨⟨addressed, Client.reaches_of_bare addressed root bare, rfl, alone, rfl⟩, _, rfl⟩, rfl, rfl⟩

/-! ## Discards and checks -/

namespace Harness.IsAlone

/-- A discard leaves the client welcome. -/
theorem unharmed_discardShadow (alone : harness.IsAlone schedule) (shadow : Shadow) (progress : Progress) :
    Unharmed schedule harness.IsWelcome (harness.discardShadow shadow progress) fun _ => harness.IsWelcome := by
  rw [discardShadow]
  refine .bind (SinkFile.unharmed_discard alone.store shadow.file) ?_
  rintro ⟨_ | _, _⟩
  · exact .pure fun _ holds => holds
  · exact .bind .get fun _ => .pure fun _ holds => holds

/-- A check leaves the client welcome. -/
theorem unharmed_check (alone : harness.IsAlone schedule) (progress : Progress) :
    Unharmed schedule harness.IsWelcome (harness.checkInvariants progress) fun _ => harness.IsWelcome := by
  have settling : Unharmed schedule harness.IsWelcome (settle harness progress) fun _ => harness.IsWelcome := by
    rw [settle]
    split
    · exact .pure fun _ holds => holds
    · exact .bind (alone.unharmed_discardShadow _ _) fun _ => .pure fun _ holds => holds
  rw [checkInvariants_eq]
  exact .bind settling fun _ => .bind .get fun _ => .pure fun _ holds => holds

/-- An operation only adds moments. -/
theorem grows_execute (alone : harness.IsAlone schedule) (step : Step) (progress : Progress) :
    Grows (harness.execute step progress) := by
  have exposed := alone.store.isExposed []
  have discards : ∀ shadow progress, Grows (harness.discardShadow shadow progress) :=
    fun shadow progress => (alone.unharmed_discardShadow shadow progress).grows
  cases step with
  | create name =>
      have creates : Grows (harness.sink.createFile name (harness.markers progress.files)
          harness.sink.recordsPerSync) := by
        rw [Sink.createFile]
        split
        · exact .pure
        · exact (SinkFile.attends_create exposed _ _ _ _).grows
      refine .bind creates ?_
      rintro (_ | _) <;> exact .pure
  | append record => exact .pure
  | sync =>
      rw [execute, sync]
      split
      · refine .bind (SinkFile.attends_sync exposed _).grows ?_
        rintro ⟨_ | _, _⟩
        · exact .bind (discards _ _) fun _ => .pure
        · exact .bind .get fun _ => .pure
      · exact .pure
  | publish =>
      rw [execute, publish]
      split
      · refine .bind (SinkFile.attends_publish exposed _).grows ?_
        rintro ⟨_ | _, _⟩
        · exact .bind (discards _ _) fun _ => .pure
        · exact .bind .get fun _ => .pure
      · exact .pure
  | discard =>
      rw [execute, discard]
      split
      · exact discards _ _
      · exact .pure

end Harness.IsAlone

/-! ## Operations -/

/-- The sink is welcome, and the open file thrives and keeps what its shadow knows to be waiting. -/
structure Thrives (harness : Harness (Ordeal τ)) (progress : Progress) (history : History) : Prop where
  welcome : harness.IsWelcome history
  file : ∀ shadow ∈ progress.current, ∃ marker, shadow.file.Thrives harness.client marker history.store
  waiting : ∀ shadow ∈ progress.current,
    shadow.file.buffer = { records := shadow.buffered, capacity := harness.settings.capacity }

namespace Thrives

theorem of_idle (welcome : harness.IsWelcome history) (idle : progress.current = none) :
    Thrives harness progress history := by
  refine ⟨welcome, ?_, ?_⟩
  · rw [idle]
    rintro shadow ⟨⟩
  · rw [idle]
    rintro shadow ⟨⟩

/-- Progress without another open file. -/
theorem onwards (thrives : Thrives harness progress history) (current : further.current = progress.current) :
    Thrives harness further history := by
  refine ⟨thrives.welcome, ?_, ?_⟩
  · rw [current]
    exact thrives.file
  · rw [current]
    exact thrives.waiting

theorem isLive (thrives : Thrives harness progress history) : progress.IsLive := by
  intro shadow current
  obtain ⟨marker, file⟩ := thrives.file shadow current
  exact file.isOpen

end Thrives

/-- A record is appended to a full buffer. -/
def Overflows (settings : Settings) (progress : Progress) (step : Step) : Prop :=
  (∃ record, step = .append record) ∧
    ∃ shadow ∈ progress.current, settings.capacity ≤ shadow.buffered.length

/-- How an operation fares: the open file thrives after it, and it fails only where a record is appended to a full
buffer, which is counted as a refusal for lack of room. -/
structure Fares (harness : Harness (Ordeal τ)) (before : Progress) (step : Step) (success : Bool)
    (after : Progress) (history : History) : Prop where
  thrives : Thrives harness after history
  fails : success = false ↔ Overflows harness.settings before step
  rejected : success = false → after.report.capacityRejections = before.report.capacityRejections + 1

/-- An operation other than an append succeeds. -/
theorem Fares.of_success {success : Bool} {after : Progress} (succeeded : success = true)
    (other : ∀ record, step ≠ .append record) (thrives : Thrives harness after history) :
    Fares harness progress step success after history := by
  subst succeeded
  exact ⟨thrives, iff_of_false (by simp) fun overflows => overflows.1.elim other, by simp⟩

/-- Where every failure was a refusal for lack of room, this is so after the operation was counted. -/
theorem Fares.failures_eq {upshot : Upshot} {success : Bool} {after : Progress}
    (fares : Fares harness progress step success after history) (has : Has upshot progress success after)
    (even : progress.report.failures = progress.report.capacityRejections) :
    (after.report.count success).failures = (after.report.count success).capacityRejections := by
  have failures : after.report.failures = progress.report.failures :=
    (congrArg Tally.failures has.tally).trans (upshot.failures_enter _)
  cases success with
  | true =>
      have rejections : after.report.capacityRejections = progress.report.capacityRejections :=
        (congrArg Tally.capacityRejections has.tally).trans (Upshot.rejections_of_succeeds has.success.symm)
      show after.report.failures = after.report.capacityRejections
      rw [failures, rejections, even]
  | false =>
      show after.report.failures + 1 = after.report.capacityRejections
      rw [failures, fares.rejected rfl, even]

/-- A file whose number has 64 bits is created. -/
theorem Harness.IsAlone.unharmed_create (alone : harness.IsAlone schedule)
    (welcome : harness.IsWelcome start) {number : Nat} (small : number < Nat.pow 2 64) (progress : Progress) :
    Unharmed schedule (fun now => now = start) (harness.create (Progress.fileName number) progress)
      fun result history => result.1 = true ∧ Thrives harness result.2 history := by
  obtain ⟨names, gives⟩ := harness.settings.exists_names small
  have apart := (FileNames.isFor_of_ofDirectories gives).inflight_ne_part
  rw [Settings.Gives] at gives
  rw [create, Sink.createFile, alone.config, gives]
  refine (SinkFile.unharmed_create alone.store welcome apart _ _ (harness.markers progress.files)).proceed
    (fun _ => .pure) fun file => .pure ?_
  rintro history ⟨still, empty, thriving⟩
  refine ⟨rfl, still, ?_, ?_⟩
  · rintro shadow ⟨⟩
    exact ⟨_, thriving⟩
  · rintro shadow ⟨⟩
    rw [empty, Sink.recordsPerSync, alone.config]
    rfl

/-- A record that a frame can hold is taken where there is room for it, and else refused. -/
theorem Thrives.append (thrives : Thrives harness progress history) (busy : progress.current ≠ none)
    {record : Bytes} (short : frameSize record < lengthBound) :
    Fares harness progress (.append record) (harness.append record progress).1
      (harness.append record progress).2 history := by
  obtain ⟨shadow, current⟩ := Option.ne_none_iff_exists'.mp busy
  obtain ⟨marker, file⟩ := thrives.file shadow current
  have waiting := thrives.waiting shadow current
  have within : record.length < lengthBound := Nat.lt_of_le_of_lt (Nat.le_add_left _ _) short
  have overflows : Overflows harness.settings progress (.append record) ↔
      harness.settings.capacity ≤ shadow.buffered.length := by
    simp [Overflows, current]
  by_cases full : harness.settings.capacity ≤ shadow.buffered.length
  · have refused := SinkFile.append_of_full file.isOpen within (by rw [waiting]; exact full)
    rw [Harness.append, current]
    dsimp only
    rw [refused]
    dsimp only
    refine ⟨⟨thrives.welcome, ?_, ?_⟩, iff_of_true rfl (overflows.mpr full), fun _ => ?_⟩
    · rintro other ⟨⟩
      exact ⟨marker, file⟩
    · rintro other ⟨⟩
      exact waiting
    · split <;> rfl
  · have taken := SinkFile.append_progress file.isOpen within (by rw [waiting]; exact Nat.not_le.mp full)
    rw [Harness.append, current]
    dsimp only
    rw [taken]
    dsimp only
    refine ⟨⟨thrives.welcome, ?_, ?_⟩, iff_of_false (by simp) (mt overflows.mp full), by simp⟩
    · rintro other ⟨⟩
      refine ⟨marker, file.isOpen, file.resting, ?_, file.apart, file.inflight⟩
      rw [SinkFile.Encodable]
      simp only [List.mem_append, List.mem_singleton]
      rintro member (before | rfl)
      · exact file.encodable member before
      · exact short
    · rintro other ⟨⟩
      rw [waiting]

/-- A sync of the open file succeeds. -/
theorem Harness.IsAlone.unharmed_sync (alone : harness.IsAlone schedule)
    (thrives : Thrives harness progress start) (busy : progress.current ≠ none) :
    Unharmed schedule (fun now => now = start) (harness.sync progress)
      fun result history => result.1 = true ∧ Thrives harness result.2 history := by
  obtain ⟨shadow, current⟩ := Option.ne_none_iff_exists'.mp busy
  obtain ⟨marker, file⟩ := thrives.file shadow current
  have waiting := thrives.waiting shadow current
  rw [sync, current]
  refine .bind (SinkFile.unharmed_sync alone.store thrives.welcome file) ?_
  rintro ⟨cause | _, file⟩
  · refine .never ?_ (by rintro _ ⟨none, -⟩; cases none)
    exact .bind (alone.unharmed_discardShadow _ _).grows fun _ => .pure
  · refine .bind .get fun world => .pure ?_
    rintro history ⟨-, still, thriving, cleared⟩
    refine ⟨rfl, still, ?_, ?_⟩
    · rintro other ⟨⟩
      exact ⟨marker, thriving⟩
    · rintro other ⟨⟩
      rw [cleared, waiting]
      rfl

/-- A publish of the open file succeeds. -/
theorem Harness.IsAlone.unharmed_publish (alone : harness.IsAlone schedule)
    (thrives : Thrives harness progress start) (busy : progress.current ≠ none) :
    Unharmed schedule (fun now => now = start) (harness.publish progress)
      fun result history => result.1 = true ∧ Thrives harness result.2 history := by
  obtain ⟨shadow, current⟩ := Option.ne_none_iff_exists'.mp busy
  obtain ⟨marker, file⟩ := thrives.file shadow current
  -- that no file is open afterwards is known in any world
  have published : Unharmed schedule (fun now => now = start) (harness.publish progress) fun result history =>
      result.1 = true ∧ harness.IsWelcome history := by
    rw [publish, current]
    refine .bind (SinkFile.unharmed_publish alone.store thrives.welcome file) ?_
    rintro ⟨cause | publication, file⟩
    · refine .never ?_ (by rintro _ ⟨⟨_, none⟩, -⟩; cases none)
      exact .bind (alone.unharmed_discardShadow _ _).grows fun _ => .pure
    · refine .bind .get fun world => .pure ?_
      rintro history ⟨-, still⟩
      exact ⟨rfl, still⟩
  refine (published.yields (publish_yields harness thrives.isLive busy)).mono (fun _ same => same) ?_
  rintro result history ⟨⟨success, still⟩, -, idle⟩
  exact ⟨success, .of_idle still idle⟩

/-- A discard of the open file succeeds. -/
theorem Harness.IsAlone.unharmed_discard (alone : harness.IsAlone schedule)
    (thrives : Thrives harness progress start) (busy : progress.current ≠ none) :
    Unharmed schedule (fun now => now = start) (harness.discard progress)
      fun result history => result.1 = true ∧ Thrives harness result.2 history := by
  obtain ⟨shadow, current⟩ := Option.ne_none_iff_exists'.mp busy
  have discarded := (alone.unharmed_discardShadow shadow { progress with current := none }).yields
    (discardShadow_yields harness (.inl (thrives.isLive shadow current)) _)
  rw [discard, current]
  refine discarded.mono ?_ ?_
  · rintro _ rfl
    exact thrives.welcome
  · rintro result history ⟨still, success, noted⟩
    exact ⟨success, .of_idle still noted.current⟩

/-- Every operation that is offered succeeds, but for an append to a full buffer. -/
theorem Harness.IsAlone.unharmed_execute (alone : harness.IsAlone schedule)
    (below : harness.settings.maxRecordSize + 4 < lengthBound) (thrives : Thrives harness progress start)
    (offered : Offers harness.settings progress step further) (small : further.files < Nat.pow 2 64) :
    Unharmed schedule (fun now => now = start) (harness.execute step further)
      fun result history => Fares harness further step result.1 result.2 history := by
  have ready : Thrives harness further start := thrives.onwards offered.uncounted.1
  have fares : ∀ {step : Step}, (∀ record, step ≠ .append record) →
      Unharmed schedule (fun now => now = start) (harness.execute step further)
        (fun result history => result.1 = true ∧ Thrives harness result.2 history) →
      Unharmed schedule (fun now => now = start) (harness.execute step further)
        fun result history => Fares harness further step result.1 result.2 history :=
    fun other unharmed => unharmed.mono (fun _ same => same)
      fun _ _ ⟨succeeded, thriving⟩ => .of_success succeeded other thriving
  cases offered with
  | create idle => exact fares (by simp) (alone.unharmed_create thrives.welcome small _)
  | append busy random record short =>
      have framed : frameSize record < lengthBound := by
        rw [frameSize]
        omega
      refine .pure ?_
      rintro history rfl
      exact ready.append busy framed
  | sync busy random => exact fares (by simp) (alone.unharmed_sync ready busy)
  | publish busy random => exact fares (by simp) (alone.unharmed_publish ready busy)
  | discard busy random => exact fares (by simp) (alone.unharmed_discard ready busy)

/-! ## Simulations -/

/-- The counters of a simulation are in balance, and while no request has met a fault, the open file thrives and
every failure was a refusal for lack of room. -/
structure Prospers (schedule : Schedule) (harness : Harness (Ordeal τ)) (progress : Progress)
    (world : Ordeal τ) : Prop where
  balances : progress.Balances
  faultless : Faultless schedule world.history → progress.files < Nat.pow 2 64 →
    Thrives harness progress world.history ∧ progress.report.failures = progress.report.capacityRejections

namespace Prospers

variable {world : Ordeal τ}

/-- A simulation prospers at its beginning. -/
theorem begin (alone : harness.IsAlone schedule) (rest : τ) :
    Prospers schedule harness harness.settings.begin { rest, history := .fresh harness.settings.store } := by
  refine ⟨.of_idle rfl ⟨rfl, rfl, Nat.le_refl _⟩, fun _ _ => ⟨.of_idle ⟨?_, ?_⟩ rfl, rfl⟩⟩
  · rw [alone.bucket]
    exact List.mem_singleton_self _
  · refine Credential.opens_bearer ?_
    rintro other ⟨⟩

theorem offers (prospers : Prospers schedule harness progress world)
    (offered : Offers harness.settings progress step further) : Prospers schedule harness further world := by
  obtain ⟨current, files, tally⟩ := offered.uncounted
  refine ⟨prospers.balances.offers offered, fun faultless small => ?_⟩
  obtain ⟨thrives, failures⟩ := prospers.faultless faultless (Nat.lt_of_le_of_lt files small)
  refine ⟨thrives.onwards current, ?_⟩
  have same : further.report.failures = progress.report.failures := congrArg Tally.failures tally
  have alike : further.report.capacityRejections = progress.report.capacityRejections :=
    congrArg Tally.capacityRejections tally
  rw [same, failures, alike]

/-- How an operation fares in a simulation that prospers. -/
theorem fares (prospers : Prospers schedule harness progress world) (alone : harness.IsAlone schedule)
    (below : harness.settings.maxRecordSize + 4 < lengthBound)
    (offered : Offers harness.settings progress step further) (small : further.files < Nat.pow 2 64)
    (faultless : Faultless schedule (harness.execute step further world).2.history) :
    Fares harness further step (harness.execute step further world).1.1 (harness.execute step further world).1.2
      (harness.execute step further world).2.history := by
  have earlier := faultless.earlier (alone.grows_execute step further world)
  obtain ⟨thrives, -⟩ := prospers.faultless earlier (Nat.lt_of_le_of_lt offered.uncounted.2.1 small)
  exact (alone.unharmed_execute below thrives offered small).reaches world rfl faultless

/-- An operation that is offered keeps a simulation prospering. -/
theorem perform (prospers : Prospers schedule harness progress world) (alone : harness.IsAlone schedule)
    (below : harness.settings.maxRecordSize + 4 < lengthBound)
    (offered : Offers harness.settings progress step further) :
    Prospers schedule harness (harness.perform step further world).1 (harness.perform step further world).2 := by
  refine ⟨perform_balances prospers.balances offered world, fun faultless small => ?_⟩
  obtain ⟨⟨upshot, has⟩, -⟩ := execute_yields prospers.balances.live offered world
  -- an operation takes no file number, so the bound holds before it as well
  have files : further.files < Nat.pow 2 64 := has.files ▸ small
  have fares := prospers.fares alone below offered files faultless
  have earlier : Faultless schedule world.history := faultless.earlier (alone.grows_execute step further world)
  obtain ⟨-, even⟩ := (prospers.offers offered).faultless earlier files
  exact ⟨fares.thrives.onwards rfl, fares.failures_eq has even⟩

/-- A check keeps a simulation prospering. -/
theorem check (prospers : Prospers schedule harness progress world) (alone : harness.IsAlone schedule) :
    Prospers schedule harness (harness.checkInvariants progress world).1
      (harness.checkInvariants progress world).2 := by
  have closed := check_yields harness prospers.balances.live world
  have unharmed := alone.unharmed_check progress
  obtain ⟨idle, tally⟩ := check_balances harness prospers.balances world
  refine ⟨.of_idle idle tally, fun faultless small => ?_⟩
  have earlier : Faultless schedule world.history := faultless.earlier (unharmed.grows world)
  obtain ⟨thrives, even⟩ := prospers.faultless earlier (by rw [← closed.files]; exact small)
  refine ⟨.of_idle (unharmed.reaches world thrives.welcome faultless) idle, ?_⟩
  have failures := congrArg Tally.failures closed.tally
  have rejections := congrArg Tally.capacityRejections closed.tally
  exact failures.trans (even.trans rejections.symm)

end Prospers

/-- The counters of a simulation add up: an operation is a success or a failure, a file that was opened was
published or discarded unless it is open still, and every refusal for lack of room is a failure. As long as no
request has met a fault, nothing else is a failure, and of the operations that are offered only an append to a
full buffer fails. A file number has 64 bits. -/
structure Accounts (schedule : Schedule) (harness : Harness (Ordeal τ)) (progress : Progress)
    (world : Ordeal τ) : Prop where
  operations : progress.report.operations = progress.report.successes + progress.report.failures
  files : progress.report.filesOpened =
    progress.report.publishes + progress.report.discards + if progress.current.isSome then 1 else 0
  rejections : progress.report.capacityRejections ≤ progress.report.failures
  failures : Faultless schedule world.history → progress.files < Nat.pow 2 64 →
    progress.report.failures = progress.report.capacityRejections
  fails : ∀ step next, Offers harness.settings progress step next → next.files < Nat.pow 2 64 →
    Faultless schedule (harness.execute step next world).2.history →
      ((harness.execute step next world).1.1 = false ↔ Overflows harness.settings next step)

/-- The counters of a simulation add up wherever it comes to, with every harness that its settings give and
whatever faults its requests meet. -/
theorem accounts_of_arrives {settings : Settings} {clock : Clock τ} {markers : Nat → Marker} {rest : τ}
    {world : Ordeal τ}
    (alone : ∀ number, (schedule number).deeds = [])
    (accepted : settings.onTrial schedule clock markers = .ok harness)
    (below : settings.maxRecordSize + 4 < lengthBound)
    (arrives : Arrives harness { rest, history := .fresh settings.store } progress world) :
    Accounts schedule harness progress world := by
  obtain ⟨rfl, alone⟩ := Settings.isAlone_of_onTrial alone accepted
  have small : harness.settings.maxRecordSize < lengthBound := Nat.lt_of_le_of_lt (Nat.le_add_right _ _) below
  have prospers : Prospers schedule harness progress world :=
    arrives.keeps small (.begin alone rest) Prospers.offers
      (fun prospers offered => prospers.perform alone below offered) fun prospers => prospers.check alone
  obtain ⟨operations, files, rejections⟩ := prospers.balances.tally
  refine ⟨operations, ?_, rejections, fun faultless small => (prospers.faultless faultless small).2, ?_⟩
  · cases current : progress.current <;> rw [current] at files <;> exact files
  · exact fun step next offered small faultless => (prospers.fares alone below offered small faultless).fails

end

namespace Trial

/-- The record does not fit into the buffer a second time. -/
def crowded : Progress × Ordeal Unit := harness.perform (.append [1, 2, 3]) appended.1 appended.2

/-- No request has met a fault when the record is refused. -/
theorem crowds : Faultless schedule crowded.2.history ∧ crowded.1.files < Nat.pow 2 64 ∧
    crowded.1.report.capacityRejections = 1 := by
  decide +kernel

end Trial

/-- A refused record is the only failure before a fault, and two files are accounted for after two faults. -/
theorem accounts_of_arrives_trial :
    Trial.crowded.1.report.failures = 1 ∧
      Accounts Trial.schedule Trial.harness Trial.checked.1 Trial.checked.2 := by
  have accepted : Trial.settings.onTrial Trial.schedule SinkFile.Trial.clock Trial.markers = .ok Trial.harness :=
    Except.eq_ok_of_isSome Trial.connects
  have below : Trial.settings.maxRecordSize + 4 < lengthBound := by decide
  obtain ⟨⟨opened, -⟩, ⟨stillOpen, -⟩, -⟩ := Trial.proceeds
  obtain ⟨faultless, small, refused⟩ := Trial.crowds
  have short : [1, 2, 3].length ≤ Trial.harness.settings.maxRecordSize := by decide +kernel
  have begun : Arrives Trial.harness Trial.origin Trial.harness.settings.begin Trial.origin := .begin
  have created : Arrives Trial.harness Trial.origin Trial.created.1 Trial.created.2 := begun.perform (.create rfl)
  have appended : Arrives Trial.harness Trial.origin Trial.appended.1 Trial.appended.2 :=
    created.perform (.append (Option.ne_none_iff_isSome.mpr opened) _ _ short)
  have crowded : Arrives Trial.harness Trial.origin Trial.crowded.1 Trial.crowded.2 :=
    appended.perform (.append (Option.ne_none_iff_isSome.mpr stillOpen) _ _ short)
  have accounts := accounts_of_arrives Trial.injects.alone accepted below crowded
  exact ⟨(accounts.failures faultless small).trans refused,
    accounts_of_arrives Trial.injects.alone accepted below Trial.reaches.arrives.check⟩

end RecordSink.Simulation
