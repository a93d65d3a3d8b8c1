import RecordSink.Proofs.SinkFile.Frames
import RecordSink.Proofs.SinkFile.Lifecycle

/-!
# Counters of a file

What the counters of a file count. A journal keeps the calls of a file with what came of them; the counters of
an open file are those of its journal, and of the blocks that its inflight object holds. They are kept once for
each sync, whatever the schedule answers and however often a request is repeated.
-/

namespace RecordSink

open Emulator Ordeal RecordSink.Stream

variable {W τ α : Type}

namespace SinkFile

open Encoder

/-! ## Journals -/

/-- A call of a file. -/
structure Entry where
  call : Call
  /-- The file before the call. -/
  before : SinkFile
  succeeded : Bool

namespace Entry

/-- The record that was taken. -/
def accepted? (entry : Entry) : Option Bytes :=
  match entry.call, entry.succeeded with
  | .append record, true => some record
  | _, _ => none

/-- A sync that succeeded. -/
def isSync (entry : Entry) : Bool := entry.succeeded && decide (entry.call = .sync)

/-- A sync that succeeded and found records waiting. -/
def isLoadedSync (entry : Entry) : Bool := entry.isSync && !entry.before.buffer.isEmpty

end Entry

/-- The records whose append succeeded, in order. -/
def accepted (journal : List Entry) : List Bytes := journal.filterMap Entry.accepted?

/-- Makes calls in turn and enters them in a journal. -/
def journaled (store : RemoteStore W) :
    List Call → SinkFile → List Entry → StateM W (SinkFile × List Entry)
  | [], file, journal => return (file, journal)
  | call :: rest, file, journal => do
      let (succeeded, after) ← file.perform store call
      journaled store rest after (journal ++ [{ call, before := file, succeeded }])

/-- The counters of a journal whose syncs have composed some batches of records. -/
def accounted (marker : Marker) (journal : List Entry) (batches : List (List Bytes)) : FileStats :=
  { syncs := journal.countP Entry.isSync
    partsUploaded := journal.countP Entry.isLoadedSync
    recordsSynced := batches.flatten.length
    bytesUploaded := (written marker (batches.flatMap runs)).length }

section Journals

variable {marker : Marker} {journal : List Entry} {batches : List (List Bytes)} {file : SinkFile} {call : Call}

theorem accepted_append (journal : List Entry) (entry : Entry) :
    accepted (journal ++ [entry]) = accepted journal ++ entry.accepted?.toList := by
  rw [accepted, List.filterMap_append]
  cases found : entry.accepted? with
  | none => simp [accepted, found]
  | some record => simp [accepted, found]

/-- A call that fails takes no record. -/
theorem accepted_failed (journal : List Entry) (call : Call) (file : SinkFile) :
    accepted (journal ++ [{ call, before := file, succeeded := false }]) = accepted journal := by
  rw [accepted_append]
  cases call <;> exact List.append_nil _

/-- A call that is no sync is counted by no counter, and neither is one that fails. -/
theorem accounted_uncounted {entry : Entry} (uncounted : entry.isSync = false) :
    accounted marker (journal ++ [entry]) batches = accounted marker journal batches := by
  have unloaded : entry.isLoadedSync = false := by rw [Entry.isLoadedSync, uncounted, Bool.false_and]
  simp [accounted, List.countP_append, uncounted, unloaded]

theorem isSync_failed (call : Call) (file : SinkFile) :
    Entry.isSync { call, before := file, succeeded := false } = false := rfl

end Journals

/-! ## What is counted -/

/-- The counters of a file once its waiting records are composed behind some blocks. -/
def composedStats (marker : Marker) (past : List (List Bytes)) (file : SinkFile) : FileStats :=
  { file.stats with
    partsUploaded := file.stats.partsUploaded + if file.buffer.isEmpty then 0 else 1
    recordsSynced := file.stats.recordsSynced + file.buffer.records.length
    bytesUploaded := file.stats.bytesUploaded +
      (blocksFrom marker past.length (summed .empty past) (runs file.buffer.records)).length }

/-- The counters of a sync: its batch is the last one. -/
theorem composedStats_accounted {marker : Marker} {journal : List Entry} {batches : List (List Bytes)}
    {file : SinkFile} (stats : file.stats = accounted marker journal batches) :
    { file.composedStats marker (batches.flatMap runs) with syncs := file.stats.syncs + 1 } =
      accounted marker (journal ++ [{ call := .sync, before := file, succeeded := true }])
        (batches ++ [file.buffer.records]) := by
  have bytes : (written marker (batches.flatMap runs)).length +
      (blocksFrom marker (batches.flatMap runs).length (summed .empty (batches.flatMap runs))
        (runs file.buffer.records)).length =
      (written marker ((batches ++ [file.buffer.records]).flatMap runs)).length := by
    rw [List.flatMap_append, List.flatMap_singleton, written_append, List.length_append]
  rw [composedStats, stats, accounted, accounted, ← bytes]
  cases waiting : file.buffer.isEmpty <;>
    simp [List.countP_append, Entry.isSync, Entry.isLoadedSync, waiting]

/-- What an operation on the waiting records does to the counters: where it fails the records are not
counted. -/
structure Counts (marker : Marker) (past : List (List Bytes)) (file : SinkFile) (result : Except SinkError α)
    (after : SinkFile) : Prop where
  composed : ∀ value, result = .ok value → after.stats = file.composedStats marker past
  uncounted : ∀ cause, result = .error cause → after.stats.recordsSynced = file.stats.recordsSynced

variable {marker : Marker} {past : List (List Bytes)} {file after : SinkFile}

/-- What the upload of a part does to the counters: its records are counted only once they are composed. -/
structure Prepares (marker : Marker) (past : List (List Bytes)) (file : SinkFile) (result : Except SinkError Batch)
    (loaded : SinkFile) : Prop where
  unsynced : loaded.stats.recordsSynced = file.stats.recordsSynced
  counted : ∀ batch, result = .ok batch →
    (loaded.withSynced batch.records).stats = file.composedStats marker past

theorem uploadPart_prepares (store : RemoteStore W) (ready : HasWritten marker past file.encoder) :
    Yields (file.uploadPart store) fun result => Prepares marker past file result.1 result.2 := by
  rw [uploadPart]
  split
  · next empty =>
      refine .pure ⟨rfl, ?_⟩
      rintro batch ⟨⟩
      have none : file.buffer.records = [] := List.isEmpty_iff.mp empty
      simp [withSynced, composedStats, empty, none, runs, blocksFrom]
  next waiting =>
    split
    · exact .pure ⟨rfl, by simp⟩
    next body encoder encoded =>
      obtain ⟨-, bytes, -⟩ := of_encodeRecords_ok ready encoded
      refine .after fun outcome => ?_
      cases outcome with
      | error cause => exact .pure ⟨rfl, by simp⟩
      | ok metadata =>
          refine .pure ⟨rfl, ?_⟩
          rintro batch ⟨⟩
          rw [withSynced, composedStats, if_neg waiting, ← bytes]
          rfl

theorem Concludes.counts {result : Except SinkError ObjectMetadata}
    (concludes : Concludes (Prepares marker past file) result after) : Counts marker past file result after := by
  cases concludes with
  | stopped prepares => exact ⟨by simp, fun _ _ => prepares.unsynced⟩
  | failed prepares isForeign => exact ⟨by simp, fun _ _ => prepares.unsynced⟩
  | composed prepares object generation inflightSize => exact ⟨fun _ _ => prepares.counted _ rfl, by simp⟩

theorem composeInflight_counts (store : RemoteStore W) (ready : HasWritten marker past file.encoder) :
    Yields (file.composeInflight store) fun result => Counts marker past file result.1 result.2 :=
  fun world => (composeInflight_concludes (uploadPart_prepares store ready) world).counts

theorem composePublish_counts (store : RemoteStore W) (ready : HasWritten marker past file.encoder) :
    Yields (file.composePublish store) fun result => Counts marker past file result.1 result.2 :=
  fun world => (composePublish_concludes (uploadPart_prepares store ready) world).counts

/-- A sync that succeeds counts itself and the records that it has composed. -/
theorem sync_counts (store : RemoteStore W) (isOpen : file.state = .open)
    (ready : HasWritten marker past file.encoder) :
    Yields (file.sync store) fun result =>
      (result.1 = .ok () →
        result.2.stats = { file.composedStats marker past with syncs := file.stats.syncs + 1 }) ∧
      ∀ cause, result.1 = .error cause → result.2.stats.recordsSynced = file.stats.recordsSynced := by
  rw [sync, if_neg (not_not_intro isOpen)]
  refine .bind (composeInflight_counts store ready) ?_
  rintro ⟨result, after⟩ counts
  cases result with
  | error cause => exact .pure ⟨by simp, fun _ _ => counts.uncounted cause rfl⟩
  | ok object =>
      refine .pure ⟨fun _ => ?_, by simp⟩
      have composed : after.stats = file.composedStats marker past := counts.composed object rfl
      rw [composed]
      rfl

/-! ## The balance -/

variable {places : List Place} {schedule : Schedule} {store : RemoteStore (Ordeal τ)}
  {client : Client (Ordeal τ)} {names : FileNames} {start now : Emulator} {capacity : Nat}
  {journal : List Entry} {call : Call}

/-- The counters of a file balance with its journal and with the store: those of an open file are the ones that
its journal and the blocks of its inflight object account for, and the inflight object of a failed file has at
least the records that are counted. -/
structure Balances (client : Client (Ordeal τ)) (marker : Marker) (journal : List Entry) (file : SinkFile)
    (store : Emulator) : Prop where
  isOpen : file.state = .open → ∃ batches : List (List Bytes),
    Stands client marker (batches.flatMap runs) file store ∧
      accepted journal = batches.flatten ++ file.buffer.records ∧
      file.stats = accounted marker journal batches
  failed : file.state = .failed → ∃ records,
    Holds (client.place file.names.inflight) records store ∧ file.stats.recordsSynced ≤ records.length

namespace Balances

theorem of_finished (finished : file.IsFinished) : Balances client marker journal file now := by
  constructor
  · intro isOpen
    rcases finished with state | state <;> cases isOpen.symm.trans state
  · intro failed
    rcases finished with state | state <;> cases failed.symm.trans state

/-- A call that is refused changes nothing. -/
theorem refused (balances : Balances client marker journal file now) (call : Call) :
    Balances client marker (journal ++ [{ call, before := file, succeeded := false }]) file now := by
  refine ⟨fun isOpen => ?_, balances.failed⟩
  obtain ⟨batches, stands, whole, stats⟩ := balances.isOpen isOpen
  exact ⟨batches, stands, (accepted_failed journal call file).trans whole,
    stats.trans (accounted_uncounted (isSync_failed call file)).symm⟩

/-- An append counts nothing: its record waits. -/
theorem append (balances : Balances client marker journal file now) (record : Bytes) :
    Balances client marker
      (journal ++ [{ call := .append record, before := file, succeeded := (file.append record).1.isOk }])
      (file.append record).2 now := by
  by_cases isOpen : file.state = .open
  · rcases append_cases record isOpen with ⟨cause, failed, -⟩ | ⟨-, taken⟩
    · rw [failed]
      exact balances.refused (.append record)
    · rw [taken]
      refine ⟨fun _ => ?_, fun failed => nomatch isOpen.symm.trans failed⟩
      obtain ⟨batches, ⟨stood, unattempted, encoder, fits, object, knows⟩, whole, stats⟩ :=
        balances.isOpen isOpen
      refine ⟨batches, ⟨stood, unattempted, encoder, fits, object, knows.1, knows.2, knows.3, knows.4, knows.5⟩,
        ?_, stats.trans (accounted_uncounted (by simp [Entry.isSync])).symm⟩
      calc
        accepted (journal ++ [{ call := .append record, before := file, succeeded := true }])
            = (batches.flatten ++ file.buffer.records) ++ [record] := by
          rw [accepted_append, whole]
          rfl
        _ = batches.flatten ++ (file.buffer.records ++ [record]) := List.append_assoc ..
  · rw [SinkFile.append, if_pos isOpen]
    exact balances.refused (.append record)

end Balances

/-- What a call promises to the journal of its file. -/
abbrev BalancesCall (store : RemoteStore (Ordeal τ)) (marker : Marker) (journal : List Entry) (call : Call)
    (start : Emulator) (file : SinkFile) : Prop :=
  Passes (fun _ _ => True) (fun history => history.store = start) (file.perform store call)
    fun result history =>
      Balances store.client marker (journal ++ [{ call, before := file, succeeded := result.1 }]) result.2
        history.store

/-- A call that the state does not permit keeps the balance. -/
theorem balances_forbidden (balances : Balances store.client marker journal file start)
    (forbidden : file.state.permits call.operation = false) :
    BalancesCall store marker journal call start file := by
  have same : file.perform store call = pure (false, file) := by
    funext world
    rw [perform_eq, ask_of_forbidden store forbidden]
    cases call <;> rfl
  rw [BalancesCall, same]
  refine .pure ?_
  rintro history rfl
  exact balances.refused call

/-- A sync of an open file keeps the balance: where it fails, the inflight object has the records from before or
those that wait as well. -/
theorem balances_sync (houses : store.Houses places schedule file.names)
    (balances : Balances store.client marker journal file start) (isOpen : file.state = .open)
    (small : Addressable (accepted journal)) : BalancesCall store marker journal .sync start file := by
  obtain ⟨batches, stands, whole, stats⟩ := balances.isOpen isOpen
  rw [whole] at small
  have synced := (passes_sync houses.hosts stands (length_due_lt_of_addressable small)).yields
    (sync_counts store isOpen stands.encoder)
  refine .bind (synced.mono (fun _ _ _ => trivial) (fun _ holds => holds) fun _ _ holds => holds) ?_
  rintro ⟨result, after⟩
  refine .pure ?_
  rintro history ⟨⟨syncs, named, succeeds, fails⟩, counted, unsynced⟩
  cases result with
  | ok _ =>
      obtain ⟨stood, cleared⟩ := succeeds rfl
      refine ⟨fun _ => ⟨batches ++ [file.buffer.records], ?_, ?_, ?_⟩,
        fun failed => nomatch stood.isOpen.symm.trans failed⟩
      · rw [List.flatMap_append, List.flatMap_singleton]
        exact stood
      · rw [accepted_append, whole, cleared]
        simp [Entry.accepted?]
      · exact (counted rfl).trans (composedStats_accounted stats)
  | error cause =>
      have state : after.state = .failed := (fails cause rfl).1
      refine ⟨fun opened => (nomatch state.symm.trans opened), fun _ => ?_⟩
      have unsynced : after.stats.recordsSynced = batches.flatten.length := by
        rw [unsynced cause rfl, stats]
        rfl
      have named : after.names = file.names := named
      rw [unsynced, named]
      rcases syncs.inflight with same | all
      · refine ⟨batches.flatten, ?_, Nat.le_refl _⟩
        have holds := stands.holds
        rw [flatten_flatMap_runs] at holds
        rw [Holds, same]
        exact holds
      · refine ⟨_, all, ?_⟩
        rw [held, flatten_flatMap_runs, List.length_append]
        exact Nat.le_add_right _ _

/-- What a publish leaves: where it succeeds, its object is the stream of the records that are counted, and
where it fails, the inflight object is the one from before. -/
theorem passes_publish_counted (houses : store.Houses places schedule file.names)
    (stands : Stands store.client marker past file start)
    (small : (due marker past file).length < Nat.pow 2 64) :
    Passes (fun _ _ => True) (fun history => history.store = start) (file.publish store)
      fun result history =>
        (∀ publication, result.1 = .ok publication →
          result.2.state = .published ∧ result.2.stats = file.composedStats marker past ∧
          ∃ object, history.store.objects.get? (store.client.place file.names.publish) = some object ∧
            object.data = due marker past file) ∧
        ∀ cause, result.1 = .error cause →
          result.2.state = .failed ∧ result.2.names = file.names ∧
          result.2.stats.recordsSynced = file.stats.recordsSynced ∧
          history.store.objects.get? (store.client.place file.names.inflight) =
            start.objects.get? (store.client.place file.names.inflight) := by
  obtain ⟨object, knows⟩ := stands.inflight
  have known : Knows store.client marker past { file with publishAttempted := true } start object :=
    ⟨knows.stored, knows.data, knows.older, knows.generation, knows.size⟩
  have compose : Passes _ _ (composePublish store { file with publishAttempted := true }) _ :=
    passes_composePublish houses.hosts stands.encoder stands.fits known small
  have counting : Yields (composePublish store { file with publishAttempted := true }) _ :=
    composePublish_counts store stands.encoder
  rw [publish, if_neg (not_not_intro stands.isOpen)]
  refine .bind ((compose.yields counting).mono (fun _ _ _ => trivial) (fun _ holds => holds)
    fun _ _ holds => holds) ?_
  rintro ⟨result, after⟩
  cases result with
  | error cause =>
      refine .pure ?_
      rintro history ⟨⟨composes, named, -, -⟩, counts⟩
      refine ⟨by simp, fun _ _ => ⟨rfl, named, counts.uncounted cause rfl, ?_⟩⟩
      refine houses.hosts.untouched [file.names.part, file.names.publish] composes.elsewhere
        file.names.inflight_mem_all ?_
      simp [houses.inflight_ne_part, houses.inflight_ne_publish]
  | ok object =>
      refine .each ?_
      rintro middle ⟨⟨-, named, -, stored⟩, counts⟩
      obtain ⟨stream, inPlace, data, -⟩ := stored object rfl
      have named : after.names = file.names := named
      -- the cleanup after it is about other objects
      have cleanup := ((attends_removeAll houses.exposed after.transientNames).framed middle.store).since
      refine .bind (cleanup.mono (fun _ _ _ => trivial) (fun _ same => same) fun _ _ holds => holds) ?_
      intro failures
      refine .pure fun history framed => ⟨fun _ _ => ⟨rfl, counts.composed object rfl, ?_⟩, by simp⟩
      have apart : file.names.publish ∉ after.transientNames :=
        publish_not_mem_transientNames houses.hosts named
      refine ⟨stream, (framed.untouched (houses.own _ file.names.publish_mem_all) ?_).trans inPlace, data⟩
      rintro errand inside same
      obtain ⟨name, transient, rfl⟩ := List.mem_map.mp inside
      exact apart (Client.place_injective same ▸ transient)

/-- A publish of an open file keeps the balance. -/
theorem balances_publish (houses : store.Houses places schedule file.names)
    (balances : Balances store.client marker journal file start) (isOpen : file.state = .open)
    (small : Addressable (accepted journal)) : BalancesCall store marker journal .publish start file := by
  obtain ⟨batches, stands, whole, stats⟩ := balances.isOpen isOpen
  rw [whole] at small
  refine .bind (passes_publish_counted houses stands (length_due_lt_of_addressable small)) ?_
  rintro ⟨result, after⟩
  refine .pure ?_
  rintro history ⟨succeeds, fails⟩
  cases result with
  | ok publication => exact .of_finished (.inl (succeeds publication rfl).1)
  | error cause =>
      obtain ⟨state, named, unsynced, same⟩ := fails cause rfl
      have state : after.state = .failed := state
      have named : after.names = file.names := named
      have unsynced : after.stats.recordsSynced = batches.flatten.length := by
        refine unsynced.trans ?_
        rw [stats]
        rfl
      refine ⟨fun opened => (nomatch state.symm.trans opened), fun _ => ⟨batches.flatten, ?_, ?_⟩⟩
      · have holds := stands.holds
        rw [flatten_flatMap_runs] at holds
        rw [named, Holds, same]
        exact holds
      · exact Nat.le_of_eq unsynced

/-- Every call keeps the balance. -/
theorem balances_perform (houses : store.Houses places schedule file.names)
    (balances : Balances store.client marker journal file start) (small : Addressable (accepted journal))
    (call : Call) : BalancesCall store marker journal call start file := by
  rcases permitted : file.state.permits call.operation with _ | _
  · exact balances_forbidden balances permitted
  cases call with
  | append record =>
      refine .pure ?_
      rintro history rfl
      exact balances.append record
  | sync => exact balances_sync houses balances (isOpen_of_permits permitted (by decide)) small
  | publish => exact balances_publish houses balances (isOpen_of_permits permitted (by decide)) small
  | discard =>
      have discarded : Passes _ (fun history => history.store = start) (file.discard store) _ :=
        (passes_discard_exposed houses).yields (discard_yields store (permits_discard_iff.mp permitted))
      refine .bind (discarded.mono (fun _ _ _ => trivial) (fun _ begins => begins) fun _ _ holds => holds) ?_
      rintro ⟨result, after⟩
      refine .pure ?_
      rintro history ⟨-, -, -, -, state⟩
      exact .of_finished (.inr state)

/-! ## Runs -/

/-- A journal takes no record back. -/
theorem accepted_journaled (store : RemoteStore W) (calls : List Call) (file : SinkFile) (journal : List Entry)
    (world : W) : accepted journal <+: accepted (journaled store calls file journal world).1.2 := by
  induction calls generalizing file journal world with
  | nil => exact List.prefix_rfl
  | cons call rest ih =>
      refine List.IsPrefix.trans ?_ (ih _ _ _)
      rw [accepted_append]
      exact List.prefix_append _ _

/-- Calls in any order keep the balance and the room for records. -/
theorem balances_journaled (houses : store.Houses places schedule names) (calls : List Call)
    {world : Ordeal τ} (named : file.names = names) (within : file.Within capacity)
    (balances : Balances store.client marker journal file world.history.store)
    (small : Addressable (accepted (journaled store calls file journal world).1.2)) :
    let result := journaled store calls file journal world
    result.1.1.names = names ∧ result.1.1.Within capacity ∧
      Balances store.client marker result.1.2 result.1.1 result.2.history.store := by
  induction calls generalizing file journal world with
  | nil => exact ⟨named, within, balances⟩
  | cons call rest ih =>
      have fits := small.of_isPrefix (accepted_journaled store (call :: rest) file journal world)
      subst named
      obtain ⟨-, kept⟩ := balances_perform houses balances fits call world rfl
      obtain ⟨-, advances⟩ := passes_perform_exposed houses call world rfl
      exact ih advances.names (within.perform store call world) kept small

/-- A new file has counted the bytes of its header. -/
theorem create_counts (store : RemoteStore W) (title : String) (names : FileNames) (capacity : Nat)
    (marker : Marker) :
    Yields (create store title names capacity marker) fun result =>
      ∀ file, result = .ok file → file.stats = accounted marker [] [] := by
  obtain ⟨encoder, encoded, -⟩ := encodeHeader_eq marker
  rw [create, encoded]
  refine .after fun uploaded => ?_
  cases uploaded with
  | ok inflight =>
      refine .pure ?_
      rintro file ⟨⟩
      rfl
  | error cause => exact .after fun _ => .pure (by simp)

/-- The counters of a new file balance with an empty journal. -/
theorem balances_create (houses : store.Houses places schedule names) {title : String} {world later : Ordeal τ}
    (created : create store title names capacity marker world = (.ok file, later)) :
    file.names = names ∧ file.Within capacity ∧ Balances store.client marker [] file later.history.store := by
  obtain ⟨-, -, opened⟩ := passes_create houses.hosts title capacity marker world rfl
  have room := within_create store title names capacity marker world
  have counted := create_counts store title names capacity marker world
  rw [created] at opened room counted
  obtain ⟨stands, named, empty, -⟩ := opened file rfl
  refine ⟨named, room file rfl, fun _ => ⟨[], stands, ?_, counted file rfl⟩,
    fun failed => nomatch stands.isOpen.symm.trans failed⟩
  rw [empty]
  rfl

variable {ledger : Ledger} {title : String} {calls : List Call} {world later : Ordeal τ} {rest : τ}

/-- The counters of a created file, after any calls and for any answers of the schedule, as long as sizes are
counted in 64 bits. No more records wait than there is room for. While the file is open, the records that are
synced or wait are those whose append succeeded, the syncs and the parts are those of the syncs that
succeeded and of those among them that found records waiting, and the bytes are the ones of the inflight
object. After a publish that succeeds all records are counted, and the bytes are those of the published
object. Where the file has failed, its inflight object has no fewer records than are counted. -/
theorem counters_agree (exposed : Exposed schedule store names)
    (created : create store title names capacity marker { rest, history := .fresh start } = (.ok file, world))
    (kept : journaled store calls file [] world = ((after, journal), later))
    (small : Addressable (accepted journal)) :
    after.buffer.size ≤ capacity ∧
    (after.state = .open →
      after.stats.recordsSynced + after.buffer.size = (accepted journal).length ∧
      after.stats.syncs = journal.countP Entry.isSync ∧
      after.stats.partsUploaded = journal.countP Entry.isLoadedSync ∧
      ∃ object, later.history.store.objects.get? (store.client.place names.inflight) = some object ∧
        after.stats.bytesUploaded = object.data.length) ∧
    (∀ publication final last, after.publish store later = ((.ok publication, final), last) →
      final.stats.recordsSynced = (accepted journal).length ∧
      ∃ object, last.history.store.objects.get? (store.client.place names.publish) = some object ∧
        final.stats.bytesUploaded = object.data.length) ∧
    (after.state = .failed → ∃ object records,
      later.history.store.objects.get? (store.client.place names.inflight) = some object ∧
        Decodes object.data records ∧ after.stats.recordsSynced ≤ records.length) := by
  have houses := exposed.houses
  obtain ⟨named, within, begun⟩ := balances_create houses created
  obtain ⟨named, within, balances⟩ := balances_journaled houses calls named within begun (by rw [kept]; exact small)
  rw [kept] at named within balances
  dsimp only at named within balances
  refine ⟨within.room, ?_, ?_, ?_⟩
  · intro isOpen
    obtain ⟨batches, stands, whole, stats⟩ := balances.isOpen isOpen
    obtain ⟨object, knows⟩ := stands.inflight
    refine ⟨?_, congrArg FileStats.syncs stats, congrArg FileStats.partsUploaded stats, object, ?_, ?_⟩
    · rw [stats, whole, List.length_append]
      rfl
    · rw [← named]
      exact knows.stored
    · rw [stats, knows.data]
      rfl
  · intro publication final last published
    have isOpen : after.state = .open := by
      apply Decidable.byContradiction
      intro shut
      rw [publish, if_pos shut] at published
      cases published
    obtain ⟨batches, stands, whole, stats⟩ := balances.isOpen isOpen
    rw [whole] at small
    rw [← named] at houses
    obtain ⟨-, succeeds, -⟩ :=
      passes_publish_counted houses stands (length_due_lt_of_addressable small) later rfl
    rw [published] at succeeds
    obtain ⟨-, counted, object, stored, data⟩ := succeeds publication rfl
    have counted : final.stats = after.composedStats marker (batches.flatMap runs) := counted
    refine ⟨?_, object, ?_, ?_⟩
    · rw [counted, composedStats, stats, whole, List.length_append]
      rfl
    · rw [← named]
      exact stored
    · rw [counted, composedStats, stats, data, due, written_append, List.length_append]
      rfl
  · intro failed
    obtain ⟨records, ⟨object, stored, decodes⟩, fewer⟩ := balances.failed failed
    rw [named] at stored
    exact ⟨object, records, stored, decodes, fewer⟩

namespace Trial

/-- A file with one record synced and one waiting. -/
def diary : (SinkFile × List Entry) × Ordeal Unit :=
  journaled Trial.store [.append [1, 2, 3], .sync, .append [4]] Trial.file [] creation.2

theorem diary_kept : journaled Trial.store [.append [1, 2, 3], .sync, .append [4]] Trial.file [] creation.2 =
    ((diary.1.1, diary.1.2), diary.2) :=
  eq_mk_of_fst_fst (rfl : diary.1.1 = diary.1.1)

theorem diary_open : diary.1.1.state = .open := by
  decide +kernel

theorem diary_accepted : SinkFile.accepted diary.1.2 = [[1, 2, 3], [4]] := by
  decide +kernel

end Trial

/-- The counters of a file whose part was uploaded twice, for the first response was lost. -/
theorem counters_agree_trial :
    Trial.diary.1.1.stats.recordsSynced + Trial.diary.1.1.buffer.size = 2 ∧
      Trial.diary.1.1.stats.syncs = Trial.diary.1.2.countP Entry.isSync ∧
      Trial.diary.1.1.stats.partsUploaded = Trial.diary.1.2.countP Entry.isLoadedSync ∧
      ∃ object, Trial.diary.2.history.store.objects.get?
          ((Trial.storeOf Trial.schedule).client.place Trial.names.inflight) = some object ∧
        Trial.diary.1.1.stats.bytesUploaded = object.data.length := by
  have agree := (counters_agree (Trial.exposed Trial.schedule fun _ => rfl)
    (eq_mk_of_fst (Except.eq_ok_of_isSome Trial.creates))
    Trial.diary_kept
    (by rw [Trial.diary_accepted]; decide)).2.1 Trial.diary_open
  rw [Trial.diary_accepted] at agree
  exact agree

end SinkFile

end RecordSink
