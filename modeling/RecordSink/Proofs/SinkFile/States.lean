import RecordSink.Proofs.SinkFile.Transparency

/-!
# States of a file

What the calls of a file come to in any world, with any store behind them: how they move it from state to
state, and when its encoder refuses the waiting records.
-/

namespace RecordSink

open RecordSink.Stream

variable {W α β : Type}

/-- Whatever the world, a step gives a value with a property. -/
def Yields (step : StateM W α) (post : α → Prop) : Prop := ∀ world, post (step world).1

namespace Yields

variable {step : StateM W α} {next : α → StateM W β} {middle : α → Prop} {post : β → Prop}

theorem pure {value : β} (holds : post value) : Yields (Pure.pure value : StateM W β) post :=
  fun _ => holds

theorem bind (first : Yields step middle) (second : ∀ value, middle value → Yields (next value) post) :
    Yields (step >>= next) post :=
  fun world => second _ (first world) _

/-- Nothing is said of a value where all go on alike. -/
theorem after (second : ∀ value, Yields (next value) post) : Yields (step >>= next) post :=
  fun _ => second _ _

end Yields

/-- A call to the store fails only as the store does. -/
theorem Retry.run_yields (clock : Clock W) (policy : RetryPolicy) (operation : Operation) (object : String)
    (call : Nat → StateM W (Except RemoteError α)) :
    Yields (run clock policy operation object call) fun result =>
      ∀ cause, result ≠ .error (.encoding cause) := by
  rw [run]
  refine .after fun started => .after ?_
  rintro ⟨result, number⟩
  cases result with
  | ok value => exact .pure (by simp)
  | error cause => exact .pure (by simp)

namespace SinkFile

open Encoder

variable {store : RemoteStore W} {marker : Marker} {file after : SinkFile} {ledger : Ledger}

/-! ## The waiting records -/

/-- A file is at rest: its encoder stands behind some blocks and has no body to write to. -/
def AtRest (marker : Marker) (file : SinkFile) : Prop := ∃ past, HasWritten marker past file.encoder

/-- What an operation on the waiting records comes to: it leaves the state as it is, and it is refused by the
encoder where a record is too long for a block, and only there. -/
structure Handles (marker : Marker) (file : SinkFile) (result : Except SinkError α) (after : SinkFile) :
    Prop where
  state : after.state = file.state
  attempted : after.publishAttempted = file.publishAttempted
  waiting : after.buffer.records ⊆ file.buffer.records
  refusal : (∃ cause, result = .error (.encoding cause)) ↔ ¬ file.Encodable
  resting : file.Encodable → after.AtRest marker

/-- An operation that succeeds has encoded all. -/
theorem Handles.encodable {value : α} (handles : Handles marker file (.ok value) after) : file.Encodable := by
  refine Classical.byContradiction fun long => ?_
  obtain ⟨cause, failed⟩ := handles.refusal.mpr long
  cases failed

/-- What follows without the encoder comes to the same. -/
theorem Handles.onwards {result : Except SinkError α} {later : Except SinkError β}
    (handles : Handles marker file result after) (final : SinkFile) (state : final.state = after.state)
    (attempted : final.publishAttempted = after.publishAttempted) (encoder : final.encoder = after.encoder)
    (waiting : final.buffer = after.buffer)
    (same : ∀ cause, later = .error (.encoding cause) ↔ result = .error (.encoding cause)) :
    Handles marker file later final := by
  refine ⟨state.trans handles.state, attempted.trans handles.attempted, by rw [waiting]; exact handles.waiting,
    ?_, fun encodable => ?_⟩
  · rw [exists_congr same]
    exact handles.refusal
  · rw [AtRest, encoder]
    exact handles.resting encodable

theorem uploadPart_yields (store : RemoteStore W) (atRest : file.AtRest marker) :
    Yields (file.uploadPart store) fun result => Handles marker file result.1 result.2 := by
  obtain ⟨past, ready⟩ := atRest
  rw [uploadPart]
  split
  · next empty =>
      have encodable : file.Encodable := by
        rw [Encodable, List.isEmpty_iff.mp empty]
        exact List.forall_mem_nil _
      exact .pure ⟨rfl, rfl, fun _ inside => inside, iff_of_false (by simp) (not_not_intro encodable),
        fun _ => ⟨past, ready⟩⟩
  split
  · next cause encoder encoded =>
      have long : ¬ file.Encodable := by
        intro encodable
        obtain ⟨after, whole, -⟩ := encodeRecords_of_fits ready (fits_of_mem_runs encodable)
        cases whole.symm.trans encoded
      exact .pure ⟨rfl, rfl, fun _ inside => inside, iff_of_true ⟨cause, rfl⟩ long,
        fun encodable => absurd encodable long⟩
  · next body encoder encoded =>
      obtain ⟨fits, -, written⟩ := of_encodeRecords_ok ready encoded
      have encodable : ¬ ¬ file.Encodable := not_not_intro (fits_runs_iff.mp fits)
      -- the encoder has moved on, whatever the store answers
      refine .bind (Retry.run_yields _ _ _ _ _) ?_
      intro result remote
      cases result with
      | error cause =>
          refine .pure ⟨rfl, rfl, fun _ inside => inside, iff_of_false ?_ encodable, fun _ => ⟨_, written⟩⟩
          rintro ⟨other, same⟩
          exact remote other (congrArg _ (Except.error.inj same))
      | ok metadata =>
          exact .pure ⟨rfl, rfl, List.nil_subset _, iff_of_false (by simp) encodable, fun _ => ⟨_, written⟩⟩

/-- What the store answers is not up to the encoder. -/
theorem Handles.remote {value : α} {outcome : Except SinkError β}
    (handles : Handles marker file (.ok value) after) (remote : ∀ cause, outcome ≠ .error (.encoding cause))
    (final : SinkFile) (state : final.state = after.state)
    (attempted : final.publishAttempted = after.publishAttempted) (encoder : final.encoder = after.encoder)
    (waiting : final.buffer = after.buffer) : Handles marker file outcome final :=
  handles.onwards final state attempted encoder waiting fun cause => iff_of_false (remote cause) (by simp)

theorem composeInflight_yields (store : RemoteStore W) (atRest : file.AtRest marker) :
    Yields (file.composeInflight store) fun result => Handles marker file result.1 result.2 := by
  rw [composeInflight]
  refine .bind (uploadPart_yields store atRest) ?_
  rintro ⟨result, after⟩ handles
  cases result with
  | error cause => exact .pure (handles.onwards after rfl rfl rfl rfl fun other => by simp)
  | ok batch =>
      refine .bind (Retry.run_yields _ _ _ _ _) ?_
      intro outcome remote
      cases outcome with
      | error cause => exact .pure (handles.remote remote after rfl rfl rfl rfl)
      | ok object => exact .pure (handles.remote remote _ rfl rfl rfl rfl)

theorem composePublish_yields (store : RemoteStore W) (atRest : file.AtRest marker) :
    Yields (file.composePublish store) fun result => Handles marker file result.1 result.2 := by
  rw [composePublish]
  refine .bind (uploadPart_yields store atRest) ?_
  rintro ⟨result, after⟩ handles
  cases result with
  | error cause => exact .pure (handles.onwards after rfl rfl rfl rfl fun other => by simp)
  | ok batch =>
      refine .bind (Retry.run_yields _ _ _ _ _) ?_
      intro outcome remote
      cases outcome with
      | error cause => exact .pure (handles.remote remote after rfl rfl rfl rfl)
      | ok object => exact .pure (handles.remote remote _ rfl rfl rfl rfl)

/-! ## Calls -/

/-- A sync of an open file: where it succeeds, the file stays open, and otherwise it has failed. -/
theorem sync_yields (store : RemoteStore W) (isOpen : file.state = .open) (atRest : file.AtRest marker) :
    Yields (file.sync store) fun result =>
      ((∃ cause, result.1 = .error (.encoding cause)) ↔ ¬ file.Encodable) ∧
      result.2.publishAttempted = file.publishAttempted ∧ result.2.buffer.records ⊆ file.buffer.records ∧
      (result.1.isOk = true ∧ result.2.state = .open ∧ result.2.AtRest marker ∨
        result.1.isOk = false ∧ result.2.state = .failed) := by
  rw [sync, if_neg (not_not_intro isOpen)]
  refine .bind (composeInflight_yields store atRest) ?_
  rintro ⟨result, after⟩ handles
  cases result with
  | error cause =>
      refine .pure ⟨?_, handles.attempted, handles.waiting, .inr ⟨rfl, rfl⟩⟩
      rw [← handles.refusal]
      simp
  | ok object =>
      have encodable := handles.encodable
      exact .pure ⟨iff_of_false (by simp) (not_not_intro encodable), handles.attempted, handles.waiting,
        .inl ⟨rfl, handles.state.trans isOpen, handles.resting encodable⟩⟩

/-- A publish of an open file: it is tried, and the file is open no more. -/
theorem publish_yields (store : RemoteStore W) (isOpen : file.state = .open) (atRest : file.AtRest marker) :
    Yields (file.publish store) fun result =>
      ((∃ cause, result.1 = .error (.encoding cause)) ↔ ¬ file.Encodable) ∧
      result.2.publishAttempted = true ∧ result.2.buffer.records ⊆ file.buffer.records ∧
      (result.2.state = .failed ∨ result.2.state = .published) := by
  have composed : Yields (composePublish store { file with publishAttempted := true }) _ :=
    composePublish_yields store atRest
  rw [publish, if_neg (not_not_intro isOpen)]
  refine .bind composed ?_
  rintro ⟨result, after⟩ handles
  cases result with
  | error cause =>
      refine .pure ⟨?_, handles.attempted, handles.waiting, .inl rfl⟩
      exact Iff.trans (by simp) handles.refusal
  | ok object =>
      refine .after fun failures => ?_
      exact .pure ⟨iff_of_false (by simp) (not_not_intro handles.encodable), handles.attempted,
        handles.waiting, .inr rfl⟩

/-- A discard of an unfinished file always succeeds. -/
theorem discard_yields (store : RemoteStore W) (unfinished : ¬ (file.state ≠ .open ∧ file.state ≠ .failed)) :
    Yields (file.discard store) fun result =>
      (∃ left, result.1 = .ok left) ∧ result.2.publishAttempted = file.publishAttempted ∧
      result.2.buffer.records = [] ∧ result.2.state = .discarded := by
  rw [discard, if_neg unfinished]
  exact .after fun failures => .pure ⟨⟨_, rfl⟩, rfl, rfl, rfl⟩

/-- A ledger is right about the state of a file, which is at rest while it is open. -/
structure Agrees (marker : Marker) (ledger : Ledger) (file : SinkFile) : Prop where
  isOpen : ledger.isOpen = true ↔ file.state = .open
  tried : ledger.tried = file.publishAttempted
  discarded : ledger.discarded = true ↔ file.state = .discarded
  resting : file.state = .open → file.AtRest marker
  waiting : ∀ record ∈ file.buffer.records, record ∈ ledger.accepted ∧ record.length < lengthBound

/-- A call that is refused changes nothing. -/
theorem Agrees.refused (agrees : Agrees marker ledger file) (closed : file.state ≠ .open) (call : Call) :
    Agrees marker (ledger.note call false) file := by
  rw [Ledger.note_refused (Bool.eq_false_iff.mpr fun opened => closed (agrees.isOpen.mp opened))]
  exact agrees

theorem Agrees.append (agrees : Agrees marker ledger file) (record : Bytes) :
    Agrees marker (ledger.note (.append record) (file.append record).1.isOk) (file.append record).2 := by
  rw [SinkFile.append]
  split
  · next closed => exact agrees.refused closed _
  split
  · exact agrees
  next short =>
    split
    · exact agrees
    · next buffer taken =>
      refine ⟨agrees.isOpen, agrees.tried, agrees.discarded, agrees.resting, ?_⟩
      rw [RecordBuffer.push?] at taken
      split at taken <;> cases taken
      intro other inside
      rcases List.mem_append.mp inside with before | new
      · obtain ⟨accepted, bounded⟩ := agrees.waiting other before
        exact ⟨List.mem_append_left _ accepted, bounded⟩
      · rw [List.mem_singleton.mp new]
        exact ⟨List.mem_append_right _ (List.mem_singleton_self _), Nat.not_le.mp short⟩

/-- A file that is open has not been discarded. -/
theorem Agrees.kept (agrees : Agrees marker ledger file) (isOpen : file.state = .open) :
    ledger.discarded ≠ true := by
  intro told
  cases isOpen.symm.trans (agrees.discarded.mp told)

/-- A file that is open has not been tried to publish. -/
theorem Agrees.untried (agrees : Agrees marker ledger file) (isOpen : file.state = .open) :
    ledger.tried ≠ true := by
  intro told
  have opened := agrees.isOpen.mpr isOpen
  simp [Ledger.isOpen, told] at opened

theorem Agrees.sync (agrees : Agrees marker ledger file) (isOpen : file.state = .open) {succeeded : Bool}
    (attempted : after.publishAttempted = file.publishAttempted)
    (waiting : after.buffer.records ⊆ file.buffer.records)
    (outcome : succeeded = true ∧ after.state = .open ∧ after.AtRest marker ∨
      succeeded = false ∧ after.state = .failed) :
    Agrees marker (ledger.note .sync succeeded) after := by
  have opened := agrees.isOpen.mpr isOpen
  have kept := agrees.kept isOpen
  rcases outcome with ⟨rfl, state, atRest⟩ | ⟨rfl, state⟩
  · exact ⟨iff_of_true opened state, agrees.tried.trans attempted.symm,
      iff_of_false kept (by rw [state]; decide), fun _ => atRest,
      fun record inside => agrees.waiting record (waiting inside)⟩
  · rw [Ledger.note_sync_failed opened]
    have other : after.state ≠ .open := by rw [state]; decide
    exact ⟨iff_of_false (by simp [Ledger.isOpen, Ledger.pending]) other, agrees.tried.trans attempted.symm,
      iff_of_false kept (by rw [state]; decide), fun same => absurd same other,
      fun record inside => agrees.waiting record (waiting inside)⟩

theorem Agrees.publish (agrees : Agrees marker ledger file) (isOpen : file.state = .open) (succeeded : Bool)
    (attempted : after.publishAttempted = true) (waiting : after.buffer.records ⊆ file.buffer.records)
    (state : after.state = .failed ∨ after.state = .published) :
    Agrees marker (ledger.note .publish succeeded) after := by
  rw [Ledger.note_publish (agrees.isOpen.mpr isOpen)]
  have other : after.state ≠ .open ∧ after.state ≠ .discarded := by
    rcases state with same | same <;> rw [same] <;> decide
  exact ⟨iff_of_false (by simp [Ledger.isOpen, Ledger.pending]) other.1, attempted.symm,
    iff_of_false (agrees.kept isOpen) other.2, fun same => absurd same other.1,
    fun record inside => agrees.waiting record (waiting inside)⟩

theorem Agrees.discard (agrees : Agrees marker ledger file)
    (attempted : after.publishAttempted = file.publishAttempted) (nothing : after.buffer.records = [])
    (state : after.state = .discarded) : Agrees marker (ledger.note .discard true) after := by
  have other : after.state ≠ .open := by rw [state]; decide
  exact ⟨iff_of_false (by simp [Ledger.isOpen, Ledger.note]) other, agrees.tried.trans attempted.symm,
    iff_of_true rfl state, fun same => absurd same other, by simp [nothing]⟩

theorem agrees_perform (store : RemoteStore W) (agrees : Agrees marker ledger file) (call : Call) :
    Yields (file.perform store call) fun result =>
      Agrees marker (ledger.note call result.1) result.2 := by
  cases call with
  | append record => exact .pure (agrees.append record)
  | sync =>
      by_cases isOpen : file.state = .open
      · refine .bind (sync_yields store isOpen (agrees.resting isOpen)) ?_
        rintro ⟨result, after⟩ ⟨-, attempted, waiting, outcome⟩
        exact .pure (agrees.sync isOpen attempted waiting outcome)
      · rw [perform, SinkFile.sync, if_pos isOpen]
        exact .pure (agrees.refused isOpen _)
  | publish =>
      by_cases isOpen : file.state = .open
      · refine .bind (publish_yields store isOpen (agrees.resting isOpen)) ?_
        rintro ⟨result, after⟩ ⟨-, attempted, waiting, state⟩
        exact .pure (agrees.publish isOpen _ attempted waiting state)
      · rw [perform, SinkFile.publish, if_pos isOpen]
        exact .pure (agrees.refused isOpen _)
  | discard =>
      by_cases finished : file.state ≠ .open ∧ file.state ≠ .failed
      · rw [perform, SinkFile.discard, if_pos finished]
        exact .pure (agrees.refused finished.1 _)
      · refine .bind (discard_yields store finished) ?_
        rintro ⟨result, after⟩ ⟨⟨left, rfl⟩, attempted, nothing, state⟩
        exact .pure (agrees.discard attempted nothing state)

/-- The ledger of a new file is right about it. -/
theorem agrees_create (store : RemoteStore W) (name : String) (names : FileNames) (capacity : Nat)
    (marker : Marker) :
    Yields (create store name names capacity marker) fun result =>
      ∀ file, result = .ok file → Agrees marker .empty file := by
  obtain ⟨encoder, encoded, written⟩ := encodeHeader_eq marker
  rw [create, encoded]
  refine .after fun outcome => ?_
  cases outcome with
  | ok inflight =>
      refine .pure ?_
      rintro file ⟨⟩
      exact ⟨iff_of_true rfl rfl, rfl, iff_of_false Bool.false_ne_true (by simp [opened]),
        fun _ => ⟨_, written⟩, List.forall_mem_nil _⟩
  | error cause => exact .after fun _ => .pure (by simp)

/-- What every call preserves is there after any calls. -/
theorem run_preserves (keeps : Ledger → SinkFile → Prop)
    (step : ∀ ledger file call, keeps ledger file →
      Yields (file.perform store call) fun result => keeps (ledger.note call result.1) result.2)
    (calls : List Call) (kept : keeps ledger file) :
    Yields (run store calls file ledger) fun result => keeps result.2 result.1 := by
  induction calls generalizing file ledger with
  | nil => exact .pure kept
  | cons call rest ih =>
      rw [run]
      exact .bind (step ledger file call kept) fun _ noted => ih noted

/-- The ledger of a file is right about it after any calls. -/
theorem agrees_run (store : RemoteStore W) (calls : List Call) (agrees : Agrees marker ledger file) :
    Yields (run store calls file ledger) fun result => Agrees marker result.2 result.1 :=
  run_preserves (Agrees marker) (fun _ _ call agrees => agrees_perform store agrees call) calls agrees

end SinkFile

end RecordSink
