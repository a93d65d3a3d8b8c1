import RecordSink.Proofs.SinkFile.States

/-!
# Limits of a record

Which records a file takes and which it can encode. An append refuses a record whose length does not fit its
length field. In a block the length of the payload has a field as wide, and the payload of a record is four
bytes longer, so that records of four lengths are taken and never encoded.
-/

namespace RecordSink.SinkFile

open RecordSink.Stream Emulator Ordeal

variable {W : Type} {store : RemoteStore W} {names : FileNames} {marker : Marker} {file after : SinkFile}
  {ledger : Ledger} {calls : List Call} {title : String} {capacity : Nat} {before world later : W}

/-- An append refuses a record as one that cannot be encoded where its length does not fit its field, and
leaves the file as it is. -/
theorem append_encoding_iff (isOpen : file.state = .open) (record : Bytes) :
    ((∃ cause, (file.append record).1 = .error (.encoding cause)) ↔ lengthBound ≤ record.length) ∧
      (lengthBound ≤ record.length → (file.append record).2 = file) := by
  rw [append, if_neg (not_not_intro isOpen)]
  by_cases long : lengthBound ≤ record.length
  · rw [if_pos long]
    exact ⟨iff_of_true ⟨_, rfl⟩ long, fun _ => rfl⟩
  · rw [if_neg long]
    refine ⟨iff_of_false ?_ long, fun same => absurd same long⟩
    rintro ⟨cause, failed⟩
    split at failed <;> cases failed

/-- An operation that is refused by the encoder where an open file holds a record too long for a block passes
it elsewhere. -/
theorem passes_encoder_iff {α : Type} {result : Except SinkError α}
    (opened : file.state = .open → ((∃ cause, result = .error (.encoding cause)) ↔ ¬ file.Encodable))
    (closed : file.state ≠ .open → ∀ cause, result ≠ .error (.encoding cause)) :
    (∀ cause, result ≠ .error (.encoding cause)) ↔ (file.state = .open → file.Encodable) := by
  by_cases isOpen : file.state = .open
  · rw [← not_exists, opened isOpen, Classical.not_not]
    exact ⟨fun encodable _ => encodable, fun encodable => encodable isOpen⟩
  · exact iff_of_true (closed isOpen) fun same => absurd same isOpen

/-- A sync passes the encoder unless the file is open and a waiting record is too long for a block. -/
theorem sync_encoding_iff (atRest : file.state = .open → file.AtRest marker) (world : W) :
    (∀ cause, (file.sync store world).1.1 ≠ .error (.encoding cause)) ↔
      (file.state = .open → file.Encodable) := by
  refine passes_encoder_iff (fun isOpen => (sync_yields store isOpen (atRest isOpen) world).1) fun closed => ?_
  rw [sync, if_pos closed]
  exact fun _ same => by cases same

/-- A publish passes the encoder where a sync does. -/
theorem publish_encoding_iff (atRest : file.state = .open → file.AtRest marker) (world : W) :
    (∀ cause, (file.publish store world).1.1 ≠ .error (.encoding cause)) ↔
      (file.state = .open → file.Encodable) := by
  refine passes_encoder_iff (fun isOpen => (publish_yields store isOpen (atRest isOpen) world).1)
    fun closed => ?_
  rw [publish, if_pos closed]
  exact fun _ same => by cases same

/-- After any calls the next sync and the next publish of a created file pass the encoder exactly where each
waiting record fits a block, behind its length. The waiting records were accepted, and an append
refuses exactly those whose length does not fit its own field. -/
theorem accepted_encodes_iff
    (created : create store title names capacity marker before = (.ok file, world))
    (ran : run store calls file .empty world = ((after, ledger), later)) :
    ((∀ cause, (after.sync store later).1.1 ≠ .error (.encoding cause)) ↔
      (after.state = .open → ∀ record ∈ after.buffer.records, 4 + record.length < lengthBound)) ∧
    ((∀ cause, (after.publish store later).1.1 ≠ .error (.encoding cause)) ↔
      (after.state = .open → ∀ record ∈ after.buffer.records, 4 + record.length < lengthBound)) ∧
    (∀ record ∈ after.buffer.records, record ∈ ledger.accepted ∧ record.length < lengthBound) ∧
    ∀ record, after.state = .open →
      ((∃ cause, (after.append record).1 = .error (.encoding cause)) ↔ lengthBound ≤ record.length) ∧
        (lengthBound ≤ record.length → (after.append record).2 = after) := by
  have begun := agrees_create store title names capacity marker before
  rw [created] at begun
  have agrees := agrees_run store calls (begun file rfl) world
  rw [ran] at agrees
  exact ⟨sync_encoding_iff agrees.resting later, publish_encoding_iff agrees.resting later, agrees.waiting,
    fun record isOpen => append_encoding_iff isOpen record⟩

namespace Trial

theorem waits : (session [.append [1, 2, 3]]).1.1.buffer.records = [[1, 2, 3]] := by
  decide +kernel

theorem agrees : Agrees Trial.marker .empty Trial.file := by
  have agrees := agrees_create Trial.store "a" Trial.names 1 Trial.marker
    { rest := (), history := .fresh (.withBucket "logs") }
  exact agrees Trial.file (Except.eq_ok_of_isSome creates)

theorem fresh : Trial.file.state = .open ∧ Trial.file.buffer = .empty 1 := by
  decide +kernel

end Trial

/-- A sync encodes a short record. -/
theorem accepted_encodes_iff_trial :
    (Trial.session [.append [1, 2, 3]]).1.1.buffer.records = [[1, 2, 3]] ∧
    ¬ ∃ cause, ((Trial.session [.append [1, 2, 3]]).1.1.sync Trial.store
      (Trial.session [.append [1, 2, 3]]).2).1.1 = .error (.encoding cause) := by
  have iff := (accepted_encodes_iff (eq_mk_of_fst (Except.eq_ok_of_isSome Trial.creates))
    (Trial.ran [.append [1, 2, 3]])).1
  refine ⟨Trial.waits, not_exists.mpr (iff.mpr fun _ => ?_)⟩
  rw [Trial.waits]
  decide

/-- A long record is taken, and the sync behind it fails for good at the encoder. -/
theorem accepted_not_encoded :
    (Trial.file.append Trial.long).1 = .ok () ∧
      let after := (Trial.file.append Trial.long).2.sync Trial.store Trial.creation.2
      (∃ cause, after.1.1 = .error (.encoding cause)) ∧ after.1.2.state = .failed := by
  have atRest := (Trial.agrees.append Trial.long).resting
  rw [Trial.append_long Trial.fresh.1 Trial.fresh.2] at atRest ⊢
  have isOpen : (Trial.laden Trial.file).state = .open := Trial.fresh.1
  obtain ⟨refusal, -, -, outcome⟩ := sync_yields Trial.store isOpen (atRest isOpen) Trial.creation.2
  have encoding := refusal.mpr (Trial.not_encodable_laden Trial.file)
  refine ⟨rfl, encoding, ?_⟩
  rcases outcome with ⟨succeeded, -⟩ | ⟨-, failed⟩
  · obtain ⟨cause, same⟩ := encoding
    rw [same] at succeeded
    cases succeeded
  · exact failed

end RecordSink.SinkFile
