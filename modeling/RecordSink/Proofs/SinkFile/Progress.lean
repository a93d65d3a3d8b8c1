import RecordSink.Proofs.SinkFile.States

/-!
# Progress of a file

What an operation comes to in any world as far as its caller can count on: the state, the waiting records and
the number of syncs. An operation that the state permits fails only as the store or the encoder does.
-/

namespace RecordSink

variable {W α β : Type}

/-- The error comes from the store or from the encoder, not from the file itself. -/
def SinkError.IsForeign : SinkError → Prop
  | .remote .. => True
  | .encoding _ => True
  | _ => False

/-- A call to the store fails only as the store does. -/
theorem Retry.run_isForeign (clock : Clock W) (policy : RetryPolicy) (operation : Operation)
    (object : String) (call : Nat → StateM W (Except RemoteError α)) :
    Yields (run clock policy operation object call) fun result =>
      ∀ cause, result = .error cause → cause.IsForeign := by
  rw [run]
  refine .after fun started => .after ?_
  rintro ⟨result, number⟩
  cases result with
  | ok value => exact .pure (by simp)
  | error cause =>
      refine .pure ?_
      rintro other ⟨⟩
      trivial

namespace SinkFile

/-- What a step on the waiting records leaves: the file is as open as before and has counted no sync; the records
wait as before or not at all, and where the step succeeds no record waits. -/
structure Loads (file : SinkFile) (result : Except SinkError α) (after : SinkFile) : Prop where
  title : after.name = file.name
  state : after.state = file.state
  attempted : after.publishAttempted = file.publishAttempted
  syncs : after.stats.syncs = file.stats.syncs
  waiting : after.buffer = file.buffer ∨ after.buffer = file.buffer.clear
  cleared : ∀ value, result = .ok value → after.buffer = file.buffer.clear
  isForeign : ∀ cause, result = .error cause → cause.IsForeign

variable {file : SinkFile}

theorem uploadPart_loads (store : RemoteStore W) (file : SinkFile) :
    Yields (file.uploadPart store) fun result => Loads file result.1 result.2 := by
  rw [uploadPart]
  split
  · next empty =>
      have same : file.buffer = file.buffer.clear := by
        rw [RecordBuffer.clear, ← List.isEmpty_iff.mp empty]
      exact .pure ⟨rfl, rfl, rfl, rfl, .inl rfl, fun _ _ => same, by simp⟩
  split
  · refine .pure ⟨rfl, rfl, rfl, rfl, .inl rfl, by simp, ?_⟩
    rintro cause ⟨⟩
    trivial
  · refine .bind (Retry.run_isForeign _ _ _ _ _) ?_
    intro result remote
    cases result with
    | error cause =>
        refine .pure ⟨rfl, rfl, rfl, rfl, .inl rfl, by simp, ?_⟩
        rintro other ⟨⟩
        exact remote cause rfl
    | ok metadata => exact .pure ⟨rfl, rfl, rfl, rfl, .inr rfl, fun _ _ => rfl, by simp⟩

/-- What a compose of the waiting records leaves, by what the upload of their part has left: it does not get
past the upload, or the store fails it, or it succeeds and the records count as synced. -/
inductive Concludes (uploaded : Except SinkError Batch → SinkFile → Prop) :
    Except SinkError ObjectMetadata → SinkFile → Prop where
  | stopped {cause : SinkError} {loaded : SinkFile} (left : uploaded (.error cause) loaded) :
      Concludes uploaded (.error cause) loaded
  | failed {batch : Batch} {cause : SinkError} {loaded : SinkFile} (left : uploaded (.ok batch) loaded)
      (isForeign : cause.IsForeign) : Concludes uploaded (.error cause) loaded
  | composed {batch : Batch} {loaded : SinkFile} (left : uploaded (.ok batch) loaded) (object : ObjectMetadata)
      (generation : Option String) (inflightSize : Nat) :
      Concludes uploaded (.ok object) { loaded.withSynced batch.records with generation, inflightSize }

section Concludes

variable {uploaded : Except SinkError Batch → SinkFile → Prop} {store : RemoteStore W}

theorem composeInflight_concludes
    (uploads : Yields (file.uploadPart store) fun result => uploaded result.1 result.2) :
    Yields (file.composeInflight store) fun result => Concludes uploaded result.1 result.2 := by
  rw [composeInflight]
  refine .bind uploads ?_
  rintro ⟨result, loaded⟩ left
  cases result with
  | error cause => exact .pure (.stopped left)
  | ok batch =>
      refine .bind (Retry.run_isForeign _ _ _ _ _) ?_
      intro outcome remote
      cases outcome with
      | error cause => exact .pure (.failed left (remote cause rfl))
      | ok object => exact .pure (.composed left object _ _)

theorem composePublish_concludes
    (uploads : Yields (file.uploadPart store) fun result => uploaded result.1 result.2) :
    Yields (file.composePublish store) fun result => Concludes uploaded result.1 result.2 := by
  rw [composePublish]
  refine .bind uploads ?_
  rintro ⟨result, loaded⟩ left
  cases result with
  | error cause => exact .pure (.stopped left)
  | ok batch =>
      refine .bind (Retry.run_isForeign _ _ _ _ _) ?_
      intro outcome remote
      cases outcome with
      | error cause => exact .pure (.failed left (remote cause rfl))
      | ok object => exact .pure (.composed left object loaded.generation loaded.inflightSize)

end Concludes

/-- A compose leaves of a file what the upload of the part has left, as far as its caller can count on. -/
theorem Concludes.loads {result : Except SinkError ObjectMetadata} {after : SinkFile}
    (concludes : Concludes (Loads file) result after) : Loads file result after := by
  cases concludes with
  | stopped loads => exact { loads with cleared := by simp, isForeign := by simpa using loads.isForeign _ rfl }
  | failed loads isForeign => exact { loads with cleared := by simp, isForeign := by simpa using isForeign }
  | composed loads object generation inflightSize =>
      exact { loads with cleared := fun _ _ => loads.cleared _ rfl, isForeign := by simp }

theorem composeInflight_loads (store : RemoteStore W) (file : SinkFile) :
    Yields (file.composeInflight store) fun result => Loads file result.1 result.2 :=
  fun world => (composeInflight_concludes (uploadPart_loads store file) world).loads

theorem composePublish_loads (store : RemoteStore W) (file : SinkFile) :
    Yields (file.composePublish store) fun result => Loads file result.1 result.2 :=
  fun world => (composePublish_concludes (uploadPart_loads store file) world).loads

/-- A sync of an open file succeeds, and then no record waits, or it fails as the store or the encoder does,
and then the file has failed. -/
theorem sync_progress (store : RemoteStore W) (isOpen : file.state = .open) :
    Yields (file.sync store) fun result =>
      (result.1 = .ok () ∧ result.2.state = .open ∧ result.2.buffer = file.buffer.clear ∧
          result.2.stats.syncs = file.stats.syncs + 1) ∨
        ∃ cause, result.1 = .error cause ∧ cause.IsForeign ∧ result.2.state = .failed := by
  rw [sync, if_neg (not_not_intro isOpen)]
  refine .bind (composeInflight_loads store file) ?_
  rintro ⟨result, after⟩ loads
  cases result with
  | error cause => exact .pure (.inr ⟨cause, rfl, loads.isForeign cause rfl, rfl⟩)
  | ok object =>
      refine .pure (.inl ⟨rfl, loads.state.trans isOpen, loads.cleared object rfl, ?_⟩)
      exact congrArg (· + 1) loads.syncs

/-- A new file has its title and has counted no sync. -/
theorem create_progress (store : RemoteStore W) (title : String) (names : FileNames) (capacity : Nat)
    (marker : Marker) :
    Yields (create store title names capacity marker) fun result =>
      ∀ file, result = .ok file → file.name = title ∧ file.stats.syncs = 0 := by
  rw [create]
  split
  · exact .pure (by simp)
  refine .after fun uploaded => ?_
  cases uploaded with
  | ok inflight =>
      refine .pure ?_
      rintro file ⟨⟩
      exact ⟨rfl, rfl⟩
  | error cause => exact .after fun _ => .pure (by simp)

theorem isFull_iff : file.isFull = true ↔ file.buffer.capacity ≤ file.buffer.records.length := decide_eq_true_iff

/-- An open file takes a record that is short enough while there is room for it. -/
theorem append_progress (isOpen : file.state = .open) {record : Bytes}
    (short : record.length < Stream.lengthBound) (room : file.buffer.records.length < file.buffer.capacity) :
    file.append record =
      (.ok (), { file with buffer := { file.buffer with records := file.buffer.records ++ [record] } }) := by
  have notFull : ¬ file.buffer.isFull = true := mt isFull_iff.mp (Nat.not_le.mpr room)
  rw [append, if_neg (not_not_intro isOpen), if_neg (Nat.not_le.mpr short), RecordBuffer.push?, if_neg notFull]

/-- A full file refuses a record for lack of room, and does not change. -/
theorem append_of_full (isOpen : file.state = .open) {record : Bytes}
    (short : record.length < Stream.lengthBound) (full : file.buffer.capacity ≤ file.buffer.records.length) :
    file.append record = (.error (.capacityExceeded file.buffer.capacity), file) := by
  have isFull : file.buffer.isFull = true := isFull_iff.mpr full
  rw [append, if_neg (not_not_intro isOpen), if_neg (Nat.not_le.mpr short), RecordBuffer.push?, if_pos isFull]

/-- An append changes nothing but the buffer. -/
theorem append_snd (record : Bytes) (file : SinkFile) :
    ∃ buffer, (file.append record).2 = { file with buffer } := by
  rw [append]
  split
  · exact ⟨file.buffer, rfl⟩
  split
  · exact ⟨file.buffer, rfl⟩
  split
  · exact ⟨file.buffer, rfl⟩
  · exact ⟨_, rfl⟩

/-- A sync changes neither the title of a file nor tries a publish. -/
theorem sync_keeps (store : RemoteStore W) (file : SinkFile) :
    Yields (file.sync store) fun result =>
      result.2.name = file.name ∧ result.2.publishAttempted = file.publishAttempted := by
  rw [sync]
  split
  · exact .pure ⟨rfl, rfl⟩
  refine .bind (composeInflight_loads store file) ?_
  rintro ⟨result, after⟩ loads
  cases result with
  | error cause => exact .pure ⟨loads.title, loads.attempted⟩
  | ok object => exact .pure ⟨loads.title, loads.attempted⟩

/-- A publish keeps the title of a file. An open file is published, or its publish fails as the store or the
encoder does, and then the file has failed. -/
theorem publish_progress (store : RemoteStore W) (isOpen : file.state = .open) :
    Yields (file.publish store) fun result =>
      result.2.name = file.name ∧
        ((∃ publication, result.1 = .ok publication) ∧ result.2.state = .published ∨
          ∃ cause, result.1 = .error cause ∧ cause.IsForeign ∧ result.2.state = .failed) := by
  have composed : Yields (composePublish store { file with publishAttempted := true }) _ :=
    composePublish_loads store _
  rw [publish, if_neg (not_not_intro isOpen)]
  refine .bind composed ?_
  rintro ⟨result, after⟩ loads
  cases result with
  | error cause => exact .pure ⟨loads.title, .inr ⟨cause, rfl, loads.isForeign cause rfl, rfl⟩⟩
  | ok object => exact .after fun failures => .pure ⟨loads.title, .inl ⟨⟨_, rfl⟩, rfl⟩⟩

end SinkFile

end RecordSink
