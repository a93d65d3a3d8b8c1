import RecordSink.Proofs.SinkFile.States
import RecordSink.Proofs.Stream.Drafts
import RecordSink.SinkFile.Outline

/-!
# What an outline stands for

A file in outline gives the same answers as a file with all its records, asks the same of the store, and
stands for the file after each call as it did before.
-/

namespace RecordSink

open RecordSink.Stream

variable {W α : Type} {marker : Marker} {record : Bytes} {front rest : List Bytes}

namespace SinkFile

open Stream.Encoder

/-- The first record that is too long for a block is what the encoder reports. -/
theorem encodeRecords_long {past : List (List Bytes)} {encoder : Stream.Encoder (Retargeting Body)}
    (ready : HasWritten marker past encoder) (short : ∀ other ∈ front, frameSize other < lengthBound)
    (long : lengthBound ≤ frameSize record) :
    ∃ after, encodeRecords (front ++ record :: rest) encoder =
      (.error (.longPayload (frameSize record)), after) := by
  have attached : ({ encoder with
      out := { encoder.out with
        destination := some Body.empty, attachments := encoder.out.attachments + 1 } } :
      Stream.Encoder (Retargeting Body)).out.destination = some Body.empty := rfl
  obtain ⟨between, wrote, content, -⟩ := writeBlocks_attached (fits_of_mem_runs short) attached
  have appended : Encoder.append front _ = _ := wrote
  rw [encodeRecords, Retargeting.attach, ready.detached]
  simp only [writeRecords, append_long long, appended, detachBody_attached content]
  exact ⟨_, rfl⟩

theorem append_closed (file : SinkFile) (closed : file.state ≠ .open) (record : Bytes) :
    file.append record = (.error (file.refused .append), file) := by
  rw [append, if_pos closed]

/-- A record of a length that fits its field is taken where there is room. -/
theorem append_short (file : SinkFile) (isOpen : file.state = .open) (short : record.length < lengthBound) :
    file.append record =
      if file.isFull then (.error (.capacityExceeded file.buffer.capacity), file)
      else (.ok (),
        { file with buffer := { file.buffer with records := file.buffer.records ++ [record] } }) := by
  rw [append, if_neg (not_not_intro isOpen), if_neg (Nat.not_le.mpr short), RecordBuffer.push?, isFull]
  cases file.buffer.isFull <;> rfl

end SinkFile

/-! ## Outlines -/

/-- The waiting records of a file and those in its outline: up to the first that no block can hold they are
the same, and an empty one stands in the place of this one. -/
inductive Replaces : Option Oversize → List Bytes → List Bytes → Prop
  | whole {records : List Bytes} (short : ∀ record ∈ records, frameSize record < lengthBound) :
      Replaces none records records
  | cut {first : Oversize} {front rest others : List Bytes} {record : Bytes}
      (short : ∀ other ∈ front, frameSize other < lengthBound) (size : record.length = first.size)
      (behind : rest.length = others.length) :
      Replaces (some first) (front ++ [] :: rest) (front ++ record :: others)

namespace Replaces

variable {oversize? : Option Oversize} {shown records : List Bytes}

theorem length (replaces : Replaces oversize? shown records) : shown.length = records.length := by
  cases replaces with
  | whole => rfl
  | cut _ _ behind => simp only [List.length_append, List.length_cons, behind]

/-- Without a long record nothing is replaced. -/
theorem eq_of_none (replaces : Replaces none shown records) :
    shown = records ∧ ∀ record ∈ records, frameSize record < lengthBound := by
  cases replaces with
  | whole short => exact ⟨rfl, short⟩

/-- The record that an empty one stands for comes behind records that fit a block. -/
theorem split_of_some {first : Oversize} (replaces : Replaces (some first) shown records) :
    ∃ front record others, records = front ++ record :: others ∧ record.length = first.size ∧
      ∀ other ∈ front, frameSize other < lengthBound := by
  cases replaces with
  | cut short size _ => exact ⟨_, _, _, rfl, size, short⟩

/-- One more record waits. -/
theorem push (replaces : Replaces oversize? shown records) (short : frameSize record < lengthBound) :
    Replaces oversize? (shown ++ [record]) (records ++ [record]) := by
  cases replaces with
  | whole shorts =>
      refine .whole ?_
      simpa [or_imp, forall_and] using ⟨shorts, short⟩
  | cut shorts size behind =>
      rw [List.append_assoc, List.append_assoc]
      exact .cut shorts size (by simp [behind])

/-- One more record that no block can hold waits. -/
theorem push_oversize (replaces : Replaces oversize? shown records) {first : Oversize}
    (size : record.length = first.size) :
    Replaces (oversize?.or (some first)) (shown ++ [[]]) (records ++ [record]) := by
  cases replaces with
  | whole shorts => exact .cut shorts size rfl
  | cut shorts own behind =>
      rw [List.append_assoc, List.append_assoc]
      exact .cut shorts own (by simp [behind])

end Replaces

/-- An outline stands for a file: it has a buffer of its own, and the encoder of the file as long as this is
open. -/
structure Outlines (marker : Marker) (outline : Outline) (file : SinkFile) : Prop where
  shown : outline.toSinkFile = { file with buffer := outline.buffer, encoder := outline.encoder }
  capacity : outline.buffer.capacity = file.buffer.capacity
  records : Replaces outline.oversize? outline.buffer.records file.buffer.records
  encoder : file.state = .open → outline.encoder = file.encoder
  atRest : file.state = .open → file.AtRest marker

/-- A call of an outline answers as that of the file, leaves the world as that one, and the outline stands for
the file again. -/
structure Mirrors (marker : Marker) (shown : (α × Outline) × W) (full : (α × SinkFile) × W) : Prop where
  result : shown.1.1 = full.1.1
  world : shown.2 = full.2
  outlines : Outlines marker shown.1.2 full.1.2

namespace Outlines

variable {outline : Outline} {file failed : SinkFile} {store : RemoteStore W}
  {operation : SinkFile → StateM W (Except SinkError α × SinkFile)}

/-- A file that knows all its records is its own outline. -/
theorem of_short (short : ∀ record ∈ file.buffer.records, frameSize record < lengthBound)
    (atRest : file.state = .open → file.AtRest marker) : Outlines marker (.of file) file :=
  ⟨rfl, rfl, .whole short, fun _ => rfl, atRest⟩

theorem state (outlines : Outlines marker outline file) : outline.state = file.state := by
  rw [outlines.shown]

theorem size (outlines : Outlines marker outline file) : outline.buffer.size = file.buffer.size :=
  outlines.records.length

theorem isFull (outlines : Outlines marker outline file) : outline.isFull = file.isFull := by
  rw [SinkFile.isFull, SinkFile.isFull, RecordBuffer.isFull, RecordBuffer.isFull, outlines.capacity,
    outlines.size]

/-- An outline is described as the file. -/
theorem describe (outlines : Outlines marker outline file) : outline.describe = file.describe := by
  rw [SinkFile.describe, SinkFile.describe, outlines.size, outlines.shown]

/-- An open file without a record too long for a block is as its outline shows it. -/
theorem whole (outlines : Outlines marker outline file) (isOpen : file.state = .open)
    (known : outline.oversize? = none) : outline.toSinkFile = file ∧ file.Encodable := by
  have replaces := outlines.records
  rw [known] at replaces
  obtain ⟨records, encodable⟩ := replaces.eq_of_none
  have buffer : outline.buffer = file.buffer := by
    calc
      outline.buffer = ⟨outline.buffer.records, outline.buffer.capacity⟩ := rfl
      _ = file.buffer := by rw [records, outlines.capacity]
  refine ⟨?_, encodable⟩
  rw [outlines.shown, buffer, outlines.encoder isOpen]

/-- The records of an open file stop at the one that its outline knows by its size. -/
theorem long (outlines : Outlines marker outline file) (isOpen : file.state = .open) {first : Oversize}
    (known : outline.oversize? = some first) :
    file.buffer.isEmpty = false ∧ ∃ encoder, SinkFile.encodeRecords file.buffer.records file.encoder =
      (.error (.longPayload (4 + first.size)), encoder) := by
  have replaces := outlines.records
  rw [known] at replaces
  obtain ⟨front, record, others, records, size, short⟩ := replaces.split_of_some
  obtain ⟨past, ready⟩ := outlines.atRest isOpen
  have bound : lengthBound ≤ frameSize record := by
    rw [frameSize, size]
    exact first.bound
  refine ⟨by simp [RecordBuffer.isEmpty, records], ?_⟩
  rw [records, ← size]
  exact SinkFile.encodeRecords_long ready short bound

theorem append (outlines : Outlines marker outline file) {draft : Draft} (drafts : draft.Drafts record)
    (world : W) : Mirrors marker (outline.append draft, world) (file.append record, world) := by
  by_cases isOpen : file.state = .open
  · have opened : outline.state = .open := outlines.state.trans isOpen
    cases draft with
    | whole other short =>
      cases (drafts : other = record)
      have bounded : record.length < lengthBound := Nat.lt_of_le_of_lt (Nat.le_add_left _ 4) short
      rw [Outline.append, SinkFile.append_short _ opened bounded, SinkFile.append_short _ isOpen bounded,
        outlines.isFull]
      cases file.isFull with
      | true => exact ⟨congrArg _ (congrArg _ outlines.capacity), rfl, outlines⟩
      | false =>
          refine ⟨rfl, rfl, ?_, outlines.capacity, outlines.records.push short, outlines.encoder,
            outlines.atRest⟩
          exact congrArg (fun shown : SinkFile =>
            { shown with
              buffer := { outline.buffer with records := outline.buffer.records ++ [record] } }) outlines.shown
    | oversize first =>
      have size : record.length = first.size := drafts
      by_cases long : lengthBound ≤ first.size
      · rw [Outline.append, if_pos ⟨opened, long⟩, SinkFile.append, if_neg (not_not_intro isOpen), size,
          if_pos long]
        exact ⟨rfl, rfl, outlines⟩
      · have bounded : record.length < lengthBound := by rw [size]; exact Nat.not_le.mp long
        have nothing : ([] : Bytes).length < lengthBound := by decide
        rw [Outline.append, if_neg fun both => long both.2, SinkFile.append_short _ opened nothing,
          SinkFile.append_short _ isOpen bounded, outlines.isFull]
        cases file.isFull with
        | true => exact ⟨congrArg _ (congrArg _ outlines.capacity), rfl, outlines⟩
        | false =>
            refine ⟨rfl, rfl, ?_, outlines.capacity, outlines.records.push_oversize size, outlines.encoder,
              outlines.atRest⟩
            exact congrArg (fun shown : SinkFile =>
              { shown with
                buffer := { outline.buffer with records := outline.buffer.records ++ [[]] } }) outlines.shown
  · have closed : outline.state ≠ .open := outlines.state ▸ isOpen
    cases draft with
    | whole other short =>
      cases (drafts : other = record)
      rw [Outline.append, SinkFile.append_closed _ closed, SinkFile.append_closed _ isOpen]
      exact ⟨congrArg _ (congrArg _ outlines.state), rfl, outlines⟩
    | oversize first =>
      rw [Outline.append, if_neg fun opened => closed opened.1, SinkFile.append_closed _ closed,
        SinkFile.append_closed _ isOpen]
      exact ⟨congrArg _ (congrArg _ outlines.state), rfl, outlines⟩

/-- An operation on a file that is not open is refused, and on its outline too. -/
theorem handle_closed (outlines : Outlines marker outline file) (closed : file.state ≠ .open)
    (cause : SinkError) (refuses : operation file = pure (.error cause, file))
    (refusesOutline : operation outline.toSinkFile = pure (.error cause, outline.toSinkFile)) (world : W) :
    Mirrors marker (outline.handle operation failed world) (operation file world) := by
  have handled : outline.handle operation failed = pure (.error cause, outline) := by
    rw [Outline.handle]
    split
    · next opened => exact absurd (outlines.state.symm.trans opened) closed
    · rw [refusesOutline]
      rfl
  rw [handled, refuses]
  exact ⟨rfl, rfl, outlines⟩

/-- An operation on an open file fails at the record that its outline knows by its size. -/
theorem handle_long (outlines : Outlines marker outline file) (isOpen : file.state = .open) {first : Oversize}
    (known : outline.oversize? = some first) {after : SinkFile}
    (stops : operation file = pure (.error (.encoding (.longPayload (4 + first.size))), after))
    (shown : failed = { after with buffer := outline.buffer, encoder := outline.encoder })
    (buffer : after.buffer = file.buffer) (state : after.state = .failed) (world : W) :
    Mirrors marker (outline.handle operation failed world) (operation file world) := by
  have handled : outline.handle operation failed = pure (.error (.encoding (.longPayload (4 + first.size))),
      { failed with oversize? := some first }) := by
    rw [Outline.handle, known, outlines.state, isOpen]
  have replaces := outlines.records
  rw [known, ← buffer] at replaces
  -- the records are still those of the file, but nothing is said of the encoder of a failed one
  have closed : after.state ≠ .open := by rw [state]; decide
  rw [handled, stops]
  subst shown
  exact ⟨rfl, rfl, rfl, buffer ▸ outlines.capacity, replaces, fun same => absurd same closed,
    fun same => absurd same closed⟩

/-- An operation on an open file without a long record is that on its outline. -/
theorem handle_whole (outlines : Outlines marker outline file) (isOpen : file.state = .open)
    (known : outline.oversize? = none) {world : W}
    (waiting : (operation file world).1.2.buffer.records ⊆ file.buffer.records)
    (atRest : (operation file world).1.2.state = .open → (operation file world).1.2.AtRest marker) :
    Mirrors marker (outline.handle operation failed world) (operation file world) := by
  obtain ⟨same, encodable⟩ := outlines.whole isOpen known
  have handled : outline.handle operation failed =
      operation file >>= fun given => pure (given.1, .of given.2) := by
    rw [Outline.handle, known, same]
    rfl
  rw [handled]
  exact ⟨rfl, rfl, .of_short (fun record inside => encodable record (waiting inside)) atRest⟩

theorem sync (outlines : Outlines marker outline file) (world : W) :
    Mirrors marker (outline.sync store world) (file.sync store world) := by
  by_cases isOpen : file.state = .open
  · cases known : outline.oversize? with
    | none =>
        obtain ⟨-, -, waiting, outcome⟩ := SinkFile.sync_yields store isOpen (outlines.atRest isOpen) world
        refine outlines.handle_whole isOpen known waiting fun opened => ?_
        rcases outcome with ⟨-, -, atRest⟩ | ⟨-, failed⟩
        · exact atRest
        · cases failed.symm.trans opened
    | some first =>
        obtain ⟨waiting, encoder, stopped⟩ := outlines.long isOpen known
        have stops := SinkFile.sync_stopped store isOpen waiting stopped
        exact outlines.handle_long isOpen known stops (by rw [outlines.shown]) rfl rfl world
  · refine outlines.handle_closed isOpen (file.refused .sync) ?_ ?_ world
    · rw [SinkFile.sync, if_pos isOpen]
    · rw [SinkFile.sync, if_pos (outlines.state ▸ isOpen), SinkFile.refused, outlines.state]
      rfl

theorem publish (outlines : Outlines marker outline file) (world : W) :
    Mirrors marker (outline.publish store world) (file.publish store world) := by
  by_cases isOpen : file.state = .open
  · cases known : outline.oversize? with
    | none =>
        obtain ⟨-, -, waiting, outcome⟩ :=
          SinkFile.publish_yields store isOpen (outlines.atRest isOpen) world
        refine outlines.handle_whole isOpen known waiting fun opened => ?_
        rcases outcome with other | other <;> cases other.symm.trans opened
    | some first =>
        obtain ⟨waiting, encoder, stopped⟩ := outlines.long isOpen known
        have stops := SinkFile.publish_stopped store isOpen waiting stopped
        exact outlines.handle_long isOpen known stops (by rw [outlines.shown]) rfl rfl world
  · refine outlines.handle_closed isOpen (file.refused .publish) ?_ ?_ world
    · rw [SinkFile.publish, if_pos isOpen]
    · rw [SinkFile.publish, if_pos (outlines.state ▸ isOpen), SinkFile.refused, outlines.state]
      rfl

theorem discard (outlines : Outlines marker outline file) (world : W) :
    Mirrors marker (outline.discard store world) (file.discard store world) := by
  by_cases finished : file.state ≠ .open ∧ file.state ≠ .failed
  · have discarded : outline.discard store = pure (.error (file.refused .discard), outline) := by
      rw [Outline.discard, SinkFile.discard, outlines.state, if_pos finished, SinkFile.refused, outlines.state]
      rfl
    rw [discarded, SinkFile.discard, if_pos finished]
    exact ⟨rfl, rfl, outlines⟩
  · have possible : outline.possibleNames = file.possibleNames := by rw [outlines.shown]; rfl
    rw [Outline.discard, SinkFile.discard, SinkFile.discard, outlines.state, if_neg finished, if_neg finished,
      possible]
    have closed : FileState.discarded ≠ .open := by decide
    refine ⟨rfl, rfl, ?_, outlines.capacity, .whole (List.forall_mem_nil _), fun same => absurd same closed,
      fun same => absurd same closed⟩
    exact congrArg (fun shown : SinkFile =>
      { shown with state := .discarded, buffer := outline.buffer.clear }) outlines.shown

end Outlines

/-! ## Runs -/

namespace Outline

/-- Performs a call on a file in outline: whether it succeeded, and the outline after it. -/
def perform (store : RemoteStore W) (outline : Outline) : SinkFile.Call → StateM W (Bool × Outline)
  | .append record =>
      let (result, outline) := outline.append (.of record)
      return (result.isOk, outline)
  | .sync => do
      let (result, outline) ← outline.sync store
      return (result.isOk, outline)
  | .publish => do
      let (result, outline) ← outline.publish store
      return (result.isOk, outline)
  | .discard => do
      let (result, outline) ← outline.discard store
      return (result.isOk, outline)

/-- Performs calls in turn and notes the answers. -/
def run (store : RemoteStore W) :
    List SinkFile.Call → Outline → SinkFile.Ledger → StateM W (SinkFile.Ledger × Outline)
  | [], outline, ledger => return (ledger, outline)
  | call :: rest, outline, ledger => do
      let (succeeded, outline) ← outline.perform store call
      run store rest outline (ledger.note call succeeded)

end Outline

/-- Answers that are the same read the same. -/
theorem Mirrors.map {shown : (α × Outline) × W} {full : (α × SinkFile) × W}
    (mirrors : Mirrors marker shown full) (read : α → Bool) :
    Mirrors marker ((read shown.1.1, shown.1.2), shown.2) ((read full.1.1, full.1.2), full.2) :=
  ⟨congrArg read mirrors.result, mirrors.world, mirrors.outlines⟩

namespace Outlines

variable {outline : Outline} {file : SinkFile} {store : RemoteStore W}

theorem perform (outlines : Outlines marker outline file) (call : SinkFile.Call) (world : W) :
    Mirrors marker (outline.perform store call world) (file.perform store call world) := by
  cases call with
  | append record => exact (outlines.append (Draft.drafts_of record) world).map Except.isOk
  | sync => exact (outlines.sync world).map Except.isOk
  | publish => exact (outlines.publish world).map Except.isOk
  | discard => exact (outlines.discard world).map Except.isOk

/-- After any calls an outline stands for the file, with the same answers and the same world. -/
theorem run (outlines : Outlines marker outline file) (calls : List SinkFile.Call) (ledger : SinkFile.Ledger)
    (world : W) :
    let shown := outline.run store calls ledger world
    let full := SinkFile.run store calls file ledger world
    shown.1.1 = full.1.2 ∧ shown.2 = full.2 ∧ Outlines marker shown.1.2 full.1.1 := by
  induction calls generalizing outline file ledger world with
  | nil => exact ⟨rfl, rfl, outlines⟩
  | cons call rest ih =>
      have mirrors : Mirrors marker (outline.perform store call world) (file.perform store call world) :=
        outlines.perform call world
      rw [Outline.run, SinkFile.run]
      rcases shown : outline.perform store call world with ⟨⟨succeeded, between⟩, middle⟩
      rcases full : file.perform store call world with ⟨⟨other, after⟩, later⟩
      rw [shown, full] at mirrors
      obtain ⟨rfl, rfl, stands⟩ := mirrors
      have steps := ih stands (ledger.note call succeeded) middle
      simp only [bind, StateT.bind, shown, full]
      exact steps

/-- A new file is its own outline. -/
theorem of_create {name : String} {names : FileNames} {capacity : Nat} {world : W}
    (created : (SinkFile.create store name names capacity marker world).1 = .ok file) :
    Outlines marker (.of file) file := by
  have agrees := SinkFile.agrees_create store name names capacity marker world file created
  refine .of_short (fun record waits => ?_) agrees.resting
  exact absurd (agrees.waiting record waits).1 List.not_mem_nil

end Outlines

end RecordSink
