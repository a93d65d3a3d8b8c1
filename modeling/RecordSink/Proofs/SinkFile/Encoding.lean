import RecordSink.Proofs.Stream.Writing
import RecordSink.SinkFile

/-!
# Encoding in parts

The encoder of a file writes the header into one body and each batch of records into a body of its
own. Main statement: the bodies behind each other are one written stream.
-/

namespace RecordSink

open RecordSink.Stream

namespace Stream.Encoder

/-- The encoder is detached and has written the given runs behind the header. -/
structure HasWritten (marker : Marker) (runs : List (List Bytes)) (encoder : Encoder (Retargeting Body)) :
    Prop where
  detached : encoder.out.destination = none
  header : encoder.header = { version, marker }
  blocks : encoder.blocks = runs.length
  checksum : encoder.checksum = summed .empty runs

/-- Blocks that fit go to the end of the attached body, and the encoder moves on behind them. -/
theorem writeBlocks_attached {runs : List (List Bytes)} (fits : ∀ run ∈ runs, Fits run)
    {encoder : Encoder (Retargeting Body)} {body : Body} (attached : encoder.out.destination = some body) :
    ∃ after, encoder.writeBlocks runs = (.ok (UInt32.ofNat runs.length), after) ∧
      after.out.destination =
        some ⟨body.content
          ++ blocksFrom encoder.header.marker encoder.blocks encoder.checksum runs⟩ ∧
      after.header = encoder.header ∧ after.blocks = encoder.blocks + runs.length ∧
      after.checksum = summed encoder.checksum runs := by
  obtain ⟨after, finished, advanced, content⟩ := writeBlocks_redirected runs attached
  rw [verdict_of_fits fits] at finished
  rw [landed_of_fits fits] at advanced content
  exact ⟨after, finished, content, advanced.header, advanced.blocks, advanced.checksum⟩

end Stream.Encoder

namespace SinkFile

open RecordSink.Stream.Encoder

/-- An attached body is handed back. -/
theorem detachBody_attached {encoder : Stream.Encoder (Retargeting Body)} {body : Body}
    (attached : encoder.out.destination = some body) :
    detachBody encoder = (.ok body.content,
      { encoder with out := { encoder.out with destination := none } }) := by
  rw [detachBody, Retargeting.detach, attached]
  rfl

/-- The encoder of a new file has written the header, and nothing else. -/
theorem encodeHeader_eq (marker : Marker) :
    ∃ encoder, encodeHeader marker = .ok (written marker [], encoder) ∧
      HasWritten marker [] encoder := by
  have header : written marker [] = Header.bytes { version, marker } := by
    rw [written, blocksFrom, List.append_nil]
  refine ⟨?encoder, ?encoded, ?written⟩
  case encoded =>
    rw [encodeHeader, Retargeting.attach]
    dsimp only [Retargeting.empty]
    rw [start_attached]
    dsimp only
    rw [detachBody_attached rfl, header]
  case written => exact ⟨rfl, rfl, rfl, rfl⟩

/-- Records whose blocks fit are encoded into a body that goes on where the encoder stopped. -/
theorem encodeRecords_of_fits {marker : Marker} {past : List (List Bytes)}
    {encoder : Stream.Encoder (Retargeting Body)} (ready : HasWritten marker past encoder)
    {records : List Bytes} (fits : ∀ run ∈ runs records, Fits run) :
    ∃ after, encodeRecords records encoder =
        (.ok (blocksFrom marker past.length (summed .empty past) (runs records)), after) ∧
      HasWritten marker (past ++ runs records) after := by
  have attached : ({ encoder with
      out := { encoder.out with
        destination := some Body.empty, attachments := encoder.out.attachments + 1 } } :
      Stream.Encoder (Retargeting Body)).out.destination = some Body.empty := rfl
  obtain ⟨after, wrote, content, header, number, checksum⟩ := writeBlocks_attached fits attached
  rw [ready.header, ready.blocks, ready.checksum] at content
  have flushed : after.flush = (.ok (), after) := by
    rw [Encoder.flush]
    simp only [ByteSink.flush, content]
    rw [← content]
  refine ⟨{ after with out := { after.out with destination := none } }, ?_, rfl, ?_, ?_, ?_⟩
  · rw [encodeRecords, Retargeting.attach, ready.detached]
    simp only [writeRecords, Encoder.append, wrote, flushed, detachBody_attached content]
    simp [Body.empty]
  · exact header.trans ready.header
  · simp only [number, ready.blocks, List.length_append]
  · simp only [checksum, ready.checksum, summed_append]

/-- Records with a block that does not fit are not written. -/
theorem writeRecords_of_not_fits {encoder : Stream.Encoder (Retargeting Body)} {body : Body}
    (attached : encoder.out.destination = some body) {records : List Bytes}
    (long : ¬ ∀ run ∈ runs records, Fits run) :
    ∃ cause, (writeRecords records encoder).1 = .error cause := by
  have ready : Retargeting.taking.ready encoder.out := ⟨body, attached⟩
  obtain ⟨cause, failed⟩ := writeBlocks_of_not_fits long ready
  refine ⟨cause, ?_⟩
  rw [writeRecords, Encoder.append]
  split
  · next wrote =>
      rw [wrote] at failed
      cases failed
      rfl
  · next wrote =>
      rw [wrote] at failed
      cases failed

/-- Records with a block that does not fit are not encoded. -/
theorem encodeRecords_of_not_fits {encoder : Stream.Encoder (Retargeting Body)}
    (detached : encoder.out.destination = none) {records : List Bytes}
    (long : ¬ ∀ run ∈ runs records, Fits run) :
    ∃ cause, (encodeRecords records encoder).1 = .error cause := by
  have attached : ({ encoder with
      out := { encoder.out with
        destination := some Body.empty, attachments := encoder.out.attachments + 1 } } :
      Stream.Encoder (Retargeting Body)).out.destination = some Body.empty := rfl
  obtain ⟨cause, failed⟩ := writeRecords_of_not_fits attached long
  refine ⟨cause, ?_⟩
  rw [encodeRecords, Retargeting.attach, detached]
  dsimp only
  split
  · next wrote =>
      rw [failed] at wrote
      cases wrote
      rfl
  · next wrote =>
      rw [failed] at wrote
      cases wrote

/-- What was encoded is the blocks behind those before, and the encoder has moved on behind them. -/
theorem of_encodeRecords_ok {marker : Marker} {past : List (List Bytes)}
    {encoder after : Stream.Encoder (Retargeting Body)} (ready : HasWritten marker past encoder)
    {records : List Bytes} {body : Bytes} (encoded : encodeRecords records encoder = (.ok body, after)) :
    (∀ run ∈ runs records, Fits run) ∧
      body = blocksFrom marker past.length (summed .empty past) (runs records) ∧
      HasWritten marker (past ++ runs records) after := by
  have fits : ∀ run ∈ runs records, Fits run := by
    refine Classical.byContradiction fun long => ?_
    obtain ⟨cause, failed⟩ := encodeRecords_of_not_fits ready.detached long
    rw [encoded] at failed
    cases failed
  obtain ⟨other, whole, continued⟩ := encodeRecords_of_fits ready fits
  rw [encoded] at whole
  cases whole
  exact ⟨fits, rfl, continued⟩

/-! ## Operations that stop at the encoder -/

variable {W : Type} {file : SinkFile} {cause : WriteError} {encoder : Stream.Encoder (Retargeting Body)}

/-- The waiting records stop an operation at the encoder. -/
theorem uploadPart_stopped (store : RemoteStore W) (waiting : file.buffer.isEmpty = false)
    (failed : encodeRecords file.buffer.records file.encoder = (.error cause, encoder)) :
    file.uploadPart store = pure (.error (.encoding cause), { file with encoder }) := by
  rw [uploadPart, if_neg (by rw [waiting]; exact Bool.false_ne_true), failed]

/-- A sync fails where the encoder does, before it asks anything of the store. -/
theorem sync_stopped (store : RemoteStore W) (isOpen : file.state = .open)
    (waiting : file.buffer.isEmpty = false)
    (failed : encodeRecords file.buffer.records file.encoder = (.error cause, encoder)) :
    file.sync store = pure (.error (.encoding cause), { file with encoder, state := .failed }) := by
  rw [sync, if_neg (not_not_intro isOpen), composeInflight, uploadPart_stopped store waiting failed]
  rfl

/-- A publish fails where a sync does. -/
theorem publish_stopped (store : RemoteStore W) (isOpen : file.state = .open)
    (waiting : file.buffer.isEmpty = false)
    (failed : encodeRecords file.buffer.records file.encoder = (.error cause, encoder)) :
    file.publish store = pure (.error (.encoding cause),
      { file with encoder, state := .failed, publishAttempted := true }) := by
  have stopped : uploadPart store { file with publishAttempted := true } = _ :=
    uploadPart_stopped store waiting failed
  rw [publish, if_neg (not_not_intro isOpen), composePublish, stopped]
  rfl

end SinkFile

end RecordSink
