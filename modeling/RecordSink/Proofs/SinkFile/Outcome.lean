import RecordSink.Proofs.Ordeal.Shelves
import RecordSink.Proofs.SinkFile.Ledger

/-!
# Outcomes of calls

What a call of a file comes to where no request fails for good: the answer, the file and the bytes of the
objects, as functions of the file, of the bytes before and of the call. Generations are left out: only
they depend on what a store has been through.
-/

namespace RecordSink

open Emulator RecordSink.Stream

/-- A publication, but for the generation of its object. -/
def Publication.ungenerated (publication : Publication) : Publication :=
  { publication with object := publication.object.ungenerated }

namespace SinkFile

/-! ## Answers -/

/-- A file, but for the generation of its inflight object. -/
def ungenerated (file : SinkFile) : SinkFile := { file with generation := none }

/-- The answer to a call. -/
inductive Reply where
  | appended (result : Except SinkError Unit)
  | synced (result : Except SinkError Unit)
  | published (result : Except SinkError Publication)
  | discarded (result : Except SinkError Nat)

/-- The answer reports success. -/
def Reply.isOk : Reply → Bool
  | .appended result => result.isOk
  | .synced result => result.isOk
  | .published result => result.isOk
  | .discarded result => result.isOk

/-- An answer, but for the generation of the published object. -/
def Reply.ungenerated : Reply → Reply
  | .published result => .published (result.map Publication.ungenerated)
  | other => other

/-- Makes a call: the answer, and the file after it. -/
def ask {W : Type} (store : RemoteStore W) (file : SinkFile) : Call → StateM W (Reply × SinkFile)
  | .append record =>
      let (result, file) := file.append record
      return (.appended result, file)
  | .sync => do
      let (result, file) ← file.sync store
      return (.synced result, file)
  | .publish => do
      let (result, file) ← file.publish store
      return (.published result, file)
  | .discard => do
      let (result, file) ← file.discard store
      return (.discarded result, file)

/-- A call succeeds where the answer says so. -/
theorem perform_eq {W : Type} (store : RemoteStore W) (file : SinkFile) (call : Call) (world : W) :
    file.perform store call world =
      (((file.ask store call world).1.1.isOk, (file.ask store call world).1.2),
        (file.ask store call world).2) := by
  cases call <;> rfl

/-! ## What a call comes to -/

/-- The bytes of the waiting records, and the file once they are uploaded and composed. -/
def staged (file : SinkFile) : Except WriteError Bytes × SinkFile :=
  if file.buffer.isEmpty then (.ok [], file)
  else
    match encodeRecords file.buffer.records file.encoder with
    | (.error cause, encoder) => (.error cause, { file with encoder })
    | (.ok body, encoder) =>
        (.ok body, { file with
          encoder
          partWritten := true
          buffer := file.buffer.clear
          stats := { file.stats with
            partsUploaded := file.stats.partsUploaded + 1
            recordsSynced := file.stats.recordsSynced + file.buffer.size
            bytesUploaded := file.stats.bytesUploaded + body.length } })

/-- The answer to a call, the file and the objects after it, but for generations. -/
structure Outcome where
  reply : Reply
  file : SinkFile
  shelf : Shelf

namespace Outcome

/-- The outcome without its generations. -/
def of (reply : Reply) (file : SinkFile) (shelf : Shelf) : Outcome :=
  { reply := reply.ungenerated, file := file.ungenerated, shelf }

/-- The objects once the waiting records are uploaded. -/
def loaded (place : ObjectName → Place) (file : SinkFile) (body : Bytes) (shelf : Shelf) : Shelf :=
  if file.buffer.isEmpty then shelf else shelf.put (place file.names.part) body

/-- The bytes of the inflight object with the waiting records behind them. -/
def grown (place : ObjectName → Place) (file : SinkFile) (body : Bytes) (shelf : Shelf) : Bytes :=
  (shelf (place file.names.inflight)).getD [] ++ body

/-- What a sync comes to. -/
def sync (place : ObjectName → Place) (file : SinkFile) (shelf : Shelf) : Outcome :=
  if file.state ≠ .open then .of (.synced (.error (file.refused .sync))) file shelf
  else
    match file.staged with
    | (.error cause, after) =>
        .of (.synced (.error (.encoding cause))) { after with state := .failed } shelf
    | (.ok body, after) =>
        .of (.synced (.ok ()))
          { after with
            inflightSize := (grown place file body shelf).length
            stats := { after.stats with syncs := after.stats.syncs + 1 } }
          ((loaded place file body shelf).put (place file.names.inflight)
            (grown place file body shelf))

/-- What a publish comes to. -/
def publish (place : ObjectName → Place) (file : SinkFile) (shelf : Shelf) : Outcome :=
  if file.state ≠ .open then .of (.published (.error (file.refused .publish))) file shelf
  else
    match staged { file with publishAttempted := true } with
    | (.error cause, after) =>
        .of (.published (.error (.encoding cause))) { after with state := .failed } shelf
    | (.ok body, after) =>
        let whole := grown place file body shelf
        let object := (place file.names.publish).described whole
        .of (.published (.ok { object, cleanupFailures := [] })) { after with state := .published }
          (((loaded place file body shelf).put (place file.names.publish) whole).without
            (after.transientNames.map place))

/-- What a discard comes to. -/
def discard (place : ObjectName → Place) (file : SinkFile) (shelf : Shelf) : Outcome :=
  if file.state ≠ .open ∧ file.state ≠ .failed then
    .of (.discarded (.error (file.refused .discard))) file shelf
  else
    .of (.discarded (.ok 0)) { file with state := .discarded, buffer := file.buffer.clear }
      (shelf.without (file.possibleNames.map place))

/-- What a call comes to. -/
def call (place : ObjectName → Place) (file : SinkFile) (shelf : Shelf) : Call → Outcome
  | .append record => .of (.appended (file.append record).1) (file.append record).2 shelf
  | .sync => sync place file shelf
  | .publish => publish place file shelf
  | .discard => discard place file shelf

end Outcome

/-! ## Generations -/

theorem append_ungenerated (record : Bytes) (file : SinkFile) :
    file.ungenerated.append record =
      ((file.append record).1, (file.append record).2.ungenerated) := by
  rcases taken : file.buffer.push? record with none | buffer
  · simp only [SinkFile.append, ungenerated, taken]
    split
    · rfl
    · split <;> rfl
  · simp only [SinkFile.append, ungenerated, taken]
    split
    · rfl
    · split <;> rfl

theorem staged_ungenerated (file : SinkFile) :
    file.ungenerated.staged = (file.staged.1, file.staged.2.ungenerated) := by
  rcases encoded : encodeRecords file.buffer.records file.encoder with ⟨cause | body, encoder⟩
  · simp only [staged, ungenerated, encoded]
    split <;> rfl
  · simp only [staged, ungenerated, encoded]
    split <;> rfl

/-- What a call comes to does not depend on a generation. -/
theorem Outcome.call_ungenerated (place : ObjectName → Place) (file : SinkFile) (shelf : Shelf)
    (call : Call) : Outcome.call place file.ungenerated shelf call = Outcome.call place file shelf call := by
  cases call with
  | append record =>
      rw [Outcome.call, append_ungenerated]
      rfl
  | sync =>
      have same := staged_ungenerated file
      rw [Outcome.call, Outcome.call, sync, sync, same]
      rcases file.staged with ⟨cause | body, after⟩ <;> rfl
  | publish =>
      have same : staged { file.ungenerated with publishAttempted := true } =
          ((staged { file with publishAttempted := true }).1,
            (staged { file with publishAttempted := true }).2.ungenerated) :=
        staged_ungenerated { file with publishAttempted := true }
      rw [Outcome.call, Outcome.call, publish, publish, same]
      rcases staged { file with publishAttempted := true } with ⟨cause | body, after⟩ <;> rfl
  | discard => rfl

end SinkFile

end RecordSink
