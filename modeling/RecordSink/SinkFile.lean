import RecordSink.RecordBuffer
import RecordSink.RemoteStore
import RecordSink.Stream.Encoder
import RecordSink.Text.Escaped

/-!
# Sink files

One file on its way into the store. Appended records wait in a buffer; a sync uploads them as a
part and composes the part onto the inflight object; the publish composes them into the publish
object and removes what it no longer needs. Only the publish ever writes the publish name, and
it does so in one compose.

Every operation takes a file and gives the file after it, together with its result.
-/

namespace RecordSink

/-- Counters of one file. -/
structure FileStats where
  /-- Syncs that succeeded. -/
  syncs : Nat
  partsUploaded : Nat
  /-- Records composed into the inflight or the publish object. -/
  recordsSynced : Nat
  /-- Bytes of the header and of the uploaded parts. -/
  bytesUploaded : Nat
  deriving DecidableEq, Repr, Inhabited

/-- What a successful publish leaves. -/
structure Publication where
  /-- The published object. -/
  object : ObjectMetadata
  /-- Why objects that are no longer needed could not be removed. -/
  cleanupFailures : List SinkError
  deriving DecidableEq, Repr

/-- Nothing is left behind. -/
def Publication.isClean (publication : Publication) : Bool := publication.cleanupFailures.isEmpty

/-- A file on its way into the store. -/
structure SinkFile where
  name : String
  names : FileNames
  state : FileState
  buffer : RecordBuffer
  encoder : Stream.Encoder (Retargeting Body)
  /-- A part upload was tried, so the part may exist. -/
  partWritten : Bool
  /-- A publish was tried, so the publish object may be this file's. -/
  publishAttempted : Bool
  /-- The generation of the inflight object as last reported. -/
  generation : Option String
  /-- The size of the inflight object as last reported. -/
  inflightSize : Nat
  stats : FileStats

namespace SinkFile

/-! ## Encoding -/

/-- Hands back the body that the encoder wrote to. -/
def detachBody (encoder : Stream.Encoder (Retargeting Body)) :
    Except WriteError Bytes × Stream.Encoder (Retargeting Body) :=
  match encoder.out.detach with
  | (.error cause, out) => (.error cause, { encoder with out })
  | (.ok none, out) => (.error .noBody, { encoder with out })
  | (.ok (some body), out) => (.ok body.content, { encoder with out })

/-- Writes records to an encoder and flushes it. -/
def writeRecords (records : List Bytes) (encoder : Stream.Encoder (Retargeting Body)) :
    Except WriteError Unit × Stream.Encoder (Retargeting Body) :=
  match encoder.append records with
  | (.error cause, encoder) => (.error cause, encoder)
  | (.ok _, encoder) => encoder.flush

/-- Encodes records into a body of their own. -/
def encodeRecords (records : List Bytes) (encoder : Stream.Encoder (Retargeting Body)) :
    Except WriteError Bytes × Stream.Encoder (Retargeting Body) :=
  match encoder.out.attach Body.empty with
  | (.error cause, out) => (.error cause, { encoder with out })
  | (.ok (), out) =>
      match writeRecords records { encoder with out } with
      | (written, encoder) =>
          match detachBody encoder, written with
          | (_, encoder), .error cause => (.error cause, encoder)
          | (body, encoder), .ok () => (body, encoder)

/-- The body with the header of a new stream, and the encoder behind it. -/
def encodeHeader (marker : Marker) :
    Except WriteError (Bytes × Stream.Encoder (Retargeting Body)) :=
  match Retargeting.empty.attach Body.empty with
  | (.error cause, _) => .error cause
  | (.ok (), out) =>
      match Stream.Encoder.start marker out with
      | .error (cause, _) => .error cause
      | .ok encoder =>
          match detachBody encoder with
          | (.error cause, _) => .error cause
          | (.ok body, encoder) => .ok (body, encoder)

variable {W : Type}

/-! ## Opening -/

/-- A new file whose inflight object holds a header. -/
def opened (name : String) (names : FileNames) (capacity : Nat)
    (encoder : Stream.Encoder (Retargeting Body)) (headerSize : Nat) (inflight : ObjectMetadata) :
    SinkFile :=
  { name, names, state := .open, buffer := .empty capacity, encoder
    partWritten := false, publishAttempted := false, generation := inflight.generation
    inflightSize := inflight.sizeBytes?.getD headerSize
    stats := { syncs := 0, partsUploaded := 0, recordsSynced := 0, bytesUploaded := headerSize } }

/-- Creates a file by uploading its header. Where that fails, the header may still have arrived
and is removed if possible. -/
def create (store : RemoteStore W) (name : String) (names : FileNames) (capacity : Nat)
    (marker : Marker) : StateM W (Except SinkError SinkFile) := do
  match encodeHeader marker with
  | .error cause => return .error (.encoding cause)
  | .ok (header, encoder) =>
      match ← store.upload names.inflight header with
      | .ok inflight => return .ok (opened name names capacity encoder header.length inflight)
      | .error cause =>
          let _ ← store.deleteIfExists names.inflight
          return .error cause

/-! ## Appending -/

/-- The error of an operation that the state does not permit. -/
def refused (file : SinkFile) (operation : FileOperation) : SinkError :=
  .invalidState operation file.state

/-- The next append would fail. -/
def isFull (file : SinkFile) : Bool := file.buffer.isFull

/-- Takes a record into the buffer. -/
def append (record : Bytes) (file : SinkFile) : Except SinkError Unit × SinkFile :=
  if file.state ≠ .open then (.error (file.refused .append), file)
  else if Stream.lengthBound ≤ record.length then
    (.error (.encoding (.longRecord record.length)), file)
  else
    match file.buffer.push? record with
    | none => (.error (.capacityExceeded file.buffer.capacity), file)
    | some buffer => (.ok (), { file with buffer })

/-! ## Syncing and publishing -/

/-- What a compose starts from. -/
structure Batch where
  sources : List ObjectName
  /-- The size of the composed object. -/
  size : Nat
  /-- Records that are not yet in the inflight object. -/
  records : Nat

/-- Uploads the waiting records, if there are any, as the part. -/
def uploadPart (store : RemoteStore W) (file : SinkFile) :
    StateM W (Except SinkError Batch × SinkFile) := do
  if file.buffer.isEmpty then
    return (.ok { sources := [file.names.inflight], size := file.inflightSize, records := 0 }, file)
  match encodeRecords file.buffer.records file.encoder with
  | (.error cause, encoder) => return (.error (.encoding cause), { file with encoder })
  | (.ok body, encoder) =>
      let file := { file with encoder, partWritten := true }
      match ← store.upload file.names.part body with
      | .error cause => return (.error cause, file)
      | .ok _ =>
          let batch : Batch :=
            { sources := [file.names.inflight, file.names.part]
              size := (file.inflightSize + body.length) % Nat.pow 2 64, records := file.buffer.size }
          return (.ok batch, { file with
            buffer := file.buffer.clear
            stats := { file.stats with
              partsUploaded := file.stats.partsUploaded + 1
              bytesUploaded := file.stats.bytesUploaded + body.length } })

/-- The file after records were composed. -/
def withSynced (file : SinkFile) (records : Nat) : SinkFile :=
  { file with stats := { file.stats with recordsSynced := file.stats.recordsSynced + records } }

/-- Composes the waiting records into the publish object. -/
def composePublish (store : RemoteStore W) (file : SinkFile) :
    StateM W (Except SinkError ObjectMetadata × SinkFile) := do
  match ← file.uploadPart store with
  | (.error cause, file) => return (.error cause, file)
  | (.ok batch, file) =>
      match ← store.compose file.names.publish batch.sources with
      | .error cause => return (.error cause, file)
      | .ok object => return (.ok object, file.withSynced batch.records)

/-- Composes the waiting records onto the inflight object. -/
def composeInflight (store : RemoteStore W) (file : SinkFile) :
    StateM W (Except SinkError ObjectMetadata × SinkFile) := do
  match ← file.uploadPart store with
  | (.error cause, file) => return (.error cause, file)
  | (.ok batch, file) =>
      match ← store.composeReplacing file.names.inflight batch.sources file.generation batch.size with
      | .error cause => return (.error cause, file)
      | .ok object =>
          return (.ok object, { file.withSynced batch.records with
            generation := object.generation
            inflightSize := object.sizeBytes?.getD batch.size })

/-- Puts the waiting records into the inflight object. Without any, it is composed onto itself. -/
def sync (store : RemoteStore W) (file : SinkFile) : StateM W (Except SinkError Unit × SinkFile) := do
  if file.state ≠ .open then return (.error (file.refused .sync), file)
  match ← file.composeInflight store with
  | (.error cause, file) => return (.error cause, { file with state := .failed })
  | (.ok _, file) =>
      return (.ok (), { file with stats := { file.stats with syncs := file.stats.syncs + 1 } })

/-- Removes objects in turn and gives the failures. -/
def removeAll (store : RemoteStore W) : List ObjectName → StateM W (List SinkError)
  | [] => return []
  | name :: rest => do
      let outcome ← store.deleteIfExists name
      let failures ← removeAll store rest
      match outcome with
      | .ok _ => return failures
      | .error cause => return cause :: failures

/-- The objects that a finished file no longer needs. -/
def transientNames (file : SinkFile) : List ObjectName :=
  (if file.partWritten then [file.names.part] else []) ++ [file.names.inflight]

/-- Puts all records into the publish object and removes the others. The file is published even
where something cannot be removed. -/
def publish (store : RemoteStore W) (file : SinkFile) :
    StateM W (Except SinkError Publication × SinkFile) := do
  if file.state ≠ .open then return (.error (file.refused .publish), file)
  match ← composePublish store { file with publishAttempted := true } with
  | (.error cause, file) => return (.error cause, { file with state := .failed })
  | (.ok object, file) =>
      let cleanupFailures ← removeAll store file.transientNames
      return (.ok { object, cleanupFailures }, { file with state := .published })

/-! ## Discarding -/

/-- The objects that an unfinished file may have left: the publish object only after a publish was
tried. -/
def possibleNames (file : SinkFile) : List ObjectName :=
  file.transientNames ++ if file.publishAttempted then [file.names.publish] else []

/-- Gives up a file and removes what it may have left; the result counts what could not be
removed. -/
def discard (store : RemoteStore W) (file : SinkFile) :
    StateM W (Except SinkError Nat × SinkFile) := do
  if file.state ≠ .open ∧ file.state ≠ .failed then return (.error (file.refused .discard), file)
  let failures ← removeAll store file.possibleNames
  return (.ok failures.length, { file with state := .discarded, buffer := file.buffer.clear })

/-! ## Description -/

/-- The name of a state in descriptions. -/
def stateName : FileState → String
  | .open => "Open"
  | .published => "Published"
  | .discarded => "Discarded"
  | .failed => "Failed"

/-- Named values between braces. -/
def braced (title : String) (fields : List (String × String)) : String :=
  title ++ " \x7b " ++ ", ".intercalate (fields.map fun (name, value) => name ++ ": " ++ value)
    ++ " \x7d"

/-- A file in one line. -/
def describe (file : SinkFile) : String :=
  braced "SinkFile"
    [("name", Text.quoted file.name), ("state", stateName file.state),
      ("buffered", Numeral.decimal file.buffer.size),
      ("part_written", if file.partWritten then "true" else "false"),
      ("stats", braced "FileStats"
        [("syncs", Numeral.decimal file.stats.syncs),
          ("parts_uploaded", Numeral.decimal file.stats.partsUploaded),
          ("records_synced", Numeral.decimal file.stats.recordsSynced),
          ("bytes_uploaded", Numeral.decimal file.stats.bytesUploaded)])]

end SinkFile

end RecordSink
