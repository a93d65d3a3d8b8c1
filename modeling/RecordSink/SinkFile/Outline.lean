import RecordSink.SinkFile
import RecordSink.Stream.Draft

/-!
# Files in outline

A record that no block can hold takes more memory than a rehearsal has. A file in outline knows the first
such record by its size only, and empty records stand in the place of this one and of others: a sync and a
publish never come further than to the first.
-/

namespace RecordSink

open RecordSink.Stream (lengthBound)

/-- A file in outline: with the size of the first waiting record that no block can hold. -/
structure Outline extends SinkFile where
  oversize? : Option Oversize

namespace Outline

variable {W α : Type}

/-- A file without waiting records in outline. -/
def of (file : SinkFile) : Outline := { file with oversize? := none }

/-- Takes a record into the buffer, or an empty one in its place. -/
def append (draft : Draft) (outline : Outline) : Except SinkError Unit × Outline :=
  match draft with
  | .whole record _ =>
      let (result, file) := outline.toSinkFile.append record
      (result, { file with oversize? := outline.oversize? })
  | .oversize first =>
      if outline.state = .open ∧ lengthBound ≤ first.size then
        (.error (.encoding (.longRecord first.size)), outline)
      else
        match outline.toSinkFile.append [] with
        | (.error cause, file) => (.error cause, { file with oversize? := outline.oversize? })
        | (.ok (), file) => (.ok (), { file with oversize? := outline.oversize?.or (some first) })

/-- Performs an operation on the waiting records. That of an open file fails at a record that no block can
hold. -/
def handle (operation : SinkFile → StateM W (Except SinkError α × SinkFile)) (failed : SinkFile)
    (outline : Outline) : StateM W (Except SinkError α × Outline) :=
  match outline.oversize?, outline.state with
  | some first, .open =>
      return (.error (.encoding (.longPayload (4 + first.size))), { failed with oversize? := some first })
  | _, _ => do
      let (result, file) ← operation outline.toSinkFile
      return (result, { file with oversize? := outline.oversize? })

/-- Puts the waiting records into the inflight object. -/
def sync (store : RemoteStore W) (outline : Outline) : StateM W (Except SinkError Unit × Outline) :=
  outline.handle (·.sync store) { outline.toSinkFile with state := .failed }

/-- Puts all records into the publish object and removes the others. -/
def publish (store : RemoteStore W) (outline : Outline) :
    StateM W (Except SinkError Publication × Outline) :=
  outline.handle (·.publish store)
    { outline.toSinkFile with state := .failed, publishAttempted := true }

/-- Gives up the file, and its waiting records with it. -/
def discard (store : RemoteStore W) (outline : Outline) : StateM W (Except SinkError Nat × Outline) := do
  let (result, file) ← outline.toSinkFile.discard store
  return (result, { file with oversize? := if result.isOk then none else outline.oversize? })

end Outline

end RecordSink
