import RecordSink.Client
import RecordSink.Retry

/-!
# The store with repeated attempts

The calls of the client under a retry policy. Every call here may be repeated without changing
its effect: an upload and a plain compose write the same bytes again, a delete finds its object
gone, and a compose onto one of its own sources is guarded by a generation.
-/

namespace RecordSink

/-- A client with a retry policy. -/
structure RemoteStore (W : Type) where
  client : Client W
  clock : Clock W
  policy : RetryPolicy

namespace RemoteStore

variable {W : Type}

/-- Creates or replaces an object. -/
def upload (store : RemoteStore W) (name : ObjectName) (body : Bytes) :
    StateM W (Except SinkError ObjectMetadata) :=
  Retry.run store.clock store.policy .upload name.text fun _ =>
    store.client.upload name Client.recordType body

/-- Replaces an object by the concatenation of others. -/
def compose (store : RemoteStore W) (name : ObjectName) (sources : List ObjectName) :
    StateM W (Except SinkError ObjectMetadata) :=
  Retry.run store.clock store.policy .compose name.text fun _ =>
    store.client.compose name sources Client.recordType none

/-- The status of a compose whose generation did not match. -/
def preconditionFailed : Nat := 412

/-- One attempt of a guarded compose. From the second attempt on an earlier one may have been
applied without an answer; a generation that does not match is then taken for that effect where
the object has the expected size. -/
def composeOnce (store : RemoteStore W) (name : ObjectName) (sources : List ObjectName)
    (generation : Option String) (expectedSize attempt : Nat) :
    StateM W (Except RemoteError ObjectMetadata) := do
  match ← store.client.compose name sources Client.recordType generation with
  | .ok object => return .ok object
  | .error cause =>
      if cause.failure.status? = some preconditionFailed ∧ 2 ≤ attempt then
        match ← store.client.object name with
        | .error other => return .error other
        | .ok current =>
            if current.sizeBytes? = some expectedSize then return .ok current
            else return .error cause
      else return .error cause

/-- Replaces an object by the concatenation of itself and others, at most once. -/
def composeReplacing (store : RemoteStore W) (name : ObjectName) (sources : List ObjectName)
    (generation : Option String) (expectedSize : Nat) : StateM W (Except SinkError ObjectMetadata) :=
  Retry.run store.clock store.policy .compose name.text
    (store.composeOnce name sources generation expectedSize)

/-- Removes an object; the answer is false where it was gone already. -/
def deleteIfExists (store : RemoteStore W) (name : ObjectName) : StateM W (Except SinkError Bool) :=
  Retry.run store.clock store.policy .delete name.text fun _ => do
    match ← store.client.delete name with
    | .ok () => return .ok true
    | .error cause => if cause.isNotFound then return .ok false else return .error cause

/-- What the store says about the bucket, in one attempt. -/
def verifyBucket (store : RemoteStore W) : StateM W (Except SinkError BucketMetadata) :=
  Retry.run store.clock .single .getBucket store.client.bucket fun _ => store.client.bucketMetadata

end RemoteStore

end RecordSink
