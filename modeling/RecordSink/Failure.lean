import RecordSink.Http

/-!
# Failures of remote calls

What can go wrong in one attempt of a remote call, and whether the same call is worth another
attempt. Only the store's own reports of being unavailable and a lost connection are.
-/

namespace RecordSink

/-- The remote operations of a sink. -/
inductive Operation where
  | upload
  | compose
  | delete
  | getObject
  | getBucket
  deriving DecidableEq, Repr, Inhabited

/-- The name of an operation in messages. -/
def Operation.text : Operation → String
  | .upload => "upload"
  | .compose => "compose"
  | .delete => "delete"
  | .getObject => "get-object"
  | .getBucket => "get-bucket"

/-- What went wrong in one attempt. -/
inductive Failure where
  /-- The store answered with a status that reports no success. -/
  | answered (status : Nat) (body : String)
  /-- There was no response. -/
  | link (reason : String)
  /-- There was no credential for the request. -/
  | credential (reason : String)
  /-- The request could not be written. -/
  | encode (reason : String)
  /-- The body of a successful response could not be read. -/
  | decode (reason : String)
  deriving DecidableEq, Repr

/-- The wording of a failure. -/
def Failure.message : Failure → String
  | .answered status body => "HTTP " ++ Numeral.decimal status ++ ": " ++ body
  | .link reason => "transport error: " ++ reason
  | .credential reason => "credential error: " ++ reason
  | .encode reason => "request encoding failed: " ++ reason
  | .decode reason => "malformed response body: " ++ reason

/-- The status of a response that reports no success. -/
def Failure.status? : Failure → Option Nat
  | .answered status _ => some status
  | _ => none

/-- The statuses of a store that is unavailable for a while. -/
def isRetriableStatus (status : Nat) : Bool :=
  status == 500 || status == 502 || status == 503 || status == 504

/-- A failure with the verdict on another attempt. -/
structure RemoteError where
  /-- The same call is worth another attempt. -/
  retriable : Bool
  failure : Failure
  deriving DecidableEq, Repr

namespace RemoteError

/-- A failure that another attempt cannot help. -/
def fatal (failure : Failure) : RemoteError := ⟨false, failure⟩

/-- A failure that may pass. -/
def transient (failure : Failure) : RemoteError := ⟨true, failure⟩

/-- The verdict on a response that reports no success. -/
def ofStatus (status : Nat) (body : String) : RemoteError :=
  ⟨isRetriableStatus status, .answered status body⟩

/-- The wording of a remote error. -/
def message (error : RemoteError) : String :=
  (if error.retriable then "retriable: " else "fatal: ") ++ error.failure.message

/-- The store reported the object or the bucket as missing. -/
def isNotFound (error : RemoteError) : Bool := error.failure.status? == some 404

end RemoteError

end RecordSink
