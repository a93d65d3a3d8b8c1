import RecordSink.ByteSink
import RecordSink.Config
import RecordSink.Credential
import RecordSink.Failure

/-!
# Errors of a sink

The life of a sink file and what its callers are told when something goes wrong. An error of a
remote call says how many attempts were spent.
-/

namespace RecordSink

/-- The life of a sink file. -/
inductive FileState where
  /-- Records can be appended and synced. -/
  | open
  /-- The finished file is in place. -/
  | published
  /-- The file was given up. -/
  | discarded
  /-- A sync or the publish failed; the file can only be discarded. -/
  | failed
  deriving DecidableEq, Repr, Inhabited

/-- The word for a state. -/
def FileState.text : FileState → String
  | .open => "open"
  | .published => "published"
  | .discarded => "discarded"
  | .failed => "failed"

/-- What a caller asks of a sink file. -/
inductive FileOperation where
  | append
  | sync
  | publish
  | discard
  deriving DecidableEq, Repr, Inhabited

/-- The name of a file operation in messages. -/
def FileOperation.text : FileOperation → String
  | .append => "append"
  | .sync => "sync"
  | .publish => "close_and_publish"
  | .discard => "discard"

/-- What callers of a sink are told. -/
inductive SinkError where
  /-- A remote call failed for good or ran out of attempts. -/
  | remote (operation : Operation) (object : String) (attempts : Nat) (cause : RemoteError)
  /-- The buffer holds as many records as it may. -/
  | capacityExceeded (capacity : Nat)
  /-- The state of the file does not permit the operation. -/
  | invalidState (operation : FileOperation) (state : FileState)
  /-- The records could not be encoded. -/
  | encoding (cause : WriteError)
  | config (cause : ConfigError)
  | credential (cause : CredentialError)
  | invalidName (cause : NameError)
  deriving DecidableEq, Repr

namespace SinkError

/-- The wording of a sink error. -/
def message : SinkError → String
  | .remote operation object attempts cause =>
      operation.text ++ " of '" ++ object ++ "' failed after " ++ Numeral.decimal attempts
        ++ " attempt(s): " ++ cause.message
  | .capacityExceeded capacity =>
      "record buffer full: " ++ Numeral.decimal capacity ++ " records pending, sync required"
  | .invalidState operation state =>
      "cannot " ++ operation.text ++ " a file in state " ++ state.text
  | .encoding cause => "record encoding failed: " ++ cause.message
  | .config cause => "invalid configuration: " ++ cause.message
  | .credential cause => "credential acquisition failed: " ++ cause.message
  | .invalidName cause => "invalid object name: " ++ cause.message

/-- The cause of a remote failure. -/
def remote? : SinkError → Option RemoteError
  | .remote _ _ _ cause => some cause
  | _ => none

/-- The attempts spent. -/
def attempts : SinkError → Nat
  | .remote _ _ attempts _ => attempts
  | _ => 1

end SinkError

end RecordSink
