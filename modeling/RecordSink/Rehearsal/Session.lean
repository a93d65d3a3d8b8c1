import RecordSink.Rehearsal
import RecordSink.SinkFile.Outline

/-!
# Rehearsal sessions

A rehearsal with one configured client, the store and the sink over it, and the files that are
under way. Files are kept in outline by a handle; an action on one puts the file after it in its place.
-/

namespace RecordSink

/-- A rehearsal with a configured client and files that are under way. -/
structure Session where
  world : Rehearsal
  config : Config
  store : RemoteStore Rehearsal
  sink : Except ConfigError (Sink Rehearsal)
  files : List (String × Outline)
  /-- A file was opened whose buffer no memory holds. -/
  exhausted : Bool

namespace Session

variable {α : Type}

/-- The beginning of a session. The client does not need a valid configuration, only the sink
does. -/
def start (config : Config) (emulator : Emulator) (credentials : CredentialSource Rehearsal) :
    Except ConfigError Session := do
  let client ← Client.connect Rehearsal.tappedLink credentials config.endpoint config.bucket
  return {
    world := .withStore emulator
    config
    store := { client, clock := Rehearsal.clock, policy := .ofSettings config.retry }
    sink := Sink.connect config Rehearsal.tappedLink credentials Rehearsal.clock
    files := [], exhausted := false }

/-- Acts on the world. -/
def act (action : StateM Rehearsal α) : StateM Session α := fun session =>
  let (value, world) := action session.world
  (value, { session with world })

/-- The file under a handle. -/
def file? (handle : String) (session : Session) : Option Outline := session.files.lookup handle

/-- Forgets the file under a handle. -/
def release (handle : String) (session : Session) : Session :=
  { session with files := session.files.filter (·.1 != handle) }

/-- Keeps a file under a handle. -/
def hold (handle : String) (file : Outline) (session : Session) : Session :=
  { session with
    files := (handle, file) :: (session.release handle).files
    exhausted := session.exhausted || !file.buffer.hasRoom }

/-- A step asked for more time or memory than there is. -/
def isBroken (session : Session) : Bool := session.world.time.undefinedSpan || session.exhausted

/-- Keeps a created file under a handle. -/
def keep (handle : String) (create : StateM Rehearsal (Except SinkError SinkFile)) :
    StateM Session (Except SinkError Unit) := do
  match ← act create with
  | .error cause => return .error cause
  | .ok file =>
      modify (·.hold handle (.of file))
      return .ok ()

/-- Creates a file with a marker in the configured directories, past the sink. -/
def openFile (handle name : String) (capacity : Nat) (marker : Marker) :
    StateM Session (Except SinkError Unit) := do
  let session ← get
  match FileNames.ofDirectories session.config.workingDir session.config.publishDir name with
  | .error cause => return .error (.invalidName cause)
  | .ok names => keep handle (SinkFile.create session.store name names capacity marker)

/-- Acts with the sink, where the configuration is valid. -/
def onSink (action : Sink Rehearsal → StateM Session (Except SinkError α)) :
    StateM Session (Except SinkError α) := do
  match (← get).sink with
  | .error cause => return .error (.config cause)
  | .ok sink => action sink

/-- Creates a file by the sink. -/
def createFile (handle name : String) (marker : Marker) : StateM Session (Except SinkError Unit) :=
  onSink fun sink => keep handle (sink.createFile name marker sink.recordsPerSync)

/-- Acts on the file under a handle, if there is one. -/
def onFile (handle : String)
    (action : Outline → RemoteStore Rehearsal → StateM Rehearsal (α × Outline)) :
    StateM Session (Option α) := do
  let session ← get
  match session.file? handle with
  | none => return none
  | some file =>
      let (value, file) ← act (action file session.store)
      modify (·.hold handle file)
      return some value

end Session

end RecordSink
