import RecordSink.Config.Document
import RecordSink.Credential.MetadataServer
import RecordSink.Intake
import RecordSink.Logging

/-!
# The program

Publishes the lines of its input as one file: reads the configuration, verifies the store, copies
the input into a new file and publishes it. When the input fails, the file is discarded.
-/

namespace RecordSink.Program

/-- What the program is started with. -/
structure Start where
  logFormat : Option String
  logLevel : Option String
  /-- The content of the configuration file, if it exists. -/
  document : Option Bytes
  /-- A token, where the metadata server is not to be asked. -/
  token : Option String
  fileName : String
  marker : Marker
  input : Bytes

/-- Why the program ends without a published file. -/
inductive Stop where
  | logLevel (level : String)
  | config (cause : ConfigError)
  | credential (cause : CredentialError)
  | sink (cause : SinkError)
  | input (cause : Intake.InputError)
  deriving DecidableEq, Repr

/-- The wording of a stop. -/
def Stop.message : Stop → String
  | .logLevel level => "invalid filter directive: " ++ level
  | .config cause => cause.message
  | .credential cause => cause.message
  | .sink cause => cause.message
  | .input cause => cause.message

/-- What the program meets: a link, a clock and a metadata server at a URL. -/
structure Surroundings (W : Type) where
  link : Link W
  clock : Clock W
  metadataServer : Url → MetadataServer W

variable {W : Type}

/-- The credentials of the program: a given token, or those of the metadata server. -/
def credentials (surroundings : Surroundings W) (start : Start) : Except Stop (CredentialSource W) :=
  match start.token with
  | some token => .ok (.fixed (.bearer token))
  | none =>
      match MetadataServer.scopedUrl MetadataServer.standardUrl with
      | .ok url => .ok (surroundings.metadataServer url).source
      | .error cause => .error (.credential cause)

/-- The sink of the program. -/
def sink (surroundings : Surroundings W) (start : Start) : Except Stop (Sink W) := do
  let log := LogSettings.ofWritten start.logFormat start.logLevel
  if !log.isLevelValid then throw (.logLevel log.level)
  match Config.ofFile start.document with
  | .error cause => throw (.config cause)
  | .ok config =>
      let credentials ← credentials surroundings start
      match Sink.connect config surroundings.link credentials surroundings.clock with
      | .error cause => throw (.sink (.config cause))
      | .ok sink => return sink

/-- Fills a file with the input and publishes it, or discards it where the input fails. -/
def fill (sink : Sink W) (input : Bytes) (file : SinkFile) : StateM W (Except Stop Publication) := do
  match ← Intake.copy sink.store (Intake.lines input) file with
  | (.error cause, file) =>
      let _ ← file.discard sink.store
      return .error (.input cause)
  | (.ok (), file) =>
      match ← file.publish sink.store with
      | (.error cause, _) => return .error (.sink cause)
      | (.ok publication, _) => return .ok publication

/-- Runs the program; the result is the published object. -/
def run (surroundings : Surroundings W) (start : Start) : StateM W (Except Stop Publication) := do
  match sink surroundings start with
  | .error stop => return .error stop
  | .ok sink =>
      match ← sink.verify with
      | .error cause => return .error (.sink cause)
      | .ok _ =>
          match ← sink.createFile start.fileName start.marker sink.recordsPerSync with
          | .error cause => return .error (.sink cause)
          | .ok file => fill sink start.input file

/-- The exit code of a run. -/
def exitCode : Except Stop Publication → UInt32
  | .ok _ => 0
  | .error _ => 1

/-- What a run prints: the name of the published object. -/
def output : Except Stop Publication → String
  | .ok publication => publication.object.name ++ "\n"
  | .error _ => ""

end RecordSink.Program
