import RecordSink.SinkFile

/-!
# Sinks

A sink is a valid configuration with its connection to the store. It is verified once before it
takes records, and creates the files that records are appended to.
-/

namespace RecordSink

/-- A configured connection to a store. -/
structure Sink (W : Type) where
  config : Config
  credentials : CredentialSource W
  store : RemoteStore W

namespace Sink

variable {W : Type}

/-- A connection to the store of a valid configuration. -/
def connect (config : Config) (link : Link W) (credentials : CredentialSource W) (clock : Clock W) :
    Except ConfigError (Sink W) := do
  config.validate
  let client ← Client.connect link credentials config.endpoint config.bucket
  return { config, credentials, store := { client, clock, policy := .ofSettings config.retry } }

/-- A directory setting that breaks a rule for directories. -/
def checkDirectory (field directory : String) : Except SinkError Unit :=
  match ObjectName.checkDirectory directory with
  | .ok () => .ok ()
  | .error cause => .error (.invalidName (.setting field cause))

/-- The directory settings. -/
def checkDirectories (config : Config) : Except SinkError Unit := do
  checkDirectory "working_dir" config.workingDir
  checkDirectory "publish_dir" config.publishDir

/-- Checks that there are credentials, that the directories are usable and that the bucket can be
reached, in that order. -/
def verify (sink : Sink W) : StateM W (Except SinkError BucketMetadata) := do
  match ← sink.credentials.obtain with
  | .error cause => return .error (.credential cause)
  | .ok _ =>
      match checkDirectories sink.config with
      | .error cause => return .error cause
      | .ok () => sink.store.verifyBucket

/-- Records kept between two syncs of a file. -/
def recordsPerSync (sink : Sink W) : Nat := sink.config.recordsPerSync

/-- Creates a file in the configured directories. -/
def createFile (sink : Sink W) (name : String) (marker : Marker) (capacity : Nat) :
    StateM W (Except SinkError SinkFile) := do
  match FileNames.ofDirectories sink.config.workingDir sink.config.publishDir name with
  | .error cause => return .error (.invalidName cause)
  | .ok names => SinkFile.create sink.store name names capacity marker

end Sink

end RecordSink
