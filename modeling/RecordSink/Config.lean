import RecordSink.Duration
import RecordSink.ObjectName
import RecordSink.Url.Reader

/-!
# Configuration

The settings of a sink and the rules they obey. `Config.validate` reports the first rule that is
broken, in a fixed order of the settings.
-/

namespace RecordSink

/-- The settings for repeated attempts. -/
structure RetrySettings where
  /-- Attempts of one call in all. -/
  maxAttempts : Nat
  /-- The delay before the second attempt. -/
  initialDelay : Duration
  /-- No delay is longer. -/
  maxDelay : Duration
  /-- The growth of the delay from one attempt to the next. -/
  multiplier : Float
  /-- The random part of a delay, as a fraction of it. -/
  jitter : Float
  /-- No attempt starts later than this after the first. -/
  totalDuration : Option Duration
  deriving BEq, Repr, Inhabited

namespace RetrySettings

/-- The settings where none are given. -/
def standard : RetrySettings :=
  { maxAttempts := 5, initialDelay := .ofMillis 100, maxDelay := .ofSeconds 5, multiplier := 2.0
    jitter := 0.1, totalDuration := none }

/-- Three attempts without waiting. -/
def immediate : RetrySettings :=
  { maxAttempts := 3, initialDelay := .zero, maxDelay := .zero, multiplier := 1.0, jitter := 0.0
    totalDuration := none }

end RetrySettings

/-- The settings of a sink. -/
structure Config where
  /-- The bucket that holds the files. -/
  bucket : String
  /-- The directory of files in progress. -/
  workingDir : String
  /-- The directory of finished files. -/
  publishDir : String
  /-- Records kept between two syncs. -/
  recordsPerSync : Nat
  /-- The base URL of the store. -/
  endpoint : String
  /-- The time limit of one request. -/
  requestTimeout : Duration
  retry : RetrySettings
  deriving BEq, Repr, Inhabited

/-- Why a configuration is refused. -/
inductive ConfigError where
  /-- There is no document. -/
  | missing
  /-- The document is no text. -/
  | notText
  /-- The text is no document of this form. -/
  | malformed
  /-- A setting breaks a rule. -/
  | invalid (field reason : String)
  deriving DecidableEq, Repr

namespace ConfigError

/-- The setting that breaks a rule. -/
def field? : ConfigError → Option String
  | .invalid field _ => some field
  | _ => none

/-- The wording of a configuration error. -/
def message : ConfigError → String
  | .missing => "failed to read configuration: no such file"
  | .notText => "failed to read configuration: stream did not contain valid UTF-8"
  | .malformed => "failed to parse configuration"
  | .invalid field reason => field ++ ": " ++ reason

end ConfigError

namespace Config

/-- The store's own endpoint. -/
def defaultEndpoint : String := "https://www.googleapis.com"

/-- The settings of a sink where only the places are given. -/
def standard (bucket workingDir publishDir : String) : Config :=
  { bucket, workingDir, publishDir, recordsPerSync := 1000, endpoint := defaultEndpoint
    requestTimeout := .ofSeconds 30, retry := .standard }

/-- A small sink for trials: four records between syncs and no waiting. -/
def trial (endpoint : String) : Config :=
  { standard "test-bucket" "inflight" "published" with
    recordsPerSync := 4, endpoint, retry := .immediate }

/-! ## Rules -/

/-- The least and the greatest size of a bucket name in bytes. -/
def bucketSizes : Nat × Nat := (3, 222)

/-- A small letter or a digit. -/
def isBucketEdge (char : Char) : Bool := char.isLower || char.isDigit

/-- A character of a bucket name. -/
def isBucketChar (char : Char) : Bool :=
  isBucketEdge char || char == '-' || char == '_' || char == '.'

/-- A broken rule of a setting. -/
def refuse (field reason : String) : Except ConfigError Unit := .error (.invalid field reason)

/-- The rules for a bucket name. -/
def checkBucket (bucket : String) : Except ConfigError Unit :=
  let (least, greatest) := bucketSizes
  let chars := bucket.toList
  if bucket.utf8ByteSize < least ∨ greatest < bucket.utf8ByteSize then
    refuse "bucket" ("'" ++ bucket ++ "' must be " ++ Numeral.decimal least ++ "..="
      ++ Numeral.decimal greatest ++ " characters")
  else if !chars.all isBucketChar || !chars.head?.any isBucketEdge
      || !chars.getLast?.any isBucketEdge then
    refuse "bucket" ("'" ++ bucket ++ "' may only contain lowercase letters, digits, '-', '_' and '.', "
      ++ "and must start and end with a letter or digit")
  else .ok ()

/-- The rules for a directory setting. -/
def checkDirectory (field directory : String) : Except ConfigError Unit :=
  match ObjectName.checkDirectory directory with
  | .ok () => .ok ()
  | .error cause => refuse field cause.message

/-- The rules for the endpoint: an absolute URL of the web that segments can be appended to. -/
def checkEndpoint (endpoint : String) : Except ConfigError Unit :=
  match Url.parse? endpoint with
  | .ok url =>
      if (url.scheme == "http" || url.scheme == "https") && url.isBase then .ok ()
      else refuse "endpoint" ("'" ++ url.text ++ "' is not an http(s) base URL")
  | .error cause => refuse "endpoint" cause.message

end Config

/-- The rules for repeated attempts. -/
def RetrySettings.validate (settings : RetrySettings) : Except ConfigError Unit := do
  if settings.maxAttempts = 0 then Config.refuse "retry.max_attempts" "must be at least 1"
  if settings.maxDelay < settings.initialDelay then
    Config.refuse "retry.initial_delay"
      (settings.initialDelay.text ++ " exceeds retry.max_delay " ++ settings.maxDelay.text)
  if !(settings.multiplier ≥ 1.0 && settings.multiplier.isFinite) then
    Config.refuse "retry.backoff_multiplier" "must be a finite number >= 1.0"
  if !(0.0 ≤ settings.jitter && settings.jitter ≤ 1.0) then
    Config.refuse "retry.jitter_factor" "must be within [0.0, 1.0]"

/-- The rules for a configuration. -/
def Config.validate (config : Config) : Except ConfigError Unit := do
  checkBucket config.bucket
  checkDirectory "working_dir" config.workingDir
  checkDirectory "publish_dir" config.publishDir
  if config.workingDir = config.publishDir then refuse "publish_dir" "must differ from working_dir"
  if config.recordsPerSync = 0 then refuse "sync_file_after_records" "must be at least 1"
  checkEndpoint config.endpoint
  if config.requestTimeout.nanos = 0 then refuse "request_timeout" "must be positive"
  config.retry.validate

end RecordSink
