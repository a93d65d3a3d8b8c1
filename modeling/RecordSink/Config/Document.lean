import RecordSink.Config
import RecordSink.Toml.Reader

/-!
# Configuration documents

A configuration as a TOML document. Settings that a document leaves out have their standard
values, names that are not settings are refused, and durations count milliseconds.
-/

namespace RecordSink.Config

/-! ## Values of settings -/

/-- A text. -/
def text? : Toml → Option String
  | .string value => some value
  | _ => none

/-- A natural number below a bound. -/
def natural? (bound : Nat) : Toml → Option Nat
  | .integer value => if 0 ≤ value ∧ value.toNat < bound then some value.toNat else none
  | _ => none

/-- A duration in milliseconds. -/
def millis? (value : Toml) : Option Duration := (natural? (Nat.pow 2 64) value).map .ofMillis

/-- A number, whole or not. -/
def float? : Toml → Option Float
  | .float value => some value
  | .integer value => some (Double.ofDecimal (value < 0) value.natAbs 0)
  | _ => none

/-- A setting, or its standard value where the document leaves it out. -/
def setting? {α : Type} (read : Toml → Option α) (standard : α) : Option Toml → Option α
  | none => some standard
  | some value => read value

/-- The names of a table are all known. -/
def onlyKnown (known : List String) (members : Toml.Members) : Bool :=
  members.all fun (name, _) => known.contains name

/-! ## Reading -/

/-- The names of the retry settings, in order. -/
def retryNames : List String :=
  ["max_attempts", "initial_delay", "max_delay", "backoff_multiplier", "jitter_factor",
    "max_total_duration"]

/-- The retry settings from a look-up by position among their names. -/
def retryFrom? (at_ : Nat → Option Toml) : Option RetrySettings := do
  let standard := RetrySettings.standard
  return {
    maxAttempts := ← setting? (natural? (Nat.pow 2 32)) standard.maxAttempts (at_ 0)
    initialDelay := ← setting? millis? standard.initialDelay (at_ 1)
    maxDelay := ← setting? millis? standard.maxDelay (at_ 2)
    multiplier := ← setting? float? standard.multiplier (at_ 3)
    jitter := ← setting? float? standard.jitter (at_ 4)
    totalDuration := ← setting? (fun value => (millis? value).map some) standard.totalDuration (at_ 5) }

/-- The retry settings of a table, or of an array that lists them in order. -/
def retry? : Toml → Option RetrySettings
  | .table _ members =>
      if onlyKnown retryNames members then
        retryFrom? fun index => (retryNames[index]?).bind (Toml.Members.get? members)
      else none
  | .array items => retryFrom? fun index => items[index]?
  | _ => none

/-- The names of the settings. -/
def names : List String :=
  ["bucket", "working_dir", "publish_dir", "sync_file_after_records", "endpoint", "request_timeout",
    "retry"]

/-- The configuration of a table. -/
def ofMembers? (members : Toml.Members) : Option Config := do
  if !onlyKnown names members then none
  let bucket ← (members.get? "bucket").bind text?
  let workingDir ← (members.get? "working_dir").bind text?
  let publishDir ← (members.get? "publish_dir").bind text?
  let base := standard bucket workingDir publishDir
  return { base with
    recordsPerSync := ← setting? (natural? (Nat.pow 2 64)) base.recordsPerSync
      (members.get? "sync_file_after_records")
    endpoint := ← setting? text? base.endpoint (members.get? "endpoint")
    requestTimeout := ← setting? millis? base.requestTimeout (members.get? "request_timeout")
    retry := ← setting? retry? base.retry (members.get? "retry") }

/-- The configuration of a document, valid. -/
def ofDocument (document : String) : Except ConfigError Config := do
  let some config := (Toml.read? document).bind ofMembers? | throw .malformed
  config.validate
  return config

/-- The configuration of a file's content, if the file exists. -/
def ofFile : Option Bytes → Except ConfigError Config
  | none => .error .missing
  | some content =>
      match content.text? with
      | none => .error .notText
      | some document => ofDocument document

/-! ## Writing -/

/-- A line of a document. -/
def line (name value : String) : String := name ++ " = " ++ value ++ "\n"

/-- The lines of the retry settings. -/
def retryLines (settings : RetrySettings) : List String :=
  [line "max_attempts" (Numeral.decimal settings.maxAttempts),
    line "initial_delay" (Numeral.decimal settings.initialDelay.wholeMillis),
    line "max_delay" (Numeral.decimal settings.maxDelay.wholeMillis),
    line "backoff_multiplier" (Double.text settings.multiplier),
    line "jitter_factor" (Double.text settings.jitter)]
    ++ match settings.totalDuration with
      | none => []
      | some span => [line "max_total_duration" (Numeral.decimal span.wholeMillis)]

/-- The document of a configuration. -/
def document (config : Config) : String :=
  String.join
    ([line "bucket" (Toml.stringText config.bucket),
      line "working_dir" (Toml.stringText config.workingDir),
      line "publish_dir" (Toml.stringText config.publishDir),
      line "sync_file_after_records" (Numeral.decimal config.recordsPerSync),
      line "endpoint" (Toml.stringText config.endpoint),
      line "request_timeout" (Numeral.decimal config.requestTimeout.wholeMillis),
      "\n", "[retry]\n"]
      ++ retryLines config.retry)

end RecordSink.Config
