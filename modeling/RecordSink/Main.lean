import RecordSink.Program
import RecordSink.Rehearsal

/-!
# The command line

Publishes standard input into an emulated store that holds the configured bucket, and prints the
name of the published object. The environment gives the configuration file, the file name, the
token and the log settings.
-/

namespace RecordSink.Program

/-- The emulated store that the command line writes to: it holds the configured bucket. -/
def rehearsalStore (document : Option Bytes) : Emulator :=
  match Config.ofFile document with
  | .ok config => .withBucket config.bucket
  | .error _ => .empty

/-- The content of a file, if it can be read. -/
def readDocument (path : String) : IO (Option Bytes) := do
  try
    let content ← IO.FS.readBinFile path
    return some content.toList
  catch _ => return none

/-- The start of the program as its surroundings give it. -/
def readStart : IO Start := do
  let path := (← IO.getEnv "RECORD_SINK_CONFIG").getD "record-sink.toml"
  let document ← readDocument path
  let millis ← IO.monoMsNow
  return {
    logFormat := ← IO.getEnv "RECORD_SINK_LOG_FORMAT"
    logLevel := ← IO.getEnv "RECORD_SINK_LOG_LEVEL"
    document
    token := ← IO.getEnv "RECORD_SINK_ACCESS_TOKEN"
    fileName := (← IO.getEnv "RECORD_SINK_FILE_NAME").getD ("records-" ++ Numeral.decimal millis ++ ".rec")
    marker := (Marker.random (.ofSeed (UInt64.ofNat millis))).1
    input := (← (← IO.getStdin).readBinToEnd).toList }

/-- Runs the program and reports how it ended. -/
def command : IO UInt32 := do
  let start ← readStart
  let (result, _) := run (Rehearsal.surroundings Rehearsal.directLink) start
    (.withStore (rehearsalStore start.document))
  match result with
  | .ok _ => IO.print (output result)
  | .error stop => IO.eprintln ("Error: " ++ stop.message)
  return exitCode result

end RecordSink.Program

def main : IO UInt32 := RecordSink.Program.command
