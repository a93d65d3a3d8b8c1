import RecordSink.Rehearsal
import RecordSink.Simulation.Report
import RecordSink.Stream.Reader

/-!
# Simulation

Sink files under a random workload and random faults, beside a shadow copy of what each of them
should hold. After every operation and at the end of a run the store is compared with the
shadow; a difference is a violation. A seed determines the whole run.

The harness reads the store directly but acts on it only through the sink, so that any world
with such a store can be simulated.
-/

namespace RecordSink.Simulation

/-- The settings of a simulation. -/
structure Settings where
  seed : UInt64
  rates : Emulator.FaultRates
  /-- Records kept between two syncs. -/
  capacity : Nat
  /-- Attempts of one remote call. -/
  maxAttempts : Nat
  syncProbability : Float
  publishProbability : Float
  discardProbability : Float
  /-- The greatest size of a record. -/
  maxRecordSize : Nat
  deriving Repr, Inhabited

namespace Settings

/-- Faults that pass, which further attempts absorb most of the time. -/
def moderate (seed : UInt64) : Settings :=
  { seed, rates := .moderate, capacity := 8, maxAttempts := 3, syncProbability := 0.15
    publishProbability := 0.04, discardProbability := 0.01, maxRecordSize := 64 }

/-- No faults. -/
def calm (seed : UInt64) : Settings := { moderate seed with rates := .none }

/-- Many faults, some of them final. -/
def chaos (seed : UInt64) : Settings :=
  { moderate seed with rates := .chaos, capacity := 4, discardProbability := 0.03 }

/-- The bucket of a simulation. -/
def bucket : String := "dst-bucket"

/-- The endpoint of a simulation. -/
def endpoint : String := "http://gcs.dst"

/-- The token of a simulation. -/
def token : String := "dst-token"

/-- The configuration of the simulated sink. -/
def config (settings : Settings) : Config :=
  { Config.trial endpoint with
    bucket, recordsPerSync := settings.capacity
    retry := { RetrySettings.immediate with maxAttempts := settings.maxAttempts } }

/-- The store of a simulation. -/
def store (settings : Settings) : Emulator :=
  .withFaults bucket settings.rates (settings.seed + 1)

end Settings

/-- One operation of the workload. -/
inductive Step where
  | create (name : String)
  | append (record : Bytes)
  | sync
  | publish
  | discard
  deriving DecidableEq, Repr

/-- A file and what it should hold. -/
structure Shadow where
  file : SinkFile
  /-- Records in the inflight object. -/
  synced : List Bytes
  /-- Records appended since. -/
  buffered : List Bytes

/-- How far a simulation has come. -/
structure Progress where
  random : Random
  current : Option Shadow
  /-- Files begun so far. -/
  files : Nat
  /-- The records of published files. -/
  published : List (String × List Bytes)
  /-- How many objects a file may have left behind. -/
  leaked : List (String × Nat)
  report : Report

/-- A simulation in a world: the sink under test and the store behind it. -/
structure Harness (W : Type) where
  settings : Settings
  sink : Sink W
  /-- The markers that its files get, by the numbers of the files. -/
  markers : Nat → Marker
  emulator : W → Emulator

/-- The beginning of a simulation. -/
def Settings.begin (settings : Settings) : Progress :=
  { random := .ofSeed settings.seed, current := none, files := 0, published := [], leaked := []
    report := .start settings.seed.toNat }

/-- The harness of a rehearsal, if the settings make a valid configuration. -/
def Settings.harness (settings : Settings) (markers : Nat → Marker) :
    Except ConfigError (Harness Rehearsal) := do
  let credentials : CredentialSource Rehearsal := .fixed (.bearer Settings.token)
  let sink ← Sink.connect settings.config Rehearsal.directLink credentials Rehearsal.clock
  return { settings, sink, markers, emulator := (·.emulator) }

namespace Progress

/-- The progress with one more violation. -/
def violate (progress : Progress) (message : String) : Progress :=
  { progress with report := progress.report.violate message }

/-- The progress with a file that may have left objects behind. -/
def leak (progress : Progress) (name : String) (count : Nat) : Progress :=
  { progress with leaked := (name, count) :: progress.leaked.filter (·.1 != name) }

/-- The name of the file with a number. -/
def fileName (number : Nat) : String :=
  let written := Numeral.digits 10 number
  "file-" ++ String.ofList (List.replicate (5 - written.length) '0' ++ written) ++ ".rec"

/-- No memory holds a record of this size. -/
def tooLarge : Nat := Nat.pow 2 40

/-- The next operation: without an open file a new one, else a random one. -/
def next (settings : Settings) (progress : Progress) : Step × Progress :=
  match progress.current with
  | none =>
      (.create (fileName (progress.files + 1)), { progress with files := progress.files + 1 })
  | some _ =>
      let (roll, random) := progress.random.unit
      let publish := settings.publishProbability
      let discard := publish + settings.discardProbability
      let sync := discard + settings.syncProbability
      if roll < publish then (.publish, { progress with random })
      else if roll < discard then (.discard, { progress with random })
      else if roll < sync then (.sync, { progress with random })
      else
        let (size, random) := random.upTo settings.maxRecordSize
        if tooLarge ≤ size then
          (.append [], { progress with random, report := progress.report.require false })
        else
          let (record, random) := random.bytes size
          (.append record, { progress with random })

end Progress

namespace Harness

variable {W : Type}

/-- The bytes of an object in the store. -/
def object? (harness : Harness W) (name : String) (world : W) : Option Bytes :=
  (harness.emulator world).object? ⟨Settings.bucket, name⟩

/-- Compares an object with the records that it should hold. -/
def expect (harness : Harness W) (name : String) (records : List Bytes) (progress : Progress)
    (world : W) : Progress :=
  match harness.object? name world with
  | none => progress.violate (name ++ " missing")
  | some data =>
      match Stream.decode data with
      | .error cause => progress.violate (name ++ " does not decode: " ++ cause.message)
      | .ok decoded =>
          if decoded.records = records then progress
          else progress.violate (name ++ " holds " ++ Numeral.decimal decoded.records.length
            ++ " records, expected " ++ Numeral.decimal records.length)

/-- How many of some names have an object. -/
def remaining (harness : Harness W) (names : List ObjectName) (world : W) : Nat :=
  (names.filter fun name => (harness.object? name.text world).isSome).length

/-- Discards a file and compares what is left with what is reported. -/
def discardShadow (harness : Harness W) (shadow : Shadow) (progress : Progress) :
    StateM W (Bool × Progress) := do
  let name := shadow.file.name
  let names := shadow.file.names
  match ← shadow.file.discard harness.sink.store with
  | (.error cause, _) =>
      return (false, progress.violate ("discard of " ++ name ++ " failed: " ++ cause.message))
  | (.ok leftover, _) =>
      let world ← get
      let left := harness.remaining [names.inflight, names.part, names.publish] world
      let progress := { progress with
        report := { progress.report with discards := progress.report.discards + 1 } }
      let progress := if leftover < left then
          progress.violate ("discard of " ++ name ++ " reported " ++ Numeral.decimal leftover
            ++ " leftovers but " ++ Numeral.decimal left ++ " objects remain")
        else progress
      return (true, if 0 < leftover then progress.leak name leftover else progress)

/-- Creates the file with the last number that was given out. -/
def create (harness : Harness W) (name : String) (progress : Progress) :
    StateM W (Bool × Progress) := do
  match ← harness.sink.createFile name (harness.markers progress.files) harness.sink.recordsPerSync with
  | .ok file =>
      let report := progress.report.require file.buffer.hasRoom
      return (true, { progress with
        current := some { file, synced := [], buffered := [] }
        report := { report with filesOpened := report.filesOpened + 1 } })
  | .error _ => return (false, progress.leak name 1)

/-- Appends a record to the open file. -/
def append (harness : Harness W) (record : Bytes) (progress : Progress) : Bool × Progress :=
  match progress.current with
  | none => (false, progress)
  | some shadow =>
      let wasFull := harness.settings.capacity ≤ shadow.buffered.length
      match shadow.file.append record with
      | (.ok (), file) =>
          let progress := if wasFull then progress.violate "append accepted into a full buffer" else progress
          (true, { progress with
            current := some { shadow with file, buffered := shadow.buffered ++ [record] } })
      | (.error (.capacityExceeded _), file) =>
          let progress := if wasFull then progress else progress.violate "append rejected below capacity"
          let progress := if file.buffer.size ≠ shadow.buffered.length then
              progress.violate "rejected append changed the buffer"
            else progress
          (false, { progress with
            current := some { shadow with file }
            report := { progress.report with
              capacityRejections := progress.report.capacityRejections + 1 } })
      | (.error cause, file) =>
          (false, { progress.violate ("unexpected append error: " ++ cause.message) with
            current := some { shadow with file } })

/-- Syncs the open file. -/
def sync (harness : Harness W) (progress : Progress) : StateM W (Bool × Progress) := do
  let some shadow := progress.current | return (false, progress)
  let progress := { progress with current := none }
  match ← shadow.file.sync harness.sink.store with
  | (.ok (), file) =>
      let world ← get
      let synced := shadow.synced ++ shadow.buffered
      let progress := { progress with
        report := { progress.report with syncs := progress.report.syncs + 1 } }
      let progress := harness.expect file.names.inflight.text synced progress world
      return (true, { progress with current := some { file, synced, buffered := [] } })
  | (.error _, file) =>
      let progress := if file.state ≠ .failed then
          progress.violate ("failed sync left state " ++ file.state.text)
        else progress
      let (_, progress) ← harness.discardShadow { shadow with file } progress
      return (false, progress)

/-- Publishes the open file. -/
def publish (harness : Harness W) (progress : Progress) : StateM W (Bool × Progress) := do
  let some shadow := progress.current | return (false, progress)
  let progress := { progress with current := none }
  match ← shadow.file.publish harness.sink.store with
  | (.ok publication, file) =>
      let world ← get
      let records := shadow.synced ++ shadow.buffered
      let failures := publication.cleanupFailures.length
      let progress := { progress with
        report := { progress.report with publishes := progress.report.publishes + 1 } }
      let progress := harness.expect file.names.publish.text records progress world
      let left := harness.remaining [file.names.inflight, file.names.part] world
      let progress := if failures < left then
          progress.violate (Numeral.decimal left ++ " transient objects remain after publishing "
            ++ file.name ++ " with " ++ Numeral.decimal failures ++ " cleanup failures")
        else progress
      let progress := if publication.isClean then progress else progress.leak file.name failures
      return (true, { progress with
        published := (file.name, records) :: progress.published.filter (·.1 != file.name) })
  | (.error _, file) =>
      let (_, progress) ← harness.discardShadow { shadow with file } progress
      return (false, progress)

/-- Discards the open file. -/
def discard (harness : Harness W) (progress : Progress) : StateM W (Bool × Progress) := do
  let some shadow := progress.current | return (false, progress)
  harness.discardShadow shadow { progress with current := none }

/-- Executes one operation. -/
def execute (harness : Harness W) (step : Step) (progress : Progress) : StateM W (Bool × Progress) :=
  match step with
  | .create name => harness.create name progress
  | .append record => return harness.append record progress
  | .sync => harness.sync progress
  | .publish => harness.publish progress
  | .discard => harness.discard progress

/-- Executes one operation and counts it. -/
def perform (harness : Harness W) (step : Step) (progress : Progress) : StateM W Progress := do
  let (success, progress) ← harness.execute step progress
  return { progress with report := progress.report.count success }

/-- Runs the workload for a number of operations, or until there is no memory left. -/
def run (harness : Harness W) : Nat → Progress → StateM W Progress
  | 0, progress => return progress
  | operations + 1, progress => do
      let (step, progress) := progress.next harness.settings
      if progress.report.exhausted then return progress
      run harness operations (← harness.perform step progress)

/-- What follows a text in front. -/
def after? (front text : String) : Option String :=
  if front.toList.isPrefixOf text.toList then
    some (String.ofList (text.toList.drop front.toList.length))
  else none

/-- A text without an ending, where it has it. -/
def without (ending text : String) : String :=
  if ending.toList.isSuffixOf text.toList then
    String.ofList (text.toList.take (text.toList.length - ending.toList.length))
  else text

/-- Checks that an object belongs to a published file, or to one that may have left it behind. -/
def checkObject (harness : Harness W) (progress : Progress) (object : String) : Progress :=
  let config := harness.settings.config
  let isLeaked (name : String) := progress.leaked.any (·.1 == name)
  match after? (config.publishDir ++ "/") object with
  | some name =>
      if progress.published.any (·.1 == name) || isLeaked name then progress
      else progress.violate (object ++ " published without a successful publish")
  | none =>
      match after? (config.workingDir ++ "/") object with
      | some rest =>
          if isLeaked (without ObjectName.partSuffix rest) then progress
          else progress.violate (object ++ " left behind without a reported failure")
      | none => progress.violate ("unexpected object " ++ object)

/-- Discards the open file, compares all published files with their records and checks that no
other object is left. -/
def checkInvariants (harness : Harness W) (progress : Progress) : StateM W Progress := do
  let progress ← match progress.current with
    | none => pure progress
    | some shadow => do
        let (_, progress) ← harness.discardShadow shadow { progress with current := none }
        pure progress
  let world ← get
  let published := progress.published.mergeSort fun first second => decide (first.1 ≤ second.1)
  let progress := published.foldl
    (fun progress (name, records) =>
      harness.expect (harness.settings.config.publishDir ++ "/" ++ name) records progress world)
    progress
  let objects := (harness.emulator world).objects.names Settings.bucket
  let progress := objects.foldl harness.checkObject progress
  return { progress with
    report := { progress.report with store := (harness.emulator world).stats } }

end Harness

/-- One run from the beginning, checked at its end. -/
def runOnce (settings : Settings) (markers : Nat → Marker) (operations : Nat) : Except ConfigError Report := do
  let harness ← settings.harness markers
  let whole : StateM Rehearsal Progress := do
    harness.checkInvariants (← harness.run operations settings.begin)
  return (whole (.withStore settings.store)).1.report

/-- The most reports that a batch can hold. -/
def largestBatch : Nat := Nat.pow 2 40

/-- Runs with consecutive seeds, each with markers of its own. A batch that cannot hold its reports has a
single one that says so. -/
def runBatch (settingsOf : UInt64 → Settings) (markersOf : Nat → Nat → Marker) (operations : Nat)
    (base : UInt64) (count : Nat) : Except ConfigError (List Report) :=
  if largestBatch < count then return [(Report.start base.toNat).require false]
  else (List.range count).mapM fun index =>
    runOnce (settingsOf (base + UInt64.ofNat index)) (markersOf index) operations

end RecordSink.Simulation
