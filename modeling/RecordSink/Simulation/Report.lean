import RecordSink.Emulator

/-!
# Simulation reports

What is counted in a simulated run, and the texts that sum up one run or many.
-/

namespace RecordSink.Simulation

/-- The counters of a run. -/
structure Report where
  seed : Nat
  operations : Nat
  successes : Nat
  /-- Operations that failed, as they may under faults. -/
  failures : Nat
  filesOpened : Nat
  syncs : Nat
  publishes : Nat
  discards : Nat
  /-- Appends that a full buffer refused. -/
  capacityRejections : Nat
  /-- The counters of the store at the end of the run. -/
  store : Emulator.Stats
  /-- What was not as it has to be. -/
  violations : List String
  /-- More memory was asked for than there is. -/
  exhausted : Bool
  deriving DecidableEq, Repr, Inhabited

namespace Report

/-- The report before a run. -/
def start (seed : Nat) : Report :=
  { seed, operations := 0, successes := 0, failures := 0, filesOpened := 0, syncs := 0
    publishes := 0, discards := 0, capacityRejections := 0
    store := ⟨0, 0, 0, 0, 0, 0, 0, 0, 0, 0⟩, violations := [], exhausted := false }

/-- Nothing was wrong. -/
def isSuccess (report : Report) : Bool := report.violations.isEmpty

/-- A run in one line. -/
def summary (report : Report) : String :=
  "Seed " ++ Numeral.decimal report.seed ++ ": " ++ Numeral.decimal report.operations ++ " ops ("
    ++ Numeral.decimal report.successes ++ " ok, " ++ Numeral.decimal report.failures
    ++ " failed), " ++ Numeral.decimal report.filesOpened ++ " files, "
    ++ Numeral.decimal report.syncs ++ " syncs, " ++ Numeral.decimal report.publishes
    ++ " published, " ++ Numeral.decimal report.discards ++ " discarded, "
    ++ Numeral.decimal report.violations.length ++ " violations"

/-- The report of a run that needs some memory: it ends where there is none. -/
def require (enough : Bool) (report : Report) : Report :=
  { report with exhausted := report.exhausted || !enough }

/-- The report with one more violation. -/
def violate (report : Report) (message : String) : Report :=
  { report with
    violations := report.violations ++ ["seed " ++ Numeral.decimal report.seed ++ ": " ++ message] }

/-- The report with one more operation. -/
def count (report : Report) (success : Bool) : Report :=
  if success then
    { report with operations := report.operations + 1, successes := report.successes + 1 }
  else { report with operations := report.operations + 1, failures := report.failures + 1 }

end Report

/-- Many runs in one line, and the seeds of those that went wrong in another. Totals have 64
bits. -/
def summarize (reports : List Report) : String :=
  let failed := reports.filter fun report => !report.isSuccess
  let total (counter : Report → Nat) : String := Numeral.decimal (sumOver counter reports % Nat.pow 2 64)
  "Batch: " ++ Numeral.decimal (reports.length - failed.length) ++ "/"
    ++ Numeral.decimal reports.length ++ " passed, " ++ total (·.operations) ++ " total ops, "
    ++ total (·.publishes) ++ " published, " ++ total (·.discards) ++ " discarded"
    ++ (if failed.isEmpty then ""
      else "\nFailed seeds: ["
        ++ ", ".intercalate (failed.map fun report => Numeral.decimal report.seed) ++ "]")

end RecordSink.Simulation
