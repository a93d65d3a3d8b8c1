import RecordSink.Failure
import RecordSink.Random

/-!
# Faults

What can go wrong with a request on purpose: it is answered with a status without being applied,
or it is applied and its response is lost. Faults are scripted for an operation, or drawn at
random.
-/

namespace RecordSink.Emulator

/-- What goes wrong with a request. -/
inductive Fault where
  /-- The request is answered without being applied. -/
  | refuse (status : Nat) (message : String)
  /-- The request is applied and its response is lost. -/
  | lose
  deriving DecidableEq, Repr

/-- The probabilities of random faults. -/
structure FaultRates where
  /-- Refused as unavailable. -/
  retriable : Float
  /-- Applied with the response lost. -/
  lost : Float
  /-- Refused for good. -/
  fatal : Float
  deriving Repr, Inhabited

namespace FaultRates

/-- No random faults. -/
def none : FaultRates := { retriable := 0.0, lost := 0.0, fatal := 0.0 }

/-- Some faults that pass. -/
def moderate : FaultRates := { retriable := 0.05, lost := 0.02, fatal := 0.0 }

/-- Many faults, some of them final. -/
def chaos : FaultRates := { retriable := 0.2, lost := 0.1, fatal := 0.01 }

/-- The fault of a roll in the unit interval. -/
def faultOf (rates : FaultRates) (roll : Float) : Option Fault :=
  if roll < rates.fatal then some (.refuse 403 "Injected fatal failure")
  else if roll < rates.fatal + rates.retriable then some (.refuse 503 "Backend Error")
  else if roll < rates.fatal + rates.retriable + rates.lost then some .lose
  else Option.none

end FaultRates

/-- Faults that wait for the requests of an operation, in order. -/
abbrev Script := List (Operation × Fault)

/-- The first fault for an operation, and the script without it. -/
def Script.take? (operation : Operation) : Script → Option (Fault × Script)
  | [] => none
  | (other, fault) :: rest =>
      if other = operation then some (fault, rest)
      else (Script.take? operation rest).map fun (found, rest) => (found, (other, fault) :: rest)

end RecordSink.Emulator
