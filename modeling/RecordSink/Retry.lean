import RecordSink.Random
import RecordSink.SinkError

/-!
# Repeated attempts

A remote call is repeated while it fails in a way that may pass, with a growing delay between
two attempts. The last failure ends the run when the attempts are used up, when it is final, or
when the next delay would end after the time allowed.
-/

namespace RecordSink

/-- How often a call is repeated and how long to wait in between. -/
abbrev RetryPolicy := RetrySettings

namespace RetryPolicy

/-- The policy of settings: there is always one attempt. -/
def ofSettings (settings : RetrySettings) : RetryPolicy :=
  { settings with maxAttempts := max 1 settings.maxAttempts }

/-- The policy of the standard settings. -/
def standard : RetryPolicy := ofSettings RetrySettings.standard

/-- One attempt. -/
def single : RetryPolicy := { standard with maxAttempts := 1 }

/-- A number of attempts without waiting. -/
def immediate (attempts : Nat) : RetryPolicy :=
  ofSettings { RetrySettings.immediate with maxAttempts := attempts }

/-- A power by repeated squaring, the result multiplied by the square of each binary digit. -/
def powerFrom (result base : Float) (exponent : Nat) : Float :=
  let result := if exponent % 2 = 1 then result * base else result
  if _more : exponent / 2 = 0 then result else powerFrom result (base * base) (exponent / 2)
  termination_by exponent
  decreasing_by omega

/-- A power with a natural exponent. -/
def power (base : Float) (exponent : Nat) : Float := powerFrom 1.0 base exponent

/-- The delay after a failed attempt without its random part: it grows by the multiplier with each
attempt, up to the longest delay. A negative time is no delay. -/
def baseDelay? (policy : RetryPolicy) (attempt : Nat) : Option Duration :=
  let exponent := min (attempt - 1) (Nat.pow 2 31 - 1)
  let seconds := policy.initialDelay.toSeconds * power policy.multiplier exponent
  if !seconds.isFinite || seconds ≥ policy.maxDelay.toSeconds then some policy.maxDelay
  else Duration.ofSeconds? seconds

/-- The delay after a failed attempt, spread at random around the base and never above the longest
delay. -/
def delayFor? (policy : RetryPolicy) (attempt : Nat) (source : Random) : Option (Duration × Random) := do
  let base ← policy.baseDelay? attempt
  if policy.jitter ≤ 0.0 || base.nanos == 0 then return (base, source)
  let spread := base.toSeconds * policy.jitter
  let (offset, source) ← source.between (-spread) spread
  let seconds := base.toSeconds + offset
  let delay ← Duration.ofSeconds? (if seconds < 0.0 then 0.0 else seconds)
  return (delay.shorter policy.maxDelay, source)

/-- A wait would end after the time allowed. -/
def isOverdue (policy : RetryPolicy) (elapsed delay : Duration) : Bool :=
  match policy.totalDuration with
  | none => false
  | some limit => limit < elapsed + delay

end RetryPolicy

/-- The passing of time in a world. -/
structure Clock (W : Type) where
  now : StateM W Duration
  /-- Lets time pass. -/
  wait : Duration → StateM W Unit
  /-- The delay after a failed attempt. -/
  delay : RetryPolicy → Nat → StateM W Duration

namespace Retry

variable {W α : Type}

/-- Attempts from a given one on, with a number of further ones allowed. The result comes with the
number of the last attempt. -/
def attempts (clock : Clock W) (policy : RetryPolicy) (started : Duration)
    (call : Nat → StateM W (Except RemoteError α)) :
    Nat → Nat → StateM W (Except RemoteError α × Nat)
  | 0, attempt => do return (← call attempt, attempt)
  | left + 1, attempt => do
      match ← call attempt with
      | .ok value => return (.ok value, attempt)
      | .error cause =>
          if !cause.retriable then return (.error cause, attempt)
          let delay ← clock.delay policy attempt
          let now ← clock.now
          if policy.isOverdue (now - started) delay then return (.error cause, attempt)
          clock.wait delay
          attempts clock policy started call left (attempt + 1)

/-- Runs a call under a policy. The call is told the number of the attempt, from one on. -/
def run (clock : Clock W) (policy : RetryPolicy) (operation : Operation) (object : String)
    (call : Nat → StateM W (Except RemoteError α)) : StateM W (Except SinkError α) := do
  let started ← clock.now
  match ← attempts clock policy started call (policy.maxAttempts - 1) 1 with
  | (.ok value, _) => return .ok value
  | (.error cause, attempt) => return .error (.remote operation object attempt cause)

end Retry

end RecordSink
