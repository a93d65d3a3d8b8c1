import RecordSink.Retry

/-!
# Virtual time

A clock that moves only when someone waits, and ticks in milliseconds: a wait ends at a tick and
lasts thirty years at most. A delay that no duration expresses ends the rehearsal: the clock takes
note of it and goes on without waiting.
-/

namespace RecordSink

/-- A clock that moves only when someone waits. -/
structure VirtualTime where
  now : Duration
  /-- Where the random parts of delays come from. -/
  random : Random
  /-- A span was asked for that no duration expresses. -/
  undefinedSpan : Bool
  deriving Repr, Inhabited

namespace VirtualTime

/-- The beginning of time. -/
def start : VirtualTime := { now := .zero, random := .ofSeed 0, undefinedSpan := false }

/-- The longest wait, thirty years of 365 days. -/
def longestWait : Duration := .ofSeconds (30 * 365 * 86400)

/-- Lets time pass, up to the first tick at which the span is over. -/
def wait (span : Duration) (time : VirtualTime) : VirtualTime :=
  { time with now := .ofMillis (time.now + span.shorter longestWait).millisUp }

/-- The delay after a failed attempt. -/
def delay (policy : RetryPolicy) (attempt : Nat) (time : VirtualTime) : Duration × VirtualTime :=
  match policy.delayFor? attempt time.random with
  | some (span, random) => (span, { time with random })
  | none => (.zero, { time with undefinedSpan := true })

/-- The clock of a world that holds virtual time. -/
def clock {W : Type} (get : W → VirtualTime) (put : VirtualTime → W → W) : Clock W where
  now := fun world => ((get world).now, world)
  wait span := fun world => ((), put ((get world).wait span) world)
  delay policy attempt := fun world =>
    let (span, time) := (get world).delay policy attempt
    (span, put time world)

end VirtualTime

/-- A call whose outcomes are given in advance; the last one repeats. -/
structure ScriptedCall (α : Type) where
  time : VirtualTime
  /-- How long each call takes and what comes of it. -/
  outcomes : List (Duration × Except RemoteError α)
  /-- When the calls started, the last one first. -/
  starts : List Duration

namespace ScriptedCall

variable {α : Type}

/-- Makes the call. -/
def call (fallback : Except RemoteError α) (script : ScriptedCall α) :
    Except RemoteError α × ScriptedCall α :=
  let starts := script.time.now :: script.starts
  match script.outcomes with
  | [] => (fallback, { script with starts })
  | (span, outcome) :: rest =>
      let outcomes := if rest.isEmpty then script.outcomes else rest
      (outcome, { script with time := script.time.wait span, outcomes, starts })

/-- The clock of the script. -/
def clock : Clock (ScriptedCall α) := VirtualTime.clock (·.time) fun time script => { script with time }

/-- Runs the call under a policy. -/
def run (policy : RetryPolicy) (operation : Operation) (object : String)
    (fallback : Except RemoteError α) : StateM (ScriptedCall α) (Except SinkError α) :=
  Retry.run clock policy operation object fun _ => fun script => script.call fallback

end ScriptedCall

end RecordSink
