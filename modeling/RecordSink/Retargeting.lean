import RecordSink.ByteSink

/-!
# Retargeting

A byte sink whose destination can be exchanged between two writes. At most one destination is
attached; attaching another one is refused, and detaching flushes the destination first and
keeps it where the flush fails.
-/

namespace RecordSink

/-- A sink in front of an exchangeable destination. -/
structure Retargeting (σ : Type) where
  /-- The attached destination. -/
  destination : Option σ
  /-- Bytes taken by all destinations. -/
  bytesWritten : Nat
  /-- Destinations attached so far. -/
  attachments : Nat
  deriving Repr

namespace Retargeting

variable {σ : Type}

/-- A sink with nothing attached. -/
def empty : Retargeting σ := { destination := none, bytesWritten := 0, attachments := 0 }

/-- Whether a destination is attached. -/
def isAttached (sink : Retargeting σ) : Bool := sink.destination.isSome

/-- Writes go to the given destination from now on. -/
def attach (destination : σ) (sink : Retargeting σ) : Except WriteError Unit × Retargeting σ :=
  match sink.destination with
  | some _ => (.error .occupied, sink)
  | none =>
      (.ok (), { sink with destination := some destination, attachments := sink.attachments + 1 })

variable [ByteSink σ]

/-- Hands back the flushed destination, if one is attached. -/
def detach (sink : Retargeting σ) : Except WriteError (Option σ) × Retargeting σ :=
  match sink.destination with
  | none => (.ok none, sink)
  | some destination =>
      match ByteSink.flush destination with
      | (.error cause, destination) => (.error cause, { sink with destination := some destination })
      | (.ok (), destination) => (.ok (some destination), { sink with destination := none })

instance : ByteSink (Retargeting σ) where
  write data sink :=
    match sink.destination with
    | none => (.error .detached, sink)
    | some destination =>
        match ByteSink.write data destination with
        | (.error cause, destination) => (.error cause, { sink with destination := some destination })
        | (.ok taken, destination) =>
            (.ok taken,
              { sink with destination := some destination, bytesWritten := sink.bytesWritten + taken })
  flush sink :=
    match sink.destination with
    | none => (.ok (), sink)
    | some destination =>
        match ByteSink.flush destination with
        | (outcome, destination) => (outcome, { sink with destination := some destination })

end Retargeting

end RecordSink
