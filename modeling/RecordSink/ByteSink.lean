import RecordSink.Bytes
import RecordSink.Numeral

/-!
# Byte sinks

Destinations of bytes. A write may take fewer bytes than it is given, or fail; a flush may fail.
`ByteSink.writeAll` repeats a write until everything is taken. An interrupted write takes nothing and is
made again, so that a sink does not tell of it. Two sinks are given here: one that takes all bytes, and
one with limits on what it takes.
-/

namespace RecordSink

/-- Why bytes were not taken. -/
inductive WriteError where
  /-- There is no destination. -/
  | detached
  /-- There is no body to hand back. -/
  | noBody
  /-- There is a destination already. -/
  | occupied
  /-- The destination takes nothing more. -/
  | refused (reason : String)
  /-- The destination took no byte of some. -/
  | noProgress
  /-- The payload of a block does not fit its length field. -/
  | longPayload (size : Nat)
  /-- A record does not fit its length field. -/
  | longRecord (size : Nat)
  /-- Another reason. -/
  | other (reason : String)
  deriving DecidableEq, Repr

/-- The wording of a write error. -/
def WriteError.message : WriteError → String
  | .detached => "no destination attached"
  | .noBody => "no upload body attached"
  | .occupied => "a destination is already attached"
  | .refused reason => reason
  | .noProgress => "failed to write whole buffer"
  | .longPayload size => "block payload of " ++ Numeral.decimal size ++ " bytes exceeds u32"
  | .longRecord size => "record of " ++ Numeral.decimal size ++ " bytes exceeds the 4 GiB record limit"
  | .other reason => reason

/-- A destination of bytes. -/
class ByteSink (σ : Type) where
  /-- Offers bytes; the result is how many were taken from the front. -/
  write : Bytes → σ → Except WriteError Nat × σ
  /-- Hands on what was taken. -/
  flush : σ → Except WriteError Unit × σ

namespace ByteSink

/-- Writes until every byte is taken or a write fails or takes nothing. -/
def writeAll {σ : Type} [ByteSink σ] (data : Bytes) (sink : σ) : Except WriteError Unit × σ :=
  match data with
  | [] => (.ok (), sink)
  | first :: rest =>
      match write (first :: rest) sink with
      | (.error cause, sink) => (.error cause, sink)
      | (.ok 0, sink) => (.error .noProgress, sink)
      | (.ok (taken + 1), sink) => writeAll (rest.drop taken) sink
  termination_by data.length
  decreasing_by simp only [List.length_cons, List.length_drop]; omega

end ByteSink

/-- A body that takes every byte. -/
structure Body where
  content : Bytes
  deriving DecidableEq, Repr

namespace Body

/-- A body without content. -/
def empty : Body := ⟨[]⟩

instance : ByteSink Body where
  write data body := (.ok data.length, ⟨body.content ++ data⟩)
  flush body := (.ok (), body)

@[simp]
theorem write_eq (data : Bytes) (body : Body) :
    ByteSink.write data body = (.ok data.length, ⟨body.content ++ data⟩) := rfl

/-- A body takes everything in one write. -/
theorem writeAll_eq (data : Bytes) (body : Body) :
    ByteSink.writeAll data body = (.ok (), ⟨body.content ++ data⟩) := by
  cases data with
  | nil => simp [ByteSink.writeAll]
  | cons first rest => simp [ByteSink.writeAll]

end Body

/-- A destination with limits. -/
structure LimitedSink where
  /-- The most bytes of one write. -/
  perWrite : Option Nat
  /-- Once it holds so many bytes, a write fails. -/
  capacity : Option Nat
  /-- How many flushes fail from now on. -/
  failingFlushes : Nat
  /-- How many bytes it holds. -/
  size : Nat
  /-- What it took, the last write first. -/
  pieces : List Bytes
  deriving Repr, Inhabited

namespace LimitedSink

/-- A destination with limits that holds nothing. -/
def empty (perWrite capacity : Option Nat) (failingFlushes : Nat) : LimitedSink :=
  { perWrite, capacity, failingFlushes, size := 0, pieces := [] }

/-- The bytes it holds. -/
def content (sink : LimitedSink) : Bytes := sink.pieces.reverse.flatten

/-- The part of the data that a limit lets pass. -/
def clip (limit : Option Nat) (data : Bytes) : Bytes :=
  match limit with
  | none => data
  | some most => data.take most

/-- The destination is full. -/
def isFull (sink : LimitedSink) : Bool :=
  match sink.capacity with
  | none => false
  | some most => most ≤ sink.size

/-- What one write takes. -/
def taken (sink : LimitedSink) (data : Bytes) : Bytes :=
  clip (sink.capacity.map (· - sink.size)) (clip sink.perWrite data)

instance : ByteSink LimitedSink where
  write data sink :=
    if data ≠ [] ∧ sink.isFull then (.error (.refused "refused"), sink)
    else
      let piece := sink.taken data
      (.ok piece.length, { sink with size := sink.size + piece.length, pieces := piece :: sink.pieces })
  flush sink :=
    match sink.failingFlushes with
    | 0 => (.ok (), sink)
    | left + 1 => (.error (.other "flush refused"), { sink with failingFlushes := left })

end LimitedSink

end RecordSink
