import RecordSink.Stream.Encoder

/-!
# Records in outline

A record that no block can hold takes more memory than a rehearsal has. Its draft knows it by its size only,
which is what the encoder tells of it: the encoder writes the records in front of the first such one, and stops.
-/

namespace RecordSink

open RecordSink.Stream (lengthBound frameSize)

/-- The size of a record that no block can hold. -/
structure Oversize where
  size : Nat
  bound : lengthBound ≤ 4 + size

/-- A record to be appended: its bytes, or the size of one that no block can hold. -/
inductive Draft where
  | whole (record : Bytes) (short : frameSize record < lengthBound)
  | oversize (size : Oversize)

namespace Draft

/-- The draft of a record. -/
def of (record : Bytes) : Draft :=
  if short : frameSize record < lengthBound then .whole record short
  else .oversize ⟨record.length, Nat.not_lt.mp short⟩

instance : Inhabited Draft := ⟨of []⟩

/-- The draft of a record of a given size. Its bytes are asked for only where a block can hold them. -/
def sized (size : Nat) (record : Unit → Bytes) : Draft :=
  if bound : lengthBound ≤ 4 + size then .oversize ⟨size, bound⟩ else of (record ())

/-- The records up to the first that no block can hold, and the size of this one. -/
def front : List Draft → List Bytes × Option Oversize
  | [] => ([], none)
  | .whole record _ :: rest => (record :: (front rest).1, (front rest).2)
  | .oversize first :: _ => ([], some first)

end Draft

namespace Stream.Encoder

variable {σ : Type} [ByteSink σ]

/-- Writes a batch of drafts; the result is how many blocks were written. -/
def appendDrafts (drafts : List Draft) (encoder : Encoder σ) : Except WriteError UInt32 × Encoder σ :=
  match Draft.front drafts with
  | (records, none) => encoder.append records
  | (records, some first) =>
      match encoder.append records with
      | (.error cause, encoder) => (.error cause, encoder)
      | (.ok _, encoder) => (.error (.longPayload (4 + first.size)), encoder)

end Stream.Encoder

end RecordSink
