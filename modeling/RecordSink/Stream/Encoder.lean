import RecordSink.Retargeting
import RecordSink.Stream.Format

/-!
# Encoding records

An encoder writes the header when it is made and one or more blocks for each batch of records.
Its counters and its checksum advance only by blocks that were written in full.
-/

namespace RecordSink.Stream

/-- An encoder in front of a byte sink. -/
structure Encoder (σ : Type) where
  out : σ
  header : Header
  /-- Blocks written so far; also the number of the next block. -/
  blocks : Nat
  /-- The checksum of the payloads written so far. -/
  checksum : Checksum
  /-- Records written so far. -/
  records : Nat
  deriving Repr

namespace Encoder

variable {σ : Type} [ByteSink σ]

/-- An encoder whose header is written, and the sink after the attempt where that fails. -/
def start (marker : Marker) (out : σ) : Except (WriteError × σ) (Encoder σ) :=
  let header : Header := { version, marker }
  match ByteSink.writeAll header.bytes out with
  | (.error cause, out) => .error (cause, out)
  | (.ok (), out) => .ok { out, header, blocks := 0, checksum := .empty, records := 0 }

/-- Writes one block. A payload whose size does not fit its field is refused before anything is
written. -/
def writeBlock (records : List Bytes) (encoder : Encoder σ) : Except WriteError Unit × Encoder σ :=
  if lengthBound ≤ payloadSize records then (.error (.longPayload (payloadSize records)), encoder)
  else
    let bytes := block encoder.header.marker encoder.blocks encoder.checksum records
    match ByteSink.writeAll bytes encoder.out with
    | (.error cause, out) => (.error cause, { encoder with out })
    | (.ok (), out) =>
        (.ok (), { encoder with
          out
          blocks := encoder.blocks + 1
          checksum := encoder.checksum.update (payload records)
          records := encoder.records + records.length })

/-- Writes blocks until one fails; the result is how many were written. It is told with 32 bits, so that the
count of more blocks than these can tell begins anew at zero. -/
def writeBlocks (runs : List (List Bytes)) (encoder : Encoder σ) :
    Except WriteError UInt32 × Encoder σ :=
  match runs with
  | [] => (.ok 0, encoder)
  | run :: rest =>
      match encoder.writeBlock run with
      | (.error cause, encoder) => (.error cause, encoder)
      | (.ok (), encoder) =>
          match encoder.writeBlocks rest with
          | (.error cause, encoder) => (.error cause, encoder)
          | (.ok count, encoder) => (.ok (count + 1), encoder)

/-- Writes a batch of records; the result is how many blocks were written. -/
def append (records : List Bytes) (encoder : Encoder σ) : Except WriteError UInt32 × Encoder σ :=
  encoder.writeBlocks (runs records)

/-- Flushes the sink. -/
def flush (encoder : Encoder σ) : Except WriteError Unit × Encoder σ :=
  match ByteSink.flush encoder.out with
  | (outcome, out) => (outcome, { encoder with out })

end Encoder

end RecordSink.Stream
