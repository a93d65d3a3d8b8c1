import RecordSink.Numeral
import RecordSink.Stream.Format

/-!
# Reading streams

A reader takes a stream block by block and checks every byte of it but the reserved one. It
moves only forward: a failed call leaves it where the failure was found.
-/

namespace RecordSink.Stream

/-- Why bytes are no stream. -/
inductive DecodeError where
  | truncated (offset needed : Nat)
  | invalidMagic (offset : Nat)
  | unsupportedVersion (version : UInt8)
  | headerChecksum
  | blockSequence (expected found : Nat)
  | marker (block : Nat)
  | checksum (block : Nat) (expected found : UInt32)
  /-- The payload ends inside the length of a record. -/
  | shortLength (block index : Nat)
  /-- The payload ends inside a record. -/
  | shortRecord (block index declared left : Nat)
  /-- The payload goes on after its records. -/
  | trailing (block left count : Nat)
  deriving DecidableEq, Repr

/-- The wording of a decode error. -/
def DecodeError.message : DecodeError → String
  | .truncated offset needed =>
      "stream truncated at offset " ++ Numeral.decimal offset ++ ": need " ++ Numeral.decimal needed
        ++ " more bytes"
  | .invalidMagic offset => "invalid magic at offset " ++ Numeral.decimal offset
  | .unsupportedVersion version =>
      "unsupported format version " ++ Numeral.decimal version.toNat
  | .headerChecksum => "header checksum mismatch"
  | .blockSequence expected found =>
      "expected block " ++ Numeral.decimal expected ++ ", found " ++ Numeral.decimal found
  | .marker block => "sync marker mismatch after block " ++ Numeral.decimal block
  | .checksum block expected found =>
      "running checksum mismatch in block " ++ Numeral.decimal block ++ ": expected 0x"
        ++ Numeral.hex 8 expected.toNat ++ ", found 0x" ++ Numeral.hex 8 found.toNat
  | .shortLength block index =>
      "malformed block " ++ Numeral.decimal block ++ ": record " ++ Numeral.decimal index
        ++ " length cut short"
  | .shortRecord block index declared left =>
      "malformed block " ++ Numeral.decimal block ++ ": record " ++ Numeral.decimal index
        ++ " declares " ++ Numeral.decimal declared ++ " bytes, " ++ Numeral.decimal left ++ " remain"
  | .trailing block left count =>
      "malformed block " ++ Numeral.decimal block ++ ": " ++ Numeral.decimal left
        ++ " trailing bytes after " ++ Numeral.decimal count ++ " records"

/-- A fully decoded stream. -/
structure Decoded where
  header : Header
  records : List Bytes
  blocks : Nat
  deriving DecidableEq, Repr, Inhabited

/-- A position in a stream. -/
structure Reader where
  header : Header
  /-- Bytes taken so far. -/
  offset : Nat
  /-- Bytes not taken yet. -/
  rest : Bytes
  /-- The number of the next block. -/
  blocks : Nat
  /-- The checksum of the payloads taken so far. -/
  checksum : Checksum
  deriving Repr, Inhabited

/-- Splits off bytes from the front where there are enough of them. -/
def split? (size : Nat) (data : Bytes) : Option (Bytes × Bytes) :=
  let front := data.take size
  if front.length = size then some (front, data.drop size) else none

/-- The split bytes are the data, and the front has its size. -/
theorem split?_eq_some {size : Nat} {data front back : Bytes} (found : split? size data = some (front, back)) :
    front ++ back = data ∧ front.length = size := by
  simp only [split?] at found
  split at found
  · rename_i enough
    cases found
    exact ⟨List.take_append_drop size data, enough⟩
  · cases found

namespace Reader

/-- Takes bytes from the front. -/
def take (size : Nat) (reader : Reader) : Except DecodeError Bytes × Reader :=
  match split? size reader.rest with
  | some (front, back) =>
      (.ok front, { reader with offset := reader.offset + size, rest := back })
  | none => (.error (.truncated reader.offset (size - reader.rest.length)), reader)

theorem length_rest_take_le (size : Nat) (reader : Reader) :
    (reader.take size).2.rest.length ≤ reader.rest.length := by
  unfold take
  split
  · rename_i front back found
    have := congrArg List.length (split?_eq_some found).1
    simp only [List.length_append] at this
    simp only
    omega
  · exact Nat.le_refl _

/-- A reader behind a checked header. -/
def start (data : Bytes) : Except DecodeError Reader :=
  match split? headerSize data with
  | none => .error (.truncated 0 (headerSize - data.length))
  | some (raw, rest) =>
      let signed := raw.take (headerSize - 4)
      if raw.take 4 ≠ streamMagic then .error (.invalidMagic 0)
      else if raw.drop (headerSize - 4) ≠ Checksum.toBytes (Checksum.ofBytes signed) then
        .error .headerChecksum
      else
        match raw.drop 4, Marker.ofBytes? (signed.drop 6) with
        | found :: _, some marker =>
            if found ≠ version then .error (.unsupportedVersion found)
            else .ok { header := { version := found, marker }, offset := headerSize, rest
                       blocks := 0, checksum := .empty }
        | _, _ => .error .headerChecksum

/-- The records of a payload after those already taken, the last record first. -/
def splitPayload (block count : Nat) (taken : List Bytes) :
    Nat → Nat → Bytes → Except DecodeError (List Bytes)
  | _, 0, payload =>
      if payload = [] then .ok taken.reverse else .error (.trailing block payload.length count)
  | index, left + 1, payload =>
      match split? 4 payload with
      | none => .error (.shortLength block index)
      | some (written, payload) =>
          match split? (Bytes.toNatLE written) payload with
          | none => .error (.shortRecord block index (Bytes.toNatLE written) payload.length)
          | some (record, payload) =>
              splitPayload block count (record :: taken) (index + 1) left payload

/-- The fields of a block before its payload. -/
structure BlockPrefix where
  magic : Bytes
  number : Nat
  count : Nat
  size : Nat

/-- The fields in their order. -/
def BlockPrefix.ofBytes (raw : Bytes) : BlockPrefix :=
  { magic := raw.take 4
    number := Bytes.toNatLE ((raw.drop 4).take 8)
    count := Bytes.toNatLE ((raw.drop 12).take 4)
    size := Bytes.toNatLE ((raw.drop 16).take 4) }

/-- Checks what follows the payload of a block. -/
def finishBlock (records : List Bytes) (reader : Reader) :
    Except DecodeError (List Bytes) × Reader :=
  match reader.take blockSuffixSize with
  | (.error cause, reader) => (.error cause, reader)
  | (.ok suffix, reader) =>
      let found := suffix.take 4
      if found ≠ Checksum.toBytes reader.checksum.value then
        (.error (.checksum reader.blocks reader.checksum.value
          (UInt32.ofNat (Bytes.toNatLE found))), reader)
      else if suffix.drop 4 ≠ reader.header.marker.bytes then
        (.error (.marker reader.blocks), reader)
      else (.ok records, { reader with blocks := reader.blocks + 1 })

/-- Takes the payload of a block and what follows it. -/
def takePayload (count size : Nat) (reader : Reader) : Except DecodeError (List Bytes) × Reader :=
  match reader.take size with
  | (.error cause, reader) => (.error cause, reader)
  | (.ok payload, reader) =>
      let reader := { reader with checksum := reader.checksum.update payload }
      match splitPayload reader.blocks count [] 0 count payload with
      | .error cause => (.error cause, reader)
      | .ok records => reader.finishBlock records

/-- Takes one block. Its number is written in 64 bits. -/
def takeBlock (reader : Reader) : Except DecodeError (List Bytes) × Reader :=
  match reader.take blockPrefixSize with
  | (.error cause, reader) => (.error cause, reader)
  | (.ok raw, after) =>
      let fields := BlockPrefix.ofBytes raw
      if fields.magic ≠ blockMagic then (.error (.invalidMagic reader.offset), after)
      else if fields.number ≠ after.blocks % Nat.pow 2 64 then
        (.error (.blockSequence after.blocks fields.number), after)
      else after.takePayload fields.count fields.size

/-- The records of the next block, none at the clean end of the stream. -/
def next (reader : Reader) : Except DecodeError (Option (List Bytes)) × Reader :=
  match reader.rest with
  | [] => (.ok none, reader)
  | _ :: _ =>
      match reader.takeBlock with
      | (.error cause, reader) => (.error cause, reader)
      | (.ok records, reader) => (.ok (some records), reader)

theorem length_rest_finishBlock_le (records : List Bytes) (reader : Reader) :
    (reader.finishBlock records).2.rest.length ≤ reader.rest.length := by
  have shorter := length_rest_take_le blockSuffixSize reader
  unfold finishBlock
  split
  · rename_i cause after taken
    rw [taken] at shorter
    exact shorter
  · rename_i suffix after taken
    rw [taken] at shorter
    dsimp only
    split
    · exact shorter
    · split
      · exact shorter
      · exact shorter

theorem length_rest_takePayload_le (count size : Nat) (reader : Reader) :
    (reader.takePayload count size).2.rest.length ≤ reader.rest.length := by
  have shorter := length_rest_take_le size reader
  unfold takePayload
  split
  · rename_i cause after taken
    rw [taken] at shorter
    exact shorter
  · rename_i payload after taken
    rw [taken] at shorter
    dsimp only
    split
    · exact shorter
    · exact Nat.le_trans (length_rest_finishBlock_le _ _) shorter

/-- A block that was taken leaves less. -/
theorem length_rest_takeBlock_lt {reader after : Reader} {records : List Bytes}
    (taken : reader.takeBlock = (.ok records, after)) : after.rest.length < reader.rest.length := by
  unfold takeBlock at taken
  unfold take at taken
  cases found : split? blockPrefixSize reader.rest with
  | none => simp [found] at taken
  | some parts =>
      obtain ⟨front, back⟩ := parts
      obtain ⟨whole, size⟩ := split?_eq_some found
      have total := congrArg List.length whole
      simp only [List.length_append, size, blockPrefixSize] at total
      simp only [found] at taken
      split at taken
      · simp at taken
      · split at taken
        · simp at taken
        · have shorter := length_rest_takePayload_le (BlockPrefix.ofBytes front).count
            (BlockPrefix.ofBytes front).size
            { reader with offset := reader.offset + blockPrefixSize, rest := back }
          rw [taken] at shorter
          simp only at shorter
          omega

/-- All blocks from here on, after the records already taken, the last block first. -/
def collect (reader : Reader) (taken : List (List Bytes)) : Except DecodeError Decoded :=
  match reader.rest with
  | [] => .ok { header := reader.header, records := taken.reverse.flatten, blocks := reader.blocks }
  | _ :: _ =>
      match _found : reader.takeBlock with
      | (.error cause, _) => .error cause
      | (.ok records, after) => after.collect (records :: taken)
  termination_by reader.rest.length
  decreasing_by exact length_rest_takeBlock_lt _found

end Reader

/-- Decodes a whole stream. -/
def decode (data : Bytes) : Except DecodeError Decoded := do
  let reader ← Reader.start data
  reader.collect []

end RecordSink.Stream
