import RecordSink.Checksum
import RecordSink.Random

/-!
# The stream format

A stream is a header and a sequence of numbered blocks of records. The checksum at the end of a
block covers the payloads of all blocks so far, and every block ends with the marker of the
stream, so blocks decode only in the order in which they were written.
-/

namespace RecordSink

/-- The marker of a stream, repeated after every block. -/
structure Marker where
  bytes : Bytes
  size : bytes.length = 16
  deriving DecidableEq

instance : Repr Marker := ⟨fun marker _ => repr marker.bytes⟩

namespace Marker

/-- The marker of sixteen bytes. -/
def ofBytes? (bytes : Bytes) : Option Marker :=
  if size : bytes.length = 16 then some ⟨bytes, size⟩ else none

/-- A marker without meaning. -/
def blank : Marker := ⟨List.replicate 16 0, rfl⟩

instance : Inhabited Marker := ⟨blank⟩

/-- The next marker of a random source. -/
def random (source : Random) : Marker × Random :=
  let (bytes, source) := source.bytes 16
  ((ofBytes? bytes).getD blank, source)

end Marker

namespace Stream

/-- The version of the format. -/
def version : UInt8 := 1

/-- The first bytes of a stream. -/
def streamMagic : Bytes := [0x47, 0x53, 0x4E, 0x4B]

/-- The first bytes of a block. -/
def blockMagic : Bytes := [0x42, 0x4C, 0x4B, 0x30]

/-- The size of the header in bytes. -/
def headerSize : Nat := 26

/-- The size of a block before its payload. -/
def blockPrefixSize : Nat := 20

/-- The size of a block after its payload. -/
def blockSuffixSize : Nat := 20

/-- Records are spread over blocks whose payloads do not exceed this size. -/
def payloadLimit : Nat := 4194304

/-- Lengths are written as numbers below this. -/
def lengthBound : Nat := Nat.pow 2 32

end Stream

/-- The header of a stream. -/
structure Stream.Header where
  version : UInt8
  marker : Marker
  deriving DecidableEq, Repr, Inhabited

namespace Stream

/-- The part of the header under its checksum. The byte after the version has no meaning yet. -/
def Header.signed (header : Header) (reserved : UInt8) : Bytes :=
  streamMagic ++ header.version :: reserved :: header.marker.bytes

/-- The bytes of a header. -/
def Header.bytes (header : Header) : Bytes :=
  header.signed 0 ++ Checksum.toBytes (Checksum.ofBytes (header.signed 0))

/-! ## Blocks -/

/-- A record behind its length. -/
def frame (record : Bytes) : Bytes := Bytes.ofNatLE 4 record.length ++ record

/-- The size of a framed record. -/
def frameSize (record : Bytes) : Nat := 4 + record.length

/-- The payload of a block. -/
def payload (records : List Bytes) : Bytes := records.flatMap frame

/-- The size of a block's payload. -/
def payloadSize (records : List Bytes) : Nat := sumOver frameSize records

/-- The bytes of a block before its payload. -/
def blockPrefix (number count size : Nat) : Bytes :=
  blockMagic ++ Bytes.ofNatLE 8 number ++ Bytes.ofNatLE 4 count ++ Bytes.ofNatLE 4 size

/-- The bytes of a block after its payload, the checksum fed with the payload. -/
def blockSuffix (checksum : Checksum) (marker : Marker) : Bytes :=
  Checksum.toBytes checksum.value ++ marker.bytes

/-- The bytes of a block. The checksum is the one before the block. -/
def block (marker : Marker) (number : Nat) (checksum : Checksum) (records : List Bytes) : Bytes :=
  blockPrefix number records.length (payloadSize records) ++ payload records
    ++ blockSuffix (checksum.update (payload records)) marker

/-! ## Spreading records over blocks -/

/-- The records at the front that still fit a payload of which `used` bytes are taken, and the
rest. -/
def fitting (used : Nat) : List Bytes → List Bytes × List Bytes
  | [] => ([], [])
  | record :: rest =>
      if used + frameSize record ≤ payloadLimit then
        let (run, left) := fitting (used + frameSize record) rest
        (record :: run, left)
      else ([], record :: rest)

/-- What fits and what is left are the records. -/
theorem fitting_append (used : Nat) (records : List Bytes) :
    (fitting used records).1 ++ (fitting used records).2 = records := by
  induction records generalizing used with
  | nil => rfl
  | cons record rest ih =>
      simp only [fitting]
      split
      · simp [ih]
      · rfl

theorem length_fitting_le (used : Nat) (records : List Bytes) :
    (fitting used records).2.length ≤ records.length := by
  have whole := congrArg List.length (fitting_append used records)
  simp only [List.length_append] at whole
  omega

/-- The records of each block: a record that alone exceeds the limit has a block of its own. -/
def runs : List Bytes → List (List Bytes)
  | [] => []
  | record :: rest =>
      (record :: (fitting (frameSize record) rest).1) :: runs (fitting (frameSize record) rest).2
  termination_by records => records.length
  decreasing_by
    have := length_fitting_le (frameSize record) rest
    simp only [List.length_cons]
    omega

end Stream

end RecordSink
