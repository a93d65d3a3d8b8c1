import RecordSink.Bytes

/-!
# CRC-32

The reflected CRC-32 with polynomial `0xEDB88320`, as a running state. A state is fed byte by
byte, so feeding a concatenation is feeding the pieces in turn; `value` closes the state
without ending the run.
-/

namespace RecordSink

/-- The running state of a CRC-32. -/
structure Checksum where
  /-- The shift register, all ones before the first byte. -/
  register : UInt32
  deriving DecidableEq, Repr

namespace Checksum

/-- The state before any byte. -/
def empty : Checksum := ⟨0xFFFFFFFF⟩

instance : Inhabited Checksum := ⟨empty⟩

/-- One bit of the reflected division. -/
def shift (register : UInt32) : UInt32 :=
  if register &&& 1 = 1 then (register >>> 1) ^^^ 0xEDB88320 else register >>> 1

/-- The register after one more byte. -/
def step (register : UInt32) (byte : UInt8) : UInt32 :=
  shift (shift (shift (shift (shift (shift (shift (shift (register ^^^ byte.toUInt32))))))))

/-- The state after more bytes. -/
def update (state : Checksum) (bytes : Bytes) : Checksum := ⟨bytes.foldl step state.register⟩

/-- The checksum of the bytes fed so far. -/
def value (state : Checksum) : UInt32 := state.register ^^^ 0xFFFFFFFF

/-- The checksum of one byte string. -/
def ofBytes (bytes : Bytes) : UInt32 := (empty.update bytes).value

@[simp]
theorem update_nil (state : Checksum) : state.update [] = state := rfl

/-- Feeding a concatenation feeds its pieces in turn. -/
theorem update_append (state : Checksum) (first second : Bytes) :
    state.update (first ++ second) = (state.update first).update second := by
  simp [update]

/-- The four bytes of a checksum, least significant first. -/
def toBytes (value : UInt32) : Bytes := Bytes.ofNatLE 4 value.toNat

end Checksum

end RecordSink
