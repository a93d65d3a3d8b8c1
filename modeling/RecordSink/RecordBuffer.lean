import RecordSink.Bytes

/-!
# Record buffers

Records that wait for the next sync, up to a capacity. A full buffer takes no record.
-/

namespace RecordSink

/-- Records in the order in which they were taken. -/
structure RecordBuffer where
  records : List Bytes
  /-- The most records it holds. -/
  capacity : Nat
  deriving DecidableEq, Repr, Inhabited

namespace RecordBuffer

/-- A buffer without records. -/
def empty (capacity : Nat) : RecordBuffer := { records := [], capacity }

/-- The bytes that a place for a record takes. -/
def placeSize : Nat := 32

/-- Room for all its records can be set aside: sizes have 63 bits. -/
def hasRoom (buffer : RecordBuffer) : Bool := buffer.capacity * placeSize < Nat.pow 2 63

/-- How many records wait. -/
def size (buffer : RecordBuffer) : Nat := buffer.records.length

/-- No record waits. -/
def isEmpty (buffer : RecordBuffer) : Bool := buffer.records.isEmpty

/-- There is no room for another record. -/
def isFull (buffer : RecordBuffer) : Bool := buffer.capacity ≤ buffer.size

/-- The bytes of the waiting records. -/
def pendingBytes (buffer : RecordBuffer) : Nat := sumOver List.length buffer.records

/-- The buffer with one more record, if there is room. -/
def push? (record : Bytes) (buffer : RecordBuffer) : Option RecordBuffer :=
  if buffer.isFull then none else some { buffer with records := buffer.records ++ [record] }

/-- The buffer without its records. -/
def clear (buffer : RecordBuffer) : RecordBuffer := { buffer with records := [] }

@[simp]
theorem records_clear (buffer : RecordBuffer) : buffer.clear.records = [] := rfl

/-- A record is taken exactly where there is room. -/
theorem push?_eq_none_iff {record : Bytes} {buffer : RecordBuffer} :
    buffer.push? record = none ↔ buffer.capacity ≤ buffer.records.length := by
  unfold push? isFull size
  split <;> simp_all

end RecordBuffer

end RecordSink
