import RecordSink.Proofs.Stream.Layout
import RecordSink.Proofs.Stream.Writing

/-!
# Corrupted streams

Two layouts whose bytes differ in at most one place have the same bytes. In the header and in a payload
the checksum tells them apart, since a step of the checksum loses nothing; in the fields of a block, the
count or the size does, since either one with the payload behind it determines the records. Main
statement: no stream of an encoder decodes once one of its bytes is another one.
-/

namespace RecordSink

/-- Numbers that fit their width are told apart by their bytes. -/
theorem Bytes.ofNatLE_inj {width first second : Nat} (fits : first < Nat.pow 256 width)
    (fit : second < Nat.pow 256 width) (same : ofNatLE width first = ofNatLE width second) :
    first = second := by
  have read := congrArg toNatLE same
  rwa [toNatLE_ofNatLE fits, toNatLE_ofNatLE fit] at read

namespace Checksum

/-! ## The checksum loses nothing -/

/-- The bit that a shift drops is the first bit of the result. -/
theorem testBit_shift_last (register : UInt32) :
    (shift register).toNat.testBit 31 = register.toNat.testBit 0 := by
  have small : (register.toNat / 2).testBit 31 = false := by
    apply Nat.testBit_lt_two_pow
    have := register.toNat_lt
    omega
  have one : register &&& 1 = 1 ↔ register.toNat.testBit 0 = true := by
    rw [← UInt32.toNat_inj]
    simp [Nat.testBit_zero]
  by_cases odd : register &&& 1 = 1
  · have first : (0xEDB88320 : Nat).testBit 31 = true := by decide
    rw [shift, if_pos odd, one.mp odd]
    simp [Nat.shiftRight_eq_div_pow, small, first]
  · have even := mt one.mpr odd
    rw [shift, if_neg odd]
    simp [Nat.shiftRight_eq_div_pow, small, even]

theorem shift_injective : Function.Injective shift := by
  intro first second same
  have last : first.toNat % 2 = second.toNat % 2 := by
    have bits := testBit_shift_last first
    rw [same, testBit_shift_last second, Nat.testBit_zero, Nat.testBit_zero] at bits
    have := decide_eq_decide.mp bits
    omega
  have parity : first &&& 1 = second &&& 1 := by
    rw [← UInt32.toNat_inj]
    simpa using last
  have rest : first >>> 1 = second >>> 1 := by
    rw [shift, shift, parity] at same
    split at same
    · exact (UInt32.xor_left_inj _).mp same
    · exact same
  have high := congrArg UInt32.toNat rest
  simp [Nat.shiftRight_eq_div_pow] at high
  rw [← UInt32.toNat_inj]
  omega

/-- A byte makes different registers out of different ones. -/
theorem step_left_injective (byte : UInt8) : Function.Injective (step · byte) := by
  intro first second same
  simp only [step, shift_injective.eq_iff] at same
  exact (UInt32.xor_left_inj _).mp same

/-- Different bytes make different registers. -/
theorem step_right_injective (register : UInt32) : Function.Injective (step register) := by
  intro first second same
  simp only [step, shift_injective.eq_iff] at same
  exact UInt8.toUInt32_inj.mp ((UInt32.xor_right_inj _).mp same)

theorem toBytes_injective : Function.Injective toBytes := by
  intro first second same
  have width : Nat.pow 256 4 = 2 ^ 32 := by decide
  exact UInt32.toNat_inj.mp
    (Bytes.ofNatLE_inj (width ▸ first.toNat_lt) (width ▸ second.toNat_lt) same)

theorem value_injective : Function.Injective value := by
  rintro ⟨first⟩ ⟨second⟩ same
  exact congrArg Checksum.mk ((UInt32.xor_left_inj _).mp same)

/-- More bytes keep different states apart. -/
theorem update_injective (bytes : Bytes) : Function.Injective (update · bytes) := by
  induction bytes with
  | nil => exact fun _ _ same => same
  | cons byte rest ih =>
      rintro ⟨first⟩ ⟨second⟩ same
      have states : (⟨step first byte⟩ : Checksum) = ⟨step second byte⟩ := ih same
      rw [step_left_injective byte (congrArg register states)]

end Checksum

/-! ## Differing in at most one place -/

/-- One byte string is the other one with one byte exchanged, or it is the other one. -/
def Bytes.Near (first second : Bytes) : Prop := ∃ index byte, second = first.set index byte

namespace Bytes.Near

variable {first second : Bytes}

theorem length_eq (near : Near first second) : second.length = first.length := by
  obtain ⟨index, byte, rfl⟩ := near
  exact List.length_set

/-- Byte strings in two parts differ in one of them only. -/
theorem split {back rest : Bytes} (near : Near (first ++ back) (second ++ rest))
    (sized : second.length = first.length) :
    (Near first second ∧ rest = back) ∨ (second = first ∧ Near back rest) := by
  obtain ⟨index, byte, same⟩ := near
  rw [List.set_append] at same
  split at same
  · obtain ⟨changed, kept⟩ := List.append_inj same (by rw [sized, List.length_set])
    exact .inl ⟨⟨index, byte, changed⟩, kept⟩
  · obtain ⟨kept, changed⟩ := List.append_inj same sized
    exact .inr ⟨kept, index - first.length, byte, changed⟩

/-- Behind the same bytes, two byte strings differ in at most one place as well. -/
theorem of_append {front : Bytes} (near : Near (front ++ first) (front ++ second)) : Near first second := by
  rcases near.split rfl with ⟨-, same⟩ | ⟨-, near⟩
  · exact ⟨first.length, 0, by rw [same, List.set_eq_of_length_le (Nat.le_refl _)]⟩
  · exact near

/-- A checksum tells two byte strings apart that differ in one place. -/
theorem eq_of_update (near : Near first second) {state : Checksum}
    (same : (state.update second).value = (state.update first).value) : second = first := by
  obtain ⟨index, byte, rfl⟩ := near
  have states := Checksum.value_injective same
  clear same
  induction first generalizing state index with
  | nil => rfl
  | cons old rest ih =>
      cases index with
      | zero =>
          have before : (⟨Checksum.step state.register byte⟩ : Checksum) =
              ⟨Checksum.step state.register old⟩ := Checksum.update_injective rest states
          rw [List.set_cons_zero,
            Checksum.step_right_injective state.register (congrArg Checksum.register before)]
      | succ index =>
          have later : (⟨Checksum.step state.register old⟩ : Checksum).update (rest.set index byte) =
              (⟨Checksum.step state.register old⟩ : Checksum).update rest := states
          rw [List.set_cons_succ, ih index later]

end Bytes.Near

namespace Stream

open Bytes (Near)

/-! ## Headers -/

/-- Two headers are the same if they differ in at most one place. -/
theorem sealed_eq_of_near {marker other : Marker} {reserved spare : UInt8}
    (near : Near (Header.sealed { version, marker } reserved)
      (Header.sealed { version, marker := other } spare)) :
    Header.sealed { version, marker := other } spare = Header.sealed { version, marker } reserved := by
  have sized : (Header.signed { version, marker := other } spare).length =
      (Header.signed { version, marker } reserved).length := by
    simp [Header.signed, marker.size, other.size]
  rcases near.split sized with ⟨signed, sums⟩ | ⟨signed, -⟩
  · have values : Checksum.ofBytes (Header.signed { version, marker := other } spare) =
        Checksum.ofBytes (Header.signed { version, marker } reserved) := Checksum.toBytes_injective sums
    rw [Header.sealed, sums, signed.eq_of_update values, Header.sealed]
  · rw [Header.sealed, signed, Header.sealed]

/-! ## Blocks -/

theorem ofNatLE_inj_of_lengthBound {first second : Nat} (fits : first < lengthBound)
    (fit : second < lengthBound) (same : Bytes.ofNatLE 4 first = Bytes.ofNatLE 4 second) :
    first = second := by
  have bound : lengthBound = Nat.pow 256 4 := by decide
  exact Bytes.ofNatLE_inj (bound ▸ fits) (bound ▸ fit) same

theorem Fits.length_lt {run : List Bytes} (fits : Fits run) : run.length < lengthBound := by
  have counted := length_le_payloadSize run
  rw [Fits] at fits
  omega

/-- Records are determined by their payload with anything behind it, where their number or the size of
the payload is known. -/
theorem payload_cancel {first second : List Bytes} {back rest : Bytes} (fits : Fits first)
    (fit : Fits second) (same : payload first ++ back = payload second ++ rest)
    (known : first.length = second.length ∨ payloadSize first = payloadSize second) : first = second := by
  induction first generalizing second with
  | nil =>
      cases second with
      | nil => rfl
      | cons record later =>
          simp only [payloadSize, sumOver_nil, sumOver_cons, frameSize, List.length_nil,
            List.length_cons] at known
          omega
  | cons record later ih =>
      cases second with
      | nil =>
          simp only [payloadSize, sumOver_nil, sumOver_cons, frameSize, List.length_nil,
            List.length_cons] at known
          omega
      | cons other others =>
          simp only [Fits, payloadSize, sumOver_cons, frameSize] at fits fit
          simp only [payload, List.flatMap_cons, frame, List.append_assoc] at same
          obtain ⟨lengths, behind⟩ := List.append_inj same (by simp)
          have length : record.length = other.length :=
            ofNatLE_inj_of_lengthBound (by omega) (by omega) lengths
          obtain ⟨rfl, after⟩ := List.append_inj behind length
          have left : later.length = others.length ∨ payloadSize later = payloadSize others := by
            simp only [List.length_cons, payloadSize, sumOver_cons] at known ⊢
            omega
          have short : Fits later := by simp only [Fits, payloadSize]; omega
          have shorter : Fits others := by simp only [Fits, payloadSize]; omega
          rw [ih short shorter after left]

/-- The fields of two blocks with one number are the same if they differ in at most one place and the
bytes behind them are the same. -/
theorem eq_of_near_blockPrefix {number : Nat} {first second : List Bytes} {back rest : Bytes}
    (fits : Fits first) (fit : Fits second)
    (near : Near (blockPrefix number first.length (payloadSize first))
      (blockPrefix number second.length (payloadSize second)))
    (same : payload first ++ back = payload second ++ rest) : first = second := by
  rcases near.split (by simp) with ⟨-, sizes⟩ | ⟨fields, -⟩
  · have size := ofNatLE_inj_of_lengthBound fit fits sizes
    exact payload_cancel fits fit same (.inr size.symm)
  · have counts := (List.append_inj fields (by simp)).2
    have count := ofNatLE_inj_of_lengthBound fit.length_lt fits.length_lt counts
    exact payload_cancel fits fit same (.inl count.symm)

/-- Blocks with the same beginning are the same if they differ in at most one place. -/
theorem blocksFrom_eq_of_near {marker : Marker} {number : Nat} {checksum : Checksum}
    {first second : List (List Bytes)} (fits : ∀ batch ∈ first, Fits batch)
    (fit : ∀ batch ∈ second, Fits batch)
    (near : Near (blocksFrom marker number checksum first) (blocksFrom marker number checksum second)) :
    blocksFrom marker number checksum second = blocksFrom marker number checksum first := by
  induction first generalizing number checksum second with
  | nil => exact List.eq_nil_of_length_eq_zero near.length_eq
  | cons run later ih =>
      cases second with
      | nil =>
          have size := near.length_eq
          simp only [blocksFrom, List.length_nil, List.length_append, length_block] at size
          omega
      | cons other others =>
          have one := fits run (by simp)
          have two := fit other (by simp)
          simp only [blocksFrom, block, List.append_assoc] at near ⊢
          rcases near.split (by simp [blockPrefix]) with ⟨fields, behind⟩ | ⟨fields, near⟩
          · -- only the fields may differ, and what is behind them determines the records
            obtain rfl := eq_of_near_blockPrefix one two fields behind.symm
            rw [behind]
          · have sizes := (List.append_inj fields (by simp)).2
            have size := ofNatLE_inj_of_lengthBound two one sizes
            rcases near.split (by rw [length_payload, length_payload, size]) with
              ⟨payloads, behind⟩ | ⟨payloads, near⟩
            · -- only the payload may differ, and the checksum behind it is the same
              have suffixes := (List.append_inj behind (by simp [blockSuffix, marker.size])).1
              have sums := (List.append_inj suffixes (by simp)).1
              rw [behind, fields, payloads.eq_of_update (Checksum.toBytes_injective sums)]
            · -- the payload is the same, so that both checksums go on from one state
              rw [payloads] at near ⊢
              rw [fields, ih (fun batch inside => fits batch (by simp [inside]))
                (fun batch inside => fit batch (by simp [inside])) near.of_append]

/-- Two layouts whose bytes differ in at most one place have the same bytes. -/
theorem Layout.bytes_eq_of_near {first second : Layout} (near : Near first.bytes second.bytes) :
    second.bytes = first.bytes := by
  rw [bytes_eq, bytes_eq] at near ⊢
  rcases near.split (by rw [length_sealed, length_sealed]) with ⟨headers, blocks⟩ | ⟨headers, blocks⟩
  · rw [sealed_eq_of_near headers, blocks]
  · obtain ⟨marker, -⟩ := Layout.sealed_injective headers
    rw [marker] at blocks ⊢
    rw [marker] at headers
    rw [headers, blocksFrom_eq_of_near first.fits second.fits blocks]

/-- A stream that was appended to a body does not decode once one of its bytes is another one. -/
theorem decode_set_error {marker : Marker} {batches : List (List Bytes)} {encoder after : Encoder Body}
    {counts : List UInt32} (started : Encoder.start marker Body.empty = .ok encoder)
    (appended : encoder.appendAll batches = (.ok counts, after))
    {position : Nat} (inside : position < after.out.content.length)
    {byte : UInt8} (other : byte ≠ after.out.content[position]) :
    ∃ cause, decode (after.out.content.set position byte) = .error cause := by
  obtain ⟨⟨content, fits, -, -⟩, -⟩ := Encoder.appended_appendAll started appended
  let whole : Layout := { marker, reserved := 0, batches := batches.flatMap runs, fits }
  have written : whole.bytes = after.out.content := by
    rw [content, Layout.bytes_eq]
    rfl
  cases found : decode (after.out.content.set position byte) with
  | error cause => exact ⟨cause, rfl⟩
  | ok decoded =>
      obtain ⟨layout, corrupted, -⟩ := Layout.of_decode found
      have near : Near whole.bytes layout.bytes := ⟨position, byte, by rw [corrupted, written]⟩
      have same : after.out.content.set position byte = after.out.content := by
        rw [← corrupted, ← written]
        exact Layout.bytes_eq_of_near near
      have exchanged : (after.out.content.set position byte)[position]? = some byte := by
        rw [List.getElem?_set_self inside]
      rw [same, List.getElem?_eq_getElem inside] at exchanged
      exact absurd (Option.some.inj exchanged).symm other

/-- A byte of a record. -/
theorem decode_set_error_trial : ∃ encoder after,
    Encoder.start Marker.blank Body.empty = .ok encoder ∧
    encoder.appendAll [[[1, 2, 3]]] = (.ok [1], after) ∧
    after.out.content[50]? = some 1 ∧ ∃ cause, decode (after.out.content.set 50 0) = .error cause := by
  have started := Encoder.start_empty .blank
  have appended : ∃ after, (Encoder.mk (⟨Header.bytes { version, marker := .blank }⟩ : Body)
      { version, marker := .blank } 0 .empty 0).appendAll [[[1, 2, 3]]] = (.ok [1], after) := by
    simp [Encoder.appendAll, Encoder.append, Encoder.writeBlocks, Encoder.writeBlock, runs, fitting,
      Body.writeAll_eq, payloadSize, frameSize, lengthBound]
  obtain ⟨after, appended⟩ := appended
  have content : after.out.content = written .blank [[[1, 2, 3]]] := by
    obtain ⟨⟨content, -, -, -⟩, -⟩ := Encoder.appended_appendAll started appended
    rw [content]
    simp [runs, fitting]
  have found : after.out.content[50]? = some 1 := by
    rw [content]
    decide +kernel
  obtain ⟨inside, there⟩ := List.getElem?_eq_some_iff.mp found
  have other : (0 : UInt8) ≠ after.out.content[50] := by
    rw [there]
    decide
  exact ⟨_, after, started, appended, found, decode_set_error started appended inside other⟩

end Stream

end RecordSink
