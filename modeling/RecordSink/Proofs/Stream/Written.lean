import RecordSink.Stream.Reader

/-!
# Written streams

The bytes of a stream whose blocks hold given runs of records. Main statement: a reader takes such a
stream, and gives back the records in order.
-/

namespace RecordSink

/-- A number written in too few bytes is read back without its high part. -/
theorem Bytes.toNatLE_ofNatLE_mod (width value : Nat) :
    toNatLE (ofNatLE width value) = value % Nat.pow 256 width := by
  induction width generalizing value with
  | zero => simp [ofNatLE, toNatLE, Nat.mod_one]
  | succ width ih =>
      have raised : Nat.pow 256 (width + 1) = 256 * Nat.pow 256 width := Nat.mul_comm ..
      have split : value % Nat.pow 256 (width + 1) = value % 256 + 256 * (value / 256 % Nat.pow 256 width) := by
        rw [raised, Nat.mod_mul]
      simp only [ofNatLE, toNatLE, ih, UInt8.toNat_ofNat', split]

namespace Stream

/-- The length fields of a block can hold the sizes of its records. -/
def Fits (run : List Bytes) : Prop := payloadSize run < lengthBound

instance (run : List Bytes) : Decidable (Fits run) :=
  inferInstanceAs (Decidable (payloadSize run < lengthBound))

/-- The checksum after the payloads of more blocks. -/
def summed (checksum : Checksum) (runs : List (List Bytes)) : Checksum :=
  checksum.update (runs.flatMap payload)

/-- The bytes of blocks that follow each other, the first one with the given number. -/
def blocksFrom (marker : Marker) (number : Nat) (checksum : Checksum) : List (List Bytes) → Bytes
  | [] => []
  | run :: rest =>
      block marker number checksum run
        ++ blocksFrom marker (number + 1) (checksum.update (payload run)) rest

/-- A header with its checksum. An encoder writes zero as the reserved byte. -/
def Header.sealed (header : Header) (reserved : UInt8) : Bytes :=
  header.signed reserved ++ Checksum.toBytes (Checksum.ofBytes (header.signed reserved))

/-- The bytes of a whole stream. -/
def written (marker : Marker) (runs : List (List Bytes)) : Bytes :=
  Header.bytes { version, marker } ++ blocksFrom marker 0 .empty runs

@[simp]
theorem summed_nil (checksum : Checksum) : summed checksum [] = checksum := rfl

theorem summed_cons (checksum : Checksum) (run : List Bytes) (rest : List (List Bytes)) :
    summed checksum (run :: rest) = summed (checksum.update (payload run)) rest := by
  simp [summed, Checksum.update_append]

theorem summed_append (checksum : Checksum) (first second : List (List Bytes)) :
    summed checksum (first ++ second) = summed (summed checksum first) second := by
  simp [summed, Checksum.update_append]

/-- Blocks after other blocks go on with their number and their checksum. -/
theorem blocksFrom_append (marker : Marker) (number : Nat) (checksum : Checksum)
    (first second : List (List Bytes)) :
    blocksFrom marker number checksum (first ++ second) =
      blocksFrom marker number checksum first
        ++ blocksFrom marker (number + first.length) (summed checksum first) second := by
  induction first generalizing number checksum with
  | nil => simp [blocksFrom]
  | cons run rest ih =>
      have next : number + 1 + rest.length = number + (rest.length + 1) := by omega
      simp [blocksFrom, ih, summed_cons, next]

/-- A longer stream is the shorter one with blocks behind it. -/
theorem written_append (marker : Marker) (first second : List (List Bytes)) :
    written marker (first ++ second) =
      written marker first ++ blocksFrom marker first.length (summed .empty first) second := by
  simp [written, blocksFrom_append]

/-! ## Sizes -/

theorem length_payload (records : List Bytes) : (payload records).length = payloadSize records := by
  induction records with
  | nil => rfl
  | cons record rest ih =>
      simp only [payload, payloadSize] at ih
      simp only [payload, payloadSize, List.flatMap_cons, List.length_append, frame, frameSize,
        Bytes.length_ofNatLE, ih, sumOver_cons]

theorem length_le_payloadSize (records : List Bytes) : 4 * records.length ≤ payloadSize records := by
  induction records with
  | nil => simp
  | cons record rest ih =>
      simp only [payloadSize] at ih
      simp only [payloadSize, sumOver_cons, List.length_cons, frameSize]
      omega

theorem frameSize_le_payloadSize {record : Bytes} {run : List Bytes} (inside : record ∈ run) :
    frameSize record ≤ payloadSize run := by
  induction run with
  | nil => cases inside
  | cons first rest ih =>
      simp only [payloadSize, sumOver_cons] at ih ⊢
      rcases List.mem_cons.mp inside with rfl | later
      · omega
      · exact Nat.le_trans (ih later) (Nat.le_add_left ..)

@[simp]
theorem length_checksum (value : UInt32) : (Checksum.toBytes value).length = 4 := by
  simp [Checksum.toBytes]

theorem length_blockPrefix (number count size : Nat) :
    (blockPrefix number count size).length = blockPrefixSize := by
  simp [blockPrefix, blockMagic, blockPrefixSize]

theorem length_blockSuffix (checksum : Checksum) (marker : Marker) :
    (blockSuffix checksum marker).length = blockSuffixSize := by
  simp [blockSuffix, blockSuffixSize, marker.size]

theorem length_block (marker : Marker) (number : Nat) (checksum : Checksum) (run : List Bytes) :
    (block marker number checksum run).length = 40 + payloadSize run := by
  simp only [block, List.length_append, length_blockPrefix, length_payload, length_blockSuffix,
    blockPrefixSize, blockSuffixSize]
  omega

theorem length_sealed (marker : Marker) (reserved : UInt8) :
    (Header.sealed { version, marker } reserved).length = headerSize := by
  simp [Header.sealed, Header.signed, streamMagic, marker.size, headerSize]

theorem length_header (marker : Marker) : (Header.bytes { version, marker }).length = headerSize :=
  length_sealed marker 0

theorem length_blocksFrom (marker : Marker) (number : Nat) (checksum : Checksum)
    (runs : List (List Bytes)) :
    (blocksFrom marker number checksum runs).length = sumOver (fun run => 40 + payloadSize run) runs := by
  induction runs generalizing number checksum with
  | nil => rfl
  | cons run rest ih =>
      rw [blocksFrom, List.length_append, length_block, ih, sumOver_cons]

theorem length_written (marker : Marker) (runs : List (List Bytes)) :
    (written marker runs).length = headerSize + sumOver (fun run => 40 + payloadSize run) runs := by
  rw [written, List.length_append, length_header, length_blocksFrom]

/-- The size of a stream in which every record has a block of its own; no other stream of the records
is longer. -/
def sizeBound (records : List Bytes) : Nat :=
  headerSize + sumOver (fun record => 44 + record.length) records

theorem sizeBound_append (first second : List Bytes) :
    sizeBound (first ++ second) = sizeBound first + sumOver (fun record => 44 + record.length) second := by
  rw [sizeBound, sizeBound, sumOver_append, Nat.add_assoc]

/-- Records whose streams all fit into a memory with addresses of 64 bits. Sizes are counted with as
many bits. -/
def Addressable (records : List Bytes) : Prop := sizeBound records < Nat.pow 2 64

instance (records : List Bytes) : Decidable (Addressable records) :=
  inferInstanceAs (Decidable (sizeBound records < Nat.pow 2 64))

/-- The first of some records fit where all of them do. -/
theorem Addressable.of_isPrefix {first second : List Bytes} (small : Addressable second)
    (within : first <+: second) : Addressable first := by
  obtain ⟨rest, rfl⟩ := within
  calc
    sizeBound first
        ≤ sizeBound first + sumOver (fun record => 44 + record.length) rest := Nat.le_add_right _ _
    _ = sizeBound (first ++ rest) := (sizeBound_append first rest).symm
    _ < Nat.pow 2 64 := small

/-! ## Batches -/

/-- The blocks of records hold these records, in order. -/
theorem flatten_runs (records : List Bytes) : (runs records).flatten = records := by
  induction records using runs.induct with
  | case1 => rw [runs, List.flatten_nil]
  | case2 record rest ih =>
      rw [runs, List.flatten_cons, ih, List.cons_append, fitting_append]

/-- No block is without records. -/
theorem ne_nil_of_mem_runs {records run : List Bytes} (inside : run ∈ runs records) : run ≠ [] := by
  induction records using runs.induct with
  | case1 => rw [runs] at inside; cases inside
  | case2 record rest ih =>
      rw [runs, List.mem_cons] at inside
      rcases inside with rfl | later
      · exact List.cons_ne_nil _ _
      · exact ih later

theorem flatten_flatMap_runs (batches : List (List Bytes)) :
    (batches.flatMap runs).flatten = batches.flatten := by
  induction batches with
  | nil => rfl
  | cons batch rest ih =>
      rw [List.flatMap_cons, List.flatten_append, flatten_runs, ih, List.flatten_cons]

theorem payloadSize_le (records : List Bytes) :
    payloadSize records ≤ sumOver (fun record => 44 + record.length) records := by
  induction records with
  | nil => exact Nat.le_refl 0
  | cons record rest ih =>
      simp only [payloadSize, frameSize, sumOver_cons] at ih ⊢
      omega

/-- A block without gaps is no longer than a block for each of its records. -/
theorem block_le_bound {run : List Bytes} (filled : run ≠ []) :
    40 + payloadSize run ≤ sumOver (fun record => 44 + record.length) run := by
  cases run with
  | nil => exact absurd rfl filled
  | cons record rest =>
      have later := payloadSize_le rest
      simp only [payloadSize, frameSize, sumOver_cons] at later ⊢
      omega

/-- Blocks without gaps are no longer than a block for each record. -/
theorem blocks_le_bound {blocks : List (List Bytes)} (filled : ∀ run ∈ blocks, run ≠ []) :
    sumOver (fun run => 40 + payloadSize run) blocks ≤
      sumOver (fun record => 44 + record.length) blocks.flatten := by
  induction blocks with
  | nil => exact Nat.le_refl 0
  | cons run rest ih =>
      have first := block_le_bound (filled run (by simp))
      have later := ih fun other inside => filled other (by simp [inside])
      rw [sumOver_cons, List.flatten_cons, sumOver_append]
      omega

/-- A stream written in batches is no longer than the bound of its records. -/
theorem length_written_le (marker : Marker) (batches : List (List Bytes)) :
    (written marker (batches.flatMap runs)).length ≤ sizeBound batches.flatten := by
  have filled : ∀ run ∈ batches.flatMap runs, run ≠ [] := by
    intro run inside
    obtain ⟨batch, -, inBatch⟩ := List.mem_flatMap.mp inside
    exact ne_nil_of_mem_runs inBatch
  calc
    (written marker (batches.flatMap runs)).length
        = headerSize + sumOver (fun run => 40 + payloadSize run) (batches.flatMap runs) :=
      length_written marker _
    _ ≤ headerSize + sumOver (fun record => 44 + record.length) (batches.flatMap runs).flatten :=
      Nat.add_le_add_left (blocks_le_bound filled) headerSize
    _ = sizeBound batches.flatten := by
      rw [flatten_flatMap_runs, sizeBound]

/-! ## Reading -/

/-- A front of known size is split off. -/
theorem split?_append {size : Nat} {front : Bytes} (sized : front.length = size) (back : Bytes) :
    split? size (front ++ back) = some (front, back) := by
  subst sized
  simp [split?]

namespace Reader

theorem take_append {size : Nat} {front back : Bytes} {reader : Reader} (sized : front.length = size)
    (rest : reader.rest = front ++ back) :
    reader.take size = (.ok front, { reader with offset := reader.offset + size, rest := back }) := by
  simp [take, rest, split?_append sized]

/-- A header starts a reader behind it, whatever its reserved byte is. -/
theorem start_sealed (marker : Marker) (reserved : UInt8) (rest : Bytes) :
    start (Header.sealed { version, marker } reserved ++ rest) =
      .ok { header := { version, marker }, offset := headerSize, rest, blocks := 0
            checksum := .empty } := by
  have markerSize := marker.size
  have signed : ((Header.signed { version, marker } reserved).length = 22) := by
    simp [Header.signed, streamMagic, markerSize]
  have front : (Header.sealed { version, marker } reserved).take 22 =
      Header.signed { version, marker } reserved := by
    rw [Header.sealed, List.take_append_of_le_length (by omega), List.take_of_length_le (by omega)]
  have back : (Header.sealed { version, marker } reserved).drop 22 =
      Checksum.toBytes (Checksum.ofBytes (Header.signed { version, marker } reserved)) := by
    rw [Header.sealed, List.drop_append_of_le_length (by omega), List.drop_of_length_le (by omega)]
    rfl
  have magic : (Header.sealed { version, marker } reserved).take 4 = streamMagic := by
    simp [Header.sealed, Header.signed, streamMagic]
  have known : Marker.ofBytes? ((Header.signed { version, marker } reserved).drop 6) = some marker := by
    simp [Header.signed, streamMagic, Marker.ofBytes?, markerSize]
  have found : ∃ more, (Header.sealed { version, marker } reserved).drop 4 = version :: more := by
    simp [Header.sealed, Header.signed, streamMagic]
  obtain ⟨more, found⟩ := found
  simp only [start, split?_append (length_sealed marker reserved)]
  simp only [headerSize, Nat.reduceSub, front, back, magic, found, known, ne_eq, not_true_eq_false,
    ↓reduceIte]

/-- The records of a written payload are read back. -/
theorem splitPayload_payload {records : List Bytes} (fits : ∀ record ∈ records, record.length < lengthBound)
    (block count index : Nat) (taken : List Bytes) :
    splitPayload block count taken index records.length (payload records) =
      .ok (taken.reverse ++ records) := by
  induction records generalizing taken index with
  | nil => simp [splitPayload, payload]
  | cons record rest ih =>
      have short := fits record (by simp)
      have length : Bytes.toNatLE (Bytes.ofNatLE 4 record.length) = record.length :=
        Bytes.toNatLE_ofNatLE (by simpa [lengthBound] using short)
      have shape : payload (record :: rest) =
          Bytes.ofNatLE 4 record.length ++ (record ++ payload rest) := by
        simp [payload, frame]
      rw [List.length_cons, splitPayload, shape, split?_append (Bytes.length_ofNatLE 4 _)]
      simp only [length, split?_append rfl]
      rw [ih (fun other inside => fits other (by simp [inside]))]
      simp

/-- The fields of a block that fits are read back. The number has 64 bits. -/
theorem BlockPrefix.ofBytes_blockPrefix {run : List Bytes} (fits : Fits run) (number : Nat) :
    ofBytes (blockPrefix number run.length (payloadSize run)) =
      { magic := blockMagic, number := number % Nat.pow 2 64, count := run.length
        size := payloadSize run } := by
  have bound : lengthBound = Nat.pow 256 4 := by decide
  have count : Bytes.toNatLE (Bytes.ofNatLE 4 run.length) = run.length := by
    apply Bytes.toNatLE_ofNatLE
    have := length_le_payloadSize run
    rw [Fits, bound] at fits
    omega
  have size : Bytes.toNatLE (Bytes.ofNatLE 4 (payloadSize run)) = payloadSize run :=
    Bytes.toNatLE_ofNatLE (bound ▸ fits)
  have numbered : Bytes.toNatLE (Bytes.ofNatLE 8 number) = number % Nat.pow 2 64 :=
    Bytes.toNatLE_ofNatLE_mod 8 number
  have early : (Bytes.ofNatLE 8 number).drop 12 = [] := by simp
  have last : (Bytes.ofNatLE 4 (payloadSize run)).take 4 = Bytes.ofNatLE 4 (payloadSize run) :=
    List.take_of_length_le (by simp)
  simp [ofBytes, blockPrefix, blockMagic, List.drop_append, early, last, count, size, numbered]

/-- Behind the prefix of a block that fits, its payload is taken. -/
theorem takeBlock_blockPrefix {run : List Bytes} {reader : Reader} {back : Bytes} (fits : Fits run)
    (rest : reader.rest = blockPrefix reader.blocks run.length (payloadSize run) ++ back) :
    reader.takeBlock =
      ({ reader with offset := reader.offset + blockPrefixSize, rest := back } : Reader).takePayload
        run.length (payloadSize run) := by
  rw [takeBlock, take_append (length_blockPrefix _ _ _) rest]
  simp only [BlockPrefix.ofBytes_blockPrefix fits, ne_eq, not_true_eq_false, ↓reduceIte]

/-- Behind the payload of a block that fits, its end is checked. -/
theorem takePayload_payload {run : List Bytes} {reader : Reader} {back : Bytes} (fits : Fits run)
    (rest : reader.rest = payload run ++ back) :
    reader.takePayload run.length (payloadSize run) =
      ({ reader with
        offset := reader.offset + payloadSize run
        rest := back
        checksum := reader.checksum.update (payload run) } : Reader).finishBlock run := by
  have short : ∀ record ∈ run, record.length < lengthBound := by
    intro record inside
    have := frameSize_le_payloadSize inside
    simp only [frameSize] at this
    simp only [Fits] at fits
    omega
  rw [takePayload, take_append (length_payload run) rest]
  simp only [splitPayload_payload short, List.reverse_nil, List.nil_append]

/-- The right end finishes a block. -/
theorem finishBlock_blockSuffix {run : List Bytes} {reader : Reader} {back : Bytes}
    (rest : reader.rest = blockSuffix reader.checksum reader.header.marker ++ back) :
    reader.finishBlock run = (.ok run,
      { reader with
        offset := reader.offset + blockSuffixSize
        rest := back
        blocks := reader.blocks + 1 }) := by
  have sums : (blockSuffix reader.checksum reader.header.marker).take 4 =
      Checksum.toBytes reader.checksum.value := by
    simp [blockSuffix]
  have marks : (blockSuffix reader.checksum reader.header.marker).drop 4 =
      reader.header.marker.bytes := by
    simp [blockSuffix]
  rw [finishBlock, take_append (length_blockSuffix _ _) rest]
  simp only [sums, marks, ne_eq, not_true_eq_false, ↓reduceIte]

/-- A written block is taken whole. -/
theorem takeBlock_block {run : List Bytes} {reader : Reader} {back : Bytes} (fits : Fits run)
    (rest : reader.rest = block reader.header.marker reader.blocks reader.checksum run ++ back) :
    reader.takeBlock = (.ok run,
      { reader with
        offset := reader.offset + 40 + payloadSize run
        rest := back
        blocks := reader.blocks + 1
        checksum := reader.checksum.update (payload run) }) := by
  have shape : reader.rest = blockPrefix reader.blocks run.length (payloadSize run) ++ (payload run
      ++ (blockSuffix (reader.checksum.update (payload run)) reader.header.marker ++ back)) := by
    simp [rest, block]
  rw [takeBlock_blockPrefix fits shape, takePayload_payload fits rfl, finishBlock_blockSuffix rfl]
  simp only [blockPrefixSize, blockSuffixSize, Prod.mk.injEq, Reader.mk.injEq, true_and, and_true]
  omega

/-- A block that is taken goes to those already taken. -/
theorem collect_of_takeBlock {reader after : Reader} {records : List Bytes}
    (more : reader.rest ≠ []) (found : reader.takeBlock = (.ok records, after))
    (taken : List (List Bytes)) : reader.collect taken = after.collect (records :: taken) := by
  rw [collect.eq_def]
  split
  · rename_i done
    exact absurd done more
  · split
    · rename_i failed
      rw [found] at failed
      cases failed
    · rename_i others next same
      rw [found] at same
      cases same
      rfl

/-- A reader in front of written blocks collects their records. -/
theorem collect_blocksFrom {runs : List (List Bytes)} (fits : ∀ run ∈ runs, Fits run)
    (reader : Reader) (taken : List (List Bytes))
    (rest : reader.rest = Stream.blocksFrom reader.header.marker reader.blocks reader.checksum runs) :
    reader.collect taken =
      .ok { header := reader.header, records := taken.reverse.flatten ++ runs.flatten
            blocks := reader.blocks + runs.length } := by
  induction runs generalizing reader taken with
  | nil =>
      rw [collect.eq_def]
      simp [rest, Stream.blocksFrom]
  | cons run later ih =>
      have taking := takeBlock_block (fits run (by simp)) rest
      have more : reader.rest ≠ [] := by
        intro done
        have size := congrArg List.length (rest.symm.trans done)
        simp [Stream.blocksFrom, length_block] at size
      rw [collect_of_takeBlock more taking,
        ih (fun other inside => fits other (by simp [inside])) _ _ rfl]
      simp only [List.reverse_cons, List.flatten_append, List.flatten_cons, List.flatten_nil,
        List.append_nil, List.append_assoc, List.length_cons, Except.ok.injEq, Decoded.mk.injEq,
        true_and]
      omega

end Reader

/-- A written stream decodes to its records, in order. -/
theorem decode_written (marker : Marker) {runs : List (List Bytes)} (fits : ∀ run ∈ runs, Fits run) :
    decode (written marker runs) =
      .ok { header := { version, marker }, records := runs.flatten, blocks := runs.length } := by
  have header : Header.bytes { version, marker } = Header.sealed { version, marker } 0 := rfl
  rw [decode, written, header, Reader.start_sealed]
  exact (Reader.collect_blocksFrom fits _ [] rfl).trans (by simp)

/-- A stream is complete and holds some records, in order. -/
def Decodes (data : Bytes) (records : List Bytes) : Prop :=
  (decode data).map (·.records) = .ok records

theorem decodes_written (marker : Marker) {runs : List (List Bytes)} (fits : ∀ run ∈ runs, Fits run) :
    Decodes (written marker runs) runs.flatten := by
  rw [Decodes, decode_written marker fits]
  rfl

end Stream

end RecordSink
