import RecordSink.Proofs.Stream.Written

/-!
# The layout of a stream

A reader accepts the streams of some layout, and no other bytes. Each step of the reader is turned round
here: what it took is the written form of what it gives back. Main statement: a decoded stream has
exactly one layout, and every layout decodes.
-/

namespace RecordSink

/-- The high part of a number does not reach the bytes of its low part. -/
theorem Bytes.ofNatLE_mod (width value : Nat) :
    ofNatLE width (value % Nat.pow 256 width) = ofNatLE width value := by
  rw [← toNatLE_ofNatLE_mod]
  calc
    ofNatLE width (toNatLE (ofNatLE width value))
        = ofNatLE (ofNatLE width value).length (toNatLE (ofNatLE width value)) := by
      rw [length_ofNatLE]
    _ = ofNatLE width value := ofNatLE_toNatLE _

/-- Bytes that spell a number are its written form. -/
theorem Bytes.eq_ofNatLE {width : Nat} {bytes : Bytes} (sized : bytes.length = width) :
    bytes = ofNatLE width (toNatLE bytes) := by
  rw [← sized, ofNatLE_toNatLE]

namespace Stream

/-! ## What a reader took -/

namespace Reader

theorem take_eq_ok {size : Nat} {reader after : Reader} {front : Bytes}
    (taken : reader.take size = (.ok front, after)) :
    front.length = size ∧ reader.rest = front ++ after.rest ∧ after.header = reader.header ∧
      after.blocks = reader.blocks ∧ after.checksum = reader.checksum := by
  rw [take] at taken
  split at taken
  · next found =>
    obtain ⟨whole, sized⟩ := split?_eq_some found
    cases taken
    exact ⟨sized, whole.symm, rfl, rfl, rfl⟩
  · cases taken

/-- Records that were read make up the payload. -/
theorem splitPayload_eq_ok {block count index left : Nat} {taken records : List Bytes} {data : Bytes}
    (read : splitPayload block count taken index left data = .ok records) :
    ∃ run, records = taken.reverse ++ run ∧ run.length = left ∧ data = payload run := by
  induction left generalizing taken index data with
  | zero =>
      rw [splitPayload] at read
      split at read
      · next done =>
        cases read
        exact ⟨[], (List.append_nil _).symm, rfl, done⟩
      · cases read
  | succ left ih =>
      rw [splitPayload] at read
      split at read
      · cases read
      · next length behind found =>
        obtain ⟨whole, sized⟩ := split?_eq_some found
        split at read
        · cases read
        · next record rest found =>
          obtain ⟨inner, fitting⟩ := split?_eq_some found
          obtain ⟨run, same, number, shape⟩ := ih read
          refine ⟨record :: run, ?_, ?_, ?_⟩
          · simp [same]
          · rw [List.length_cons, number]
          · have spelled : length = Bytes.ofNatLE 4 record.length := by
              rw [fitting]
              exact Bytes.eq_ofNatLE sized
            rw [← whole, ← inner, shape, spelled]
            simp [payload, frame]

/-- The bytes that spell the fields of a block are their written form. -/
theorem BlockPrefix.eq_of_ofBytes {raw : Bytes} (sized : raw.length = blockPrefixSize) {number : Nat}
    (magic : (ofBytes raw).magic = blockMagic)
    (numbered : (ofBytes raw).number = number % Nat.pow 2 64) :
    raw = blockPrefix number (ofBytes raw).count (ofBytes raw).size ∧
      (ofBytes raw).size < lengthBound := by
  have twenty : raw.length = 20 := sized
  have parts : raw = raw.take 4 ++ ((raw.drop 4).take 8 ++ ((raw.drop 12).take 4 ++ (raw.drop 16).take 4)) := by
    have last : (raw.drop 16).take 4 = raw.drop 16 := List.take_of_length_le (by simp [twenty])
    have third : raw.drop 12 = (raw.drop 12).take 4 ++ raw.drop 16 := by
      rw [← List.drop_drop (i := 4) (j := 12)]
      exact (List.take_append_drop 4 _).symm
    have second : raw.drop 4 = (raw.drop 4).take 8 ++ raw.drop 12 := by
      rw [← List.drop_drop (i := 8) (j := 4)]
      exact (List.take_append_drop 8 _).symm
    rw [last, ← third, ← second, List.take_append_drop]
  have first : raw.take 4 = blockMagic := magic
  have second : (raw.drop 4).take 8 = Bytes.ofNatLE 8 number := by
    have spelled : Bytes.toNatLE ((raw.drop 4).take 8) = number % Nat.pow 256 8 := numbered
    have eight : ((raw.drop 4).take 8).length = 8 := by simp [twenty]
    rw [Bytes.eq_ofNatLE eight, spelled, Bytes.ofNatLE_mod]
  have third : (raw.drop 12).take 4 = Bytes.ofNatLE 4 (ofBytes raw).count :=
    Bytes.eq_ofNatLE (by simp [twenty])
  have last : (raw.drop 16).take 4 = Bytes.ofNatLE 4 (ofBytes raw).size :=
    Bytes.eq_ofNatLE (by simp [twenty])
  constructor
  · rw [blockPrefix, ← first, ← second, ← third, ← last, List.append_assoc, List.append_assoc]
    exact parts
  · have small := Bytes.toNatLE_lt ((raw.drop 16).take 4)
    have four : ((raw.drop 16).take 4).length = 4 := by simp [twenty]
    rwa [four] at small

theorem finishBlock_eq_ok {reader after : Reader} {records run : List Bytes}
    (finished : reader.finishBlock records = (.ok run, after)) :
    run = records ∧ reader.rest = blockSuffix reader.checksum reader.header.marker ++ after.rest ∧
      after.header = reader.header ∧ after.blocks = reader.blocks + 1 ∧
      after.checksum = reader.checksum := by
  rw [finishBlock] at finished
  split at finished
  · cases finished
  · next suffix between taken =>
    obtain ⟨-, whole, header, blocks, checksum⟩ := take_eq_ok taken
    dsimp only at finished
    split at finished
    · cases finished
    · next summed =>
      split at finished
      · cases finished
      · next marked =>
        cases finished
        rw [Decidable.not_not] at summed marked
        rw [checksum] at summed
        rw [header] at marked
        have shape : suffix = blockSuffix reader.checksum reader.header.marker := by
          rw [blockSuffix, ← summed, ← marked, List.take_append_drop]
        exact ⟨rfl, by rw [whole, shape], header, congrArg (· + 1) blocks, checksum⟩

/-- A payload that was taken is the payload of the records, and the end of their block follows it. -/
theorem takePayload_eq_ok {count size : Nat} {reader after : Reader} {run : List Bytes}
    (taken : reader.takePayload count size = (.ok run, after)) :
    run.length = count ∧ payloadSize run = size ∧
      reader.rest = payload run
        ++ (blockSuffix (reader.checksum.update (payload run)) reader.header.marker ++ after.rest) ∧
      after.header = reader.header ∧ after.blocks = reader.blocks + 1 ∧
      after.checksum = reader.checksum.update (payload run) := by
  rw [takePayload] at taken
  split at taken
  · cases taken
  · next data between found =>
    obtain ⟨sized, whole, sameHeader, sameBlocks, sameChecksum⟩ := take_eq_ok found
    dsimp only at taken
    split at taken
    · cases taken
    · next records read =>
      obtain ⟨others, same, count, shape⟩ := splitPayload_eq_ok read
      obtain ⟨rfl, rest, header, blocks, checksum⟩ := finishBlock_eq_ok taken
      rw [List.reverse_nil, List.nil_append] at same
      subst same shape
      simp only [sameHeader, sameBlocks, sameChecksum] at rest header blocks checksum
      refine ⟨count, ?_, ?_, header, blocks, checksum⟩
      · rw [← length_payload, sized]
      · rw [whole, rest]

/-- A block that was taken is a written block of its records, which fit. -/
theorem takeBlock_eq_ok {reader after : Reader} {run : List Bytes}
    (taken : reader.takeBlock = (.ok run, after)) :
    Fits run ∧
      reader.rest = block reader.header.marker reader.blocks reader.checksum run ++ after.rest ∧
      after.header = reader.header ∧ after.blocks = reader.blocks + 1 ∧
      after.checksum = reader.checksum.update (payload run) := by
  rw [takeBlock] at taken
  split at taken
  · cases taken
  · next raw between found =>
    obtain ⟨sized, whole, sameHeader, sameBlocks, sameChecksum⟩ := take_eq_ok found
    dsimp only at taken
    split at taken
    · cases taken
    · next magic =>
      split at taken
      · cases taken
      · next numbered =>
        rw [Decidable.not_not] at magic numbered
        rw [sameBlocks] at numbered
        obtain ⟨shape, short⟩ := BlockPrefix.eq_of_ofBytes sized magic numbered
        obtain ⟨count, size, rest, header, blocks, checksum⟩ := takePayload_eq_ok taken
        rw [sameHeader] at header rest
        rw [sameBlocks] at blocks
        rw [sameChecksum] at checksum rest
        refine ⟨?_, ?_, header, blocks, checksum⟩
        · rw [Fits, size]
          exact short
        · rw [block, count, size, ← shape, whole, rest, List.append_assoc, List.append_assoc]

/-- A reader that collects everything is in front of written blocks. -/
theorem collect_eq_ok {reader : Reader} {taken : List (List Bytes)} {decoded : Decoded}
    (collected : reader.collect taken = .ok decoded) :
    ∃ runs, (∀ run ∈ runs, Fits run) ∧
      reader.rest = blocksFrom reader.header.marker reader.blocks reader.checksum runs ∧
      decoded = { header := reader.header, records := taken.reverse.flatten ++ runs.flatten
                  blocks := reader.blocks + runs.length } := by
  induction reader, taken using collect.induct with
  | case1 reader taken done =>
      rw [collect.eq_def] at collected
      split at collected
      · cases collected
        exact ⟨[], by simp, done, by simp⟩
      · next more => rw [done] at more; cases more
  | case2 reader taken first rest more cause after failed =>
      rw [collect.eq_def] at collected
      split at collected
      · next done => rw [done] at more; cases more
      · split at collected
        · cases collected
        · next found => rw [found] at failed; cases failed
  | case3 reader taken first rest more run after found ih =>
      have nonempty : reader.rest ≠ [] := by rw [more]; exact List.cons_ne_nil _ _
      rw [collect_of_takeBlock nonempty found] at collected
      obtain ⟨fits, shape, header, blocks, checksum⟩ := takeBlock_eq_ok found
      obtain ⟨runs, fit, behind, all⟩ := ih collected
      rw [header, blocks, checksum] at behind
      rw [header, blocks] at all
      refine ⟨run :: runs, ?_, ?_, ?_⟩
      · intro other inside
        exact (List.mem_cons.mp inside).elim (fun same => same ▸ fits) (fit other)
      · rw [shape, behind, blocksFrom]
      · have number : reader.blocks + 1 + runs.length = reader.blocks + (runs.length + 1) := by omega
        simp [all, number]

theorem bytes_of_ofBytes? {data : Bytes} {marker : Marker}
    (known : Marker.ofBytes? data = some marker) : marker.bytes = data := by
  rw [Marker.ofBytes?] at known
  split at known
  · cases known
    rfl
  · cases known

/-- The bytes of a header before its checksum, put together from what a reader checks of them. -/
theorem take_signed {raw more : Bytes} {marker : Marker} (sized : raw.length = headerSize)
    (magic : raw.take 4 = streamMagic) (opened : raw.drop 4 = version :: more)
    (marked : marker.bytes = (raw.take 22).drop 6) :
    ∃ reserved, raw.take 22 = Header.signed { version, marker } reserved := by
  have shape : raw = streamMagic ++ version :: more := by
    rw [← magic, ← opened, List.take_append_drop]
  have length := congrArg List.length shape
  rw [sized] at length
  cases more with
  | nil => simp [headerSize, streamMagic] at length
  | cons reserved others =>
      subst shape
      refine ⟨reserved, ?_⟩
      simp [streamMagic] at marked
      simp [Header.signed, streamMagic, marked]

/-- A started reader is behind a header. -/
theorem start_eq_ok {data : Bytes} {reader : Reader} (started : start data = .ok reader) :
    ∃ marker reserved, data = Header.sealed { version, marker } reserved ++ reader.rest ∧
      reader = { header := { version, marker }, offset := headerSize, rest := reader.rest, blocks := 0
                 checksum := .empty } := by
  rw [start] at started
  split at started
  · cases started
  · next raw rest found =>
    obtain ⟨whole, sized⟩ := split?_eq_some found
    dsimp only at started
    split at started
    · cases started
    · next magic =>
      split at started
      · cases started
      · next summed =>
        rw [Decidable.not_not] at magic summed
        split at started
        · next given more marker opened known =>
          split at started
          · cases started
          · next same =>
            rw [Decidable.not_not] at same
            cases started
            subst same
            have signed := take_signed sized magic opened (bytes_of_ofBytes? known)
            obtain ⟨reserved, signed⟩ := signed
            refine ⟨marker, reserved, ?_, rfl⟩
            rw [← whole, Header.sealed, ← signed]
            have tail : raw.drop 22 = Checksum.toBytes (Checksum.ofBytes (raw.take 22)) := summed
            rw [← tail, List.take_append_drop]
        · cases started

end Reader

/-! ## Layouts -/

/-- What the bytes of a stream are made of: its marker, the byte of the header without a meaning, and the
records of each block, whose sizes fit their fields. -/
structure Layout where
  marker : Marker
  reserved : UInt8
  batches : List (List Bytes)
  fits : ∀ batch ∈ batches, Fits batch

namespace Layout

/-- The header with its checksum. -/
def header (layout : Layout) : Bytes :=
  let signed := Header.signed { version := 1, marker := layout.marker } layout.reserved
  signed ++ Bytes.ofNatLE 4 (Checksum.ofBytes signed).toNat

/-- The bytes of the block with a given number and given records. Its checksum covers the payloads of all
blocks up to it. -/
def block (layout : Layout) (number : Nat) (batch : List Bytes) : Bytes :=
  let covered := (layout.batches.take (number + 1)).flatMap payload
  blockMagic ++ Bytes.ofNatLE 8 number ++ Bytes.ofNatLE 4 batch.length
    ++ Bytes.ofNatLE 4 (payload batch).length
    ++ batch.flatMap (fun record => Bytes.ofNatLE 4 record.length ++ record)
    ++ Bytes.ofNatLE 4 (Checksum.ofBytes covered).toNat
    ++ layout.marker.bytes

/-- The bytes of the stream. -/
def bytes (layout : Layout) : Bytes := layout.header ++ (layout.batches.mapIdx layout.block).flatten

/-- What a reader gives back. -/
def decoded (layout : Layout) : Decoded :=
  { header := { version := 1, marker := layout.marker }, records := layout.batches.flatten
    blocks := layout.batches.length }

/-- The last blocks of a stream are written blocks behind the first ones. -/
theorem flatten_mapIdx_block (layout : Layout) {past rest : List (List Bytes)}
    (whole : layout.batches = past ++ rest) :
    (rest.mapIdx fun index batch => layout.block (past.length + index) batch).flatten =
      blocksFrom layout.marker past.length (summed .empty past) rest := by
  induction rest generalizing past with
  | nil => rfl
  | cons batch rest ih =>
      have onward : layout.batches = (past ++ [batch]) ++ rest := by rw [whole, List.append_assoc]; rfl
      have covered : layout.batches.take (past.length + 1) = past ++ [batch] := by
        rw [onward, ← List.length_singleton (a := batch), ← List.length_append, List.take_left]
      have first : layout.block past.length batch =
          Stream.block layout.marker past.length (summed .empty past) batch := by
        have sums : Checksum.ofBytes ((past ++ [batch]).flatMap payload) =
            ((summed .empty past).update (payload batch)).value := by
          simp [Checksum.ofBytes, summed, Checksum.update_append]
        have framed : batch.flatMap (fun record => Bytes.ofNatLE 4 record.length ++ record) =
            payload batch := rfl
        simp only [block, covered, sums, framed, Stream.block, blockPrefix, blockSuffix, length_payload,
          Checksum.toBytes, List.append_assoc]
      have later := ih onward
      rw [List.length_append, List.length_singleton, summed_append, summed_cons, summed_nil] at later
      rw [List.mapIdx_cons, List.flatten_cons, blocksFrom, Nat.add_zero, first, ← later]
      simp only [Nat.add_assoc, Nat.add_comm 1]

/-- A stream is a header with written blocks behind it. -/
theorem bytes_eq (layout : Layout) :
    layout.bytes = Header.sealed { version, marker := layout.marker } layout.reserved
      ++ blocksFrom layout.marker 0 .empty layout.batches := by
  have all : layout.batches = [] ++ layout.batches := rfl
  have blocks := layout.flatten_mapIdx_block all
  simp only [List.length_nil, Nat.zero_add, summed_nil] at blocks
  rw [bytes, blocks]
  rfl

/-- Every layout decodes. -/
theorem decode_bytes (layout : Layout) : decode layout.bytes = .ok layout.decoded := by
  rw [bytes_eq, decode, Reader.start_sealed]
  exact (Reader.collect_blocksFrom layout.fits _ [] rfl).trans (by simp [decoded, version])

/-- What decodes has a layout. -/
theorem of_decode {data : Bytes} {decoded : Decoded} (found : decode data = .ok decoded) :
    ∃ layout : Layout, layout.bytes = data ∧ layout.decoded = decoded := by
  rw [decode] at found
  cases started : Reader.start data with
  | error cause => rw [started] at found; cases found
  | ok reader =>
      rw [started] at found
      obtain ⟨marker, reserved, front, made⟩ := Reader.start_eq_ok started
      obtain ⟨batches, fits, behind, all⟩ := Reader.collect_eq_ok found
      rw [made] at behind all
      refine ⟨⟨marker, reserved, batches, fits⟩, ?_, ?_⟩
      · rw [bytes_eq, front, behind]
      · rw [all]
        simp [Layout.decoded, version]

/-- Written blocks of one beginning hold the same records where their bytes are the same. -/
theorem blocksFrom_injective {marker : Marker} {number : Nat} {checksum : Checksum}
    {first second : List (List Bytes)} (fits : ∀ batch ∈ first, Fits batch)
    (fit : ∀ batch ∈ second, Fits batch)
    (same : blocksFrom marker number checksum first = blocksFrom marker number checksum second) :
    first = second := by
  induction first generalizing number checksum second with
  | nil =>
      cases second with
      | nil => rfl
      | cons run rest =>
          have size := congrArg List.length same
          simp only [blocksFrom, List.length_nil, List.length_append, length_block] at size
          omega
  | cons run rest ih =>
      cases second with
      | nil =>
          have size := congrArg List.length same
          simp only [blocksFrom, List.length_nil, List.length_append, length_block] at size
          omega
      | cons other later =>
          let reader : Reader := { header := { version, marker }, offset := 0, blocks := number, checksum
                                   rest := blocksFrom marker number checksum (run :: rest) }
          have one : reader.rest = Stream.block marker number checksum run
              ++ blocksFrom marker (number + 1) (checksum.update (payload run)) rest := rfl
          have two : reader.rest = Stream.block marker number checksum other
              ++ blocksFrom marker (number + 1) (checksum.update (payload other)) later := same
          have both := (Reader.takeBlock_block (fits run (by simp)) one).symm.trans
            (Reader.takeBlock_block (fit other (by simp)) two)
          simp only [Prod.mk.injEq, Except.ok.injEq, Reader.mk.injEq] at both
          obtain ⟨rfl, -, -, behind, -⟩ := both
          rw [ih (fun batch inside => fits batch (by simp [inside]))
            (fun batch inside => fit batch (by simp [inside])) behind]

/-- Headers that are the same have one marker and one reserved byte. -/
theorem sealed_injective {first second : Marker} {reserved other : UInt8}
    (same : Header.sealed { version, marker := first } reserved =
      Header.sealed { version, marker := second } other) : first = second ∧ reserved = other := by
  have sized := first.size.trans second.size.symm
  have signed := (List.append_inj same (by simp [Header.signed, sized])).1
  simp only [Header.signed, List.append_cancel_left_eq, List.cons.injEq, true_and] at signed
  obtain ⟨rfl, marked⟩ := signed
  cases first
  cases second
  cases marked
  exact ⟨rfl, rfl⟩

/-- No stream has two layouts. -/
theorem bytes_injective : Function.Injective bytes := by
  intro first second same
  obtain ⟨marker, reserved, batches, fits⟩ := first
  obtain ⟨others, spare, runs, fit⟩ := second
  rw [bytes_eq, bytes_eq] at same
  obtain ⟨front, back⟩ := List.append_inj same (by rw [length_sealed, length_sealed])
  obtain ⟨rfl, rfl⟩ := sealed_injective front
  cases blocksFrom_injective fits fit back
  rfl

end Layout

/-- The streams that decode are those with a layout, which tells what is decoded and which the bytes
determine. -/
theorem decode_eq_ok_iff :
    (∀ data decoded, decode data = .ok decoded ↔
      ∃ layout : Layout, layout.bytes = data ∧ layout.decoded = decoded) ∧
    Function.Injective Layout.bytes := by
  constructor
  · intro data decoded
    constructor
    · exact Layout.of_decode
    · rintro ⟨layout, rfl, rfl⟩
      exact layout.decode_bytes
  · exact Layout.bytes_injective

end Stream

end RecordSink
