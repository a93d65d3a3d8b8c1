import RecordSink.Proofs.Stream.Writing

/-!
# Streams cut short

A reader that is given only the front of a written stream. Between two blocks the front is a stream of its
own; anywhere else the reader runs out of bytes inside a header or a block. Main statement: a cut is noticed
exactly where it does not fall between blocks.
-/

namespace RecordSink.Stream

/-- A reader needs bytes behind the end of its data. Its place lies within the data, and what it needs lies
before a limit. -/
def RunsOut (cause : DecodeError) (ending limit : Nat) : Prop :=
  ∃ offset needed, cause = .truncated offset needed ∧ offset ≤ ending ∧ 0 < needed ∧ ending + needed ≤ limit

theorem RunsOut.mono {cause : DecodeError} {ending limit later : Nat} (runsOut : RunsOut cause ending limit)
    (further : limit ≤ later) : RunsOut cause ending later := by
  obtain ⟨offset, needed, same, reached, some, within⟩ := runsOut
  exact ⟨offset, needed, same, reached, some, Nat.le_trans within further⟩

/-- The size of blocks in bytes. -/
def blocksSize (runs : List (List Bytes)) : Nat := sumOver (fun run => 40 + payloadSize run) runs

theorem blocksSize_cons (run : List Bytes) (rest : List (List Bytes)) :
    blocksSize (run :: rest) = 40 + payloadSize run + blocksSize rest := rfl

theorem split?_eq_none {size : Nat} {data : Bytes} (short : data.length < size) : split? size data = none := by
  have fewer : ¬ (data.take size).length = size := by
    rw [List.length_take]
    omega
  simp only [split?, if_neg fewer]

namespace Reader

variable {run : List Bytes} {runs : List (List Bytes)} {size : Nat}

/-- Too few bytes are not taken. -/
theorem take_of_short (reader : Reader) (count : Nat) (short : reader.rest.length < count) :
    ∃ cause, reader.take count = (.error cause, reader) ∧
      RunsOut cause (reader.offset + reader.rest.length) (reader.offset + count) := by
  refine ⟨.truncated reader.offset (count - reader.rest.length), ?_, _, _, rfl, ?_, ?_, ?_⟩
  · rw [take, split?_eq_none short]
  all_goals omega

/-- A reader runs out of bytes in front of the end of a block. -/
theorem finishBlock_of_short (reader : Reader) (run : List Bytes)
    (short : reader.rest.length < blockSuffixSize) :
    ∃ cause, reader.finishBlock run = (.error cause, reader) ∧
      RunsOut cause (reader.offset + reader.rest.length) (reader.offset + blockSuffixSize) := by
  obtain ⟨cause, failed, runsOut⟩ := reader.take_of_short blockSuffixSize short
  exact ⟨cause, by rw [finishBlock, failed], runsOut⟩

/-- A reader runs out of bytes in the payload of a block or behind it. -/
theorem takePayload_of_short (reader : Reader) (fits : Fits run)
    (rest : reader.rest =
      (payload run ++ blockSuffix (reader.checksum.update (payload run)) reader.header.marker).take size)
    (short : size < payloadSize run + blockSuffixSize) :
    ∃ cause after, reader.takePayload run.length (payloadSize run) = (.error cause, after) ∧
      RunsOut cause (reader.offset + size) (reader.offset + payloadSize run + blockSuffixSize) := by
  have length : reader.rest.length = size := by
    rw [rest, List.length_take, List.length_append, length_payload, length_blockSuffix]
    omega
  by_cases cut : size < payloadSize run
  · obtain ⟨cause, failed, runsOut⟩ := reader.take_of_short (payloadSize run) (length ▸ cut)
    rw [length] at runsOut
    exact ⟨cause, reader, by rw [takePayload, failed], runsOut.mono (Nat.le_add_right _ _)⟩
  · obtain ⟨left, rfl⟩ := Nat.exists_eq_add_of_le (Nat.not_lt.mp cut)
    rw [← length_payload, List.take_length_add_append] at rest
    have behind := congrArg List.length rest
    rw [length, List.length_append, length_payload] at behind
    rw [takePayload_payload fits rest]
    obtain ⟨cause, failed, runsOut⟩ := finishBlock_of_short
      { reader with
        offset := reader.offset + payloadSize run
        rest := (blockSuffix (reader.checksum.update (payload run)) reader.header.marker).take left
        checksum := reader.checksum.update (payload run) } run (by dsimp only; omega)
    refine ⟨cause, _, failed, ?_⟩
    dsimp only at runsOut
    rwa [Nat.add_assoc, ← behind] at runsOut

/-- A reader runs out of bytes in a block that is not there whole. -/
theorem takeBlock_of_short (reader : Reader) (fits : Fits run)
    (rest : reader.rest = (block reader.header.marker reader.blocks reader.checksum run).take size)
    (short : size < 40 + payloadSize run) :
    ∃ cause after, reader.takeBlock = (.error cause, after) ∧
      RunsOut cause (reader.offset + size) (reader.offset + (40 + payloadSize run)) := by
  have length : reader.rest.length = size := by
    rw [rest, List.length_take, length_block]
    omega
  by_cases cut : size < blockPrefixSize
  · obtain ⟨cause, failed, runsOut⟩ := reader.take_of_short blockPrefixSize (length ▸ cut)
    rw [length] at runsOut
    exact ⟨cause, reader, by rw [takeBlock, failed], runsOut.mono (by simp only [blockPrefixSize]; omega)⟩
  · obtain ⟨left, rfl⟩ := Nat.exists_eq_add_of_le (Nat.not_lt.mp cut)
    rw [block, List.append_assoc, ← length_blockPrefix reader.blocks run.length (payloadSize run),
      List.take_length_add_append] at rest
    rw [takeBlock_blockPrefix fits rest]
    obtain ⟨cause, after, failed, runsOut⟩ := takePayload_of_short
      { reader with
        offset := reader.offset + blockPrefixSize
        rest := (payload run
          ++ blockSuffix (reader.checksum.update (payload run)) reader.header.marker).take left }
      fits rfl (by simp only [blockPrefixSize, blockSuffixSize] at *; omega)
    refine ⟨cause, after, failed, ?_⟩
    rw [← Nat.add_assoc]
    exact runsOut.mono (by simp only [blockPrefixSize, blockSuffixSize]; omega)

/-- A block that is not taken ends the collecting. -/
theorem collect_of_takeBlock_error {reader after : Reader} {cause : DecodeError}
    (more : reader.rest ≠ []) (failed : reader.takeBlock = (.error cause, after))
    (taken : List (List Bytes)) : reader.collect taken = .error cause := by
  rw [collect.eq_def]
  split
  · next done => exact absurd done more
  · split
    · next same =>
      rw [failed] at same
      cases same
      rfl
    · next found =>
      rw [failed] at found
      cases found

/-- A reader in front of blocks that end inside one of them runs out of bytes. -/
theorem collect_of_short (fits : ∀ run ∈ runs, Fits run) (reader : Reader) (taken : List (List Bytes))
    (rest : reader.rest =
      (blocksFrom reader.header.marker reader.blocks reader.checksum runs).take size)
    (short : size < blocksSize runs) (inside : ∀ count ≤ runs.length, size ≠ blocksSize (runs.take count)) :
    ∃ cause, reader.collect taken = .error cause ∧
      RunsOut cause (reader.offset + size) (reader.offset + blocksSize runs) := by
  induction runs generalizing reader taken size with
  | nil => exact absurd short (Nat.not_lt_zero _)
  | cons run later ih =>
      have some : size ≠ 0 := inside 0 (Nat.zero_le _)
      have length : reader.rest.length = size := by
        rw [rest, List.length_take, length_blocksFrom]
        exact Nat.min_eq_left (Nat.le_of_lt short)
      have more : reader.rest ≠ [] := fun none => some (by rw [← length, none, List.length_nil])
      rw [blocksFrom] at rest
      rw [blocksSize_cons] at short ⊢
      -- the cut is in this block, or behind it and then in a later one
      by_cases cut : size < 40 + payloadSize run
      · rw [List.take_append_of_le_length (by rw [length_block]; omega)] at rest
        obtain ⟨cause, after, failed, runsOut⟩ := reader.takeBlock_of_short (fits run (by simp)) rest cut
        exact ⟨cause, collect_of_takeBlock_error more failed taken, runsOut.mono (by omega)⟩
      · obtain ⟨left, rfl⟩ := Nat.exists_eq_add_of_le (Nat.not_lt.mp cut)
        rw [← length_block reader.header.marker reader.blocks reader.checksum run,
          List.take_length_add_append] at rest
        rw [collect_of_takeBlock more (takeBlock_block (fits run (by simp)) rest)]
        have inner : ∀ count ≤ later.length, left ≠ blocksSize (later.take count) := by
          intro count within same
          refine inside (count + 1) (by simpa using within) ?_
          rw [List.take_succ_cons, blocksSize_cons, same]
        obtain ⟨cause, failed, runsOut⟩ := ih (fun other given => fits other (by simp [given]))
          { reader with
            offset := reader.offset + 40 + payloadSize run
            rest := (blocksFrom reader.header.marker (reader.blocks + 1)
              (reader.checksum.update (payload run)) later).take left
            blocks := reader.blocks + 1
            checksum := reader.checksum.update (payload run) }
          (run :: taken) rfl (by omega) inner
        refine ⟨cause, failed, ?_⟩
        simpa only [Nat.add_assoc] using runsOut

end Reader

/-- The first blocks of a stream, with its header, are a stream. -/
theorem take_written (marker : Marker) (runs : List (List Bytes)) (count : Nat) :
    (written marker runs).take (written marker (runs.take count)).length = written marker (runs.take count) := by
  have parts := written_append marker (runs.take count) (runs.drop count)
  rw [List.take_append_drop] at parts
  rw [parts, List.take_left]

theorem start_of_short {data : Bytes} (short : data.length < headerSize) :
    Reader.start data = .error (.truncated 0 (headerSize - data.length)) := by
  rw [Reader.start, split?_eq_none short]

/-- A written stream that ends in its header or inside a block is reported as cut short. -/
theorem decode_written_of_short {marker : Marker} {runs : List (List Bytes)} {size : Nat}
    (fits : ∀ run ∈ runs, Fits run) (short : size < (written marker runs).length)
    (inside : ∀ count ≤ runs.length, size ≠ (written marker (runs.take count)).length) :
    ∃ cause, decode ((written marker runs).take size) = .error cause ∧
      RunsOut cause size (written marker runs).length := by
  have whole (count : Nat) : (written marker (runs.take count)).length =
      headerSize + blocksSize (runs.take count) := length_written marker _
  rw [length_written] at short ⊢
  by_cases cut : size < headerSize
  · have length : ((written marker runs).take size).length = size := by
      rw [List.length_take, length_written]
      omega
    refine ⟨.truncated 0 (headerSize - size), ?_, 0, headerSize - size, rfl, ?_⟩
    · rw [decode, start_of_short (by rwa [length]), length]
      rfl
    · exact ⟨Nat.zero_le _, by omega⟩
  · obtain ⟨left, rfl⟩ := Nat.exists_eq_add_of_le (Nat.not_lt.mp cut)
    have header : Header.bytes { version, marker } = Header.sealed { version, marker } 0 := rfl
    rw [written, header, ← length_sealed marker 0, List.take_length_add_append, decode,
      Reader.start_sealed, length_sealed]
    exact Reader.collect_of_short fits
      { header := { version, marker }, offset := headerSize, blocks := 0, checksum := .empty
        rest := (blocksFrom marker 0 .empty runs).take left }
      [] rfl (Nat.lt_of_add_lt_add_left short) fun count within same =>
        inside count within (by rw [whole, same])

/-- What a reader makes of the front of a written stream. Where the front ends between two blocks, it is a
stream with the blocks before. Anywhere else the reader says that it is cut short: at a place within the
front, with bytes missing that the whole stream has. -/
theorem decode_take {marker : Marker} {batches : List (List Bytes)} {encoder after : Encoder Body}
    {counts : List UInt32} {size : Nat} (started : Encoder.start marker Body.empty = .ok encoder)
    (appended : encoder.appendAll batches = (.ok counts, after))
    (short : size < after.out.content.length) :
    let blocks := batches.flatMap runs
    after.out.content = written marker blocks ∧
    (∀ count ≤ blocks.length, size = (written marker (blocks.take count)).length →
      decode (after.out.content.take size) =
        .ok { header := { version := 1, marker }, records := (blocks.take count).flatten
              blocks := count }) ∧
    ((∀ count ≤ blocks.length, size ≠ (written marker (blocks.take count)).length) →
      ∃ offset needed, decode (after.out.content.take size) = .error (.truncated offset needed) ∧
        offset ≤ size ∧ 0 < needed ∧ size + needed ≤ after.out.content.length) := by
  intro blocks
  obtain ⟨⟨content, fits, -, -⟩, -⟩ := Encoder.appended_appendAll started appended
  rw [content] at short ⊢
  refine ⟨rfl, ?_, ?_⟩
  · rintro count within rfl
    have fit : ∀ run ∈ blocks.take count, Fits run := fun run given => fits run (List.mem_of_mem_take given)
    rw [take_written, decode_written marker fit, List.length_take, Nat.min_eq_left within]
    rfl
  · intro inside
    obtain ⟨cause, failed, offset, needed, rfl, bounds⟩ := decode_written_of_short fits short inside
    exact ⟨offset, needed, failed, bounds⟩

/-- Two blocks, cut between them and inside the second one. -/
theorem decode_take_trial : ∃ encoder after,
    Encoder.start Marker.blank Body.empty = .ok encoder ∧
    encoder.appendAll [[[7]], [[], [1, 2]]] = (.ok [1, 1], after) ∧
    after.out.content.length = 121 ∧
    decode (after.out.content.take 71) =
      .ok { header := { version := 1, marker := .blank }, records := [[7]], blocks := 1 } ∧
    ∃ offset needed, decode (after.out.content.take 100) = .error (.truncated offset needed) ∧
      offset ≤ 100 ∧ 0 < needed ∧ 100 + needed ≤ 121 := by
  have started := Encoder.start_empty .blank
  have appended : ∃ after, (Encoder.mk (⟨Header.bytes { version, marker := .blank }⟩ : Body)
      { version, marker := .blank } 0 .empty 0).appendAll [[[7]], [[], [1, 2]]] = (.ok [1, 1], after) := by
    simp [Encoder.appendAll, Encoder.append, Encoder.writeBlocks, Encoder.writeBlock, runs, fitting,
      Body.writeAll_eq, payloadSize, frameSize, payloadLimit, lengthBound]
  obtain ⟨after, appended⟩ := appended
  have blocks : [[[7]], [[], [1, 2]]].flatMap runs = ([[[7]], [[], [1, 2]]] : List (List Bytes)) := by
    simp [runs, fitting, frameSize, payloadLimit]
  have length : after.out.content.length = 121 := by
    rw [(Encoder.appended_appendAll started appended).1.content, blocks, length_written]
    rfl
  have between := (decode_take started appended (show 71 < after.out.content.length by omega)).2.1 1
  have inside := (decode_take started appended (show 100 < after.out.content.length by omega)).2.2
  rw [blocks] at between inside
  rw [length] at inside
  refine ⟨_, after, started, appended, length, between (by decide) (by rw [length_written]; rfl),
    inside fun count within => ?_⟩
  rw [length_written]
  have few : count = 0 ∨ count = 1 ∨ count = 2 := by
    simp only [List.length_cons, List.length_nil] at within
    omega
  rcases few with rfl | rfl | rfl <;> decide

end RecordSink.Stream
