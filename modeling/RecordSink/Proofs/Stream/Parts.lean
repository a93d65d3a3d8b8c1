import RecordSink.Proofs.Stream.Corruption

/-!
# Parts of a stream

An encoder that writes each batch into a body of its own leaves the parts of one stream. The first block
of a part carries its number and its marker, so that a part fits behind the blocks before it in one place
only. Main statement: parts decode behind the header exactly if they are the first ones, each once and in
their order.
-/

namespace RecordSink.Stream

namespace Encoder

/-- Appends batches, each to a body of its own, until one fails; the result is what the bodies hold. -/
def appendParts (batches : List (List Bytes)) (encoder : Encoder Body) :
    Except WriteError (List Bytes) × Encoder Body :=
  match batches with
  | [] => (.ok [], encoder)
  | batch :: rest =>
      match ({ encoder with out := Body.empty } : Encoder Body).append batch with
      | (.error cause, encoder) => (.error cause, encoder)
      | (.ok _, encoder) =>
          match encoder.appendParts rest with
          | (.error cause, after) => (.error cause, after)
          | (.ok parts, after) => (.ok (encoder.out.content :: parts), after)

/-- Some encoder with the marker, in some state of it, appends a batch that is not empty to a new body, and
the bytes are what the body holds then. -/
def IsPart (marker : Marker) (bytes : Bytes) : Prop :=
  ∃ (encoder after : Encoder Body) (batch : List Bytes) (count : UInt32),
    encoder.header.marker = marker ∧ encoder.out = Body.empty ∧ batch ≠ [] ∧
      encoder.append batch = (.ok count, after) ∧ after.out.content = bytes

end Encoder

/-- The bytes of parts that follow each other, the first block with the given number. -/
def partsFrom (marker : Marker) (number : Nat) (checksum : Checksum) : List (List Bytes) → List Bytes
  | [] => []
  | batch :: rest =>
      blocksFrom marker number checksum (runs batch)
        :: partsFrom marker (number + (runs batch).length) (summed checksum (runs batch)) rest

/-! ## The parts of an encoder -/

section

variable {marker : Marker} {number : Nat} {checksum : Checksum} {batches : List (List Bytes)}

/-- Parts behind each other are the blocks of all batches. -/
theorem flatten_partsFrom (marker : Marker) (number : Nat) (checksum : Checksum)
    (batches : List (List Bytes)) :
    (partsFrom marker number checksum batches).flatten =
      blocksFrom marker number checksum (batches.flatMap runs) := by
  induction batches generalizing number checksum with
  | nil => rfl
  | cons batch rest ih =>
      rw [partsFrom, List.flatten_cons, ih, List.flatMap_cons, blocksFrom_append]

@[simp]
theorem length_partsFrom : (partsFrom marker number checksum batches).length = batches.length := by
  induction batches generalizing number checksum with
  | nil => rfl
  | cons batch rest ih => rw [partsFrom, List.length_cons, ih, List.length_cons]

/-- The first parts are the parts of the first batches. -/
theorem take_partsFrom (marker : Marker) (number : Nat) (checksum : Checksum)
    (batches : List (List Bytes)) (count : Nat) :
    (partsFrom marker number checksum batches).take count =
      partsFrom marker number checksum (batches.take count) := by
  induction batches generalizing number checksum count with
  | nil => simp [partsFrom]
  | cons batch rest ih =>
      cases count with
      | zero => rfl
      | succ count => rw [partsFrom, List.take_succ_cons, ih, List.take_succ_cons, partsFrom]

/-- A part holds the blocks of its batch, which go on behind the batches before it. -/
theorem eq_blocksFrom_of_mem_partsFrom {part : Bytes}
    (inside : part ∈ partsFrom marker number checksum batches) :
    ∃ before batch rest, batches = before ++ batch :: rest ∧
      part = blocksFrom marker (number + (before.flatMap runs).length)
        (summed checksum (before.flatMap runs)) (runs batch) := by
  induction batches generalizing number checksum with
  | nil => cases inside
  | cons first others ih =>
      rw [partsFrom, List.mem_cons] at inside
      rcases inside with rfl | later
      · exact ⟨[], first, others, rfl, by simp⟩
      · obtain ⟨before, batch, rest, rfl, shape⟩ := ih later
        refine ⟨first :: before, batch, rest, rfl, ?_⟩
        rw [shape, List.flatMap_cons, List.length_append, summed_append, Nat.add_assoc]

end

theorem runs_ne_nil {batch : List Bytes} (filled : batch ≠ []) : runs batch ≠ [] := by
  intro none
  have records := flatten_runs batch
  rw [none, List.flatten_nil] at records
  exact filled records.symm

namespace Encoder

/-- What an encoder wrote into new bodies are parts, and their blocks fit. -/
theorem appendParts_eq_ok {batches : List (List Bytes)} {encoder after : Encoder Body}
    {parts : List Bytes} (appended : encoder.appendParts batches = (.ok parts, after)) :
    parts = partsFrom encoder.header.marker encoder.blocks encoder.checksum batches ∧
      (∀ run ∈ batches.flatMap runs, Fits run) ∧
      after.blocks = encoder.blocks + (batches.flatMap runs).length := by
  induction batches generalizing encoder parts with
  | nil =>
      cases appended
      exact ⟨rfl, by simp, rfl⟩
  | cons batch rest ih =>
      rw [appendParts] at appended
      split at appended
      · cases appended
      · next count between first =>
        obtain ⟨-, fits, wrote⟩ := writeBlocks_eq_ok (show Body.taking.ready _ from trivial) first
        have content : between.out.content =
            blocksFrom encoder.header.marker encoder.blocks encoder.checksum (runs batch) :=
          wrote.content
        have header : between.header = encoder.header := wrote.header
        have blocks : between.blocks = encoder.blocks + (runs batch).length := wrote.blocks
        have checksum : between.checksum = summed encoder.checksum (runs batch) := wrote.checksum
        split at appended
        · cases appended
        · next others last later =>
          cases appended
          obtain ⟨shape, fit, number⟩ := ih later
          refine ⟨?_, ?_, ?_⟩
          · rw [partsFrom, shape, content, header, blocks, checksum]
          · intro run inside
            rw [List.flatMap_cons, List.mem_append] at inside
            exact inside.elim (fits run) (fit run)
          · rw [number, blocks, List.flatMap_cons, List.length_append, Nat.add_assoc]

/-- A part opens with a block that ends with its marker. -/
theorem IsPart.eq_block_append {marker : Marker} {bytes : Bytes} (part : IsPart marker bytes) :
    ∃ number checksum run rest, Fits run ∧ bytes = block marker number checksum run ++ rest := by
  obtain ⟨encoder, after, batch, count, marked, new, filled, appended, content⟩ := part
  obtain ⟨-, fits, wrote⟩ := writeBlocks_eq_ok (show Body.taking.ready _ from trivial) appended
  have blocks := wrote.content
  simp only [Body.taking, new, Body.empty, List.nil_append, content] at blocks
  cases batched : runs batch with
  | nil => exact absurd batched (runs_ne_nil filled)
  | cons run later =>
      rw [batched, blocksFrom, marked] at blocks
      exact ⟨_, _, run, _, fits run (by simp [batched]), blocks⟩

end Encoder

/-! ## Blocks at the front -/

theorem ofNatLE_eight_mod {first second : Nat} (same : Bytes.ofNatLE 8 first = Bytes.ofNatLE 8 second) :
    first % Nat.pow 2 64 = second % Nat.pow 2 64 := by
  have read := congrArg Bytes.toNatLE same
  rwa [Bytes.toNatLE_ofNatLE_mod, Bytes.toNatLE_ofNatLE_mod] at read

/-- Bytes open with one block at most: its number, its marker and its records are determined, and so is
what follows it. -/
theorem block_append_inj {marker other : Marker} {number index : Nat} {checksum state : Checksum}
    {first second : List Bytes} {back rest : Bytes} (fits : Fits first) (fit : Fits second)
    (same : block marker number checksum first ++ back = block other index state second ++ rest) :
    number % Nat.pow 2 64 = index % Nat.pow 2 64 ∧ marker = other ∧ first = second ∧ back = rest := by
  simp only [block, List.append_assoc] at same
  obtain ⟨fields, behind⟩ := List.append_inj same (by simp [blockPrefix])
  obtain ⟨counted, sizes⟩ := List.append_inj fields (by simp)
  obtain ⟨numbered, -⟩ := List.append_inj counted (by simp)
  have numbers := (List.append_inj numbered rfl).2
  have size := ofNatLE_inj_of_lengthBound fits fit sizes
  obtain rfl : first = second := payload_cancel fits fit behind (.inr size)
  obtain ⟨suffixes, behind⟩ := List.append_inj (List.append_cancel_left behind)
    (by simp [blockSuffix, marker.size, other.size])
  have markers := (List.append_inj suffixes (by simp)).2
  have marked : marker = other := by
    obtain ⟨bytes, size⟩ := marker
    obtain ⟨others, sized⟩ := other
    cases markers
    rfl
  exact ⟨ofNatLE_eight_mod numbers, marked, rfl, behind⟩

/-- Blocks that open with other blocks of the same beginning go on with the ones that are left. -/
theorem blocksFrom_eq_append {marker : Marker} {number : Nat} {checksum : Checksum}
    {whole front : List (List Bytes)} {back : Bytes} (fits : ∀ run ∈ whole, Fits run)
    (fit : ∀ run ∈ front, Fits run)
    (same : blocksFrom marker number checksum whole = blocksFrom marker number checksum front ++ back) :
    ∃ rest, whole = front ++ rest ∧
      back = blocksFrom marker (number + front.length) (summed checksum front) rest := by
  induction front generalizing number checksum whole with
  | nil => exact ⟨whole, rfl, same.symm⟩
  | cons run others ih =>
      cases whole with
      | nil =>
          have size := congrArg List.length same
          simp only [blocksFrom, List.length_nil, List.length_append, length_block] at size
          omega
      | cons first later =>
          rw [blocksFrom, blocksFrom, List.append_assoc] at same
          obtain ⟨-, -, rfl, behind⟩ := block_append_inj (fits first (by simp)) (fit run (by simp)) same
          obtain ⟨rest, rfl, shape⟩ := ih (fun other inside => fits other (by simp [inside]))
            (fun other inside => fit other (by simp [inside])) behind
          refine ⟨rest, rfl, ?_⟩
          rw [shape, summed_cons, List.length_cons, Nat.add_assoc, Nat.add_comm 1]

/-! ## Parts behind a header -/

/-- The first batches with a given number of blocks are determined, where no batch is empty. -/
theorem eq_of_length_flatMap_runs {batches first second back rest : List (List Bytes)}
    (filled : ∀ batch ∈ batches, batch ≠ []) (split : batches = first ++ back)
    (other : batches = second ++ rest)
    (same : (first.flatMap runs).length = (second.flatMap runs).length) : first = second := by
  induction first generalizing batches second with
  | nil =>
      cases second with
      | nil => rfl
      | cons batch later =>
          have some := List.length_pos_iff.mpr (runs_ne_nil (filled batch (by simp [other])))
          simp only [List.flatMap_nil, List.length_nil, List.flatMap_cons, List.length_append] at same
          omega
  | cons batch others ih =>
      cases second with
      | nil =>
          have some := List.length_pos_iff.mpr (runs_ne_nil (filled batch (by simp [split])))
          simp only [List.flatMap_nil, List.length_nil, List.flatMap_cons, List.length_append] at same
          omega
      | cons equal later =>
          subst split
          rw [List.cons_append, List.cons_append, List.cons.injEq] at other
          obtain ⟨rfl, other⟩ := other
          simp only [List.flatMap_cons, List.length_append] at same
          rw [ih (fun given inside => filled given (by simp [inside])) rfl other (by omega)]

section

variable {marker : Marker} {batches : List (List Bytes)}

theorem ne_nil_of_mem_partsFrom {number : Nat} {checksum : Checksum}
    (filled : ∀ batch ∈ batches, batch ≠ []) {part : Bytes}
    (own : part ∈ partsFrom marker number checksum batches) : part ≠ [] := by
  obtain ⟨before, batch, later, whole, rfl⟩ := eq_blocksFrom_of_mem_partsFrom own
  have some := runs_ne_nil (filled batch (by simp [whole]))
  intro none
  cases batched : runs batch with
  | nil => exact some batched
  | cons run rest =>
      have size := congrArg List.length none
      simp only [batched, blocksFrom, List.length_nil, List.length_append, length_block] at size
      omega

/-- Behind the first batches, the only part that opens with a block of the right number is the one of the
next batch. -/
theorem eq_next_of_mem_partsFrom {past rest : List (List Bytes)} (split : batches = past ++ rest)
    (filled : ∀ batch ∈ batches, batch ≠ []) (fits : ∀ run ∈ batches.flatMap runs, Fits run)
    (numbered : (batches.flatMap runs).length < Nat.pow 2 64) {part : Bytes}
    (own : part ∈ partsFrom marker 0 .empty batches) {state : Checksum} {run : List Bytes}
    {back behind : Bytes} (fit : Fits run)
    (opened : block marker (past.flatMap runs).length state run ++ back = part ++ behind) :
    ∃ batch later, rest = batch :: later ∧
      part = blocksFrom marker (past.flatMap runs).length (summed .empty (past.flatMap runs))
        (runs batch) := by
  obtain ⟨before, batch, later, whole, shape⟩ := eq_blocksFrom_of_mem_partsFrom own
  rw [Nat.zero_add] at shape
  cases batched : runs batch with
  | nil => exact absurd batched (runs_ne_nil (filled batch (by simp [whole])))
  | cons first others =>
      have inside : first ∈ batches.flatMap runs :=
        List.mem_flatMap.mpr ⟨batch, by simp [whole], by simp [batched]⟩
      rw [shape, batched, blocksFrom, List.append_assoc] at opened
      obtain ⟨numbers, -⟩ := block_append_inj fit (fits first inside) opened
      -- both numbers are below the bound, so that they are the same without the remainder
      have here := congrArg (fun all => (all.flatMap runs).length) split
      have there := congrArg (fun all => (all.flatMap runs).length) whole
      simp only [List.flatMap_append, List.flatMap_cons, List.length_append, batched,
        List.length_cons] at here there
      rw [Nat.mod_eq_of_lt (by omega), Nat.mod_eq_of_lt (by omega)] at numbers
      obtain rfl : past = before := eq_of_length_flatMap_runs filled split whole numbers
      exact ⟨batch, later, List.append_cancel_left (split.symm.trans whole), shape⟩

/-- Pieces that make up blocks behind the first batches are the next parts, in order. -/
theorem eq_take_of_flatten_eq {past rest : List (List Bytes)} (split : batches = past ++ rest)
    (filled : ∀ batch ∈ batches, batch ≠ []) (fits : ∀ run ∈ batches.flatMap runs, Fits run)
    (numbered : (batches.flatMap runs).length < Nat.pow 2 64) {pieces : List Bytes}
    (origin : ∀ piece ∈ pieces,
      piece ∈ partsFrom marker 0 .empty batches ∨ ∃ other, other ≠ marker ∧ Encoder.IsPart other piece)
    {blocks : List (List Bytes)} (fit : ∀ run ∈ blocks, Fits run)
    (same : blocksFrom marker (past.flatMap runs).length (summed .empty (past.flatMap runs)) blocks =
      pieces.flatten) :
    ∃ count ≤ rest.length, pieces =
      (partsFrom marker (past.flatMap runs).length (summed .empty (past.flatMap runs)) rest).take count := by
  induction pieces generalizing past rest blocks with
  | nil => exact ⟨0, Nat.zero_le _, rfl⟩
  | cons piece others ih =>
      rw [List.flatten_cons] at same
      rcases origin piece (by simp) with own | ⟨other, foreign, part⟩
      · cases blocks with
        | nil =>
            have none : piece = [] := (List.append_eq_nil_iff.mp same.symm).1
            exact absurd none (ne_nil_of_mem_partsFrom filled own)
        | cons run later =>
            obtain ⟨batch, after, rfl, shape⟩ := eq_next_of_mem_partsFrom split filled fits numbered own
              (fit run (by simp)) same
            have batched : ∀ run ∈ runs batch, Fits run := by
              intro run inside
              exact fits run (List.mem_flatMap.mpr ⟨batch, by simp [split], inside⟩)
            rw [shape] at same
            obtain ⟨left, whole, behind⟩ := blocksFrom_eq_append fit batched same
            have onward : batches = (past ++ [batch]) ++ after := by simp [split]
            have number : ((past ++ [batch]).flatMap runs).length =
                (past.flatMap runs).length + (runs batch).length := by
              simp
            have checksum : summed .empty ((past ++ [batch]).flatMap runs) =
                summed (summed .empty (past.flatMap runs)) (runs batch) := by
              simp [summed_append]
            rw [← number, ← checksum] at behind
            obtain ⟨count, within, rest⟩ := ih onward
              (fun given inside => origin given (by simp [inside]))
              (fun run inside => fit run (by simp [whole, inside])) behind.symm
            refine ⟨count + 1, Nat.succ_le_succ within, ?_⟩
            rw [partsFrom, List.take_succ_cons, shape, rest, number, checksum]
      · -- the block at the front has the marker of the stream, and the part another one
        obtain ⟨index, state, first, back, short, shape⟩ := part.eq_block_append
        rw [shape, List.append_assoc] at same
        cases blocks with
        | nil =>
            have size := congrArg List.length same
            simp only [blocksFrom, List.length_nil, List.length_append, length_block] at size
            omega
        | cons run later =>
            obtain ⟨-, marked, -⟩ := block_append_inj (fit run (by simp)) short same
            exact absurd marked.symm foreign

end

/-- Behind the header of a stream, its parts and parts of other streams decode exactly if they are the first
parts of the stream, each once and in order, and then they give the records of the first batches. An encoder
counts its blocks with 64 bits. -/
theorem decode_pieces_iff {marker : Marker} {batches : List (List Bytes)} {encoder after : Encoder Body}
    {parts pieces : List Bytes} (started : Encoder.start marker Body.empty = .ok encoder)
    (appended : encoder.appendParts batches = (.ok parts, after))
    (filled : ∀ batch ∈ batches, batch ≠ []) (numbered : after.blocks < Nat.pow 2 64)
    (origin : ∀ piece ∈ pieces, piece ∈ parts ∨ ∃ other, other ≠ marker ∧ Encoder.IsPart other piece) :
    ((∃ decoded, decode (encoder.out.content ++ pieces.flatten) = .ok decoded) ↔
        ∃ count ≤ parts.length, pieces = parts.take count) ∧
      ∀ count ≤ parts.length, pieces = parts.take count →
        Decodes (encoder.out.content ++ pieces.flatten) (batches.take count).flatten := by
  rw [Encoder.start_empty] at started
  cases started
  obtain ⟨shape, fits, number⟩ := Encoder.appendParts_eq_ok appended
  simp only [Nat.zero_add] at shape number
  have decodes : ∀ count ≤ parts.length, pieces = parts.take count →
      Decodes (Header.bytes { version, marker } ++ pieces.flatten) (batches.take count).flatten := by
    rintro count - rfl
    have fit : ∀ run ∈ (batches.take count).flatMap runs, Fits run := by
      intro run inside
      obtain ⟨batch, given, inBatch⟩ := List.mem_flatMap.mp inside
      exact fits run (List.mem_flatMap.mpr ⟨batch, List.mem_of_mem_take given, inBatch⟩)
    have whole := decodes_written marker fit
    rwa [written, ← flatten_partsFrom, ← take_partsFrom, ← shape, flatten_flatMap_runs] at whole
  refine ⟨⟨?_, ?_⟩, decodes⟩
  · rintro ⟨decoded, found⟩
    obtain ⟨layout, bytes, -⟩ := Layout.of_decode found
    rw [Layout.bytes_eq] at bytes
    obtain ⟨headers, blocks⟩ := List.append_inj bytes
      (by rw [length_sealed, length_header])
    obtain ⟨same, -⟩ := Layout.sealed_injective headers
    rw [same] at blocks
    rw [shape] at origin ⊢
    rw [length_partsFrom]
    exact eq_take_of_flatten_eq (List.nil_append batches).symm filled fits (number ▸ numbered) origin
      layout.fits blocks
  · rintro ⟨count, within, rfl⟩
    have given := decodes count within rfl
    rw [Decodes] at given
    cases found : decode (Header.bytes { version, marker } ++ (parts.take count).flatten) with
    | ok decoded => exact ⟨decoded, rfl⟩
    | error cause => rw [found] at given; cases given

/-- Both parts in order, and the same parts with one of another stream between them. -/
theorem decode_pieces_iff_trial : ∃ (encoder after : Encoder Body) (other : Marker)
    (first second foreign : Bytes),
    Encoder.start Marker.blank Body.empty = .ok encoder ∧
    encoder.appendParts [[[7]], [[], [1, 2]]] = (.ok [first, second], after) ∧
    other ≠ Marker.blank ∧ Encoder.IsPart other foreign ∧
    Decodes (encoder.out.content ++ [first, second].flatten) [[7], [], [1, 2]] ∧
    ¬ ∃ decoded, decode (encoder.out.content ++ [first, foreign, second].flatten) = .ok decoded := by
  have started := Encoder.start_empty .blank
  have appended : ∃ after first second, (Encoder.mk (⟨Header.bytes { version, marker := .blank }⟩ : Body)
      { version, marker := .blank } 0 .empty 0).appendParts [[[7]], [[], [1, 2]]] =
        (.ok [first, second], after) ∧ after.blocks = 2 := by
    simp [Encoder.appendParts, Encoder.append, Encoder.writeBlocks, Encoder.writeBlock, runs, fitting,
      Body.writeAll_eq, payloadSize, frameSize, payloadLimit, lengthBound]
  obtain ⟨after, first, second, appended, blocks⟩ := appended
  let other : Marker := ⟨List.replicate 16 1, rfl⟩
  have elsewhere : other ≠ Marker.blank := by decide
  have part : ∃ foreign, Encoder.IsPart other foreign := by
    let writer : Encoder Body := { out := .empty, header := { version, marker := other }, blocks := 0
                                   checksum := .empty, records := 0 }
    have fits : ∀ run ∈ runs [[8]], Fits run := by
      simp [runs, fitting, Fits, payloadSize, frameSize, lengthBound]
    obtain ⟨done, wrote, -⟩ := writer.writeBlocks_of_fits fits
      (show Body.taking.ready writer.out from trivial)
    exact ⟨done.out.content, writer, done, [[8]], _, rfl, rfl, by simp, wrote, rfl⟩
  obtain ⟨foreign, part⟩ := part
  have filled : ∀ batch ∈ [[[7]], [[], [1, 2]]], batch ≠ ([] : List Bytes) := by simp
  have numbered : after.blocks < Nat.pow 2 64 := by
    rw [blocks]
    decide
  refine ⟨_, after, other, first, second, foreign, started, appended, elsewhere, part, ?_, ?_⟩
  · have origin : ∀ piece ∈ [first, second],
        piece ∈ [first, second] ∨ ∃ other, other ≠ Marker.blank ∧ Encoder.IsPart other piece :=
      fun _ own => .inl own
    exact (decode_pieces_iff started appended filled numbered origin).2 2 (Nat.le_refl 2) rfl
  · have origin : ∀ piece ∈ [first, foreign, second],
        piece ∈ [first, second] ∨ ∃ other, other ≠ Marker.blank ∧ Encoder.IsPart other piece := by
      intro piece inside
      simp only [List.mem_cons, List.not_mem_nil, or_false] at inside
      rcases inside with rfl | rfl | rfl
      · exact .inl (by simp)
      · exact .inr ⟨other, elsewhere, part⟩
      · exact .inl (by simp)
    intro found
    obtain ⟨count, -, same⟩ := (decode_pieces_iff started appended filled numbered origin).1.mp found
    have size := congrArg List.length same
    simp only [List.length_cons, List.length_nil, List.length_take] at size
    omega

end RecordSink.Stream
