import RecordSink.Proofs.Stream.Resumption

/-!
# The blocks of a batch

How an encoder cuts a batch into blocks, and what it writes in front of each of them. Main statement: no block is
empty, too long without need, or shorter than it has to be; the sizes in front of a block that is written are
those of its records; and the blocks are counted right.
-/

namespace RecordSink.Stream

variable {batch front rest behind : List Bytes} {record : Bytes} {blocks : List (List Bytes)} {used : Nat}

/-! ## Cuts -/

/-- A batch is cut into blocks of records. None is empty, and none exceeds the limit unless it is a single record.
None could have taken the first record of the next one. -/
structure Cut (batch : List Bytes) (blocks : List (List Bytes)) : Prop where
  whole : blocks.flatten = batch
  filled : ∀ run ∈ blocks, run ≠ []
  bounded : ∀ run ∈ blocks, payloadSize run ≤ payloadLimit ∨ ∃ record, run = [record]
  greedy : ∀ past run record others later, blocks = past ++ run :: (record :: others) :: later →
    payloadLimit < payloadSize run + frameSize record

/-- The first record that is left did not fit. -/
theorem full_of_fitting (left : (fitting used front).2 = record :: behind) :
    payloadLimit < used + payloadSize (fitting used front).1 + frameSize record := by
  induction front generalizing used with
  | nil => cases left
  | cons first front ih =>
      rw [fitting] at left ⊢
      split
      · next room =>
        rw [if_pos room] at left
        have full := ih left
        simp only [payloadSize, sumOver_cons] at full ⊢
        omega
      · next full =>
        rw [if_neg full] at left
        cases left
        simp only [payloadSize, sumOver_nil]
        omega

/-- Records that fit are taken, up to one that does not. -/
theorem fitting_append_of_full (small : front = [] ∨ used + payloadSize front ≤ payloadLimit)
    (full : ∀ record behind, rest = record :: behind →
      payloadLimit < used + payloadSize front + frameSize record) :
    fitting used (front ++ rest) = (front, rest) := by
  induction front generalizing used with
  | nil =>
      cases rest with
      | nil => rfl
      | cons record behind =>
          have beyond := full record behind rfl
          simp only [payloadSize, sumOver_nil] at beyond
          rw [List.nil_append, fitting, if_neg (by omega)]
  | cons first front ih =>
      have fits : used + (frameSize first + payloadSize front) ≤ payloadLimit :=
        small.resolve_left (List.cons_ne_nil _ _)
      have later : fitting (used + frameSize first) (front ++ rest) = (front, rest) := by
        apply ih
        · right
          omega
        · intro record behind same
          have beyond := full record behind same
          simp only [payloadSize, sumOver_cons] at beyond ⊢
          omega
      rw [List.cons_append, fitting, if_pos (by omega), later]

theorem Cut.tail {run : List Bytes} (cut : Cut batch (run :: blocks)) : Cut blocks.flatten blocks := by
  constructor
  · rfl
  · intro other inside
    exact cut.filled other (List.mem_cons_of_mem _ inside)
  · intro other inside
    exact cut.bounded other (List.mem_cons_of_mem _ inside)
  · intro past other record others later same
    apply cut.greedy (run :: past)
    rw [same, List.cons_append]

/-- The records of each block are cut that way. -/
theorem cut_runs (batch : List Bytes) : Cut batch (runs batch) := by
  constructor
  · exact flatten_runs batch
  · intro run inside
    exact ne_nil_of_mem_runs inside
  · induction batch using runs.induct with
    | case1 => simp [runs]
    | case2 record rest ih =>
        rw [runs, List.forall_mem_cons]
        refine ⟨?_, ih⟩
        have size := payloadSize_fitting_le (frameSize record) rest
        by_cases small : frameSize record ≤ payloadLimit
        · left
          rw [Nat.max_eq_right small] at size
          exact size
        · right
          rw [fitting_of_full (Nat.not_le.mp small)]
          exact ⟨record, rfl⟩
  · induction batch using runs.induct with
    | case1 => simp [runs]
    | case2 first rest ih =>
        intro past run record others later same
        rw [runs] at same
        cases past with
        | nil =>
            obtain ⟨rfl, next⟩ := List.cons.inj same
            have whole := flatten_runs (fitting (frameSize first) rest).2
            rw [next, List.flatten_cons, List.cons_append] at whole
            have full := full_of_fitting whole.symm
            simp only [payloadSize, sumOver_cons] at full ⊢
            exact full
        | cons other past =>
            obtain ⟨-, next⟩ := List.cons.inj same
            exact ih past run record others later next

/-- There is no other such cut. -/
theorem Cut.eq_runs (cut : Cut batch blocks) : blocks = runs batch := by
  induction blocks generalizing batch with
  | nil =>
      obtain rfl : [] = batch := cut.whole
      rw [runs]
  | cons run blocks ih =>
      obtain ⟨first, front, rfl⟩ := List.exists_cons_of_ne_nil (cut.filled _ (List.mem_cons_self ..))
      have whole : first :: (front ++ blocks.flatten) = batch := cut.whole
      have taken : fitting (frameSize first) (front ++ blocks.flatten) = (front, blocks.flatten) := by
        apply fitting_append_of_full
        · obtain bounded | ⟨record, single⟩ := cut.bounded _ (List.mem_cons_self ..)
          · right
            exact bounded
          · left
            exact (List.cons.inj single).2
        · intro record behind same
          cases blocks with
          | nil => cases same
          | cons next later =>
              obtain ⟨head, others, rfl⟩ := List.exists_cons_of_ne_nil (cut.filled next (by simp))
              obtain ⟨rfl, -⟩ := List.cons.inj same
              exact cut.greedy [] (first :: front) head others later rfl
      rw [← whole, runs, taken, ← ih cut.tail]

theorem length_runs_le (batch : List Bytes) : (runs batch).length ≤ batch.length := by
  induction batch using runs.induct with
  | case1 => simp [runs]
  | case2 record rest ih =>
      have left := length_fitting_le (frameSize record) rest
      rw [runs, List.length_cons, List.length_cons]
      omega

/-! ## Written blocks -/

/-- Each block of a list begins with its number and the sizes of its records. -/
theorem getElem?_blockList (marker : Marker) (number : Nat) (checksum : Checksum) (blocks : List (List Bytes))
    (index : Nat) :
    (blockList marker number checksum blocks)[index]? =
      blocks[index]?.map (block marker (number + index) (summed checksum (blocks.take index))) := by
  induction blocks generalizing number checksum index with
  | nil => rfl
  | cons run rest ih =>
      cases index with
      | zero => rfl
      | succ index =>
          have onward : number + 1 + index = number + (index + 1) := by omega
          rw [blockList, List.getElem?_cons_succ, List.getElem?_cons_succ, ih, List.take_succ_cons, summed_cons,
            onward]

/-- The fields in front of a block whose sizes fit them are read back. -/
theorem ofBytes_block {run : List Bytes} (fits : Fits run) (marker : Marker) (number : Nat)
    (checksum : Checksum) :
    Reader.BlockPrefix.ofBytes ((block marker number checksum run).take blockPrefixSize) =
      { magic := blockMagic, number := number % Nat.pow 2 64, count := run.length, size := payloadSize run } := by
  have sized := length_blockPrefix number run.length (payloadSize run)
  rw [block, List.append_assoc, ← sized, List.take_left]
  exact Reader.BlockPrefix.ofBytes_blockPrefix fits number

namespace Encoder

variable {σ : Type} [ByteSink σ] {sink : ByteSink.Holding σ}

/-- A block that was taken whole begins with its number and the sizes of its records. -/
theorem Progress.sizes {count index : Nat} {tail : Bytes} {encoder : Encoder σ}
    {result : Except WriteError UInt32 × Encoder σ}
    (progress : Progress sink (runs batch) count tail encoder result) (less : index < count) :
    ∃ run bytes, (runs batch)[index]? = some run ∧ (encoder.blocksOf batch)[index]? = some bytes ∧
      Reader.BlockPrefix.ofBytes (bytes.take blockPrefixSize) =
        { magic := blockMagic, number := (encoder.blocks + index) % Nat.pow 2 64, count := run.length
          size := payloadSize run } ∧
      bytes.length = blockPrefixSize + payloadSize run + blockSuffixSize := by
  have inside : index < (runs batch).length := Nat.lt_of_lt_of_le less progress.within
  have found := List.getElem?_eq_getElem inside
  have fits : Fits (runs batch)[index] := by
    apply progress.fits
    exact List.mem_take_iff_getElem.mpr ⟨index, Nat.lt_min.mpr ⟨less, inside⟩, rfl⟩
  have shape := getElem?_blockList encoder.header.marker encoder.blocks encoder.checksum (runs batch) index
  rw [found, Option.map_some] at shape
  refine ⟨_, _, found, shape, ofBytes_block fits _ _ _, ?_⟩
  rw [length_block, blockPrefixSize, blockSuffixSize]
  omega

/-- A sink that takes everything gets the blocks in front of the first record that no block can hold. The append
succeeds if there is no such record, and only then. -/
theorem append_taking (taking : ByteSink.Taking σ) {encoder : Encoder σ} (ready : taking.ready encoder.out)
    (batch : List Bytes) :
    ((∃ told, (encoder.append batch).1 = .ok told) ↔ ∀ record ∈ batch, frameSize record < lengthBound) ∧
    (encoder.append batch).2.blocks = encoder.blocks + (landed (runs batch)).length ∧
    taking.content (encoder.append batch).2.out =
      taking.content encoder.out ++ ((encoder.blocksOf batch).take (landed (runs batch)).length).flatten := by
  obtain ⟨after, finished, wrote⟩ := writeBlocks_eq (runs batch) ready
  have appended : encoder.append batch = (verdict (runs batch), after) := finished
  rw [appended, flatten_take_blocksOf, take_length_landed]
  exact ⟨verdict_eq_ok_iff.trans fits_runs_iff, wrote.blocks, wrote.content⟩

/-- A batch is cut into blocks in the only way that leaves no room: none is empty, none exceeds the limit unless
it is a single record, and none could have taken the first record of the next one. Some of these blocks are
written whole. The number and the size of the records in front of each of them are the true ones. The encoder
counts them, and an append succeeds if it has written all of them, and only then; it tells how many they are, as
far as 32 bits can tell it. To a sink that takes everything, all are written unless a record is too long for its
field. An empty batch writes nothing. -/
theorem append_cuts (sink : ByteSink.Holding σ) (batch : List Bytes) (encoder : Encoder σ) :
    let result := encoder.append batch
    (∀ blocks, Cut batch blocks ↔ blocks = runs batch) ∧
    (runs batch).length ≤ batch.length ∧
    (∃ written ≤ (runs batch).length, ∃ tail,
      result.2.blocks = encoder.blocks + written ∧
      sink.content result.2.out =
        sink.content encoder.out ++ ((encoder.blocksOf batch).take written).flatten ++ tail ∧
      (∀ index < written, ∃ run bytes, (runs batch)[index]? = some run ∧
        (encoder.blocksOf batch)[index]? = some bytes ∧
        Reader.BlockPrefix.ofBytes (bytes.take blockPrefixSize) =
          { magic := blockMagic, number := (encoder.blocks + index) % Nat.pow 2 64, count := run.length
            size := payloadSize run } ∧
        bytes.length = blockPrefixSize + payloadSize run + blockSuffixSize) ∧
      ((∃ told, result.1 = .ok told) ↔ written = (runs batch).length) ∧
      ∀ told, result.1 = .ok told → told = UInt32.ofNat written ∧ tail = [] ∧
        (written < UInt32.size → told.toNat = written)) ∧
    (∀ taking : ByteSink.Taking σ, taking.ready encoder.out →
      ((∃ told, result.1 = .ok told) ↔ ∀ record ∈ batch, frameSize record < lengthBound) ∧
      result.2.blocks = encoder.blocks + (landed (runs batch)).length ∧
      taking.content result.2.out =
        taking.content encoder.out ++ ((encoder.blocksOf batch).take (landed (runs batch)).length).flatten) ∧
    (batch = [] → result = (.ok 0, encoder)) := by
  intro result
  refine ⟨?unique, length_runs_le batch, ?progress, ?taking, ?none⟩
  case unique =>
    intro blocks
    constructor
    · exact Cut.eq_runs
    · rintro rfl
      exact cut_runs batch
  case progress =>
    obtain ⟨written, tail, progress⟩ := progress_writeBlocks sink (runs batch) encoder
    refine ⟨written, progress.within, tail, ?counted, ?content, ?sizes, ?succeeds, ?told⟩
    case counted =>
      have counted := progress.advanced.blocks
      rwa [List.length_take, Nat.min_eq_left progress.within] at counted
    case content =>
      rw [flatten_take_blocksOf]
      exact progress.content
    case sizes =>
      intro index less
      exact progress.sizes less
    case succeeds =>
      constructor
      · rintro ⟨told, succeeded⟩
        exact progress.all_of_ok succeeded
      · intro all
        exact ⟨_, (progress.finished all).1⟩
    case told =>
      intro told succeeded
      obtain ⟨known, nothing⟩ := progress.finished (progress.all_of_ok succeeded)
      obtain rfl : told = UInt32.ofNat written := Except.ok.inj (succeeded.symm.trans known)
      exact ⟨rfl, nothing, UInt32.toNat_ofNat_of_lt'⟩
  case taking =>
    intro taking ready
    exact append_taking taking ready batch
  case none =>
    rintro rfl
    change encoder.writeBlocks (runs []) = _
    rw [runs, writeBlocks]

namespace Trial

/-- A record of three mebibytes. -/
def large : Bytes := List.replicate 3145728 0

theorem frameSize_large : frameSize large = 3145732 := by
  rw [frameSize, large, List.length_replicate]

/-- Two such records are too long for one block. -/
theorem cut_large : Cut [large, large] [[large], [large]] := by
  constructor
  · rfl
  · simp
  · intro run inside
    right
    exact ⟨large, by simpa using inside⟩
  · intro past run record others later same
    have beyond : payloadLimit < payloadSize [large] + frameSize large := by
      rw [payloadSize, sumOver_cons, sumOver_nil, frameSize_large, payloadLimit]
      decide
    cases past with
    | nil =>
        obtain ⟨rfl, next⟩ := List.cons.inj same
        obtain ⟨next, -⟩ := List.cons.inj next
        obtain ⟨rfl, -⟩ := List.cons.inj next
        exact beyond
    | cons first past =>
        have size := congrArg List.length same
        simp only [List.length_cons, List.length_append, List.length_nil] at size
        omega

end Trial

/-- Two large records are appended to a body: each has a block of its own, with its size in front of it. -/
theorem append_cuts_trial : ∃ encoder after bytes,
    start Marker.blank Body.empty = .ok encoder ∧
    runs [Trial.large, Trial.large] = [[Trial.large], [Trial.large]] ∧
    encoder.append [Trial.large, Trial.large] = (.ok 2, after) ∧
    after.blocks = 2 ∧
    after.out.content = encoder.out.content ++ (encoder.blocksOf [Trial.large, Trial.large]).flatten ∧
    (encoder.blocksOf [Trial.large, Trial.large])[1]? = some bytes ∧
    Reader.BlockPrefix.ofBytes (bytes.take blockPrefixSize) =
      { magic := blockMagic, number := 1, count := 1, size := 3145732 } := by
  have started := start_empty .blank
  generalize known : Encoder.mk (⟨Header.bytes { version, marker := .blank }⟩ : Body)
    { version, marker := .blank } 0 .empty 0 = encoder at started
  have fresh : encoder.blocks = 0 := by rw [← known]
  obtain ⟨unique, -, ⟨written, -, tail, counted, content, sizes, succeeds, told⟩, taking, -⟩ :=
    append_cuts Body.holding [Trial.large, Trial.large] encoder
  generalize appended : encoder.append [Trial.large, Trial.large] = result
    at counted content succeeds told taking
  obtain ⟨outcome, after⟩ := result
  have cut := ((unique _).mp Trial.cut_large).symm
  have short : ∀ record ∈ [Trial.large, Trial.large], frameSize record < lengthBound := by
    intro record inside
    obtain rfl : record = Trial.large := by simpa using inside
    rw [Trial.frameSize_large]
    decide
  obtain ⟨number, succeeded⟩ := (taking Body.taking trivial).1.mpr short
  obtain rfl : written = 2 := by
    rw [succeeds.mp ⟨number, succeeded⟩, cut]
    rfl
  obtain ⟨rfl, rfl, -⟩ := told number succeeded
  obtain rfl : outcome = .ok 2 := succeeded
  obtain ⟨run, bytes, inside, found, size, -⟩ := sizes 1 (by decide)
  obtain rfl : [Trial.large] = run := by
    rw [cut] at inside
    exact Option.some.inj inside
  have all : ((encoder.blocksOf [Trial.large, Trial.large]).take 2) =
      encoder.blocksOf [Trial.large, Trial.large] := by
    apply List.take_of_length_le
    rw [length_blocksOf, cut]
    exact Nat.le_refl 2
  rw [all, List.append_nil] at content
  rw [fresh] at counted size
  refine ⟨encoder, after, bytes, started, cut, appended, counted, content, found, ?_⟩
  rw [size, payloadSize, sumOver_cons, sumOver_nil, Trial.frameSize_large]
  rfl

end Encoder

end RecordSink.Stream
