import RecordSink.Proofs.Stream.Splitting
import RecordSink.Proofs.Stream.Writing

/-!
# Writing that is cut short and goes on elsewhere

A sink may take a write in part, take nothing of it, or fail. An encoder that appends a batch to it counts the
blocks that were taken whole, and no other. Main statement: the records of the blocks that were not counted
can be appended to another sink, and what both sinks took of whole blocks is one stream.
-/

namespace RecordSink

/-- The bytes that a sink holds. A write that succeeds adds as many bytes from the front of its data as it
says, and a write that fails adds none. -/
structure ByteSink.Holding (σ : Type) [ByteSink σ] where
  content : σ → Bytes
  content_of_ok : ∀ {data sink count after}, write data sink = (.ok count, after) →
    count ≤ data.length ∧ content after = content sink ++ data.take count
  content_of_error : ∀ {data sink cause after}, write data sink = (.error cause, after) →
    content after = content sink

/-- All bytes are written, or a part from their front and then the sink fails or takes nothing. -/
theorem ByteSink.Holding.writeAll_cases {σ : Type} [ByteSink σ] (sink : Holding σ) (data : Bytes) (out : σ) :
    (∃ after, writeAll data out = (.ok (), after) ∧ sink.content after = sink.content out ++ data) ∨
    ∃ cause after piece, writeAll data out = (.error cause, after) ∧
      sink.content after = sink.content out ++ piece ∧ piece <+: data ∧ piece ≠ data := by
  -- the writes go on while each of them takes something: only the last one may fail or take nothing
  induction data, out using writeAll.induct with
  | case1 out => exact .inl ⟨out, by rw [writeAll], (List.append_nil _).symm⟩
  | case2 out first rest cause after failed =>
      have content := sink.content_of_error failed
      exact .inr ⟨cause, after, [], by rw [writeAll, failed], by rw [content, List.append_nil],
        List.nil_prefix, (List.cons_ne_nil _ _).symm⟩
  | case3 out first rest after none =>
      obtain ⟨-, content⟩ := sink.content_of_ok none
      exact .inr ⟨.noProgress, after, [], by rw [writeAll, none], by rw [content, List.take_zero],
        List.nil_prefix, (List.cons_ne_nil _ _).symm⟩
  | case4 out first rest taken after some ih =>
      obtain ⟨-, content⟩ := sink.content_of_ok some
      rw [writeAll, some]
      have whole : (first :: rest).take (taken + 1) ++ rest.drop taken = first :: rest :=
        List.take_append_drop (taken + 1) (first :: rest)
      rcases ih with ⟨last, wrote, full⟩ | ⟨cause, last, piece, failed, part, short, less⟩
      · exact .inl ⟨last, wrote, by rw [full, content, List.append_assoc, whole]⟩
      · refine .inr ⟨cause, last, (first :: rest).take (taken + 1) ++ piece, failed, ?_, ?_, ?_⟩
        · rw [part, content, List.append_assoc]
        · conv => rhs; rw [← whole]
          exact (List.prefix_append_right_inj _).mpr short
        · intro same
          exact less (List.append_cancel_left (same.trans whole.symm))

/-- A body holds what it took. -/
def Body.holding : ByteSink.Holding Body where
  content := content
  content_of_ok := by
    intro data body count after wrote
    cases wrote
    exact ⟨Nat.le_refl _, by rw [List.take_length]⟩
  content_of_error := by
    intro data body cause after failed
    cases failed

namespace LimitedSink

theorem clip_isPrefix (limit : Option Nat) (data : Bytes) : clip limit data <+: data := by
  cases limit with
  | none => exact List.prefix_refl data
  | some most => exact List.take_prefix most data

/-- What a sink with limits takes of a write is the front of the data. -/
theorem taken_isPrefix (sink : LimitedSink) (data : Bytes) : sink.taken data <+: data :=
  (clip_isPrefix _ _).trans (clip_isPrefix _ _)

/-- A sink with limits holds what it took. -/
def holding : ByteSink.Holding LimitedSink where
  content := content
  content_of_ok := by
    intro data sink count after wrote
    simp only [ByteSink.write] at wrote
    split at wrote
    · cases wrote
    · cases wrote
      have front := sink.taken_isPrefix data
      refine ⟨front.length_le, ?_⟩
      rw [← List.prefix_iff_eq_take.mp front]
      simp [content]
  content_of_error := by
    intro data sink cause after failed
    simp only [ByteSink.write] at failed
    split at failed <;> cases failed
    rfl

end LimitedSink

/-- A redirected sink holds what its destination does. -/
def Retargeting.holding {σ : Type} [ByteSink σ] (sink : ByteSink.Holding σ) :
    ByteSink.Holding (Retargeting σ) where
  content retargeting := retargeting.destination.elim [] sink.content
  content_of_ok := by
    intro data retargeting count after wrote
    simp only [ByteSink.write] at wrote
    split at wrote
    · cases wrote
    · next destination attached =>
      split at wrote
      · cases wrote
      · next taken later found =>
        cases wrote
        simpa only [attached, Option.elim_some] using sink.content_of_ok found
  content_of_error := by
    intro data retargeting cause after failed
    simp only [ByteSink.write] at failed
    split at failed
    · cases failed
      rfl
    · next destination attached =>
      split at failed
      · next reason later found =>
        cases failed
        simpa only [attached, Option.elim_some] using sink.content_of_error found
      · cases failed

namespace Stream

/-! ## Blocks in bytes -/

/-- The bytes of blocks that follow each other, each block on its own. -/
def blockList (marker : Marker) (number : Nat) (checksum : Checksum) : List (List Bytes) → List Bytes
  | [] => []
  | run :: rest =>
      block marker number checksum run
        :: blockList marker (number + 1) (checksum.update (payload run)) rest

section

variable (marker : Marker) (number : Nat) (checksum : Checksum) (runs : List (List Bytes))

@[simp]
theorem length_blockList : (blockList marker number checksum runs).length = runs.length := by
  induction runs generalizing number checksum with
  | nil => rfl
  | cons run rest ih => rw [blockList, List.length_cons, ih, List.length_cons]

theorem flatten_blockList :
    (blockList marker number checksum runs).flatten = blocksFrom marker number checksum runs := by
  induction runs generalizing number checksum with
  | nil => rfl
  | cons run rest ih => rw [blockList, List.flatten_cons, ih, blocksFrom]

/-- The first blocks hold the first runs. -/
theorem take_blockList (count : Nat) :
    (blockList marker number checksum runs).take count = blockList marker number checksum (runs.take count) := by
  induction runs generalizing number checksum count with
  | nil => simp [blockList]
  | cons run rest ih =>
      cases count with
      | zero => rfl
      | succ count => rw [blockList, List.take_succ_cons, ih, List.take_succ_cons, blockList]

end

namespace Encoder

variable {σ : Type}

/-- An encoder that goes on in front of another sink. -/
def onto {τ : Type} (out : τ) (encoder : Encoder σ) : Encoder τ :=
  { out, header := encoder.header, blocks := encoder.blocks, checksum := encoder.checksum
    records := encoder.records }

/-- The blocks that the records of a batch take. -/
def blocksOf (batch : List Bytes) (encoder : Encoder σ) : List Bytes :=
  blockList encoder.header.marker encoder.blocks encoder.checksum (runs batch)

theorem length_blocksOf (encoder : Encoder σ) (batch : List Bytes) :
    (encoder.blocksOf batch).length = (runs batch).length :=
  length_blockList _ _ _ _

/-- The blocks of a batch that were taken whole, in bytes. -/
theorem flatten_take_blocksOf (encoder : Encoder σ) (batch : List Bytes) (count : Nat) :
    ((encoder.blocksOf batch).take count).flatten =
      blocksFrom encoder.header.marker encoder.blocks encoder.checksum ((runs batch).take count) := by
  rw [blocksOf, take_blockList, flatten_blockList]

/-- Records that fit a block are appended to a body. -/
theorem append_onto_empty (encoder : Encoder σ) {batch : List Bytes} (fits : ∀ run ∈ runs batch, Fits run) :
    ∃ after, (encoder.onto Body.empty).append batch = (.ok (UInt32.ofNat (runs batch).length), after) ∧
      Advanced (runs batch) (encoder.onto Body.empty) after ∧
      after.out.content = (encoder.blocksOf batch).flatten := by
  obtain ⟨after, finished, wrote⟩ := (encoder.onto Body.empty).writeBlocks_of_fits fits
    (show Body.taking.ready (encoder.onto Body.empty).out from trivial)
  refine ⟨after, finished, wrote.toAdvanced, ?_⟩
  rw [blocksOf, flatten_blockList]
  exact wrote.content

/-! ## Behind blocks -/

/-- An encoder stands behind blocks with the given runs, and they are what is kept. -/
structure Behind (marker : Marker) (past : List (List Bytes)) (kept : Bytes) (records : List Bytes)
    (encoder : Encoder σ) : Prop where
  fits : ∀ run ∈ past, Fits run
  kept : kept = written marker past
  all : records = past.flatten
  header : encoder.header = { version, marker }
  blocks : encoder.blocks = past.length
  checksum : encoder.checksum = summed .empty past

/-- Blocks that were counted come behind the others. -/
theorem Behind.advanced {marker : Marker} {past runs : List (List Bytes)} {kept : Bytes} {records : List Bytes}
    {encoder after : Encoder σ} (behind : Behind marker past kept records encoder)
    (fits : ∀ run ∈ runs, Fits run) (advanced : Advanced runs encoder after) :
    Behind marker (past ++ runs)
      (kept ++ blocksFrom encoder.header.marker encoder.blocks encoder.checksum runs)
      (records ++ runs.flatten) after where
  fits := by
    intro run inside
    exact (List.mem_append.mp inside).elim (behind.fits run) (fits run)
  kept := by rw [behind.kept, behind.header, behind.blocks, behind.checksum, written_append]
  all := by rw [behind.all, List.flatten_append]
  header := advanced.header.trans behind.header
  blocks := by rw [advanced.blocks, behind.blocks, List.length_append]
  checksum := by rw [advanced.checksum, behind.checksum, summed_append]

/-- What is kept is a stream of the records. -/
theorem Behind.decodes {marker : Marker} {past : List (List Bytes)} {kept : Bytes} {records : List Bytes}
    {encoder : Encoder σ} (behind : Behind marker past kept records encoder) : Decodes kept records := by
  rw [behind.kept, behind.all]
  exact decodes_written marker behind.fits

/-- The sink does not matter. -/
theorem Behind.onto {τ : Type} {marker : Marker} {past : List (List Bytes)} {kept : Bytes} {records : List Bytes}
    {encoder : Encoder σ} (behind : Behind marker past kept records encoder) (out : τ) :
    Behind marker past kept records (encoder.onto out) :=
  ⟨behind.fits, behind.kept, behind.all, behind.header, behind.blocks, behind.checksum⟩

variable [ByteSink σ]

/-! ## Blocks that were taken whole -/

variable {sink : ByteSink.Holding σ} {run : List Bytes}

/-- A block is taken whole and counted, or it is not counted and the sink took less than the block. -/
theorem writeBlock_cases (sink : ByteSink.Holding σ) (run : List Bytes) (encoder : Encoder σ) :
    (∃ after, encoder.writeBlock run = (.ok (), after) ∧ Fits run ∧ Advanced [run] encoder after ∧
      sink.content after.out = sink.content encoder.out
        ++ block encoder.header.marker encoder.blocks encoder.checksum run) ∨
    ∃ cause after piece, encoder.writeBlock run = (.error cause, after) ∧ Advanced [] encoder after ∧
      sink.content after.out = sink.content encoder.out ++ piece ∧
      piece <+: block encoder.header.marker encoder.blocks encoder.checksum run ∧
      piece ≠ block encoder.header.marker encoder.blocks encoder.checksum run := by
  by_cases fits : Fits run
  · have short : ¬ lengthBound ≤ payloadSize run := Nat.not_le.mpr fits
    rw [writeBlock, if_neg short]
    rcases sink.writeAll_cases (block encoder.header.marker encoder.blocks encoder.checksum run) encoder.out
      with ⟨out, wrote, content⟩ | ⟨cause, out, piece, failed, content, front, less⟩
    · refine .inl ⟨{ encoder with
        out
        blocks := encoder.blocks + 1
        checksum := encoder.checksum.update (payload run)
        records := encoder.records + run.length }, ?_, fits, ⟨rfl, rfl, ?_, ?_⟩, content⟩
      · simp only [wrote]
      · rw [summed_cons, summed_nil]
      · simp only [List.flatten_cons, List.flatten_nil, List.append_nil]
    · refine .inr ⟨cause, { encoder with out }, piece, ?_, ⟨rfl, rfl, rfl, rfl⟩, content, front, less⟩
      simp only [failed]
  · refine .inr ⟨_, encoder, [], writeBlock_of_not_fits fits, .refl encoder, (List.append_nil _).symm,
      List.nil_prefix, fun same => ?_⟩
    have size := congrArg List.length same
    rw [length_block, List.length_nil] at size
    omega

/-- What an encoder came to that was to write blocks with the given runs: the first ones were taken whole and
counted, and of the next one the sink took less than the block. -/
structure Progress (sink : ByteSink.Holding σ) (runs : List (List Bytes)) (count : Nat) (tail : Bytes)
    (before : Encoder σ) (result : Except WriteError UInt32 × Encoder σ) : Prop where
  within : count ≤ runs.length
  fits : ∀ run ∈ runs.take count, Fits run
  advanced : Advanced (runs.take count) before result.2
  content : sink.content result.2.out = sink.content before.out
    ++ blocksFrom before.header.marker before.blocks before.checksum (runs.take count) ++ tail
  finished : count = runs.length → result.1 = .ok (UInt32.ofNat count) ∧ tail = []
  stopped : count < runs.length → (∃ cause, result.1 = .error cause) ∧
    ∀ next, (blockList before.header.marker before.blocks before.checksum runs)[count]? = some next →
      tail <+: next ∧ tail ≠ next

/-- A block that was taken whole comes before the others. -/
theorem Progress.cons {runs : List (List Bytes)} {count : Nat} {tail : Bytes} {before between after : Encoder σ}
    {outcome : Except WriteError UInt32} (progress : Progress sink runs count tail between (outcome, after))
    (fits : Fits run) (advanced : Advanced [run] before between)
    (content : sink.content between.out = sink.content before.out
      ++ block before.header.marker before.blocks before.checksum run) :
    Progress sink (run :: runs) (count + 1) tail before (outcome.map (· + 1), after) where
  within := Nat.succ_le_succ progress.within
  fits := by
    intro other inside
    rw [List.take_succ_cons, List.mem_cons] at inside
    exact inside.elim (fun same => same ▸ fits) (progress.fits other)
  advanced := advanced.trans progress.advanced
  content := by
    rw [progress.content, content, advanced.header, advanced.blocks, advanced.checksum,
      List.take_succ_cons, blocksFrom, summed_cons, summed_nil, List.length_singleton]
    simp only [List.append_assoc]
  finished := by
    intro all
    obtain ⟨done, none⟩ := progress.finished (Nat.succ.inj all)
    refine ⟨?_, none⟩
    rw [show outcome = .ok (UInt32.ofNat count) from done, UInt32.ofNat_add]
    rfl
  stopped := by
    intro less
    obtain ⟨⟨cause, failed⟩, part⟩ := progress.stopped (Nat.lt_of_succ_lt_succ less)
    refine ⟨⟨cause, by rw [show outcome = .error cause from failed]; rfl⟩, fun next found => part next ?_⟩
    rw [blockList, List.getElem?_cons_succ] at found
    rw [advanced.header, advanced.blocks, advanced.checksum, summed_cons, summed_nil,
      List.length_singleton]
    exact found

theorem progress_writeBlocks (sink : ByteSink.Holding σ) (runs : List (List Bytes)) (encoder : Encoder σ) :
    ∃ count tail, Progress sink runs count tail encoder (encoder.writeBlocks runs) := by
  induction runs generalizing encoder with
  | nil =>
      exact ⟨0, [], Nat.le_refl 0, by simp, .refl encoder, by simp [blocksFrom, writeBlocks],
        fun _ => ⟨rfl, rfl⟩, fun less => absurd less (Nat.lt_irrefl 0)⟩
  | cons run rest ih =>
      rw [writeBlocks]
      rcases writeBlock_cases sink run encoder with
        ⟨between, wrote, fits, advanced, content⟩ | ⟨cause, after, piece, failed, still, content, front, less⟩
      · obtain ⟨count, tail, progress⟩ := ih between
        refine ⟨count + 1, tail, ?_⟩
        rw [wrote]
        dsimp only
        split
        · next cause after failed =>
          rw [failed] at progress
          exact progress.cons fits advanced content
        · next more after written =>
          rw [written] at progress
          exact progress.cons fits advanced content
      · rw [failed]
        refine ⟨0, piece, Nat.zero_le _, by simp, still, by simp [blocksFrom, content], ?_, ?_⟩
        · intro none
          cases none
        · refine fun _ => ⟨⟨cause, rfl⟩, fun next found => ?_⟩
          obtain rfl : block encoder.header.marker encoder.blocks encoder.checksum run = next := by
            simpa [blockList] using found
          exact ⟨front, less⟩

/-! ## Going on elsewhere -/

/-- How many blocks an append counts. -/
def counted (batch : List Bytes) (encoder : Encoder σ) : Nat :=
  (encoder.append batch).2.blocks - encoder.blocks

/-- An encoder that was made in front of some sink, with any batches appended since then, each with any outcome,
and with its sink exchanged in between. Kept are the header and the blocks that the encoder counted, whose
records come with them; what a sink took of a block that was not counted is dropped. -/
inductive Arises (marker : Marker) : Bytes → List Bytes → Encoder σ → Prop
  | start {out : σ} {encoder : Encoder σ} (started : start marker out = .ok encoder) :
      Arises marker (Header.bytes { version, marker }) [] encoder
  | append {kept : Bytes} {records : List Bytes} {encoder : Encoder σ} (batch : List Bytes)
      (arises : Arises marker kept records encoder) :
      Arises marker (kept ++ ((encoder.blocksOf batch).take (encoder.counted batch)).flatten)
        (records ++ ((runs batch).take (encoder.counted batch)).flatten) (encoder.append batch).2
  | exchange {kept : Bytes} {records : List Bytes} {encoder : Encoder σ} (out : σ)
      (arises : Arises marker kept records encoder) : Arises marker kept records (encoder.onto out)

theorem behind_start {marker : Marker} {out : σ} {encoder : Encoder σ}
    (started : start marker out = .ok encoder) :
    Behind marker [] (Header.bytes { version, marker }) [] encoder := by
  rw [start] at started
  split at started
  · cases started
  · cases started
    exact ⟨by simp, by simp [written, blocksFrom], rfl, rfl, rfl, rfl⟩

/-- The encoder counts the blocks that were taken whole. -/
theorem Progress.counted {runs : List (List Bytes)} {count : Nat} {tail : Bytes} {before : Encoder σ}
    {result : Except WriteError UInt32 × Encoder σ} (progress : Progress sink runs count tail before result) :
    result.2.blocks - before.blocks = count := by
  rw [progress.advanced.blocks, List.length_take, Nat.min_eq_left progress.within,
    Nat.add_sub_cancel_left]

theorem Arises.behind {marker : Marker} {kept : Bytes} {records : List Bytes} {encoder : Encoder σ}
    (sink : ByteSink.Holding σ) (arises : Arises marker kept records encoder) :
    ∃ past, Behind marker past kept records encoder := by
  induction arises with
  | start started => exact ⟨[], behind_start started⟩
  | @append kept records encoder batch _ ih =>
      obtain ⟨past, behind⟩ := ih
      obtain ⟨count, tail, progress⟩ := progress_writeBlocks sink (runs batch) encoder
      have counted : encoder.counted batch = count := progress.counted
      refine ⟨past ++ (runs batch).take count, ?_⟩
      rw [counted, flatten_take_blocksOf]
      exact behind.advanced progress.fits progress.advanced
  | exchange out _ ih =>
      obtain ⟨past, behind⟩ := ih
      exact ⟨past, behind.onto out⟩

/-- Nothing is left out of a writing that succeeds. -/
theorem Progress.all_of_ok {runs : List (List Bytes)} {count : Nat} {told : UInt32} {tail : Bytes}
    {before : Encoder σ} {result : Except WriteError UInt32 × Encoder σ}
    (progress : Progress sink runs count tail before result) (succeeded : result.1 = .ok told) :
    count = runs.length := by
  rcases Nat.lt_or_eq_of_le progress.within with less | all
  · obtain ⟨⟨cause, failed⟩, -⟩ := progress.stopped less
    cases succeeded.symm.trans failed
  · exact all

/-- The encoder is where one is that appended the records of the blocks that were taken whole. -/
theorem Progress.alike {batch : List Bytes} {count : Nat} {tail : Bytes} {encoder : Encoder σ}
    {result : Except WriteError UInt32 × Encoder σ}
    (progress : Progress sink (runs batch) count tail encoder result) :
    ∃ whole, (encoder.onto Body.empty).append ((runs batch).take count).flatten =
        (.ok (UInt32.ofNat count), whole) ∧
      whole.out.content = ((encoder.blocksOf batch).take count).flatten ∧ Alike result.2 whole := by
  have fits : ∀ run ∈ runs ((runs batch).take count).flatten, Fits run := by
    rw [runs_flatten_take]
    exact progress.fits
  obtain ⟨whole, appended, advanced, content⟩ := append_onto_empty encoder fits
  rw [runs_flatten_take, List.length_take, Nat.min_eq_left progress.within] at appended
  rw [runs_flatten_take] at advanced
  refine ⟨whole, appended, ?_, ?_⟩
  · rw [content, flatten_take_blocksOf, blocksOf, runs_flatten_take, flatten_blockList]
  · exact Alike.advanced ⟨rfl, rfl, rfl, rfl⟩ progress.advanced advanced

/-- What is left of a batch is appended to another sink. Together with what is kept, the other sink holds the
rest of a stream. -/
theorem Behind.resumed {marker : Marker} {past : List (List Bytes)} {kept : Bytes}
    {records rest : List Bytes} {encoder done : Encoder σ} {number : UInt32}
    (behind : Behind marker past kept records encoder) (sink : ByteSink.Holding σ)
    (fresh : sink.content encoder.out = []) (appended : encoder.append rest = (.ok number, done)) :
    Decodes (kept ++ sink.content done.out) (records ++ rest) := by
  obtain ⟨count, tail, progress⟩ := progress_writeBlocks sink (runs rest) encoder
  rw [show encoder.writeBlocks (runs rest) = (.ok number, done) from appended] at progress
  obtain rfl := progress.all_of_ok rfl
  obtain ⟨-, rfl⟩ := progress.finished rfl
  have moved := (behind.advanced progress.fits progress.advanced).decodes
  rw [List.take_length, flatten_runs] at moved
  rwa [progress.content, fresh, List.take_length, List.nil_append, List.append_nil]

/-- An append to any sink. Some of the blocks that it would write to a perfect one are taken whole, and of the
next one less than all; the encoder has then the state of one that appended the records of the blocks that were
taken whole. With what was taken of the next block dropped, the other records can be appended to a new sink. The
number of blocks is told as far as 32 bits can tell it. -/
theorem append_resumable (sink : ByteSink.Holding σ) {marker : Marker} {kept : Bytes} {past : List Bytes}
    {encoder : Encoder σ} (arises : Arises marker kept past encoder) {batch : List Bytes}
    (short : ∀ record ∈ batch, record.length + 5 ≤ lengthBound) :
    let blocks := encoder.blocksOf batch
    let perfect := (encoder.onto Body.empty).append batch
    let result := encoder.append batch
    (perfect.1 = .ok (UInt32.ofNat blocks.length) ∧ perfect.2.out.content = blocks.flatten) ∧
    ∃ count ≤ blocks.length, ∃ tail first rest, first ++ rest = batch ∧
      (sink.content result.2.out = sink.content encoder.out ++ (blocks.take count).flatten ++ tail ∧
        (count = blocks.length → tail = []) ∧
        ∀ next, blocks[count]? = some next → tail <+: next ∧ tail ≠ next) ∧
      (result.1 = .ok (UInt32.ofNat blocks.length) ↔ count = blocks.length) ∧
      (blocks.length < UInt32.size → ∀ told, result.1 = .ok told → told.toNat = blocks.length) ∧
      (∃ whole, (encoder.onto Body.empty).append first = (.ok (UInt32.ofNat count), whole) ∧
        whole.out.content = (blocks.take count).flatten ∧ Alike result.2 whole) ∧
      ∀ (τ : Type) [ByteSink τ] (other : ByteSink.Holding τ) (out : τ), other.content out = [] →
        ∀ number done, (result.2.onto out).append rest = (.ok number, done) →
          Decodes (kept ++ (blocks.take count).flatten ++ other.content done.out) (past ++ batch) := by
  intro blocks perfect result
  have fits : ∀ run ∈ runs batch, Fits run := by
    apply fits_of_mem_runs
    intro record inside
    have bound := short record inside
    rw [frameSize]
    omega
  have length : blocks.length = (runs batch).length := encoder.length_blocksOf batch
  obtain ⟨pastRuns, behind⟩ := arises.behind sink
  obtain ⟨count, tail, progress⟩ := progress_writeBlocks sink (runs batch) encoder
  have whole : ((runs batch).take count).flatten ++ ((runs batch).drop count).flatten = batch := by
    rw [← List.flatten_append, List.take_append_drop, flatten_runs]
  constructor
  · obtain ⟨after, appended, -, content⟩ := append_onto_empty encoder fits
    rw [length]
    exact ⟨congrArg Prod.fst appended, (congrArg (·.2.out.content) appended).trans content⟩
  -- the batch is cut where the counted blocks end
  · refine ⟨count, length ▸ progress.within, tail, ((runs batch).take count).flatten,
      ((runs batch).drop count).flatten, whole, ⟨?content, ?all, ?next⟩, ?outcome, ?told, ?state, ?resumed⟩
    case content => rw [flatten_take_blocksOf]; exact progress.content
    case all => exact fun all => (progress.finished (all.trans length)).2
    case next =>
      intro next found
      have less : count < blocks.length := (List.getElem?_eq_some_iff.mp found).1
      exact (progress.stopped (length ▸ less)).2 next found
    case outcome =>
      rw [length]
      exact ⟨progress.all_of_ok, fun all => all ▸ (progress.finished all).1⟩
    case told =>
      intro few told succeeded
      have all : count = blocks.length := (progress.all_of_ok succeeded).trans length.symm
      have known := (progress.finished (all.trans length)).1
      rw [Except.ok.inj (succeeded.symm.trans known), all, UInt32.toNat_ofNat_of_lt' few]
    case state => exact progress.alike
    case resumed =>
      intro τ _ other out fresh number done appended
      have moved := (behind.advanced progress.fits progress.advanced).onto out
      have decodes := moved.resumed other fresh appended
      rwa [List.append_assoc past, whole, ← flatten_take_blocksOf] at decodes

namespace Trial

/-- The sink behind takes seven bytes of a write, and forty in all. -/
def narrow : Retargeting LimitedSink :=
  { destination := some (.empty (some 7) (some 40) 0), bytesWritten := 0, attachments := 1 }

theorem starts : (start Marker.blank narrow).toOption.isSome := by
  decide +kernel

/-- An encoder whose header the sink has room for. -/
def encoder : Encoder (Retargeting LimitedSink) := (start Marker.blank narrow).toOption.get starts

theorem refuses : (encoder.append [[7]]).1.toOption = none := by
  decide +kernel

end Trial

/-- The sink takes the front of a block, and a wide one the whole of it. -/
theorem append_resumable_trial :
    let sink := Retargeting.holding LimitedSink.holding
    (Trial.encoder.append [[7]]).1.toOption = none ∧
    ∃ tail first rest, first ++ rest = [[7]] ∧
      sink.content (Trial.encoder.append [[7]]).2.out = sink.content Trial.encoder.out ++ tail ∧
      ∀ number done, ((Trial.encoder.append [[7]]).2.onto (LimitedSink.empty none none 0)).append rest =
          (.ok number, done) →
        Decodes (Header.bytes { version, marker := .blank } ++ done.out.content) [[7]] := by
  intro sink
  have arises : Arises Marker.blank (Header.bytes { version, marker := .blank }) [] Trial.encoder :=
    .start (Except.eq_ok_of_isSome Trial.starts)
  obtain ⟨-, count, within, tail, first, rest, whole, ⟨content, -, -⟩, outcome, -, -, resumed⟩ :=
    append_resumable sink arises (show ∀ record ∈ [[7]], record.length + 5 ≤ lengthBound by decide)
  have one : (Trial.encoder.blocksOf [[7]]).length = 1 := by
    rw [length_blocksOf]
    decide +kernel
  rw [one] at within outcome
  obtain rfl : count = 0 := by
    rcases Nat.le_one_iff_eq_zero_or_eq_one.mp within with none | all
    · exact none
    · have failed := Trial.refuses
      rw [show (Trial.encoder.append [[7]]).1 = .ok 1 from outcome.mpr all] at failed
      cases failed
  rw [List.take_zero, List.flatten_nil, List.append_nil] at content
  refine ⟨Trial.refuses, tail, first, rest, whole, content, fun number done appended => ?_⟩
  have decodes := resumed LimitedSink LimitedSink.holding (.empty none none 0) rfl number done appended
  rwa [List.take_zero, List.flatten_nil, List.append_nil] at decodes

end Encoder

end Stream

end RecordSink
