import RecordSink.Proofs.Stream.Written
import RecordSink.Stream.Encoder

/-!
# Writing streams

An encoder in front of a sink that takes everything. Main statements: batches that were appended to a
body leave a written stream, and a reader gives back their records.
-/

namespace RecordSink

/-- A result that is there is no error. -/
theorem Except.eq_ok_of_isSome {ε α : Type} {result : Except ε α}
    (present : result.toOption.isSome = true) : result = .ok (result.toOption.get present) := by
  cases result with
  | ok value => rfl
  | error cause => cases present

/-- A sink that takes every byte in some of its states, and the bytes it holds there. -/
structure ByteSink.Taking (σ : Type) [ByteSink σ] where
  ready : σ → Prop
  content : σ → Bytes
  writeAll_eq : ∀ data sink, ready sink → ∃ after, writeAll data sink = (.ok (), after) ∧
    ready after ∧ content after = content sink ++ data

/-- A body takes every byte. -/
def Body.taking : ByteSink.Taking Body where
  ready _ := True
  content body := body.content
  writeAll_eq data body _ := ⟨⟨body.content ++ data⟩, Body.writeAll_eq data body, trivial, rfl⟩

/-- An attached body takes everything. -/
theorem Retargeting.writeAll_attached {sink : Retargeting Body} {body : Body}
    (attached : sink.destination = some body) (data : Bytes) :
    ByteSink.writeAll data sink = (.ok (),
      { sink with
        destination := some ⟨body.content ++ data⟩
        bytesWritten := sink.bytesWritten + data.length }) := by
  obtain ⟨destination, bytesWritten, attachments⟩ := sink
  subst attached
  cases data with
  | nil => simp [ByteSink.writeAll]
  | cons first rest => simp [ByteSink.writeAll, ByteSink.write]

/-- A sink with an attached body takes every byte. -/
def Retargeting.taking : ByteSink.Taking (Retargeting Body) where
  ready sink := ∃ body, sink.destination = some body
  content sink := sink.destination.elim [] Body.content
  writeAll_eq data sink attached := by
    obtain ⟨body, attached⟩ := attached
    refine ⟨_, writeAll_attached attached data, ⟨_, rfl⟩, ?_⟩
    simp only [attached, Option.elim_some]

namespace Stream.Encoder

variable {σ τ : Type}

/-- Two encoders are at one place of one stream, whatever their sinks are. -/
structure Alike (first : Encoder σ) (second : Encoder τ) : Prop where
  header : first.header = second.header
  blocks : first.blocks = second.blocks
  checksum : first.checksum = second.checksum
  records : first.records = second.records

/-- Between two moments, an encoder moved on behind blocks with the given runs. -/
structure Advanced (runs : List (List Bytes)) (before after : Encoder σ) : Prop where
  header : after.header = before.header
  blocks : after.blocks = before.blocks + runs.length
  checksum : after.checksum = summed before.checksum runs
  records : after.records = before.records + runs.flatten.length

theorem Alike.trans {ρ : Type} {first : Encoder ρ} {second : Encoder σ} {third : Encoder τ}
    (alike : Alike first second) (other : Alike second third) : Alike first third where
  header := alike.header.trans other.header
  blocks := alike.blocks.trans other.blocks
  checksum := alike.checksum.trans other.checksum
  records := alike.records.trans other.records

theorem Advanced.refl (encoder : Encoder σ) : Advanced [] encoder encoder := ⟨rfl, rfl, rfl, rfl⟩

theorem Advanced.trans {first second : List (List Bytes)} {before between after : Encoder σ}
    (advanced : Advanced first before between) (more : Advanced second between after) :
    Advanced (first ++ second) before after where
  header := more.header.trans advanced.header
  blocks := by rw [more.blocks, advanced.blocks, List.length_append, Nat.add_assoc]
  checksum := by rw [more.checksum, advanced.checksum, summed_append]
  records := by
    rw [more.records, advanced.records, List.flatten_append, List.length_append, Nat.add_assoc]

/-- Encoders that are alike stay so where they move on behind the same blocks. -/
theorem Alike.advanced {runs : List (List Bytes)} {first after : Encoder σ}
    {second later : Encoder τ} (alike : Alike first second) (one : Advanced runs first after)
    (other : Advanced runs second later) : Alike after later where
  header := by rw [one.header, other.header, alike.header]
  blocks := by rw [one.blocks, other.blocks, alike.blocks]
  checksum := by rw [one.checksum, other.checksum, alike.checksum]
  records := by rw [one.records, other.records, alike.records]

/-- The blocks in front of the first one that does not fit. -/
def landed : List (List Bytes) → List (List Bytes)
  | [] => []
  | run :: rest => if Fits run then run :: landed rest else []

/-- What the writing of blocks comes to where the sink takes everything: a block that does not fit stops it. -/
def verdict : List (List Bytes) → Except WriteError UInt32
  | [] => .ok 0
  | run :: rest =>
      if Fits run then (verdict rest).map (· + 1) else .error (.longPayload (payloadSize run))

theorem fits_of_mem_landed {runs : List (List Bytes)} {run : List Bytes} (inside : run ∈ landed runs) :
    Fits run := by
  induction runs with
  | nil => cases inside
  | cons first rest ih =>
      rw [landed] at inside
      split at inside
      · next fits =>
        rcases List.mem_cons.mp inside with rfl | later
        · exact fits
        · exact ih later
      · cases inside

theorem landed_of_fits {runs : List (List Bytes)} (fits : ∀ run ∈ runs, Fits run) : landed runs = runs := by
  induction runs with
  | nil => rfl
  | cons run rest ih =>
      rw [landed, if_pos (fits run (by simp)), ih fun other inside => fits other (by simp [inside])]

/-- The first blocks land. -/
theorem take_length_landed (runs : List (List Bytes)) : runs.take (landed runs).length = landed runs := by
  induction runs with
  | nil => rfl
  | cons run rest ih =>
      rw [landed]
      split
      · rw [List.length_cons, List.take_succ_cons, ih]
      · rfl

theorem verdict_of_fits {runs : List (List Bytes)} (fits : ∀ run ∈ runs, Fits run) :
    verdict runs = .ok (UInt32.ofNat runs.length) := by
  induction runs with
  | nil => rfl
  | cons run rest ih =>
      rw [verdict, if_pos (fits run (by simp)), ih fun other inside => fits other (by simp [inside]),
        List.length_cons, UInt32.ofNat_add]
      rfl

theorem verdict_of_not_fits {runs : List (List Bytes)} (long : ¬ ∀ run ∈ runs, Fits run) :
    ∃ cause, verdict runs = .error cause := by
  induction runs with
  | nil => exact absurd (by simp) long
  | cons run rest ih =>
      rw [verdict]
      by_cases fits : Fits run
      · have later : ¬ ∀ other ∈ rest, Fits other := by
          intro all
          exact long (by simpa [fits] using all)
        obtain ⟨cause, failed⟩ := ih later
        exact ⟨cause, by rw [if_pos fits, failed]; rfl⟩
      · exact ⟨_, if_neg fits⟩

/-- The writing succeeds if every block fits, and only then. -/
theorem verdict_eq_ok_iff {runs : List (List Bytes)} :
    (∃ told, verdict runs = .ok told) ↔ ∀ run ∈ runs, Fits run := by
  constructor
  · rintro ⟨told, succeeded⟩
    refine Classical.byContradiction fun long => ?_
    obtain ⟨cause, failed⟩ := verdict_of_not_fits long
    rw [succeeded] at failed
    cases failed
  · intro fits
    exact ⟨_, verdict_of_fits fits⟩

variable [ByteSink σ]

/-- Appends batches until one fails; the result is how many blocks each of them took. -/
def appendAll (batches : List (List Bytes)) (encoder : Encoder σ) :
    Except WriteError (List UInt32) × Encoder σ :=
  match batches with
  | [] => (.ok [], encoder)
  | batch :: rest =>
      match encoder.append batch with
      | (.error cause, encoder) => (.error cause, encoder)
      | (.ok count, encoder) =>
          match encoder.appendAll rest with
          | (.error cause, encoder) => (.error cause, encoder)
          | (.ok counts, encoder) => (.ok (count :: counts), encoder)

/-- Blocks are written behind others where these are written. -/
theorem writeBlocks_append (first second : List (List Bytes)) (encoder : Encoder σ) :
    encoder.writeBlocks (first ++ second) =
      match encoder.writeBlocks first with
      | (.error cause, after) => (.error cause, after)
      | (.ok count, between) =>
          match between.writeBlocks second with
          | (.error cause, after) => (.error cause, after)
          | (.ok more, after) => (.ok (count + more), after) := by
  induction first generalizing encoder with
  | nil =>
      rw [List.nil_append, writeBlocks]
      dsimp only
      rcases encoder.writeBlocks second with ⟨cause | more, after⟩
      · rfl
      · simp only [UInt32.zero_add]
  | cons run rest ih =>
      rw [List.cons_append, writeBlocks, writeBlocks]
      split
      · rfl
      · next between _ =>
        rw [ih]
        rcases between.writeBlocks rest with ⟨cause | count, middle⟩
        · rfl
        · dsimp only
          rcases middle.writeBlocks second with ⟨cause | more, after⟩
          · rfl
          · simp only [UInt32.add_assoc, UInt32.add_comm more 1]

section Taking

variable (sink : ByteSink.Taking σ)

/-- Between two moments, an encoder wrote blocks that hold the given runs, and nothing else. -/
structure Wrote (runs : List (List Bytes)) (before after : Encoder σ) : Prop extends
    Advanced runs before after where
  ready : sink.ready after.out
  content : sink.content after.out =
    sink.content before.out ++ blocksFrom before.header.marker before.blocks before.checksum runs

variable {sink} {runs : List (List Bytes)} {run : List Bytes} {encoder : Encoder σ}

theorem Wrote.refl (ready : sink.ready encoder.out) : Wrote sink [] encoder encoder :=
  ⟨.refl encoder, ready, (List.append_nil _).symm⟩

theorem Wrote.trans {first second : List (List Bytes)} {before between after : Encoder σ}
    (wrote : Wrote sink first before between) (more : Wrote sink second between after) :
    Wrote sink (first ++ second) before after where
  toAdvanced := wrote.toAdvanced.trans more.toAdvanced
  ready := more.ready
  content := by
    rw [more.content, wrote.content, wrote.header, wrote.blocks, wrote.checksum, blocksFrom_append,
      List.append_assoc]

/-- A block that fits is written. -/
theorem writeBlock_of_fits (ready : sink.ready encoder.out) (fits : Fits run) :
    ∃ after, encoder.writeBlock run = (.ok (), after) ∧ Wrote sink [run] encoder after := by
  have short : ¬ lengthBound ≤ payloadSize run := Nat.not_le.mpr fits
  obtain ⟨out, wrote, still, content⟩ := sink.writeAll_eq
    (block encoder.header.marker encoder.blocks encoder.checksum run) encoder.out ready
  refine ⟨{ encoder with
    out
    blocks := encoder.blocks + 1
    checksum := encoder.checksum.update (payload run)
    records := encoder.records + run.length }, ?_, ⟨rfl, rfl, ?_, ?_⟩, still, ?_⟩
  · simp only [writeBlock, if_neg short, wrote]
  · rw [summed_cons, summed_nil]
  · simp only [List.flatten_cons, List.flatten_nil, List.append_nil]
  · simp only [content, blocksFrom, List.append_nil]

/-- A block that does not fit is refused. -/
theorem writeBlock_of_not_fits (long : ¬ Fits run) :
    encoder.writeBlock run = (.error (.longPayload (payloadSize run)), encoder) := by
  rw [writeBlock, if_pos (Nat.not_lt.mp long)]

/-- Blocks are written one after another, up to the first one that does not fit. -/
theorem writeBlocks_eq (runs : List (List Bytes)) (ready : sink.ready encoder.out) :
    ∃ after, encoder.writeBlocks runs = (verdict runs, after) ∧
      Wrote sink (landed runs) encoder after := by
  induction runs generalizing encoder with
  | nil => exact ⟨encoder, rfl, .refl ready⟩
  | cons run rest ih =>
      rw [writeBlocks, verdict, landed]
      by_cases fits : Fits run
      · obtain ⟨between, first, wrote⟩ := writeBlock_of_fits ready fits
        obtain ⟨after, later, more⟩ := ih wrote.ready
        refine ⟨after, ?_, ?_⟩
        · rw [first, if_pos fits]
          simp only [later]
          cases verdict rest <;> rfl
        · rw [if_pos fits]
          exact wrote.trans more
      · refine ⟨encoder, ?_, ?_⟩
        · rw [writeBlock_of_not_fits fits, if_neg fits]
        · rw [if_neg fits]
          exact .refl ready

/-- Blocks that fit are written, one after another. -/
theorem writeBlocks_of_fits (fits : ∀ run ∈ runs, Fits run) (ready : sink.ready encoder.out) :
    ∃ after, encoder.writeBlocks runs = (.ok (UInt32.ofNat runs.length), after) ∧
      Wrote sink runs encoder after := by
  obtain ⟨after, finished, wrote⟩ := writeBlocks_eq runs ready
  rw [verdict_of_fits fits] at finished
  rw [landed_of_fits fits] at wrote
  exact ⟨after, finished, wrote⟩

/-- A block that does not fit stops the writing. -/
theorem writeBlocks_of_not_fits (long : ¬ ∀ run ∈ runs, Fits run) (ready : sink.ready encoder.out) :
    ∃ cause, (encoder.writeBlocks runs).1 = .error cause := by
  obtain ⟨after, finished, -⟩ := writeBlocks_eq runs ready
  rw [finished]
  exact verdict_of_not_fits long

/-- What was written without a failure fits. -/
theorem writeBlocks_eq_ok {after : Encoder σ} {count : UInt32} (ready : sink.ready encoder.out)
    (finished : encoder.writeBlocks runs = (.ok count, after)) :
    count = UInt32.ofNat runs.length ∧ (∀ run ∈ runs, Fits run) ∧ Wrote sink runs encoder after := by
  by_cases fits : ∀ run ∈ runs, Fits run
  · obtain ⟨other, done, wrote⟩ := writeBlocks_of_fits fits ready
    rw [done] at finished
    cases finished
    exact ⟨rfl, fits, wrote⟩
  · obtain ⟨cause, failed⟩ := writeBlocks_of_not_fits fits ready
    rw [finished] at failed
    cases failed

/-- Appended batches are written in runs of their own. -/
theorem appendAll_eq_ok {batches : List (List Bytes)} {after : Encoder σ} {counts : List UInt32}
    (ready : sink.ready encoder.out) (appended : encoder.appendAll batches = (.ok counts, after)) :
    counts = batches.map (fun batch => UInt32.ofNat (Stream.runs batch).length) ∧
      (∀ run ∈ batches.flatMap Stream.runs, Fits run) ∧
      Wrote sink (batches.flatMap Stream.runs) encoder after := by
  induction batches generalizing encoder counts with
  | nil =>
      cases appended
      exact ⟨rfl, by simp, .refl ready⟩
  | cons batch rest ih =>
      rw [appendAll] at appended
      split at appended
      · cases appended
      · next count between first =>
        obtain ⟨number, fits, wrote⟩ := writeBlocks_eq_ok ready first
        split at appended
        · cases appended
        · next later numbers last =>
          cases appended
          obtain ⟨numbers, fit, more⟩ := ih wrote.ready last
          refine ⟨?_, ?_, ?_⟩
          · rw [number, numbers, List.map_cons]
          · intro run inside
            rw [List.flatMap_cons, List.mem_append] at inside
            exact inside.elim (fits run) (fit run)
          · rw [List.flatMap_cons]
            exact wrote.trans more

end Taking

/-- An attached body takes the blocks in front of the first one that does not fit. -/
theorem writeBlocks_redirected (runs : List (List Bytes)) {encoder : Encoder (Retargeting Body)} {body : Body}
    (attached : encoder.out.destination = some body) :
    ∃ after, encoder.writeBlocks runs = (verdict runs, after) ∧ Advanced (landed runs) encoder after ∧
      after.out.destination = some ⟨body.content
        ++ blocksFrom encoder.header.marker encoder.blocks encoder.checksum (landed runs)⟩ := by
  have ready : Retargeting.taking.ready encoder.out := ⟨body, attached⟩
  obtain ⟨after, finished, wrote⟩ := writeBlocks_eq runs ready
  obtain ⟨last, still⟩ := wrote.ready
  have content := wrote.content
  simp only [Retargeting.taking, attached, still, Option.elim_some] at content
  exact ⟨after, finished, wrote.toAdvanced, by rw [still, ← content]⟩

/-- An encoder in front of a body has written the given runs behind the header, and holds nothing else. -/
structure Appended (marker : Marker) (runs : List (List Bytes)) (encoder : Encoder Body) : Prop where
  content : encoder.out.content = written marker runs
  fits : ∀ run ∈ runs, Fits run
  blocks : encoder.blocks = runs.length
  records : encoder.records = runs.flatten.length

/-- A new body takes the header. -/
theorem start_empty (marker : Marker) : start marker Body.empty =
    .ok { out := ⟨Header.bytes { version, marker }⟩, header := { version, marker }, blocks := 0
          checksum := .empty, records := 0 } := by
  simp only [start, Body.writeAll_eq]
  rfl

/-- An attached body takes the header. -/
theorem start_attached (marker : Marker) (bytesWritten attachments : Nat) :
    start marker ({ destination := some .empty, bytesWritten, attachments } : Retargeting Body) =
      .ok { out :=
              { destination := some ⟨Header.bytes { version, marker }⟩
                bytesWritten := bytesWritten + (Header.bytes { version, marker }).length, attachments }
            header := { version, marker }, blocks := 0, checksum := .empty, records := 0 } := by
  have attached : (Retargeting.mk (some Body.empty) bytesWritten attachments).destination = some .empty := rfl
  simp only [start, Retargeting.writeAll_attached attached]
  rfl

/-- Blocks that were written into a new body are in it, and nothing else is. -/
theorem Wrote.appended {marker : Marker} {runs : List (List Bytes)} {encoder after : Encoder Body}
    (started : start marker Body.empty = .ok encoder) (wrote : Wrote Body.taking runs encoder after)
    (fits : ∀ run ∈ runs, Fits run) : Appended marker runs after := by
  rw [start_empty] at started
  cases started
  obtain ⟨⟨-, blocks, -, records⟩, -, content⟩ := wrote
  simp only [Body.taking, Nat.zero_add] at content blocks records
  exact ⟨content, fits, blocks, records⟩

/-- Batches that were appended to a new body are in it, and nothing else is. -/
theorem appended_appendAll {marker : Marker} {batches : List (List Bytes)} {encoder after : Encoder Body}
    {counts : List UInt32} (started : start marker Body.empty = .ok encoder)
    (appended : encoder.appendAll batches = (.ok counts, after)) :
    Appended marker (batches.flatMap runs) after ∧
      counts = batches.map fun batch => UInt32.ofNat (runs batch).length := by
  obtain ⟨numbers, fits, wrote⟩ := appendAll_eq_ok (show Body.taking.ready _ from trivial) appended
  exact ⟨wrote.appended started fits, numbers⟩

/-- Counts that 32 bits can tell add up to the number of blocks. -/
theorem sumOver_toNat {batches : List (List Bytes)}
    (few : ∀ batch ∈ batches, (runs batch).length < UInt32.size) :
    sumOver UInt32.toNat (batches.map fun batch => UInt32.ofNat (runs batch).length) =
      (batches.flatMap runs).length := by
  induction batches with
  | nil => rfl
  | cons batch rest ih =>
      rw [List.forall_mem_cons] at few
      rw [List.map_cons, sumOver_cons, UInt32.toNat_ofNat_of_lt' few.1, ih few.2, List.flatMap_cons,
        List.length_append]

end Stream.Encoder

namespace Stream

/-- A reader gives back what was appended: the records of all batches in order, and the blocks that the
encoder counted. The counts that the appends told add up to it, where 32 bits can tell each of them. -/
theorem decode_appendAll {marker : Marker} {batches : List (List Bytes)} {encoder after : Encoder Body}
    {counts : List UInt32} (started : Encoder.start marker Body.empty = .ok encoder)
    (appended : encoder.appendAll batches = (.ok counts, after)) :
    decode after.out.content =
        .ok { header := { version := 1, marker }, records := batches.flatten, blocks := after.blocks } ∧
      after.records = batches.flatten.length ∧
      counts = batches.map (fun batch => UInt32.ofNat (runs batch).length) ∧
      ((∀ batch ∈ batches, (runs batch).length < UInt32.size) →
        after.blocks = sumOver UInt32.toNat counts) := by
  obtain ⟨⟨content, fits, blocks, records⟩, numbers⟩ := Encoder.appended_appendAll started appended
  rw [flatten_flatMap_runs] at records
  refine ⟨?_, records, numbers, fun few => ?_⟩
  · calc
      decode after.out.content = decode (written marker (batches.flatMap runs)) := by rw [content]
      _ = .ok { header := { version, marker }, records := (batches.flatMap runs).flatten
                blocks := (batches.flatMap runs).length } := decode_written marker fits
      _ = .ok { header := { version := 1, marker }, records := batches.flatten
                blocks := after.blocks } := by rw [flatten_flatMap_runs, blocks]; rfl
  · rw [numbers, Encoder.sumOver_toNat few, blocks]

/-- A batch without records, one with an empty record, and another one. -/
theorem decode_appendAll_trial : ∃ encoder after,
    Encoder.start Marker.blank Body.empty = .ok encoder ∧
    encoder.appendAll [[], [[], [7]], [[1, 2, 3]]] = (.ok [0, 1, 1], after) ∧
    decode after.out.content = .ok { header := { version := 1, marker := .blank }
                                     records := [[], [7], [1, 2, 3]], blocks := 2 } := by
  have started := Encoder.start_empty .blank
  have appended : ∃ after, (Encoder.mk (⟨Header.bytes { version, marker := .blank }⟩ : Body)
      { version, marker := .blank } 0 .empty 0).appendAll [[], [[], [7]], [[1, 2, 3]]] =
        (.ok [0, 1, 1], after) := by
    simp [Encoder.appendAll, Encoder.append, Encoder.writeBlocks, Encoder.writeBlock, runs, fitting,
      Body.writeAll_eq, payloadSize, frameSize, payloadLimit, lengthBound]
  obtain ⟨after, appended⟩ := appended
  obtain ⟨decoded, -, -, blocks⟩ := decode_appendAll started appended
  have few : ∀ batch ∈ ([[], [[], [7]], [[1, 2, 3]]] : List (List Bytes)), (runs batch).length < UInt32.size := by
    simp [runs, fitting, frameSize, payloadLimit, UInt32.size]
  rw [blocks few] at decoded
  exact ⟨_, after, started, appended, decoded⟩

end Stream

end RecordSink
