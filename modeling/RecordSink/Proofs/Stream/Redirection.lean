import RecordSink.Proofs.Stream.Splitting
import RecordSink.Proofs.Stream.Writing

/-!
# One encoder over many bodies

Between two calls of an encoder the body behind it may be detached, and a new one attached. Main statement: all
bodies, one behind the other, hold what the same encoder would have written into a single one. While no body is
attached the encoder takes no record and stays as it is.
-/

namespace RecordSink.Stream.Encoder

/-! ## Without a body -/

section Detached

variable {σ : Type} [ByteSink σ]

/-- No byte is taken without a destination. -/
theorem writeAll_detached {sink : Retargeting σ} (detached : sink.destination = none) {data : Bytes}
    (some : data ≠ []) : ByteSink.writeAll data sink = (.error .detached, sink) := by
  cases data with
  | nil => exact absurd rfl some
  | cons first rest => simp only [ByteSink.writeAll, ByteSink.write, detached]

variable {encoder : Encoder (Retargeting σ)}

/-- A block that fits is not written without a destination. -/
theorem writeBlock_detached (detached : encoder.out.destination = none) {run : List Bytes} (fits : Fits run) :
    encoder.writeBlock run = (.error .detached, encoder) := by
  have some : block encoder.header.marker encoder.blocks encoder.checksum run ≠ [] := by
    intro none
    have size := congrArg List.length none
    rw [length_block, List.length_nil] at size
    omega
  rw [writeBlock, if_neg (Nat.not_le.mpr fits)]
  simp only [writeAll_detached detached some]

/-- What an append comes to without a destination: the size of a block is looked at before it is written. -/
def refusal : List Bytes → Except WriteError UInt32
  | [] => .ok 0
  | record :: _ =>
      .error (if frameSize record < lengthBound then .detached else .longPayload (frameSize record))

/-- Without a destination no record is taken, and the encoder stays as it is. -/
theorem append_detached (detached : encoder.out.destination = none) (batch : List Bytes) :
    encoder.append batch = (refusal batch, encoder) := by
  rw [append]
  cases batch with
  | nil => rw [runs]; rfl
  | cons record rest =>
      rw [runs, writeBlocks, refusal]
      by_cases short : frameSize record < lengthBound
      · rw [writeBlock_detached detached (fits_fitting short rest), if_pos short]
      · have full : payloadLimit < frameSize record := Nat.lt_of_lt_of_le (by decide) (Nat.not_lt.mp short)
        have alone : payloadSize [record] = frameSize record := by
          rw [payloadSize, sumOver_cons, sumOver_nil, Nat.add_zero]
        have long : ¬ Fits [record] := by
          rw [Fits, alone]
          exact short
        rw [fitting_of_full full, writeBlock_of_not_fits long, alone, if_neg short]

end Detached

/-! ## Batches in a single body -/

section Single

variable {σ : Type} [ByteSink σ] {sink : ByteSink.Taking σ}

/-- Appends batches, also behind one that failed; the result is what each of them came to. -/
def appendEach (batches : List (List Bytes)) (encoder : Encoder σ) :
    List (Except WriteError UInt32) × Encoder σ :=
  match batches with
  | [] => ([], encoder)
  | batch :: rest =>
      let (outcome, between) := encoder.append batch
      let (outcomes, after) := between.appendEach rest
      (outcome :: outcomes, after)

/-- One more batch is appended behind the others. -/
theorem appendEach_concat (batches : List (List Bytes)) (batch : List Bytes) (encoder : Encoder σ) :
    encoder.appendEach (batches ++ [batch]) =
      ((encoder.appendEach batches).1 ++ [((encoder.appendEach batches).2.append batch).1],
        ((encoder.appendEach batches).2.append batch).2) := by
  induction batches generalizing encoder with
  | nil => rfl
  | cons other rest ih => simp only [List.cons_append, appendEach, ih]

/-- Of each batch the blocks in front of the first one that does not fit are written. -/
theorem wrote_appendEach (batches : List (List Bytes)) {encoder : Encoder σ} (ready : sink.ready encoder.out) :
    Wrote sink (batches.flatMap fun batch => landed (runs batch)) encoder (encoder.appendEach batches).2 := by
  induction batches generalizing encoder with
  | nil => exact .refl ready
  | cons batch rest ih =>
      obtain ⟨between, appended, wrote⟩ := writeBlocks_eq (runs batch) ready
      rw [appendEach, append, appended, List.flatMap_cons]
      exact wrote.trans (ih wrote.ready)

/-- A new body holds the blocks that were written, and nothing else. -/
theorem appended_appendEach {marker : Marker} {encoder : Encoder Body}
    (started : start marker Body.empty = .ok encoder) (batches : List (List Bytes)) :
    Appended marker (batches.flatMap fun batch => landed (runs batch)) (encoder.appendEach batches).2 := by
  have wrote := wrote_appendEach batches (show Body.taking.ready encoder.out from trivial)
  refine wrote.appended started fun run inside => ?_
  obtain ⟨batch, -, taken⟩ := List.mem_flatMap.mp inside
  exact fits_of_mem_landed taken

end Single

/-! ## Courses -/

/-- What may be done with an encoder and the sink in front of its bodies. -/
inductive Move where
  | append (batch : List Bytes)
  | flush
  | detach
  /-- An empty body is attached, unless there is one. -/
  | attach

/-- A batch that was to be appended, and what came of it. -/
structure Attempt where
  /-- A body was attached. -/
  attached : Bool
  batch : List Bytes
  outcome : Except WriteError UInt32

/-- An encoder, what it was to append so far, and the bodies that were detached from it, the first one first. -/
structure Course where
  encoder : Encoder (Retargeting Body)
  attempts : List Attempt
  bodies : List Body

namespace Course

/-- The course of an encoder to which nothing was done yet. -/
def of (encoder : Encoder (Retargeting Body)) : Course := { encoder, attempts := [], bodies := [] }

/-- Makes a move. -/
def move (course : Course) : Move → Course
  | .append batch =>
      let (outcome, encoder) := course.encoder.append batch
      let attached := course.encoder.out.isAttached
      { course with encoder, attempts := course.attempts ++ [{ attached, batch, outcome }] }
  | .flush => { course with encoder := course.encoder.flush.2 }
  | .detach =>
      match course.encoder.out.detach with
      | (.ok (some body), out) =>
          { course with encoder := { course.encoder with out }, bodies := course.bodies ++ [body] }
      | (_, out) => { course with encoder := { course.encoder with out } }
  | .attach => { course with encoder := { course.encoder with out := (course.encoder.out.attach .empty).2 } }

/-- Makes moves in turn. -/
def run (moves : List Move) (course : Course) : Course := moves.foldl move course

/-- What was to be appended while a body was attached. -/
def attached (course : Course) : List Attempt := course.attempts.filter (·.attached)

/-- What the bodies hold, one behind the other, with the attached one at the end. -/
def content (course : Course) : Bytes :=
  (course.bodies ++ course.encoder.out.destination.toList).flatMap Body.content

variable {first : Encoder Body} {course other : Course}

/-- A course has come as far as an encoder in front of a single body, given all batches for which a body was
attached. -/
structure Follows (first : Encoder Body) (course : Course) : Prop where
  outcomes : course.attached.map (·.outcome) = (first.appendEach (course.attached.map (·.batch))).1
  content : course.content = (first.appendEach (course.attached.map (·.batch))).2.out.content
  alike : Alike course.encoder (first.appendEach (course.attached.map (·.batch))).2

/-- Where the body changes and the encoder does not, the course has come as far. -/
theorem Follows.change (follows : Follows first course) (attempts : other.attached = course.attached)
    (content : other.content = course.content) (alike : Alike other.encoder course.encoder) :
    Follows first other where
  outcomes := by rw [attempts, follows.outcomes]
  content := by rw [attempts, content, follows.content]
  alike := by
    rw [attempts]
    exact alike.trans follows.alike

/-- A batch is appended to the attached body as to the single one. -/
theorem Follows.append_attached (follows : Follows first course) {body : Body}
    (found : course.encoder.out.destination = some body) (batch : List Bytes) :
    Follows first (course.move (.append batch)) := by
  obtain ⟨after, appended, advanced, now⟩ := writeBlocks_redirected (runs batch) found
  obtain ⟨later, known, wrote⟩ := writeBlocks_eq (runs batch)
    (show Body.taking.ready (first.appendEach (course.attached.map (·.batch))).2.out from trivial)
  -- both encoders come to one verdict, since it does not depend on where they stand
  have attempts : (course.move (.append batch)).attached =
      course.attached ++ [{ attached := true, batch, outcome := verdict (runs batch) }] := by
    simp [attached, move, append, appended, Retargeting.isAttached, found]
  have single : first.appendEach ((course.move (.append batch)).attached.map (·.batch)) =
      ((first.appendEach (course.attached.map (·.batch))).1 ++ [verdict (runs batch)], later) := by
    rw [attempts, List.map_append, List.map_singleton, appendEach_concat, append, known]
  have encoder : (course.move (.append batch)).encoder = after := congrArg Prod.snd appended
  constructor
  · rw [single, attempts, List.map_append, List.map_singleton, follows.outcomes]
  · have before := follows.content
    simp only [Course.content, found, Option.toList_some, List.flatMap_append, List.flatMap_singleton]
      at before
    rw [single, show later.out.content = _ from wrote.content]
    simp only [Course.content, encoder, now, Option.toList_some, List.flatMap_append, List.flatMap_singleton]
    rw [← List.append_assoc, follows.alike.header, follows.alike.blocks, follows.alike.checksum]
    exact congrArg (· ++ _) before
  · rw [single, encoder]
    exact follows.alike.advanced advanced wrote.toAdvanced

/-- A batch is refused while no body is attached, and the single body does not get it. -/
theorem Follows.append_detached (follows : Follows first course)
    (found : course.encoder.out.destination = none) (batch : List Bytes) :
    Follows first (course.move (.append batch)) := by
  have refused := Encoder.append_detached found batch
  apply follows.change
  · simp [attached, move, Retargeting.isAttached, found]
  · simp only [move, refused, Course.content]
  · simp only [move, refused]
    exact ⟨rfl, rfl, rfl, rfl⟩

/-- Bodies are not flushed. -/
theorem move_flush (course : Course) : course.move .flush = course := by
  have still : course.encoder.flush.2 = course.encoder := by
    rw [flush]
    cases found : course.encoder.out.destination with
    | none => simp only [ByteSink.flush, found]
    | some body =>
        simp only [ByteSink.flush, found]
        rw [← found]
  rw [move, still]

/-- The body that is detached is the last one. -/
theorem Follows.detach (follows : Follows first course) : Follows first (course.move .detach) := by
  cases found : course.encoder.out.destination with
  | none =>
      have same : course.move .detach = course := by simp only [move, Retargeting.detach, found]
      rwa [same]
  | some body =>
      have moved : course.move .detach =
          { course with
            encoder := { course.encoder with out := { course.encoder.out with destination := none } }
            bodies := course.bodies ++ [body] } := by
        simp only [move, Retargeting.detach, found, ByteSink.flush]
      apply follows.change
      · rw [moved]
        rfl
      · rw [moved]
        simp only [Course.content, found, Option.toList_none, Option.toList_some, List.append_nil]
      · rw [moved]
        exact ⟨rfl, rfl, rfl, rfl⟩

/-- The body that is attached is empty, and another one stays. -/
theorem Follows.attach (follows : Follows first course) : Follows first (course.move .attach) := by
  cases found : course.encoder.out.destination with
  | none =>
      have content : (course.move .attach).content = course.content := by
        simp [move, Course.content, Retargeting.attach, found, Body.empty]
      have alike : Alike (course.move .attach).encoder course.encoder := ⟨rfl, rfl, rfl, rfl⟩
      exact follows.change rfl content alike
  | some body =>
      have same : course.move .attach = course := by simp only [move, Retargeting.attach, found]
      rwa [same]

/-- Each move keeps a course as far as the encoder in front of the single body. -/
theorem Follows.move (follows : Follows first course) (move : Move) : Follows first (course.move move) := by
  cases move with
  | append batch =>
      cases found : course.encoder.out.destination with
      | none => exact follows.append_detached found batch
      | some body => exact follows.append_attached found batch
  | flush => rwa [move_flush]
  | detach => exact follows.detach
  | attach => exact follows.attach

/-- A whole course comes as far as the encoder in front of the single body. -/
theorem Follows.run (follows : Follows first course) (moves : List Move) : Follows first (course.run moves) := by
  induction moves generalizing course with
  | nil => exact follows
  | cons move rest ih => exact ih (follows.move move)

end Course

/-- An encoder begins alike in front of an attached body and of a single one. -/
theorem follows_start {marker : Marker} {bytesWritten attachments : Nat} {encoder : Encoder (Retargeting Body)}
    {first : Encoder Body}
    (started : start marker { destination := some .empty, bytesWritten, attachments } = .ok encoder)
    (alone : start marker Body.empty = .ok first) : Course.Follows first (.of encoder) := by
  rw [start_attached] at started
  rw [start_empty] at alone
  cases started
  cases alone
  constructor
  · rfl
  · simp [Course.content, Course.of, Course.attached, appendEach]
  · exact ⟨rfl, rfl, rfl, rfl⟩

/-- Whatever is done with an encoder and the bodies behind it, all bodies, one behind the other, hold what an
encoder in front of a single body writes there: one header and the blocks of all batches for which a body was
attached. Both encoders stand at the same place. Without a body, the encoder takes no record and stays as it is:
it tells that there is no destination, or that the first block is too long for its field. -/
theorem redirected_eq_single (marker : Marker) (bytesWritten attachments : Nat) (moves : List Move) :
    ∃ encoder first,
      start marker ({ destination := some .empty, bytesWritten, attachments } : Retargeting Body) =
        .ok encoder ∧
      start marker Body.empty = .ok first ∧
      let course := (Course.of encoder).run moves
      let batches := course.attached.map (·.batch)
      let single := first.appendEach batches
      course.attached.map (·.outcome) = single.1 ∧
      course.content = single.2.out.content ∧
      Alike course.encoder single.2 ∧
      Appended marker (batches.flatMap fun batch => landed (runs batch)) single.2 ∧
      (course.encoder.out.destination = none →
        ∀ batch, course.encoder.append batch = (refusal batch, course.encoder)) := by
  have started := start_attached marker bytesWritten attachments
  have alone := start_empty marker
  have follows := (follows_start started alone).run moves
  exact ⟨_, _, started, alone, follows.outcomes, follows.content, follows.alike, appended_appendEach alone _,
    append_detached⟩

/-- Without a body, a record that no block can hold is refused as too long. -/
theorem detached_longPayload :
    ∃ encoder,
      start .blank ({ destination := some .empty, bytesWritten := 0, attachments := 1 } : Retargeting Body) =
        .ok encoder ∧
      let detached := ((Course.of encoder).run [.detach]).encoder
      let batch : List Bytes := [List.replicate 4294967292 0]
      detached.out.destination = none ∧
      detached.append batch = (.error (.longPayload 4294967296), detached) ∧
      (detached.append batch).1 ≠ .error .detached := by
  refine ⟨_, start_attached .blank 0 1, ?_⟩
  intro detached batch
  have gone : detached.out.destination = none := rfl
  have refused : detached.append batch = (.error (.longPayload 4294967296), detached) := by
    have size : frameSize (List.replicate 4294967292 (0 : UInt8)) = 4294967296 := by
      rw [frameSize, List.length_replicate]
    rw [append_detached gone, refusal, size, if_neg (by decide)]
  refine ⟨gone, refused, ?_⟩
  rw [refused]
  exact fun same => by cases same

end RecordSink.Stream.Encoder
