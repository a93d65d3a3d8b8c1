import RecordSink.Proofs.Stream.Layout
import RecordSink.Proofs.Stream.Truncation

/-!
# Readers on arbitrary bytes

A reader is called again and again, also behind its failures, and nothing is known of its data. Main statement:
it only moves forward and stays within its data, it counts the blocks that it gave back, and they have room
behind the header. A whole stream is read in a bounded number of calls.
-/

namespace RecordSink.Stream.Reader

variable {data : Bytes} {reader before between after : Reader} {α : Type}

/-! ## Places -/

/-- A reader stands within its data: what it has not taken is what follows its place. -/
structure Within (data : Bytes) (reader : Reader) : Prop where
  offset_le : reader.offset ≤ data.length
  rest_eq : reader.rest = data.drop reader.offset

theorem Within.length_rest (within : Within data reader) :
    reader.offset + reader.rest.length = data.length := by
  have inside := within.offset_le
  rw [within.rest_eq, List.length_drop]
  omega

theorem Within.rest_eq_nil_iff (within : Within data reader) :
    reader.rest = [] ↔ reader.offset = data.length := by
  have total := within.length_rest
  rw [List.eq_nil_iff_length_eq_zero]
  omega

/-- Between two moments a reader went on in its data, and counted no block. -/
structure Moves (data : Bytes) (before after : Reader) : Prop where
  within : Within data after
  forward : before.offset ≤ after.offset
  blocks : after.blocks = before.blocks

/-- A step of a reader ends within the data and not behind its beginning. Where it fails, it counts no block. -/
structure Steps (data : Bytes) (before : Reader) (result : Except DecodeError α × Reader) : Prop where
  within : Within data result.2
  forward : before.offset ≤ result.2.offset
  blocks : ∀ cause, result.1 = .error cause → result.2.blocks = before.blocks

theorem Moves.fails (moves : Moves data before after) (cause : DecodeError) :
    Steps (α := α) data before (.error cause, after) := by
  constructor
  · exact moves.within
  · exact moves.forward
  · intro _ _
    exact moves.blocks

theorem Moves.steps {result : Except DecodeError α × Reader} (moves : Moves data before between)
    (steps : Steps data between result) : Steps data before result := by
  constructor
  · exact steps.within
  · exact Nat.le_trans moves.forward steps.forward
  · intro cause failed
    rw [steps.blocks cause failed, moves.blocks]

/-- Bytes are taken from the place of the reader, or it stays where it is. -/
theorem take_moves (within : Within data reader) (size : Nat) : Moves data reader (reader.take size).2 := by
  rw [take]
  split
  · next front back found =>
    obtain ⟨whole, sized⟩ := split?_eq_some found
    have total := within.length_rest
    rw [← whole, List.length_append, sized] at total
    constructor
    · constructor
      · dsimp only
        omega
      · rw [← List.drop_drop, ← within.rest_eq, ← whole, ← sized, List.drop_left]
    · exact Nat.le_add_right _ _
    · rfl
  · exact ⟨within, Nat.le_refl _, rfl⟩

theorem finishBlock_steps (within : Within data reader) (records : List Bytes) :
    Steps data reader (reader.finishBlock records) := by
  have moves := take_moves within blockSuffixSize
  rw [finishBlock]
  split
  · next cause after taken =>
    rw [taken] at moves
    exact moves.fails cause
  · next suffix after taken =>
    rw [taken] at moves
    dsimp only
    split
    · exact moves.fails _
    · split
      · exact moves.fails _
      · constructor
        · exact ⟨moves.within.offset_le, moves.within.rest_eq⟩
        · exact moves.forward
        · intro cause failed
          cases failed

theorem takePayload_steps (within : Within data reader) (count size : Nat) :
    Steps data reader (reader.takePayload count size) := by
  have moves := take_moves within size
  rw [takePayload]
  split
  · next cause after taken =>
    rw [taken] at moves
    exact moves.fails cause
  · next payload after taken =>
    rw [taken] at moves
    have summed : Moves data reader { after with checksum := after.checksum.update payload } :=
      ⟨⟨moves.within.offset_le, moves.within.rest_eq⟩, moves.forward, moves.blocks⟩
    dsimp only
    split
    · exact summed.fails _
    · exact summed.steps (finishBlock_steps summed.within _)

theorem takeBlock_steps (within : Within data reader) : Steps data reader reader.takeBlock := by
  have moves := take_moves within blockPrefixSize
  rw [takeBlock]
  split
  · next cause after taken =>
    rw [taken] at moves
    exact moves.fails cause
  · next raw after taken =>
    rw [taken] at moves
    dsimp only
    split
    · exact moves.fails _
    · split
      · exact moves.fails _
      · exact moves.steps (takePayload_steps moves.within _ _)

/-- A block that was taken lies between the two places. -/
theorem offset_of_takeBlock {run : List Bytes} (within : Within data reader)
    (taken : reader.takeBlock = (.ok run, after)) : after.offset = reader.offset + 40 + payloadSize run := by
  have steps := takeBlock_steps within
  rw [taken] at steps
  have later := steps.within.length_rest
  have total := within.length_rest
  obtain ⟨-, shape, -⟩ := takeBlock_eq_ok taken
  rw [shape, List.length_append, length_block] at total
  dsimp only at later
  omega

/-! ## Calls -/

/-- What one call comes to: the data are over and the reader stays, a block is given back, or the call fails. -/
theorem next_cases (within : Within data reader) :
    (reader.offset = data.length ∧ reader.next = (.ok none, reader)) ∨
    (∃ run after, reader.next = (.ok (some run), after) ∧ Within data after ∧
      after.offset = reader.offset + 40 + payloadSize run ∧ after.blocks = reader.blocks + 1) ∨
    ∃ cause after, reader.next = (.error cause, after) ∧ reader.offset < data.length ∧
      Moves data reader after := by
  have steps := takeBlock_steps within
  rw [next]
  split
  · next done => exact .inl ⟨within.rest_eq_nil_iff.mp done, rfl⟩
  · next first rest more =>
    have inside : reader.offset < data.length := by
      have total := within.length_rest
      rw [more, List.length_cons] at total
      omega
    split
    · next cause after failed =>
      rw [failed] at steps
      exact .inr (.inr ⟨cause, after, rfl, inside, steps.within, steps.forward, steps.blocks cause rfl⟩)
    · next run after taken =>
      rw [taken] at steps
      obtain ⟨-, -, -, counted, -⟩ := takeBlock_eq_ok taken
      exact .inr (.inl ⟨run, after, rfl, steps.within, offset_of_takeBlock within taken, counted⟩)

/-- The end of the stream is told exactly at the end of the data. -/
theorem next_eq_none_iff (within : Within data reader) :
    reader.next.1 = .ok none ↔ reader.offset = data.length := by
  obtain ⟨ended, same⟩ | ⟨run, after, same, inside, further, -⟩ | ⟨cause, after, same, inside, -⟩ :=
    next_cases within
  · rw [same]
    exact iff_of_true rfl ended
  · have bound := inside.offset_le
    rw [same]
    apply iff_of_false
    · intro given
      cases given
    · omega
  · rw [same]
    apply iff_of_false
    · intro given
      cases given
    · omega

/-- A call does not go back. It goes on by what it gives back, and stays at the end of the data. -/
theorem next_place (within : Within data reader) :
    reader.offset ≤ reader.next.2.offset ∧
    (∀ run, reader.next.1 = .ok (some run) → reader.next.2.offset = reader.offset + 40 + (payload run).length) ∧
    (reader.next.1 = .ok none → reader.next.2 = reader) := by
  obtain ⟨-, same⟩ | ⟨run, after, same, -, further, -⟩ | ⟨cause, after, same, -, moves⟩ := next_cases within
  · rw [same]
    refine ⟨Nat.le_refl _, ?_, fun _ => rfl⟩
    intro run given
    cases given
  · rw [same]
    constructor
    · dsimp only
      omega
    constructor
    · intro other given
      cases given
      rw [length_payload, further]
    · intro given
      cases given
  · rw [same]
    constructor
    · exact moves.forward
    constructor
    · intro run given
      cases given
    · intro given
      cases given

/-- What a call of a reader comes to. -/
abbrev Call := Except DecodeError (Option (List Bytes))

/-- Calls a reader a number of times; what each call came to, and the reader behind the last one. -/
def calls (reader : Reader) : Nat → List Call × Reader
  | 0 => ([], reader)
  | count + 1 =>
      let past := reader.calls count
      (past.1 ++ [past.2.next.1], past.2.next.2)

/-- The records that a call gave back. -/
def Call.records? : Call → Option (List Bytes)
  | .ok run => run
  | .error _ => none

/-- The blocks that calls gave back, in order. -/
def given (outcomes : List Call) : List (List Bytes) := outcomes.flatMap fun call => call.records?.toList

/-- A call may as well be counted first. -/
theorem calls_succ (reader : Reader) (count : Nat) :
    reader.calls (count + 1) =
      (reader.next.1 :: (reader.next.2.calls count).1, (reader.next.2.calls count).2) := by
  induction count with
  | zero => rfl
  | succ count ih =>
      rw [calls, ih]
      rfl

/-- A reader that was called again and again counts the blocks that were given back, and they have room
between the header and its place. -/
structure Called (data : Bytes) (blocks : List (List Bytes)) (reader : Reader) : Prop extends
    Within data reader where
  counted : reader.blocks = blocks.length
  room : headerSize + blocksSize blocks ≤ reader.offset

theorem called_start (started : start data = .ok reader) : Called data [] reader := by
  obtain ⟨marker, reserved, shape, made⟩ := start_eq_ok started
  have sized := length_sealed marker reserved
  rw [made]
  constructor
  · constructor
    · rw [shape, List.length_append, sized]
      exact Nat.le_add_right _ _
    · dsimp only
      rw [shape, ← sized, List.drop_left]
  · rfl
  · exact Nat.le_refl _

theorem blocksSize_append (first second : List (List Bytes)) :
    blocksSize (first ++ second) = blocksSize first + blocksSize second :=
  sumOver_append _ first second

theorem Called.next {blocks : List (List Bytes)} (called : Called data blocks reader) :
    Called data (blocks ++ (Call.records? reader.next.1).toList) reader.next.2 := by
  obtain ⟨-, same⟩ | ⟨run, after, same, within, offset, counted⟩ | ⟨cause, after, same, -, moves⟩ :=
    next_cases called.toWithin
  · rw [same, Call.records?, Option.toList_none, List.append_nil]
    exact called
  · rw [same, Call.records?, Option.toList_some]
    constructor
    · exact within
    · rw [counted, called.counted, List.length_append, List.length_singleton]
    · have room := called.room
      rw [blocksSize_append, blocksSize_cons]
      dsimp only
      rw [offset]
      simp only [blocksSize, sumOver_nil] at room ⊢
      omega
  · rw [same, Call.records?, Option.toList_none, List.append_nil]
    exact ⟨moves.within, moves.blocks.trans called.counted, Nat.le_trans called.room moves.forward⟩

/-- Each call keeps what is known of the reader, and so do all calls. -/
theorem called_calls (started : start data = .ok reader) (count : Nat) :
    Called data (given (reader.calls count).1) (reader.calls count).2 := by
  induction count with
  | zero => exact called_start started
  | succ count ih =>
      have later := ih.next
      rw [calls, given, List.flatMap_append, List.flatMap_singleton]
      exact later

/-! ## Whole streams -/

theorem blocksSize_eq (blocks : List (List Bytes)) :
    blocksSize blocks = 40 * blocks.length + payloadSize blocks.flatten := by
  induction blocks with
  | nil => rfl
  | cons run rest ih =>
      rw [payloadSize] at ih
      rw [blocksSize_cons, ih, payloadSize, payloadSize, List.flatten_cons, sumOver_append, List.length_cons]
      omega

/-- Collecting everything is calling the reader until a call gives back no block. -/
theorem collect_eq_calls (reader : Reader) (taken : List (List Bytes)) :
    ∃ (blocks : List (List Bytes)) (place : Reader),
      reader.calls blocks.length = (blocks.map fun run => .ok (some run), place) ∧
      ((place.next.1 = .ok none ∧
          reader.collect taken = .ok { header := reader.header, records := taken.reverse.flatten ++ blocks.flatten
                                       blocks := reader.blocks + blocks.length }) ∨
        ∃ cause, place.next.1 = .error cause ∧ reader.collect taken = .error cause) := by
  induction reader, taken using collect.induct with
  | case1 reader taken done =>
      refine ⟨[], reader, rfl, .inl ⟨?_, ?_⟩⟩
      · rw [next.eq_def, done]
      · rw [collect.eq_def]
        simp only [done, List.flatten_nil, List.append_nil, List.length_nil, Nat.add_zero]
  | case2 reader taken first rest more cause after failed =>
      have nonempty : reader.rest ≠ [] := by
        rw [more]
        exact List.cons_ne_nil _ _
      refine ⟨[], reader, rfl, .inr ⟨cause, ?_, collect_of_takeBlock_error nonempty failed taken⟩⟩
      simp only [next, more, failed]
  | case3 reader taken first rest more run after found ih =>
      have nonempty : reader.rest ≠ [] := by
        rw [more]
        exact List.cons_ne_nil _ _
      have called : reader.next = (.ok (some run), after) := by simp only [next, more, found]
      obtain ⟨-, -, header, counted, -⟩ := takeBlock_eq_ok found
      obtain ⟨blocks, place, later, ending⟩ := ih
      rw [header, counted] at ending
      refine ⟨run :: blocks, place, ?_, ?_⟩
      · rw [List.length_cons, calls_succ, called]
        dsimp only
        rw [later, List.map_cons]
      · rw [collect_of_takeBlock nonempty found]
        simpa [Nat.add_assoc, Nat.add_comm 1] using ending

theorem given_map (blocks : List (List Bytes)) : given (blocks.map fun run => .ok (some run)) = blocks := by
  induction blocks with
  | nil => rfl
  | cons run rest ih =>
      rw [given] at ih
      rw [given, List.map_cons, List.flatMap_cons, ih]
      rfl

/-- A reader of any bytes, called any number of times, also behind its failures. Its place is within the data and
what it has not taken lies behind its place. It counts the calls that gave back a block; these blocks, with forty
bytes for each of them and four bytes for each record, fit between the header and its place. The next call does
not go back. Where it gives back a block, it goes on by forty bytes and the payload. It tells the end of the
stream exactly where the data are over, and leaves the reader as it is. Reading the whole stream is calling the
reader until no block is given back, and that comes after no more blocks than have room. -/
theorem calls_within (data : Bytes) :
    (∀ cause, start data = .error cause → decode data = .error cause) ∧
    ∀ reader, start data = .ok reader →
      (∀ count,
        let place := (reader.calls count).2
        let blocks := given (reader.calls count).1
        let after := place.next.2
        (place.offset ≤ data.length ∧ place.rest = data.drop place.offset) ∧
        place.blocks = blocks.length ∧
        headerSize + (40 * blocks.length + sumOver (fun record => 4 + record.length) blocks.flatten) ≤
          place.offset ∧
        place.offset ≤ after.offset ∧
        (∀ run, place.next.1 = .ok (some run) → after.offset = place.offset + 40 + (payload run).length) ∧
        (place.next.1 = .ok none ↔ place.offset = data.length) ∧
        (place.next.1 = .ok none → after = place)) ∧
      ∃ (blocks : List (List Bytes)) (place : Reader), blocks.length ≤ (data.length - headerSize) / 40 ∧
        reader.calls blocks.length = (blocks.map fun run => .ok (some run), place) ∧
        ((place.next.1 = .ok none ∧
            decode data = .ok { header := reader.header, records := blocks.flatten, blocks := blocks.length }) ∨
          ∃ cause, place.next.1 = .error cause ∧ decode data = .error cause) := by
  constructor
  · intro cause failed
    rw [decode, failed]
    rfl
  · intro reader started
    constructor
    · intro count place blocks after
      have called : Called data blocks place := called_calls started count
      have room := called.room
      rw [blocksSize_eq] at room
      obtain ⟨forward, further, still⟩ := next_place called.toWithin
      exact ⟨⟨called.offset_le, called.rest_eq⟩, called.counted, room, forward, further,
        next_eq_none_iff called.toWithin, still⟩
    · obtain ⟨blocks, place, called, ending⟩ := reader.collect_eq_calls []
      have reached := called_calls started blocks.length
      have whole : decode data = reader.collect [] := by
        rw [decode, started]
        rfl
      have fresh : reader.blocks = 0 := (called_start started).counted
      rw [called, given_map] at reached
      refine ⟨blocks, place, ?_, called, ?_⟩
      · have room := reached.room
        have inside := reached.offset_le
        rw [blocksSize_eq] at room
        dsimp only at room inside
        omega
      · rw [whole]
        simpa [fresh] using ending

namespace Trial

/-- A stream of one block, with twenty bytes behind it that begin no block. -/
def torn : Bytes := written .blank [[[7]]] ++ List.replicate 20 0

theorem starts : (start torn).toOption.isSome := by
  decide +kernel

/-- The reader of the torn stream. -/
def opened : Reader := (start torn).toOption.get starts

theorem gives : given (opened.calls 2).1 = [[[7]]] := by
  decide +kernel

theorem ends : (opened.calls 2).2.offset = torn.length := by
  decide +kernel

end Trial

/-- The first call gives back a block and the second one fails. It took all that was left, so that the third one
tells the end. -/
theorem calls_within_trial :
    start Trial.torn = .ok Trial.opened ∧
    given (Trial.opened.calls 2).1 = [[[7]]] ∧
    (Trial.opened.calls 2).2.blocks = 1 ∧
    headerSize + (40 * 1 + 5) ≤ (Trial.opened.calls 2).2.offset ∧
    (Trial.opened.calls 2).2.next.1 = .ok none ∧
    (Trial.opened.calls 2).2.next.2 = (Trial.opened.calls 2).2 := by
  have started : start Trial.torn = .ok Trial.opened := Except.eq_ok_of_isSome Trial.starts
  obtain ⟨-, counted, room, -, -, ends, still⟩ := ((calls_within Trial.torn).2 Trial.opened started).1 2
  rw [Trial.gives] at counted room
  have done := ends.mpr Trial.ends
  exact ⟨started, Trial.gives, counted, room, done, still done⟩

end RecordSink.Stream.Reader
