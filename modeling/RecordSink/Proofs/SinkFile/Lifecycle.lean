import RecordSink.Proofs.SinkFile.Created
import RecordSink.Proofs.SinkFile.Progress

/-!
# The life of a file

Which calls a file takes in which state, in any world and with any store behind it. A call that the state does
not permit is refused, and neither the file nor the world is any different after it; every other call leads
on as the life of a file has it.
-/

namespace RecordSink

variable {W : Type}

/-- The operations that a file takes in a state. -/
def FileState.permits : FileState → FileOperation → Bool
  | .open, _ => true
  | .failed, .discard => true
  | _, _ => false

/-- The error tells of an operation that the state does not permit. -/
def SinkError.IsRefusal : SinkError → Prop
  | .invalidState .. => True
  | _ => False

theorem SinkError.IsForeign.not_isRefusal {cause : SinkError} (isForeign : cause.IsForeign) :
    ¬ cause.IsRefusal := by
  cases cause with
  | invalidState operation state => exact isForeign.elim
  | _ => exact id

/-- Where an operation leads from a state, by whether it succeeds. Without success an append leaves a file
open, and a sync and a publish leave it failed; a discard always succeeds. -/
inductive FileState.Leads : FileState → FileOperation → Bool → FileState → Prop where
  | append (succeeded : Bool) : Leads .open .append succeeded .open
  | sync : Leads .open .sync true .open
  | failedSync : Leads .open .sync false .failed
  | publish : Leads .open .publish true .published
  | failedPublish : Leads .open .publish false .failed
  | discard : Leads .open .discard true .discarded
  | failedDiscard : Leads .failed .discard true .discarded

namespace SinkFile

/-! ## States and calls -/

/-- The operation that a call asks for. -/
def Call.operation : Call → FileOperation
  | .append _ => .append
  | .sync => .sync
  | .publish => .publish
  | .discard => .discard

/-- The error that an answer reports. -/
def Reply.error? : Reply → Option SinkError
  | .appended (.error cause) | .synced (.error cause) => some cause
  | .published (.error cause) | .discarded (.error cause) => some cause
  | _ => none

/-- The answer to a call that the state of a file does not permit. -/
def rejection (file : SinkFile) : Call → Reply
  | .append _ => .appended (.error (.invalidState .append file.state))
  | .sync => .synced (.error (.invalidState .sync file.state))
  | .publish => .published (.error (.invalidState .publish file.state))
  | .discard => .discarded (.error (.invalidState .discard file.state))

variable {store : RemoteStore W} {file after : SinkFile} {ledger : Ledger} {call : Call} {capacity : Nat}

theorem permits_of_isOpen (isOpen : file.state = .open) (operation : FileOperation) :
    file.state.permits operation = true := by
  rw [isOpen]
  rfl

/-- Only a file that is open or has failed can be discarded. -/
theorem permits_discard_iff :
    file.state.permits .discard = true ↔ ¬ (file.state ≠ .open ∧ file.state ≠ .failed) := by
  cases file.state <;> decide

/-- All other operations take an open file. -/
theorem isOpen_of_permits {operation : FileOperation} (permitted : file.state.permits operation = true)
    (other : operation ≠ .discard) : file.state = .open := by
  cases state : file.state with
  | «open» => rfl
  | _ =>
      rw [state] at permitted
      cases operation with
      | discard => exact absurd rfl other
      | _ => cases permitted

/-! ## Calls that are refused -/

/-- A call that the state does not permit is refused at once. -/
theorem ask_of_forbidden (store : RemoteStore W)
    (forbidden : file.state.permits call.operation = false) :
    file.ask store call = pure (file.rejection call, file) := by
  have shut : file.state ≠ .open := fun isOpen =>
    Bool.false_ne_true (forbidden.symm.trans (permits_of_isOpen isOpen _))
  cases call with
  | append record => rw [ask, append, if_pos shut]; rfl
  | sync => rw [ask, sync, if_pos shut]; rfl
  | publish => rw [ask, publish, if_pos shut]; rfl
  | discard =>
      have finished := Decidable.not_not.mp
        (mt permits_discard_iff.mpr (Bool.eq_false_iff.mp forbidden))
      rw [ask, discard, if_pos finished]
      rfl

/-- The file is at the end of its life. -/
def IsFinished (file : SinkFile) : Prop := file.state = .published ∨ file.state = .discarded

theorem IsFinished.forbids (finished : file.IsFinished) (operation : FileOperation) :
    file.state.permits operation = false := by
  rcases finished with state | state <;> rw [state] <;> rfl

/-- Nothing happens to a file at the end of its life, whatever is asked of it. -/
theorem run_of_isFinished (store : RemoteStore W) (finished : file.IsFinished)
    (closed : ledger.isOpen = false) (calls : List Call) :
    run store calls file ledger = pure (file, ledger) := by
  funext world
  induction calls with
  | nil => rfl
  | cons call rest ih =>
      have noted : file.perform store call world = ((false, file), world) := by
        rw [perform_eq, ask_of_forbidden store (finished.forbids call.operation)]
        cases call <;> rfl
      calc
        run store (call :: rest) file ledger world
            = run store rest file (ledger.note call false) world := by
          rw [run]
          exact congrArg (fun result : (Bool × SinkFile) × W =>
            run store rest result.1.2 (ledger.note call result.1.1) result.2) noted
        _ = run store rest file ledger world := by rw [Ledger.note_refused closed]
        _ = ((file, ledger), world) := ih

/-! ## Calls that are taken -/

/-- An append leaves the file as it is, or it takes the record where there is room. -/
theorem append_cases (record : Bytes) (isOpen : file.state = .open) :
    (∃ cause, file.append record = (.error cause, file) ∧ ¬ cause.IsRefusal) ∨
      file.buffer.records.length < file.buffer.capacity ∧
        file.append record =
          (.ok (), { file with buffer := { file.buffer with records := file.buffer.records ++ [record] } }) := by
  rcases Nat.lt_or_ge record.length Stream.lengthBound with short | long
  · rcases Nat.lt_or_ge file.buffer.records.length file.buffer.capacity with room | full
    · exact .inr ⟨room, append_progress isOpen short room⟩
    · exact .inl ⟨_, append_of_full isOpen short full, id⟩
  · refine .inl ⟨.encoding (.longRecord record.length), ?_, id⟩
    rw [append, if_neg (not_not_intro isOpen), if_pos long]

/-- A call that the state permits leads on, and what it reports is not the state. -/
theorem ask_leads (store : RemoteStore W) (permitted : file.state.permits call.operation = true) :
    Yields (file.ask store call) fun result =>
      file.state.Leads call.operation result.1.isOk result.2.state ∧
        ∀ cause, result.1.error? = some cause → ¬ cause.IsRefusal := by
  cases call with
  | append record =>
      have isOpen := isOpen_of_permits permitted (nomatch ·)
      rw [ask]
      rcases append_cases record isOpen with ⟨cause, refused, known⟩ | ⟨-, taken⟩
      · rw [refused]
        refine .pure ⟨?_, ?_⟩
        · rw [isOpen]
          exact .append false
        · rintro other ⟨⟩
          exact known
      · rw [taken]
        refine .pure ⟨?_, by simp [Reply.error?]⟩
        rw [isOpen]
        exact .append true
  | sync =>
      have isOpen := isOpen_of_permits permitted (by decide)
      rw [ask, isOpen]
      refine .bind (sync_progress store isOpen) ?_
      rintro ⟨result, after⟩ (⟨rfl, state, -⟩ | ⟨cause, rfl, isForeign, state⟩)
      · refine .pure ⟨?_, by simp [Reply.error?]⟩
        rw [state]
        exact .sync
      · refine .pure ⟨?_, ?_⟩
        · rw [state]
          exact .failedSync
        · rintro other ⟨⟩
          exact isForeign.not_isRefusal
  | publish =>
      have isOpen := isOpen_of_permits permitted (by decide)
      rw [ask, isOpen]
      refine .bind (publish_progress store isOpen) ?_
      rintro ⟨result, after⟩ ⟨-, ⟨⟨publication, rfl⟩, state⟩ | ⟨cause, rfl, isForeign, state⟩⟩
      · refine .pure ⟨?_, by simp [Reply.error?]⟩
        rw [state]
        exact .publish
      · refine .pure ⟨?_, ?_⟩
        · rw [state]
          exact .failedPublish
        · rintro other ⟨⟩
          exact isForeign.not_isRefusal
  | discard =>
      refine .bind (discard_yields store (permits_discard_iff.mp permitted)) ?_
      rintro ⟨result, after⟩ ⟨⟨left, rfl⟩, -, -, state⟩
      refine .pure ⟨?_, by simp [Reply.error?]⟩
      rw [state]
      cases began : file.state with
      | «open» => exact .discard
      | failed => exact .failedDiscard
      | _ => rw [began] at permitted; cases permitted

/-! ## Room for records -/

/-- No more records wait than there is room for. -/
structure Within (capacity : Nat) (file : SinkFile) : Prop where
  bound : file.buffer.capacity = capacity
  room : file.buffer.records.length ≤ capacity

theorem Within.clear (within : file.Within capacity) (same : after.buffer = file.buffer.clear) :
    after.Within capacity := by
  refine ⟨?_, ?_⟩
  · rw [same]
    exact within.bound
  · rw [same]
    exact Nat.zero_le capacity

theorem Within.alike (within : file.Within capacity) (same : after.buffer = file.buffer) :
    after.Within capacity := by
  refine ⟨?_, ?_⟩
  · rw [same]
    exact within.bound
  · rw [same]
    exact within.room

theorem Within.loads {α : Type} {result : Except SinkError α} (within : file.Within capacity)
    (loads : Loads file result after) : after.Within capacity := by
  rcases loads.waiting with same | same
  · exact within.alike same
  · exact within.clear same

theorem Within.append (within : file.Within capacity) (record : Bytes) :
    (file.append record).2.Within capacity := by
  by_cases isOpen : file.state = .open
  · rcases append_cases record isOpen with ⟨cause, refused, -⟩ | ⟨room, taken⟩
    · rw [refused]
      exact within
    · rw [taken]
      refine ⟨within.bound, ?_⟩
      rw [List.length_append, ← within.bound]
      exact room
  · rw [SinkFile.append, if_pos isOpen]
    exact within

/-- No call leaves more records waiting than there is room for. -/
theorem Within.perform (within : file.Within capacity) (store : RemoteStore W) (call : Call) :
    Yields (file.perform store call) fun result => result.2.Within capacity := by
  cases call with
  | append record => exact .pure (within.append record)
  | sync =>
      rw [SinkFile.perform, SinkFile.sync]
      split
      · exact .pure within
      refine .bind (.bind (composeInflight_loads store file) ?_) fun _ kept => .pure kept
      rintro ⟨result, after⟩ loads
      cases result with
      | error cause => exact .pure ((within.loads loads).alike rfl)
      | ok object => exact .pure ((within.loads loads).alike rfl)
  | publish =>
      rw [SinkFile.perform, SinkFile.publish]
      split
      · exact .pure within
      have tried : Within capacity { file with publishAttempted := true } := within.alike rfl
      refine .bind (.bind (composePublish_loads store _) ?_) fun _ kept => .pure kept
      rintro ⟨result, after⟩ loads
      cases result with
      | error cause => exact .pure ((tried.loads loads).alike rfl)
      | ok object => exact .after fun _ => .pure ((tried.loads loads).alike rfl)
  | discard =>
      rw [SinkFile.perform, SinkFile.discard]
      split
      · exact .pure within
      refine .bind (.after fun _ => .pure ?_) fun _ kept => .pure kept
      exact within.clear rfl

theorem within_create (store : RemoteStore W) (title : String) (names : FileNames) (capacity : Nat)
    (marker : Marker) :
    Yields (create store title names capacity marker) fun result =>
      ∀ file, result = .ok file → file.Within capacity := by
  rw [create]
  split
  · exact .pure (by simp)
  refine .after fun uploaded => ?_
  cases uploaded with
  | ok inflight =>
      refine .pure ?_
      rintro file ⟨⟩
      exact ⟨rfl, Nat.zero_le capacity⟩
  | error cause => exact .after fun _ => .pure (by simp)

/-- An open file with room for its records takes a short one exactly where the room is not used up. -/
theorem Within.append_eq (within : file.Within capacity) (isOpen : file.state = .open) {record : Bytes}
    (short : record.length < Stream.lengthBound) :
    (file.append record).1 =
      if file.buffer.records.length = capacity then .error (.capacityExceeded capacity) else .ok () := by
  have room := within.room
  by_cases full : file.buffer.records.length = capacity
  · rw [if_pos full, append_of_full isOpen short (Nat.le_of_eq (within.bound.trans full.symm)),
      within.bound]
  · rw [if_neg full, append_progress isOpen short (by rw [within.bound]; omega)]

/-! ## Any calls -/

/-- What any calls leave of a new file: it has room for its records, and its ledger is right about it. -/
theorem created_run {title : String} {names : FileNames} {marker : Marker} {calls : List Call}
    {before world later : W} (created : create store title names capacity marker before = (.ok file, world))
    (ran : run store calls file .empty world = ((after, ledger), later)) :
    after.Within capacity ∧ Agrees marker ledger after := by
  have room := within_create store title names capacity marker before
  have agrees := agrees_create store title names capacity marker before
  rw [created] at room agrees
  have kept : Yields (run store calls file .empty) fun result => result.1.Within capacity :=
    run_preserves (fun _ file => file.Within capacity) (fun _ _ call within => within.perform store call)
      calls (room file rfl)
  have held := kept world
  have right := agrees_run store calls (agrees file rfl) world
  rw [ran] at held right
  exact ⟨held, right⟩

/-- The life of a file, after any calls in any world. A call that the state does not permit is refused in the
name of its operation and of the state, and leaves the file and the world as they are; any other call leads on,
and reports no such error. A published or discarded file stays what it is under all further calls. An append
never touches the world, and where it fails it leaves the file as it is; where the file is open and the record
is short enough, it fails exactly where as many records wait as there is room for. -/
theorem life_cycle {title : String} {names : FileNames} {marker : Marker} {calls : List Call}
    {before world later : W} (created : create store title names capacity marker before = (.ok file, world))
    (ran : run store calls file .empty world = ((after, ledger), later)) :
    (∀ call,
      (after.state.permits call.operation = false →
        after.ask store call later = ((after.rejection call, after), later)) ∧
      (after.state.permits call.operation = true →
        after.state.Leads call.operation (after.ask store call later).1.1.isOk
            (after.ask store call later).1.2.state ∧
          ∀ cause, (after.ask store call later).1.1.error? = some cause → ¬ cause.IsRefusal)) ∧
    (after.state = .published ∨ after.state = .discarded →
      ∀ more, run store more after ledger later = ((after, ledger), later)) ∧
    ∀ record,
      (after.ask store (.append record) later).2 = later ∧
      (∀ cause, (after.append record).1 = .error cause → (after.append record).2 = after) ∧
      (after.state = .open → record.length < Stream.lengthBound →
        (after.append record).1 =
          if after.buffer.records.length = capacity then .error (.capacityExceeded capacity) else .ok ()) := by
  obtain ⟨within, agrees⟩ := created_run created ran
  refine ⟨fun call => ⟨fun forbidden => ?_, fun permitted => ask_leads store permitted later⟩, ?_, ?_⟩
  · rw [ask_of_forbidden store forbidden]
    rfl
  · intro finished more
    have closed : ledger.isOpen = false := by
      refine Bool.eq_false_iff.mpr fun opened => ?_
      have permitted := permits_of_isOpen (agrees.isOpen.mp opened) .append
      exact Bool.false_ne_true ((IsFinished.forbids finished .append).symm.trans permitted)
    rw [run_of_isFinished store finished closed]
    rfl
  · intro record
    refine ⟨rfl, ?_, fun isOpen short => within.append_eq isOpen short⟩
    intro cause failed
    by_cases isOpen : after.state = .open
    · rcases append_cases record isOpen with ⟨other, refused, -⟩ | ⟨-, taken⟩
      · rw [refused]
      · rw [taken] at failed
        cases failed
    · rw [append, if_pos isOpen]

theorem Trial.closes : (session [.append [1, 2, 3], .publish]).1.1.state = .published := by
  decide +kernel

/-- A published file refuses to be synced, and no request is sent. -/
theorem life_cycle_trial :
    (Trial.session [.append [1, 2, 3], .publish]).1.1.ask Trial.store .sync
        (Trial.session [.append [1, 2, 3], .publish]).2 =
      ((.synced (.error (.invalidState .sync .published)),
        (Trial.session [.append [1, 2, 3], .publish]).1.1),
        (Trial.session [.append [1, 2, 3], .publish]).2) := by
  have refused := ((life_cycle (eq_mk_of_fst (Except.eq_ok_of_isSome Trial.creates))
    (Trial.ran [.append [1, 2, 3], .publish])).1 .sync).1 (by rw [Trial.closes]; rfl)
  rw [rejection, Trial.closes] at refused
  exact refused

end SinkFile

end RecordSink
