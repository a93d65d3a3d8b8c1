import RecordSink.Intake
import RecordSink.Proofs.SinkFile.Deletions
import RecordSink.Proofs.SinkFile.Progress

/-!
# Copies of an input

The copy of an input into a file is a run of calls that is planned from its lines: the records are appended,
and a sync stands in front of each record that finds the buffer full. The copy ends with the last line or
with a sync that fails, and never because the file refuses a call.
-/

namespace RecordSink.Intake

open SinkFile (Call Ledger run)

variable {W : Type} {store : RemoteStore W} {file after : SinkFile} {capacity waiting : Nat}
  {lines : List Bytes}

/-! ## The plan -/

/-- The calls that copy lines into a file with a number of waiting records. -/
def calls (capacity : Nat) : Nat → List Bytes → List Call
  | _, [] => []
  | waiting, line :: rest =>
      if waiting < capacity then .append line :: calls capacity (waiting + 1) rest
      else .sync :: .append line :: calls capacity 1 rest

/-- There is a sync for each full buffer that is not the last. -/
theorem count_sync_calls (positive : 0 < capacity) (within : waiting ≤ capacity) (lines : List Bytes) :
    (calls capacity waiting lines).count .sync = (waiting + lines.length - 1) / capacity := by
  induction lines generalizing waiting with
  | nil =>
      have less : waiting + ([] : List Bytes).length - 1 < capacity := by
        rw [List.length_nil]
        omega
      rw [calls, List.count_nil, Nat.div_eq_of_lt less]
  | cons line rest ih =>
      rw [calls]
      split
      · next room =>
          rw [List.count_cons_of_ne (by simp), ih room, List.length_cons]
          congr 1
          omega
      · next full =>
          have whole : waiting = capacity := by omega
          rw [List.count_cons_self, List.count_cons_of_ne (by simp), ih positive, whole, List.length_cons]
          rw [show capacity + (rest.length + 1) - 1 = rest.length + capacity by omega,
            Nat.add_div_right _ positive]
          congr 2
          omega

/-- A line that can be a record. -/
structure IsRecord (line : Bytes) : Prop where
  text : line.text?.isSome
  short : line.length < Stream.lengthBound

theorem IsRecord.not_isNone {line : Bytes} (record : IsRecord line) : ¬ line.text?.isNone = true := by
  rw [Option.isNone_iff_eq_none, ← Option.not_isSome_iff_eq_none]
  exact not_not_intro record.text

/-! ## The copy -/

/-- Where there is room, the next line is appended. -/
theorem copy_cons_of_room (isOpen : file.state = .open) {line : Bytes} (record : IsRecord line)
    (room : file.buffer.records.length < file.buffer.capacity) (rest : List Bytes) (world : W) :
    copy store (line :: rest) file world = copy store rest (file.append line).2 world := by
  have text := record.not_isNone
  have notFull : ¬ file.isFull = true := mt SinkFile.isFull_iff.mp (Nat.not_le.mpr room)
  have taken : (file.append line).1 = .ok () := by
    rw [SinkFile.append_progress isOpen record.short room]
  have ready : makeRoom store file world = ((.ok (), file), world) := by
    rw [makeRoom, if_neg notFull]
    rfl
  simp only [copy, if_neg text, bind, StateT.bind, ready]
  rcases appended : file.append line with ⟨result, after⟩
  rw [appended] at taken
  cases taken
  rfl

/-- A full file is synced, and where the sync succeeds the copy goes on as with the synced file. -/
theorem copy_cons_of_full (full : file.isFull = true) {line : Bytes} (record : IsRecord line)
    {result : Except SinkError Unit} {world later : W}
    (synced : file.sync store world = ((result, after), later)) (rest : List Bytes) :
    (∀ cause, result = .error cause →
      copy store (line :: rest) file world = ((.error (.sink cause), after), later)) ∧
    (result = .ok () → ¬ after.isFull = true →
      copy store (line :: rest) file world = copy store (line :: rest) after later) := by
  have text := record.not_isNone
  constructor
  · rintro cause rfl
    simp only [copy, makeRoom, if_neg text, if_pos full, bind, StateT.bind, synced]
    rfl
  · rintro rfl room
    simp only [copy, makeRoom, if_neg text, if_pos full, if_neg room, bind, StateT.bind, synced]
    rfl

/-- What a copy comes to: all planned calls have succeeded, or those before a sync that has failed. -/
inductive Comes (store : RemoteStore W) (planned : List Call) (lines : List Bytes) (file : SinkFile)
    (ledger : Ledger) (world : W) : Except InputError Unit → SinkFile → W → Prop
  | finished {after : SinkFile} {noted : Ledger} {later : W}
      (ran : run store planned file ledger world = ((after, noted), later))
      (accepted : noted.accepted = ledger.accepted ++ lines) (isOpen : after.state = .open)
      (syncs : after.stats.syncs = file.stats.syncs + planned.count .sync) :
      Comes store planned lines file ledger world (.ok ()) after later
  | broken {before : List Call} {middle after : SinkFile} {noted : Ledger} {between later : W}
      {cause : SinkError} (part : before ++ [.sync] <+: planned)
      (ran : run store before file ledger world = ((middle, noted), between))
      (isOpen : middle.state = .open)
      (synced : middle.sync store between = ((.error cause, after), later)) (isForeign : cause.IsForeign)
      (failed : after.state = .failed) :
      Comes store planned lines file ledger world (.error (.sink cause)) after later

variable {ledger : Ledger} {world : W} {planned : List Call} {result : Except InputError Unit} {later : W}

/-- An append that succeeds stands in front of what follows. -/
theorem Comes.append {line : Bytes} (taken : (file.append line).1 = .ok ())
    (comes : Comes store planned lines (file.append line).2 (ledger.note (.append line) true) world result
      after later)
    (same : (file.append line).2.stats = file.stats) :
    Comes store (.append line :: planned) (line :: lines) file ledger world result after later := by
  have step : ∀ rest, run store (.append line :: rest) file ledger world =
      run store rest (file.append line).2 (ledger.note (.append line) true) world := by
    intro rest
    show run store rest (file.append line).2 (ledger.note (.append line) (file.append line).1.isOk) world = _
    rw [taken]
    rfl
  cases comes with
  | finished ran accepted isOpen syncs =>
      refine .finished ((step planned).trans ran) ?_ isOpen ?_
      · rw [accepted]
        exact List.append_assoc _ [line] lines
      · rw [syncs, same, List.count_cons_of_ne (by simp)]
  | broken part ran isOpen synced isForeign failed =>
      exact .broken (List.cons_prefix_cons.mpr ⟨rfl, part⟩) ((step _).trans ran) isOpen synced isForeign failed

/-- A sync that succeeds stands in front of what follows. -/
theorem Comes.sync {middle : SinkFile} {between : W}
    (synced : file.sync store world = ((.ok (), middle), between))
    (comes : Comes store planned lines middle (ledger.note .sync true) between result after later)
    (counted : middle.stats.syncs = file.stats.syncs + 1) :
    Comes store (.sync :: planned) lines file ledger world result after later := by
  have step : ∀ rest, run store (.sync :: rest) file ledger world =
      run store rest middle (ledger.note .sync true) between := by
    intro rest
    simp only [run, SinkFile.perform, bind, StateT.bind, synced]
    rfl
  cases comes with
  | finished ran accepted isOpen syncs =>
      refine .finished ((step planned).trans ran) accepted isOpen ?_
      rw [syncs, counted, List.count_cons_self]
      omega
  | broken part ran isOpen synced isForeign failed =>
      exact .broken (List.cons_prefix_cons.mpr ⟨rfl, part⟩) ((step _).trans ran) isOpen synced isForeign failed

/-- A copy of records into an open file comes to the end of its plan, or to a sync that fails. -/
theorem copy_comes (store : RemoteStore W) (positive : 0 < capacity) (records : ∀ line ∈ lines, IsRecord line)
    (isOpen : file.state = .open) (room : file.buffer.capacity = capacity)
    (within : file.buffer.records.length ≤ capacity) (ledger : Ledger) (world : W) :
    Comes store (calls capacity file.buffer.records.length lines) lines file ledger world
      (copy store lines file world).1.1 (copy store lines file world).1.2 (copy store lines file world).2 := by
  induction lines generalizing file ledger world with
  | nil => exact .finished rfl (List.append_nil _).symm isOpen rfl
  | cons line rest ih =>
      obtain ⟨record, others⟩ := List.forall_mem_cons.mp records
      -- the next line is taken into a buffer with room, behind a sync where there is none
      have roomy : ∀ {file : SinkFile} (ledger : Ledger) (world : W), file.state = .open →
          file.buffer.capacity = capacity → file.buffer.records.length < capacity →
          Comes store (.append line :: calls capacity (file.buffer.records.length + 1) rest) (line :: rest) file
            ledger world (copy store (line :: rest) file world).1.1 (copy store (line :: rest) file world).1.2
            (copy store (line :: rest) file world).2 := by
        intro file ledger world isOpen room less
        rw [← room] at less
        have taken := SinkFile.append_progress isOpen record.short less
        have stillOpen : (file.append line).2.state = .open := by
          rw [taken]
          exact isOpen
        rw [copy_cons_of_room isOpen record less]
        have further := ih others stillOpen (by rw [taken]; exact room)
          (by rw [taken]; simpa using room ▸ less) (ledger.note (.append line) true) world
        have grown : (file.append line).2.buffer.records.length = file.buffer.records.length + 1 := by
          rw [taken]
          simp
        rw [grown] at further
        exact further.append (by rw [taken]) (by rw [taken])
      by_cases less : file.buffer.records.length < capacity
      · rw [calls, if_pos less]
        exact roomy ledger world isOpen room less
      · rw [calls, if_neg less]
        have full : file.isFull = true := SinkFile.isFull_iff.mpr (by omega)
        have progress := SinkFile.sync_progress store isOpen world
        rcases synced : file.sync store world with ⟨⟨result, middle⟩, between⟩
        have onwards := copy_cons_of_full full record synced rest
        rw [synced] at progress
        rcases progress with ⟨same, still, cleared, counted⟩ | ⟨cause, same, isForeign, failed⟩
        · dsimp only at same still cleared counted
          subst same
          have empty : middle.buffer.records.length = 0 := by rw [cleared]; rfl
          have wide : middle.buffer.capacity = capacity := by rw [cleared]; exact room
          have notFull : ¬ middle.isFull = true := by
            rw [SinkFile.isFull_iff]
            omega
          rw [onwards.2 rfl notFull]
          have further := roomy (ledger.note .sync true) between still wide (by omega)
          rw [empty] at further
          exact further.sync synced counted
        · dsimp only at same failed
          rw [onwards.1 cause same]
          rw [same] at synced
          have nothing : run store [] file ledger world = ((file, ledger), world) := rfl
          exact .broken (List.prefix_append [Call.sync] _) nothing isOpen synced isForeign failed

/-! ## What a copy asks of the store -/

section

open Emulator Ordeal RecordSink.Stream

variable {τ : Type} {places : List Place} {schedule : Schedule} {store : RemoteStore (Ordeal τ)}
  {names : FileNames} {start : Emulator} {file after : SinkFile} {later : Ordeal τ}

/-- A request was sent on an errand about one of some objects. -/
def About (client : Client (Ordeal τ)) (objects : List ObjectName) (moment : Moment) : Prop :=
  ∃ errand : Errand, errand.IsSent client moment ∧ errand.target ∈ objects

theorem About.of_among {client : Client (Ordeal τ)} {objects : List ObjectName} {errands : List Errand}
    {moment : Moment} (among : Errand.Among client errands moment)
    (within : ∀ errand ∈ errands, errand.target ∈ objects) : About client objects moment := by
  obtain ⟨errand, inside, sent⟩ := among
  exact ⟨errand, sent, within errand inside⟩

/-- A request about other objects does not name an object. -/
theorem About.object?_ne {client : Client (Ordeal τ)} (addressed : client.IsAddressed)
    {objects : List ObjectName} {moment : Moment} (about : About client objects moment) {name : ObjectName}
    (apart : name ∉ objects) : moment.route.object? ≠ some name.text := by
  obtain ⟨errand, sent, inside⟩ := about
  rcases errand.route_cases addressed sent with routed | unknown
  · have target : (errand.route client).object? = some errand.target.text := by cases errand <;> rfl
    rw [routed, target]
    intro same
    exact apart (ObjectName.text_injective (Option.some.inj same) ▸ inside)
  · rw [unknown]
    simp [Route.object?]

theorem passes_makeRoom (houses : store.Houses places schedule file.names) :
    Passes (fun moment _ => About store.client [file.names.part, file.names.inflight] moment)
      (fun history => history.store = start) (makeRoom store file)
      fun result history =>
        SinkFile.Advances places store.client file start result.2 history.store ∧
        result.2.publishAttempted = file.publishAttempted := by
  rw [makeRoom]
  split
  · have sync : Passes _ (fun history => history.store = start) (file.sync store) _ :=
      SinkFile.passes_sync_exposed houses
    refine (sync.yields (SinkFile.sync_keeps store file)).mono ?_ (fun _ begins => begins)
      fun _ _ holds => ⟨holds.1, holds.2.2⟩
    intro moment _ among
    refine .of_among among ?_
    simp [SinkFile.syncErrands, Errand.target]
  · refine .pure ?_
    rintro history rfl
    exact ⟨.refl _ _, rfl⟩

/-- A copy changes only the part and the inflight object, and asks for nothing else. -/
theorem passes_copy (houses : store.Houses places schedule file.names) (lines : List Bytes)
    (start : Emulator) :
    Passes (fun moment _ => About store.client [file.names.part, file.names.inflight] moment)
      (fun history => history.store = start) (copy store lines file)
      fun result history =>
        SinkFile.Advances places store.client file start result.2 history.store ∧
        result.2.publishAttempted = file.publishAttempted := by
  induction lines generalizing file start with
  | nil =>
      refine .pure ?_
      rintro history rfl
      exact ⟨.refl _ _, rfl⟩
  | cons line rest ih =>
      rw [copy]
      split
      · refine .pure ?_
        rintro history rfl
        exact ⟨.refl _ _, rfl⟩
      refine .bind (passes_makeRoom houses) ?_
      rintro ⟨result, middle⟩
      cases result with
      | error cause => exact .pure fun _ holds => holds
      | ok _ =>
          dsimp only
          obtain ⟨buffer, filled⟩ := SinkFile.append_snd line middle
          rcases appended : middle.append line with ⟨taken, roomier⟩
          rw [appended] at filled
          dsimp only at filled
          subst filled
          cases taken with
          | error cause =>
              exact .pure fun _ holds => ⟨⟨holds.1.names, holds.1.wider, holds.1.elsewhere⟩, holds.2⟩
          | ok _ =>
              refine .each ?_
              rintro between ⟨advances, attempted⟩
              have named : middle.names = file.names := advances.names
              show Passes _ _ (copy store rest { middle with buffer }) _
              refine (ih (named ▸ houses) between.store).since.mono ?_ (fun _ same => same) ?_
              · intro moment _ about
                rw [← named]
                exact about
              · rintro ⟨_, last⟩ history ⟨further, untried⟩
                exact ⟨advances.trans ⟨further.names, further.wider, further.elsewhere⟩,
                  untried.trans attempted⟩

variable {title : String} {marker : Marker} {before opened : Ordeal τ}

/-- From the creation of a file to its discard behind a copy, no request names its publish object, and it
stays as it is. -/
theorem publish_untouched (exposed : SinkFile.Exposed schedule store names)
    (created : SinkFile.create store title names capacity marker before = (.ok file, opened))
    (copied : copy store lines file opened = ((result, after), later)) :
    Through (fun moment _ => moment.route.object? ≠ some names.publish.text) before.history.moments
        (after.discard store later).2.history.moments ∧
      (after.discard store later).2.history.store.objects.get? (store.client.place names.publish) =
        before.history.store.objects.get? (store.client.place names.publish) := by
  have houses := exposed.houses
  have addressed := houses.exposed.client.addressed
  have own := houses.own names.publish (by simp)
  have notInflight : names.publish ∉ [names.inflight] := by simpa using houses.inflight_ne_publish.symm
  have notWorking : names.publish ∉ [names.part, names.inflight] := by
    simp [houses.part_ne_publish.symm, houses.inflight_ne_publish.symm]
  obtain ⟨creating, since, begun⟩ := SinkFile.passes_create_exposed houses title capacity marker before rfl
  obtain ⟨-, -, standing⟩ := SinkFile.passes_create houses.hosts title capacity marker before rfl
  rw [created] at creating since begun standing
  obtain ⟨stands, rfl, -⟩ := standing file rfl
  obtain ⟨copying, advances, attempted⟩ := passes_copy houses lines opened.history.store opened rfl
  rw [copied] at copying advances attempted
  have named : after.names = file.names := advances.names
  have housed : store.Houses (file.names.all.map store.client.place) schedule after.names := by
    rw [named]
    exact houses
  have notPossible : file.names.publish ∉ after.possibleNames := by
    rw [← named]
    exact SinkFile.publish_not_possible housed (by rw [attempted, stands.unattempted]; decide)
  obtain ⟨discarding, -, clears, -⟩ := SinkFile.passes_discard_exposed housed later rfl
  constructor
  · refine ((creating.mono ?_).trans (copying.mono ?_)).trans (discarding.mono ?_)
    · intro moment _ among
      have about : About store.client [file.names.inflight] moment := .of_among among (by simp [Errand.target])
      exact about.object?_ne addressed notInflight
    · intro moment _ about
      exact about.object?_ne addressed notWorking
    · intro moment _ among
      have about : About store.client after.possibleNames moment :=
        .of_among among (by simp [Errand.target])
      exact about.object?_ne addressed notPossible
  · calc
      (after.discard store later).2.history.store.objects.get? (store.client.place file.names.publish)
        = later.history.store.objects.get? (store.client.place file.names.publish) :=
          clears.elsewhere.objects _ own (Client.place_not_mem notPossible)
      _ = opened.history.store.objects.get? (store.client.place file.names.publish) :=
          advances.elsewhere.objects _ own (Client.place_not_mem notPossible)
      _ = before.history.store.objects.get? (store.client.place file.names.publish) :=
          since.objects _ own (Client.place_not_mem notInflight)

/-! ## Copies into new files -/

/-- A copy has reached the end of its lines: the file is open and was synced for each full buffer but the last,
and a publish that succeeds leaves an object that decodes to the lines. -/
structure Completed (store : RemoteStore (Ordeal τ)) (names : FileNames) (capacity : Nat) (lines : List Bytes)
    (file : SinkFile) (opened : Ordeal τ) (after : SinkFile) (later : Ordeal τ) : Prop where
  isOpen : after.state = .open
  performed : ∃ ledger, run store (calls capacity 0 lines) file .empty opened = ((after, ledger), later)
  planned : (calls capacity 0 lines).count .sync = (lines.length - 1) / capacity
  syncs : after.stats.syncs = (lines.length - 1) / capacity
  published : Addressable lines → ∀ publication final last,
    after.publish store later = ((.ok publication, final), last) →
      Holds (store.client.place names.publish) lines last.history.store

/-- A copy has ended with a sync that failed, and not because the file refused a call. No request names the
publish object, up to the end of the discard. -/
structure Abandoned (store : RemoteStore (Ordeal τ)) (names : FileNames) (capacity : Nat) (lines : List Bytes)
    (before : Ordeal τ) (file : SinkFile) (opened : Ordeal τ) (cause : SinkError) (after : SinkFile)
    (later : Ordeal τ) : Prop where
  failed : after.state = .failed
  synced : ∃ done middle ledger between, done ++ [.sync] <+: calls capacity 0 lines ∧
    run store done file .empty opened = ((middle, ledger), between) ∧
    middle.sync store between = ((.error cause, after), later)
  notExceeded : ∀ bound, cause ≠ .capacityExceeded bound
  notRefused : ∀ operation state, cause ≠ .invalidState operation state
  unnamed : Through (fun moment _ => moment.route.object? ≠ some names.publish.text) before.history.moments
    (after.discard store later).2.history.moments
  unchanged : (after.discard store later).2.history.store.objects.get? (store.client.place names.publish) =
    before.history.store.objects.get? (store.client.place names.publish)

/-- A copy of records into a new file either reaches the end of its lines, so that a publish leaves exactly them,
or ends with the first sync that fails and leaves the publish object alone. -/
theorem copy_publishes (exposed : SinkFile.Exposed schedule store names) (positive : 0 < capacity)
    (records : ∀ line ∈ lines, IsRecord line)
    (created : SinkFile.create store title names capacity marker before = (.ok file, opened))
    (copied : copy store lines file opened = ((result, after), later)) :
    (result = .ok () ∧ Completed store names capacity lines file opened after later) ∨
      ∃ cause, result = .error (.sink cause) ∧
        Abandoned store names capacity lines before file opened cause after later := by
  have hosts := exposed.houses.hosts
  have upholds := SinkFile.upholds_create hosts created
  obtain ⟨-, -, standing⟩ := SinkFile.passes_create hosts title capacity marker before rfl
  have counted := SinkFile.create_progress store title names capacity marker before
  rw [created] at standing counted
  obtain ⟨stands, -, empty, -⟩ := standing file rfl
  have waiting : file.buffer.records.length = 0 := by rw [empty]; rfl
  have room : file.buffer.capacity = capacity := by rw [empty]; rfl
  have comes := copy_comes store positive records stands.isOpen room (by omega) .empty opened
  rw [copied, waiting] at comes
  have planned : (calls capacity 0 lines).count .sync = (lines.length - 1) / capacity := by
    rw [count_sync_calls positive (Nat.zero_le _), Nat.zero_add]
  cases comes with
  | @finished _ ledger _ ran accepted isOpen syncs =>
      have all : ledger.accepted = lines := accepted
      refine .inl ⟨rfl, isOpen, ⟨ledger, ran⟩, planned, ?_, ?_⟩
      · rw [syncs, (counted file rfl).2, planned, Nat.zero_add]
      · intro small publication final last published
        rw [← all] at small ⊢
        have kept := SinkFile.upholds_run hosts (calls capacity 0 lines) upholds (by rw [ran]; exact small)
        rw [ran] at kept
        exact kept.published hosts small published
  | broken part ran isOpen synced isForeign failed =>
      obtain ⟨unnamed, unchanged⟩ := publish_untouched exposed created copied
      refine .inr ⟨_, rfl, failed, ⟨_, _, _, _, part, ran, synced⟩, ?_, ?_, unnamed, unchanged⟩
      · rintro bound rfl
        exact isForeign
      · rintro operation state rfl
        exact isForeign

namespace Trial

/-- Two lines are copied into a file with room for one. -/
def copied : (Except InputError Unit × SinkFile) × Ordeal Unit :=
  copy SinkFile.Trial.store [[0x61], [0x62]] SinkFile.Trial.file SinkFile.Trial.creation.2

theorem succeeds : copied.1.1 = .ok () ∧
    (copied.1.2.publish SinkFile.Trial.store copied.2).1.1.toOption.isSome = true := by
  decide +kernel

end Trial

/-- Two lines are published with one sync between them, although a response was lost. -/
theorem copy_publishes_trial :
    Trial.copied.1.2.stats.syncs = 1 ∧
      Holds (SinkFile.Trial.store.client.place SinkFile.Trial.names.publish) [[0x61], [0x62]]
        (Trial.copied.1.2.publish SinkFile.Trial.store Trial.copied.2).2.history.store := by
  have records : ∀ line ∈ [[0x61], [0x62]], IsRecord line := by
    intro line inside
    rcases List.mem_pair.mp inside with rfl | rfl <;> exact ⟨by decide, by decide⟩
  rcases copy_publishes (SinkFile.Trial.exposed SinkFile.Trial.schedule fun _ => rfl) (by decide) records
    (SinkFile.eq_mk_of_fst (Except.eq_ok_of_isSome SinkFile.Trial.creates))
    (SinkFile.eq_mk_of_fst_fst (rfl : Trial.copied.1.1 = Trial.copied.1.1))
    with ⟨-, completed⟩ | ⟨cause, failed, -⟩
  · exact ⟨completed.syncs, completed.published (by decide) _ _ _
      (SinkFile.eq_mk_of_fst_fst (Except.eq_ok_of_isSome Trial.succeeds.2))⟩
  · cases Trial.succeeds.1.symm.trans failed

end

end RecordSink.Intake
