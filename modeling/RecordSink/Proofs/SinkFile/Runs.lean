import RecordSink.Proofs.SinkFile.Ledger
import RecordSink.Proofs.SinkFile.Operations

/-!
# Runs of a hosted file

Every call keeps what the ledger of a file says about its inflight object and its publish object, at
every moment of the call, and so does a run of calls in any order.
-/

namespace RecordSink.SinkFile

open Emulator Ordeal RecordSink.Stream

variable {τ : Type} {places : List Place} {store : RemoteStore (Ordeal τ)} {client : Client (Ordeal τ)}
  {marker : Marker} {names : FileNames} {initial : Option StoredObject} {ledger : Ledger} {call : Call}
  {file : SinkFile} {start history : History}

/-! ## What is written -/

/-- No request of a creation writes the publish object. -/
theorem writes?_of_mem_createRoutes (hosts : store.Hosts places names) {route : Route}
    (asked : route ∈ createRoutes store.client names) : route.writes? ≠ some names.publish.text := by
  simp only [createRoutes, List.mem_cons, List.not_mem_nil, or_false] at asked
  rcases asked with rfl | rfl | rfl <;> intro writes
  · exact hosts.inflight_ne_publish (ObjectName.text_injective (Option.some.inj writes))
  · cases writes
  · cases writes

/-- No request of a sync writes the publish object. -/
theorem writes?_of_mem_syncRoutes (hosts : store.Hosts places file.names) {route : Route}
    (asked : route ∈ syncRoutes store.client file) : route.writes? ≠ some file.names.publish.text := by
  simp only [syncRoutes, List.mem_cons, List.not_mem_nil, or_false] at asked
  rcases asked with rfl | rfl | rfl | rfl <;> intro writes
  · exact hosts.part_ne_publish (ObjectName.text_injective (Option.some.inj writes))
  · exact hosts.inflight_ne_publish (ObjectName.text_injective (Option.some.inj writes))
  · cases writes
  · cases writes

/-- Of the requests of a publish, only its compose writes the publish object. -/
theorem eq_compose_of_mem_publishRoutes (hosts : store.Hosts places names) {route : Route}
    (asked : route ∈ publishRoutes store.client names)
    (writes : route.writes? = some names.publish.text) :
    route = .compose store.client.bucket names.publish.text (store.client.asked none) := by
  simp only [publishRoutes, List.mem_cons, List.not_mem_nil, or_false] at asked
  rcases asked with rfl | rfl | rfl | rfl | rfl
  · exact absurd (ObjectName.text_injective (Option.some.inj writes)) hosts.part_ne_publish
  · rfl
  · cases writes
  · cases writes
  · cases writes

/-! ## Single calls -/

/-- An inflight object that a file stands on has its synced records. -/
theorem Stands.holds {past : List (List Bytes)} {store : Emulator}
    (stands : Stands client marker past file store) :
    Holds (client.place file.names.inflight) past.flatten store := by
  obtain ⟨object, knows⟩ := stands.inflight
  refine ⟨object, knows.stored, ?_⟩
  rw [knows.data]
  exact decodes_written marker stands.fits

/-- The ledger knows that a file is open. -/
theorem Upholds.isOpen (upholds : Upholds client marker names initial ledger file history)
    (isOpen : file.state = .open) : ledger.isOpen = true := by
  cases closed : ledger.isOpen with
  | true => rfl
  | false => exact absurd isOpen (upholds.closed closed)

/-- A closed file refuses what only an open one takes, and nothing changes. -/
theorem Upholds.refuses {W : Type} {store : RemoteStore W}
    (upholds : Upholds client marker names initial ledger file history) (closed : ledger.isOpen = false)
    (permitted : call = .discard → file.state ≠ .failed) :
    file.perform store call = pure (false, file) := by
  have shut := upholds.closed closed
  cases call with
  | append record => rw [perform, append, if_pos shut]; rfl
  | sync => rw [perform, sync, if_pos shut]; rfl
  | publish => rw [perform, publish, if_pos shut]; rfl
  | discard => rw [perform, discard, if_pos ⟨shut, permitted rfl⟩]; rfl

/-- An open file holds all accepted records. -/
theorem held_eq {batches : List (List Bytes)} (flat : batches.flatten = ledger.synced)
    (whole : ledger.accepted = ledger.synced ++ file.buffer.records) :
    held (batches.flatMap runs) file = ledger.accepted := by
  rw [held, flatten_flatMap_runs, flat, whole]

/-- The stream that is due is counted in 64 bits where the records are. -/
theorem length_due_lt_of_addressable {batches : List (List Bytes)}
    (small : Addressable (batches.flatten ++ file.buffer.records)) :
    (due marker (batches.flatMap runs) file).length < Nat.pow 2 64 := by
  calc
    (due marker (batches.flatMap runs) file).length
        = (written marker ((batches ++ [file.buffer.records]).flatMap runs)).length := by
      rw [due, List.flatMap_append, List.flatMap_singleton]
    _ ≤ sizeBound (batches ++ [file.buffer.records]).flatten := length_written_le marker _
    _ = sizeBound (batches.flatten ++ file.buffer.records) := by
      rw [List.flatten_append, List.flatten_singleton]
    _ < Nat.pow 2 64 := small

theorem length_due_lt {batches : List (List Bytes)} (flat : batches.flatten = ledger.synced)
    (whole : ledger.accepted = ledger.synced ++ file.buffer.records)
    (small : Addressable ledger.accepted) :
    (due marker (batches.flatMap runs) file).length < Nat.pow 2 64 := by
  rw [whole, ← flat] at small
  exact length_due_lt_of_addressable small

/-- An append keeps what the ledger says. -/
theorem Upholds.append (record : Bytes)
    (upholds : Upholds client marker names initial ledger file history) :
    Upholds client marker names initial
      (ledger.note (.append record) (file.append record).1.isOk) (file.append record).2 history := by
  rw [SinkFile.append]
  split
  · exact upholds
  next isOpen =>
    split
    · exact upholds
    split
    · exact upholds
    next buffer taken =>
      have opened := upholds.isOpen (Decidable.not_not.mp isOpen)
      obtain ⟨batches, stands, flat, whole, untouched⟩ := upholds.standing opened
      have grown : buffer.records = file.buffer.records ++ [record] := by
        rw [RecordBuffer.push?] at taken
        split at taken
        · cases taken
        · cases taken
          rfl
      have holds := stands.holds
      rw [flatten_flatMap_runs, flat, upholds.named] at holds
      obtain ⟨stood, unattempted, encoder, fits, inflight, knows⟩ := stands
      refine ⟨upholds.named, fun _ => ⟨batches, ?_, flat, ?_, untouched⟩, ?_, ?_,
        fun _ => .inl holds, .inl untouched⟩
      · exact ⟨stood, unattempted, encoder, fits, inflight, knows.1, knows.2, knows.3, knows.4, knows.5⟩
      · show ledger.accepted ++ [record] = ledger.synced ++ buffer.records
        rw [grown, ← List.append_assoc, ← whole]
      · intro closed
        cases closed.symm.trans opened
      · exact upholds.attempted

/-- What a sync does is what the ledger says of a sync under way. -/
theorem Syncs.tells (hosts : store.Hosts places names) {now : Emulator} (moments : List Moment)
    (syncs : Syncs places store.client names ledger.accepted start.store now)
    (holds : Holds (store.client.place names.inflight) ledger.synced start.store)
    (untouched : start.store.objects.get? (store.client.place names.publish) = initial) :
    now.objects.get? (store.client.place names.publish) = initial ∧
      Tells store.client names initial (ledger.pending .sync) { store := now, moments } := by
  have publish := hosts.untouched [names.part, names.inflight] syncs.elsewhere names.publish_mem_all
    (by simp [hosts.part_ne_publish.symm, hosts.inflight_ne_publish.symm])
  refine ⟨publish.trans untouched, fun _ => ?_, .inl (publish.trans untouched)⟩
  rcases syncs.inflight with same | all
  · left
    rw [Holds, same]
    exact holds
  · exact .inr ⟨rfl, all⟩

/-- What a publish does is what the ledger says of a publish under way. -/
theorem Publishes.tells
    (publishes : Publishes places client names ledger.accepted start.store history)
    (holds : Holds (client.place names.inflight) ledger.synced start.store)
    (untouched : start.store.objects.get? (client.place names.publish) = initial) :
    Tells client names initial (ledger.pending .publish) history := by
  constructor
  · intro standing
    rcases publishes.inflight with same | removed
    · left
      rw [Holds, same]
      exact holds
    · exact absurd removed standing
  · rcases publishes.publish with same | all
    · exact .inl (same.trans untouched)
    · exact .inr ⟨rfl, .inl all⟩

/-- What a discard does is what the ledger says of a discard under way. -/
theorem Removes.tells (hosts : store.Hosts places names)
    (upholds : Upholds store.client marker names initial ledger file start)
    (later : start.moments <:+ history.moments)
    (removes : Removes places store.client file.possibleNames start.store history) :
    Tells store.client names initial (ledger.pending .discard) history := by
  have tells := upholds.tells
  constructor
  · intro standing
    have inside : names.inflight ∈ file.possibleNames := by
      rw [← upholds.named, possibleNames, transientNames]
      simp
    rcases removes.removed _ inside with same | ⟨-, removed⟩
    · rw [Holds, Holds, same]
      exact tells.inflight fun removal => standing (removal.mono later)
    · exact absurd removed standing
  · have publish : history.store.objects.get? (store.client.place names.publish) =
          start.store.objects.get? (store.client.place names.publish) ∨
        ledger.tried = true ∧ history.store.objects.get? (store.client.place names.publish) = none := by
      by_cases attempted : file.publishAttempted = true
      · have inside : names.publish ∈ file.possibleNames := by
          rw [← upholds.named, possibleNames, if_pos attempted]
          simp
        rcases removes.removed _ inside with same | ⟨gone, -⟩
        · exact .inl same
        · exact .inr ⟨upholds.attempted attempted, gone⟩
      · refine .inl (hosts.untouched file.possibleNames removes.elsewhere names.publish_mem_all ?_)
        rw [possibleNames, if_neg attempted, List.append_nil]
        exact publish_not_mem_transientNames hosts upholds.named
    rcases publish with same | ⟨tried, gone⟩
    · rw [Holds, same]
      rcases tells.publish with old | ⟨tried, all | ⟨-, gone⟩⟩
      · exact .inl old
      · exact .inr ⟨tried, .inl all⟩
      · exact .inr ⟨tried, .inr ⟨rfl, gone⟩⟩
    · exact .inr ⟨tried, .inr ⟨rfl, gone⟩⟩

/-! ## Any call -/

/-- What a call promises to the ledger of its file. -/
abbrev PassesCall (places : List Place) (store : RemoteStore (Ordeal τ)) (marker : Marker)
    (names : FileNames) (initial : Option StoredObject) (ledger : Ledger) (call : Call) (start : History)
    (file : SinkFile) : Prop :=
  Passes (During places store.client names initial ledger call start.store)
    (fun history => history = start) (file.perform store call)
    fun result history =>
      Upholds store.client marker names initial (ledger.note call result.1) result.2 history ∧
      Elsewhere places (names.all.map store.client.place) start.store history.store

/-- A sync that succeeds keeps what the ledger says. -/
theorem Upholds.synced {batches : List (List Bytes)} (opened : ledger.isOpen = true)
    (flat : batches.flatten = ledger.synced)
    (whole : ledger.accepted = ledger.synced ++ file.buffer.records) {after : SinkFile}
    (named : after.names = names)
    (stands : Stands client marker (batches.flatMap runs ++ runs file.buffer.records) after history.store)
    (cleared : after.buffer = file.buffer.clear)
    (untouched : history.store.objects.get? (client.place names.publish) = initial) :
    Upholds client marker names initial (ledger.note .sync true) after history := by
  have flatAll : (batches ++ [file.buffer.records]).flatten = ledger.accepted := by
    rw [List.flatten_append, List.flatten_singleton, flat, whole]
  have stood : Stands client marker ((batches ++ [file.buffer.records]).flatMap runs) after
      history.store := by
    rw [List.flatMap_append, List.flatMap_singleton]
    exact stands
  have all := stood.holds
  rw [flatten_flatMap_runs, flatAll, named] at all
  refine ⟨named, fun _ => ⟨_, stood, flatAll, ?_, untouched⟩, ?_, ?_, fun _ => .inl all,
    .inl untouched⟩
  · have empty : after.buffer.records = [] := by rw [cleared, RecordBuffer.records_clear]
    rw [empty]
    exact (List.append_nil _).symm
  · intro closed
    cases closed.symm.trans opened
  · intro attempted
    cases attempted.symm.trans stands.unattempted

/-- A sync of an open file keeps what the ledger says. -/
theorem passes_sync_open (hosts : store.Hosts places names)
    (upholds : Upholds store.client marker names initial ledger file start)
    (opened : ledger.isOpen = true) (small : Addressable ledger.accepted) :
    PassesCall places store marker names initial ledger .sync start file := by
  obtain ⟨batches, stands, flat, whole, untouched⟩ := upholds.standing opened
  have named := upholds.named
  subst named
  have holds := stands.holds
  rw [flatten_flatMap_runs, flat] at holds
  have sync := passes_sync hosts stands (length_due_lt flat whole small)
  rw [held_eq flat whole] at sync
  have wide : [store.client.place file.names.part, store.client.place file.names.inflight] ⊆
      file.names.all.map store.client.place := by simp [FileNames.all]
  rw [PassesCall, perform]
  refine .bind (sync.mono ?_ (fun now same => by rw [same]) fun _ _ holds => holds) ?_
  · rintro moment past ⟨syncs, asked⟩
    obtain ⟨publish, tells⟩ := syncs.tells hosts (moment :: past) holds untouched
    refine ⟨syncs.elsewhere.widen wide, tells, fun _ _ => publish.trans untouched.symm, ?_⟩
    exact fun writes => absurd writes (writes?_of_mem_syncRoutes hosts asked)
  rintro ⟨result, after⟩
  refine .pure fun now reached => ⟨?_, reached.1.elsewhere.widen wide⟩
  obtain ⟨syncs, named, synced, failed⟩ := reached
  obtain ⟨publish, tells⟩ := syncs.tells hosts now.moments holds untouched
  cases result with
  | ok done =>
      obtain ⟨stands, cleared⟩ := synced rfl
      exact .synced opened flat whole named stands cleared publish
  | error cause =>
      obtain ⟨state, unattempted⟩ := failed cause rfl
      rw [show (Except.error cause : Except SinkError Unit).isOk = false from rfl,
        Ledger.note_sync_failed opened]
      refine ⟨named, ?_, ?_, ?_, tells⟩
      · intro still
        cases still
      · intro _ isOpen
        cases state.symm.trans isOpen
      · intro attempted
        cases attempted.symm.trans unattempted

/-- A publish of an open file keeps what the ledger says. -/
theorem passes_publish_open (hosts : store.Hosts places names)
    (upholds : Upholds store.client marker names initial ledger file start)
    (opened : ledger.isOpen = true) (small : Addressable ledger.accepted) :
    PassesCall places store marker names initial ledger .publish start file := by
  obtain ⟨batches, stands, flat, whole, untouched⟩ := upholds.standing opened
  have named := upholds.named
  subst named
  have holds := stands.holds
  rw [flatten_flatMap_runs, flat] at holds
  have publish := passes_publish hosts stands (length_due_lt flat whole small)
  rw [held_eq flat whole] at publish
  rw [PassesCall, perform]
  refine .bind (publish.mono ?_ (fun now same => by rw [same]) fun _ _ holds => holds) ?_
  · rintro moment past ⟨publishes, asked⟩
    refine ⟨publishes.elsewhere, publishes.tells holds untouched, fun other => absurd rfl other, ?_⟩
    exact fun writes => ⟨rfl, _, eq_compose_of_mem_publishRoutes hosts asked writes⟩
  rintro ⟨result, after⟩
  refine .pure fun now reached => ⟨?_, reached.1.elsewhere⟩
  obtain ⟨publishes, named, -, published, failed⟩ := reached
  rw [Ledger.note_publish opened]
  have shut : after.state ≠ .open := by
    cases result with
    | ok publication => rw [(published publication rfl).1]; decide
    | error cause => rw [failed cause rfl]; decide
  refine ⟨named, ?_, fun _ => shut, fun _ => rfl, publishes.tells holds untouched⟩
  intro still
  simp [Ledger.isOpen, Ledger.pending] at still

/-- A discard of a file that is not finished keeps what the ledger says. -/
theorem passes_discard_unfinished (hosts : store.Hosts places names)
    (upholds : Upholds store.client marker names initial ledger file start)
    (permitted : file.state = .open ∨ file.state = .failed) :
    PassesCall places store marker names initial ledger .discard start file := by
  have named := upholds.named
  subst named
  have discard : Passes _ (fun now => now.store = start.store) (file.discard store) _ :=
    passes_discard hosts permitted
  have begun := discard.mono (fun _ _ holds => holds)
    (fun now (same : now = start) => by rw [same]) fun _ _ holds => holds
  have wide : file.possibleNames.map store.client.place ⊆ file.names.all.map store.client.place := by
    intro place inside
    obtain ⟨name, possible, rfl⟩ := List.mem_map.mp inside
    exact List.mem_map_of_mem (mem_all_of_possible possible)
  rw [PassesCall, perform]
  refine .bind (begun.along.mono ?_ (fun _ holds => holds) fun _ _ holds => holds) ?_
  · rintro moment past ⟨⟨removes, asked⟩, later⟩
    refine ⟨removes.elsewhere.widen wide, ?_, fun _ other => absurd rfl other, ?_⟩
    · exact removes.tells hosts upholds (later.trans (List.suffix_cons _ _))
    · intro writes
      rcases asked with same | ⟨name, -, same⟩ <;> rw [same] at writes <;> cases writes
  rintro ⟨result, after⟩
  refine .pure fun now reached => ?_
  obtain ⟨⟨removes, ⟨left, rfl⟩, named, state, attempted⟩, later⟩ := reached
  refine ⟨⟨named, ?_, ?_, ?_, removes.tells hosts upholds later⟩, removes.elsewhere.widen wide⟩
  · intro still
    simp [Ledger.isOpen, Ledger.note, Except.isOk, Except.toBool] at still
  · intro _ isOpen
    cases state.symm.trans isOpen
  · intro tried
    exact upholds.attempted (attempted.symm.trans tried)

/-- A call keeps what the ledger says, at every moment of it. -/
theorem passes_perform (hosts : store.Hosts places names) (call : Call)
    (upholds : Upholds store.client marker names initial ledger file start)
    (small : Addressable ledger.accepted) :
    PassesCall places store marker names initial ledger call start file := by
  have refused : ledger.isOpen = false → (call = .discard → file.state ≠ .failed) →
      PassesCall places store marker names initial ledger call start file := by
    intro closed permitted
    rw [PassesCall, upholds.refuses closed permitted]
    refine .pure fun now same => ?_
    rw [same, Ledger.note_refused closed]
    exact ⟨upholds, .refl _⟩
  cases call with
  | append record =>
      rw [PassesCall, perform]
      refine .pure fun now same => ?_
      rw [same]
      exact ⟨upholds.append record, .refl _⟩
  | sync =>
      cases opened : ledger.isOpen with
      | true => exact passes_sync_open hosts upholds opened small
      | false => exact refused opened fun other => nomatch other
  | publish =>
      cases opened : ledger.isOpen with
      | true => exact passes_publish_open hosts upholds opened small
      | false => exact refused opened fun other => nomatch other
  | discard =>
      by_cases permitted : file.state = .open ∨ file.state = .failed
      · exact passes_discard_unfinished hosts upholds permitted
      · rw [not_or] at permitted
        refine refused ?_ fun _ => permitted.2
        cases opened : ledger.isOpen with
        | false => rfl
        | true =>
            obtain ⟨batches, stands, -⟩ := upholds.standing opened
            exact absurd stands.isOpen permitted.1

/-- A publish that succeeds leaves all accepted records in the publish object. -/
theorem Upholds.published (hosts : store.Hosts places names) {world last : Ordeal τ} {final : SinkFile}
    (upholds : Upholds store.client marker names initial ledger file world.history)
    (small : Addressable ledger.accepted) {publication : Publication}
    (published : file.publish store world = ((.ok publication, final), last)) :
    Holds (store.client.place names.publish) ledger.accepted last.history.store := by
  have isOpen : file.state = .open := by
    apply Decidable.byContradiction
    intro shut
    rw [publish, if_pos shut] at published
    cases published
  obtain ⟨batches, stands, flat, whole, -⟩ := upholds.standing (upholds.isOpen isOpen)
  rw [← upholds.named] at hosts
  obtain ⟨-, -, -, -, done, -⟩ := passes_publish hosts stands (length_due_lt flat whole small) world rfl
  rw [published, held_eq flat whole, upholds.named] at done
  exact (done publication rfl).2

/-! ## Others -/

/-- What a file stands on stays where its inflight object stays in place. -/
theorem Stands.frame {past : List (List Bytes)} {before now : Emulator}
    (stands : Stands client marker past file before)
    (same : now.objects.get? (client.place file.names.inflight) =
      before.objects.get? (client.place file.names.inflight))
    (generations : before.nextGeneration ≤ now.nextGeneration) : Stands client marker past file now := by
  obtain ⟨isOpen, unattempted, encoder, fits, object, knows⟩ := stands
  exact ⟨isOpen, unattempted, encoder, fits, object, same.trans knows.stored, knows.data,
    Nat.lt_of_lt_of_le knows.older generations, knows.generation, knows.size⟩

/-- What the ledger says stays true while only objects of others change. -/
theorem Upholds.frame (hosts : store.Hosts places names)
    (upholds : Upholds store.client marker names initial ledger file start) {targets : List Place}
    (elsewhere : Elsewhere places targets start.store history.store)
    (apart : ∀ name ∈ names.all, store.client.place name ∉ targets)
    (later : start.moments <:+ history.moments) :
    Upholds store.client marker names initial ledger file history := by
  have same : ∀ name ∈ names.all, history.store.objects.get? (store.client.place name) =
      start.store.objects.get? (store.client.place name) :=
    fun name inside => elsewhere.objects _ (hosts.own name inside) (apart name inside)
  have inflight := same names.inflight names.inflight_mem_all
  have publish := same names.publish names.publish_mem_all
  refine ⟨upholds.named, ?_, upholds.closed, upholds.attempted, ?_, ?_⟩
  · intro opened
    obtain ⟨batches, stands, flat, whole, untouched⟩ := upholds.standing opened
    refine ⟨batches, stands.frame ?_ elsewhere.generations, flat, whole, publish.trans untouched⟩
    rw [upholds.named]
    exact inflight
  · intro standing
    rw [Holds, Holds, inflight]
    exact upholds.tells.inflight fun removal => standing (removal.mono later)
  · rw [Holds, publish]
    exact upholds.tells.publish

/-! ## Runs -/

/-- The records of a ledger are never fewer after a run. -/
theorem accepted_run {W : Type} (store : RemoteStore W) (calls : List Call) (file : SinkFile)
    (ledger : Ledger) (world : W) :
    ledger.accepted <+: (run store calls file ledger world).1.2.accepted := by
  induction calls generalizing file ledger world with
  | nil => exact List.prefix_rfl
  | cons call rest ih => exact (ledger.accepted_note call _).trans (ih _ _ _)

/-- The synced records are the first of the accepted ones. -/
theorem synced_run {W : Type} (store : RemoteStore W) (calls : List Call) (file : SinkFile)
    (ledger : Ledger) (ordered : ledger.synced <+: ledger.accepted) (world : W) :
    (run store calls file ledger world).1.2.synced <+: (run store calls file ledger world).1.2.accepted := by
  induction calls generalizing file ledger world with
  | nil => exact ordered
  | cons call rest ih => exact ih _ _ (ledger.synced_note ordered call _) _

/-- Calls in any order keep what the ledger says. -/
theorem upholds_run (hosts : store.Hosts places names) (calls : List Call) {world : Ordeal τ}
    (upholds : Upholds store.client marker names initial ledger file world.history)
    (small : Addressable (run store calls file ledger world).1.2.accepted) :
    Upholds store.client marker names initial (run store calls file ledger world).1.2
      (run store calls file ledger world).1.1 (run store calls file ledger world).2.history := by
  induction calls generalizing file ledger world with
  | nil => exact upholds
  | cons call rest ih =>
      have grown := accepted_run store (call :: rest) file ledger world
      have fits := small.of_isPrefix grown
      obtain ⟨-, kept, -⟩ := passes_perform hosts call upholds fits world rfl
      exact ih kept small

/-- A new file upholds the empty ledger. -/
theorem Stands.upholds (stands : Stands client marker [] file history.store)
    (empty : file.buffer.records = [])
    (untouched : history.store.objects.get? (client.place file.names.publish) = initial) :
    Upholds client marker file.names initial .empty file history := by
  refine ⟨rfl, fun _ => ⟨[], stands, rfl, ?_, untouched⟩, ?_, ?_, fun _ => .inl stands.holds,
    .inl untouched⟩
  · rw [empty]
    rfl
  · intro closed
    cases closed
  · intro attempted
    cases attempted.symm.trans stands.unattempted

end RecordSink.SinkFile
