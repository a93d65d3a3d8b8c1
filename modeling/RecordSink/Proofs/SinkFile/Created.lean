import RecordSink.Proofs.SinkFile.Runs

/-!
# Guarantees of a created file

A file that was created in a store on trial, with any schedule of faults and any other clients that
leave its objects alone: what its owner can rely on after any calls, and at every moment of the next.
-/

namespace RecordSink.SinkFile

open Emulator Ordeal RecordSink.Stream

/-! ## A trial -/

theorem eq_mk_of_fst {α β : Type} {whole : α × β} {first : α} (same : whole.1 = first) :
    whole = (first, whole.2) := by
  rw [← same]

theorem eq_mk_of_fst_fst {α β γ : Type} {whole : (α × β) × γ} {first : α} (same : whole.1.1 = first) :
    whole = ((first, whole.1.2), whole.2) := by
  rw [← same]

namespace Trial

/-- The response of the second request is lost. -/
def schedule : Schedule := fun number =>
  { deeds := [], fault := if number = 1 then some .lose else none }

/-- A clock that stands still. -/
def clock : Clock Unit :=
  { now := pure ⟨0⟩, wait := fun _ => pure (), delay := fun _ _ => pure ⟨0⟩ }

def endpoint : Url :=
  { scheme := "http", username := "", password := "", host := some "h", port := none
    dotted := false, path := .rooted "/", query := none, fragment := none }

/-- A store that makes two attempts at each request. -/
def store : RemoteStore (Ordeal Unit) :=
  { client := {
      link := Ordeal.link schedule, credentials := Ordeal.credentials (.fixed (.bearer "t"))
      endpoint, bucket := "logs" }
    clock := Ordeal.clock clock, policy := .immediate 2 }

theorem named : (FileNames.ofDirectories "in" "out" "a").toOption.isSome = true := by
  decide +kernel

def names : FileNames := (FileNames.ofDirectories "in" "out" "a").toOption.get named

def marker : Marker := ⟨Bytes.ofNatLE 16 0, Bytes.length_ofNatLE 16 0⟩

/-- The creation of a file with room for one record. -/
def creation : Except SinkError SinkFile × Ordeal Unit :=
  create store "a" names 1 marker { rest := (), history := .fresh (.withBucket "logs") }

theorem creates : creation.1.toOption.isSome = true := by
  decide +kernel

def file : SinkFile := creation.1.toOption.get creates

/-- The file, its ledger and the world after calls. -/
def session (calls : List Call) : (SinkFile × Ledger) × Ordeal Unit :=
  run store calls file .empty creation.2

theorem ran (calls : List Call) : run store calls file .empty creation.2 =
    (((session calls).1.1, (session calls).1.2), (session calls).2) :=
  eq_mk_of_fst_fst (rfl : (session calls).1.1 = (session calls).1.1)

theorem accepted : (session [.append [1, 2, 3]]).1.2.accepted = [[1, 2, 3]] := by
  decide +kernel

theorem published : ((session [.append [1, 2, 3]]).1.1.publish store
    (session [.append [1, 2, 3]]).2).1.1.toOption.isSome = true := by
  decide +kernel

end Trial

variable {τ : Type} {store : RemoteStore (Ordeal τ)} {names : FileNames} {marker : Marker}
  {start : Emulator} {file after final : SinkFile} {ledger : Ledger} {world later last : Ordeal τ}
  {calls : List Call}

/-! ## Created files -/

/-- A file to be created in a store on trial, which leaves its objects to it. -/
structure Placed (store : RemoteStore (Ordeal τ)) (names : FileNames) : Prop where
  tried : store.IsTried (names.all.map store.client.place)
  named : ∃ working publish name, FileNames.ofDirectories working publish name = .ok names

/-- The objects of a file lie apart. -/
theorem Placed.hosts (placed : Placed store names) :
    store.Hosts (names.all.map store.client.place) names := by
  obtain ⟨working, publish, name, made⟩ := placed.named
  have apart := FileNames.isFor_of_ofDirectories made
  exact ⟨placed.tried.lent, fun name inside => List.mem_map_of_mem inside, apart.inflight_ne_part,
    apart.working_ne_publish.1, apart.working_ne_publish.2⟩

/-- A file has just been created; the history starts with its creation. -/
structure Created (store : RemoteStore (Ordeal τ)) (names : FileNames) (marker : Marker)
    (start : Emulator) (file : SinkFile) (world : Ordeal τ) : Prop where
  placed : Placed store names
  created : ∃ rest name capacity,
    create store name names capacity marker { rest, history := .fresh start } = (.ok file, world)

/-- A file that has just been created upholds the empty ledger. -/
theorem upholds_create {places : List Place} (hosts : store.Hosts places names) {title : String}
    {capacity : Nat} (made : create store title names capacity marker world = (.ok file, later)) :
    Upholds store.client marker names (world.history.store.objects.get? (store.client.place names.publish))
      .empty file later.history := by
  obtain ⟨-, elsewhere, opened⟩ := passes_create hosts title capacity marker world rfl
  rw [made] at elsewhere opened
  obtain ⟨stands, named, empty, -⟩ := opened file rfl
  have publish := hosts.untouched [names.inflight] elsewhere names.publish_mem_all
    (by simpa using hosts.inflight_ne_publish.symm)
  rw [← named] at publish ⊢
  exact stands.upholds (by rw [empty]; rfl) publish

/-- What is known of a file that has just been created. -/
theorem Created.known (created : Created store names marker start file world) :
    Upholds store.client marker names (start.objects.get? (store.client.place names.publish))
      .empty file world.history ∧ ¬ Removal store.client names world.history.moments := by
  obtain ⟨rest, name, capacity, made⟩ := created.created
  refine ⟨upholds_create created.placed.hosts made, ?_⟩
  obtain ⟨-, -, opened⟩ := passes_create created.placed.hosts name capacity marker
    ⟨rest, .fresh start⟩ (rfl : History.fresh start = .fresh start)
  rw [made] at opened
  obtain ⟨-, -, -, routes⟩ := opened file rfl
  rintro ⟨moment, inside, route⟩
  obtain ⟨passed, same, each⟩ := routes.exists_append
  rw [same, History.fresh, List.append_nil] at inside
  obtain ⟨newer, older, split⟩ := List.append_of_mem inside
  have asked := each newer moment older split
  rw [route] at asked
  simp at asked

/-- What is known of a created file after some calls. -/
theorem Created.upholds (created : Created store names marker start file world)
    (ran : run store calls file .empty world = ((after, ledger), later))
    (small : Addressable ledger.accepted) :
    Upholds store.client marker names (start.objects.get? (store.client.place names.publish))
      ledger after later.history := by
  have kept := upholds_run created.placed.hosts calls created.known.1 (by rw [ran]; exact small)
  rw [ran] at kept
  exact kept

/-- The trial store under another schedule. -/
def Trial.storeOf (schedule : Schedule) : RemoteStore (Ordeal Unit) :=
  { Trial.store with client := { Trial.store.client with link := Ordeal.link schedule } }

/-- A schedule without other clients and refusals leaves a file its objects. -/
theorem Trial.placed_storeOf {schedule : Schedule} (alone : ∀ number, (schedule number).deeds = [])
    (granted : ∀ number status message, (schedule number).fault ≠ some (.refuse status message)) :
    Placed (Trial.storeOf schedule) Trial.names := by
  have addressed : Trial.store.client.IsAddressed := ⟨rfl, by decide, Url.isSegment_of_check (by decide)⟩
  have spares : schedule.Spares (Trial.names.all.map (Trial.storeOf schedule).client.place) := by
    intro number
    constructor
    · rw [alone number]
      rintro deed ⟨⟩
    · intro status message refuses
      exact absurd refuses (granted number status message)
  exact ⟨⟨⟨⟨addressed.base, addressed.web, addressed.bucket⟩, ⟨_, spares, rfl⟩, ⟨_, rfl⟩⟩, ⟨_, rfl⟩⟩, _, _, _,
    Except.eq_ok_of_isSome Trial.named⟩

theorem Trial.placed : Placed Trial.store Trial.names := by
  apply Trial.placed_storeOf
  · intro number
    rfl
  intro number status message refuses
  dsimp only [Trial.schedule] at refuses
  split at refuses <;> cases refuses

theorem Trial.created :
    Created Trial.store Trial.names Trial.marker (.withBucket "logs") Trial.file Trial.creation.2 :=
  ⟨Trial.placed, (), "a", 1, eq_mk_of_fst (Except.eq_ok_of_isSome Trial.creates)⟩

/-! ## Publishing -/

/-- After a publish that succeeds, the publish object decodes to the records whose appends succeeded,
each once and in order. -/
theorem published_decodes (created : Created store names marker start file world)
    (ran : run store calls file .empty world = ((after, ledger), later))
    (small : Addressable ledger.accepted) {publication : Publication}
    (published : after.publish store later = ((.ok publication, final), last)) :
    Holds (store.client.place names.publish) ledger.accepted last.history.store :=
  (created.upholds ran small).published created.placed.hosts small published

/-- A published record is read back although a response was lost. -/
theorem published_decodes_trial :
    Holds (Trial.store.client.place Trial.names.publish) [[1, 2, 3]]
      ((Trial.session [.append [1, 2, 3]]).1.1.publish Trial.store
        (Trial.session [.append [1, 2, 3]]).2).2.history.store := by
  have holds := published_decodes Trial.created (Trial.ran [.append [1, 2, 3]])
    (by rw [Trial.accepted]; decide) (eq_mk_of_fst_fst (Except.eq_ok_of_isSome Trial.published))
  rw [Trial.accepted] at holds
  exact holds

/-! ## The inflight object -/

/-- At every moment after the creation, as long as no removal of the inflight object was asked for, it
decodes to the records of the syncs that succeeded, or to all accepted records where a sync is under
way or has failed. An open file knows the generation and the size of its inflight object. -/
theorem inflight_decodes (created : Created store names marker start file world)
    (ran : run store calls file .empty world = ((after, ledger), later))
    (small : Addressable ledger.accepted) (call : Call) :
    (¬ Removal store.client names later.history.moments →
      Holds (store.client.place names.inflight) ledger.synced later.history.store ∨
        ledger.torn = true ∧
          Holds (store.client.place names.inflight) ledger.accepted later.history.store) ∧
    Through
      (fun moment past => ¬ Removal store.client names (moment :: past) →
        Holds (store.client.place names.inflight) ledger.synced moment.store ∨
          (ledger.torn = true ∨ call = .sync) ∧
            Holds (store.client.place names.inflight) ledger.accepted moment.store)
      later.history.moments (after.perform store call later).2.history.moments ∧
    ledger.synced <+: ledger.accepted ∧
    (after.state = .open → ∃ object,
      later.history.store.objects.get? (store.client.place names.inflight) = some object ∧
        after.generation = some (Numeral.decimal object.generation) ∧
        after.inflightSize = object.data.length) := by
  have upholds := created.upholds ran small
  obtain ⟨through, -⟩ := passes_perform created.placed.hosts call upholds small later rfl
  refine ⟨upholds.tells.inflight, through.mono ?_, ?_, ?_⟩
  · exact fun moment past during standing => during.tells.inflight_of_pending standing
  · have ordered := synced_run store calls file .empty List.prefix_rfl world
    rw [ran] at ordered
    exact ordered
  · intro isOpen
    obtain ⟨batches, stands, -⟩ := upholds.standing (upholds.isOpen isOpen)
    obtain ⟨object, knows⟩ := stands.inflight
    refine ⟨object, ?_, knows.generation, knows.size⟩
    rw [← upholds.named]
    exact knows.stored

/-- While a record is synced, the inflight object has no record or this one. -/
theorem inflight_decodes_trial :
    Through
      (fun moment past => ¬ Removal Trial.store.client Trial.names (moment :: past) →
        Holds (Trial.store.client.place Trial.names.inflight)
            (Trial.session [.append [1, 2, 3]]).1.2.synced moment.store ∨
          ((Trial.session [.append [1, 2, 3]]).1.2.torn = true ∨ Call.sync = .sync) ∧
            Holds (Trial.store.client.place Trial.names.inflight) [[1, 2, 3]] moment.store)
      (Trial.session [.append [1, 2, 3]]).2.history.moments
      ((Trial.session [.append [1, 2, 3]]).1.1.perform Trial.store .sync
        (Trial.session [.append [1, 2, 3]]).2).2.history.moments := by
  have through := (inflight_decodes Trial.created (Trial.ran [.append [1, 2, 3]])
    (by rw [Trial.accepted]; decide) .sync).2.1
  rw [Trial.accepted] at through
  exact through

/-! ## The publish object -/

/-- At every moment the publish object is the one from before the creation, or it decodes to all
accepted records once a publish was tried, or a discard after that removed it. Only a publish writes it,
by a compose. -/
theorem publish_whole (placed : Placed store names) (rest : τ) (start : Emulator) (name : String)
    (capacity : Nat) (marker : Marker) :
    let before : Ordeal τ := { rest, history := .fresh start }
    let place := store.client.place names.publish
    Through
      (fun moment _ => moment.store.objects.get? place = start.objects.get? place ∧
        moment.route.writes? ≠ some names.publish.text)
      [] (create store name names capacity marker before).2.history.moments ∧
    ∀ file world, create store name names capacity marker before = (.ok file, world) →
      ∀ calls after ledger later, run store calls file .empty world = ((after, ledger), later) →
        Addressable ledger.accepted → ∀ call,
          Through
            (fun moment _ =>
              (moment.store.objects.get? place = start.objects.get? place ∨
                ((ledger.tried = true ∨ call = .publish) ∧ Holds place ledger.accepted moment.store) ∨
                ledger.tried = true ∧ (ledger.discarded = true ∨ call = .discard) ∧
                  moment.store.objects.get? place = none) ∧
              (call ≠ .publish → call ≠ .discard →
                moment.store.objects.get? place = later.history.store.objects.get? place) ∧
              (moment.route.writes? = some names.publish.text →
                call = .publish ∧ ∃ generation,
                  moment.route = .compose store.client.bucket names.publish.text generation))
            later.history.moments (after.perform store call later).2.history.moments := by
  have hosts := placed.hosts
  constructor
  · obtain ⟨through, -⟩ := passes_create hosts name capacity marker
      { rest, history := .fresh start } (rfl : History.fresh start = .fresh start)
    refine through.mono ?_
    rintro moment past ⟨elsewhere, asked⟩
    constructor
    · exact hosts.untouched [names.inflight] elsewhere names.publish_mem_all
        (by simpa using hosts.inflight_ne_publish.symm)
    · exact writes?_of_mem_createRoutes hosts asked
  · intro file world made calls after ledger later ran small call
    have created : Created store names marker start file world :=
      ⟨placed, rest, name, capacity, made⟩
    have upholds := created.upholds ran small
    by_cases refused : call = .publish ∧ ledger.isOpen = false
    · obtain ⟨rfl, closed⟩ := refused
      have other : Call.publish ≠ .discard := by decide
      rw [upholds.refuses closed fun same => absurd same other]
      exact .done
    -- what a publish under way finds has not been discarded before
    have fresh : call = .publish → ledger.discarded = false := by
      intro publishing
      cases discarded : ledger.discarded with
      | false => rfl
      | true => exact absurd ⟨publishing, by simp [Ledger.isOpen, discarded]⟩ refused
    obtain ⟨through, -⟩ := passes_perform hosts call upholds small later rfl
    refine through.mono ?_
    intro moment past during
    exact ⟨during.tells.publish_of_pending fresh, during.quiet, during.writes⟩

namespace Trial

/-- Both responses to the compose of a publish are lost. -/
def unheard : Schedule := fun number =>
  { deeds := [], fault := if number = 2 ∨ number = 3 then some .lose else none }

theorem placed_unheard : Placed (storeOf unheard) Trial.names := by
  apply placed_storeOf
  · intro number
    rfl
  intro number status message refuses
  dsimp only [unheard] at refuses
  split at refuses <;> cases refuses

def unheardCreation : Except SinkError SinkFile × Ordeal Unit :=
  create (storeOf unheard) "a" Trial.names 1 Trial.marker { rest := (), history := .fresh (.withBucket "logs") }

theorem creates_unheard : unheardCreation.1.toOption.isSome = true := by
  decide +kernel

/-- The file, its ledger and the world after calls. -/
def unheardSession (calls : List Call) : (SinkFile × Ledger) × Ordeal Unit :=
  run (storeOf unheard) calls (unheardCreation.1.toOption.get creates_unheard) .empty unheardCreation.2

theorem ran_unheard (calls : List Call) :
    run (storeOf unheard) calls (unheardCreation.1.toOption.get creates_unheard) .empty unheardCreation.2 =
      (((unheardSession calls).1.1, (unheardSession calls).1.2), (unheardSession calls).2) :=
  eq_mk_of_fst_fst (rfl : (unheardSession calls).1.1 = (unheardSession calls).1.1)

/-- The publish of a file that took one record. -/
def unheardPublish : (Bool × SinkFile) × Ordeal Unit :=
  (unheardSession [.append [1, 2, 3]]).1.1.perform (storeOf unheard) .publish (unheardSession [.append [1, 2, 3]]).2

/-- The discard behind it. -/
def unheardDiscard : (Bool × SinkFile) × Ordeal Unit :=
  (unheardSession [.append [1, 2, 3], .publish]).1.1.perform (storeOf unheard) .discard
    (unheardSession [.append [1, 2, 3], .publish]).2

/-- Where the file is published. -/
def unheardPlace : Place := (storeOf unheard).client.place Trial.names.publish

/-- The publish fails, although its object is there; the discard removes it. -/
theorem unheard_ends :
    ((unheardSession [.append [1, 2, 3]]).1.2.accepted = [[1, 2, 3]] ∧
      (unheardSession [.append [1, 2, 3], .publish]).1.2.accepted = [[1, 2, 3]]) ∧
    (unheardPublish.1.1 = false ∧ (unheardPublish.2.history.store.objects.get? unheardPlace).isSome = true) ∧
    unheardDiscard.1.1 = true ∧ unheardDiscard.2.history.store.objects.get? unheardPlace = none := by
  decide +kernel

end Trial

/-- Both responses to the compose of a publish are lost, so that the publish fails, although its object is there. At
every moment of the publish there is no such object or the whole one, which only the compose writes; so it is while
the file is discarded, and then the object is gone. -/
theorem publish_whole_trial :
    (Trial.unheardPublish.1.1 = false ∧
      (Trial.unheardPublish.2.history.store.objects.get? Trial.unheardPlace).isSome = true) ∧
    Through
      (fun moment _ =>
        (moment.store.objects.get? Trial.unheardPlace = none ∨
          Holds Trial.unheardPlace [[1, 2, 3]] moment.store) ∧
        (moment.route.writes? = some Trial.names.publish.text →
          ∃ generation, moment.route = .compose "logs" Trial.names.publish.text generation))
      (Trial.unheardSession [.append [1, 2, 3]]).2.history.moments Trial.unheardPublish.2.history.moments ∧
    Through
      (fun moment _ =>
        (moment.store.objects.get? Trial.unheardPlace = none ∨
          Holds Trial.unheardPlace [[1, 2, 3]] moment.store) ∧
        moment.route.writes? ≠ some Trial.names.publish.text)
      (Trial.unheardSession [.append [1, 2, 3], .publish]).2.history.moments
      Trial.unheardDiscard.2.history.moments ∧
    Trial.unheardDiscard.1.1 = true ∧
      Trial.unheardDiscard.2.history.store.objects.get? Trial.unheardPlace = none := by
  obtain ⟨⟨accepted, still⟩, failed, discarded⟩ := Trial.unheard_ends
  have whole := (publish_whole Trial.placed_unheard () (.withBucket "logs") "a" 1 Trial.marker).2 _ _
    (eq_mk_of_fst (Except.eq_ok_of_isSome Trial.creates_unheard))
  have small : Addressable [[1, 2, 3]] := by decide
  have publishing := whole _ _ _ _ (Trial.ran_unheard [.append [1, 2, 3]]) (by rw [accepted]; exact small) .publish
  have discarding := whole _ _ _ _ (Trial.ran_unheard [.append [1, 2, 3], .publish])
    (by rw [still]; exact small) .discard
  rw [accepted] at publishing
  rw [still] at discarding
  have settled {before whole tried asked dropped : Prop}
      (seen : before ∨ (tried ∧ whole) ∨ asked ∧ dropped ∧ before) : before ∨ whole := by
    rcases seen with unchanged | ⟨-, holds⟩ | ⟨-, -, none⟩
    · exact .inl unchanged
    · exact .inr holds
    · exact .inl none
  refine ⟨failed, publishing.mono ?_, discarding.mono ?_, discarded⟩
  · rintro moment past ⟨seen, -, written⟩
    exact ⟨settled seen, fun writes => (written writes).2⟩
  · rintro moment past ⟨seen, -, written⟩
    exact ⟨settled seen, fun writes => nomatch (written writes).1⟩

end RecordSink.SinkFile
