import RecordSink.Proofs.SinkFile.Outcome
import RecordSink.Proofs.SinkFile.Runs

/-!
# Reliable files

While no run of attempts meets more faults than it has attempts to spare, every call of a file comes to
its outcome: each request of it succeeds, and the store holds the bytes of the outcome.
-/

namespace RecordSink

open Emulator Ordeal RecordSink.Stream

variable {τ α β : Type} {places : List Place} {site : Site τ} {schedule : Schedule}

namespace SinkFile

/-! ## Steps -/

section

variable {file after : SinkFile} {body : Bytes} {shelf : Shelf}

theorem minds_uploadPart (site : Site τ) (schedule : Schedule) (file : SinkFile) :
    Minds schedule (file.uploadPart (site.store schedule)) := by
  rw [uploadPart]
  split
  · exact .pure
  split
  · exact .pure
  · refine .bind (RemoteStore.minds_upload site schedule _ _) ?_
    intro result
    cases result <;> exact .pure

/-- Without an encoding nothing is uploaded. -/
theorem uploadPart_of_error {W : Type} {cause : WriteError} (failed : file.staged = (.error cause, after))
    (store : RemoteStore W) :
    file.uploadPart store = fun world => ((.error (.encoding cause), after), world) := by
  rw [staged] at failed
  split at failed
  · cases failed
  next some =>
    rw [uploadPart, if_neg some]
    rcases encoded : encodeRecords file.buffer.records file.encoder with ⟨cause' | body, encoder⟩
    · rw [encoded] at failed
      cases failed
      rfl
    · rw [encoded] at failed
      cases failed

/-- A store holds the bytes of a shelf, and the object at a place has a generation that is no longer
given. -/
structure Tracks (places : List Place) (shelf : Shelf) (place : Place) (number : Nat)
    (store : Emulator) : Prop where
  shows : Shows places shelf store
  generation : store.generationAt place = number
  older : number < store.nextGeneration

theorem lasting_tracks {place : Place} (own : place ∈ places) (shelf : Shelf) (number : Nat) :
    Site.Lasting places (Tracks places shelf place number) := by
  intro before after tracks kept
  refine ⟨lasting_shows places shelf before after tracks.shows kept, ?_, ?_⟩
  · rw [kept.generationAt own]
    exact tracks.generation
  · exact Nat.lt_of_lt_of_le tracks.older kept.generations

/-- Writing another object leaves the tracked one alone. -/
theorem Tracks.put {place target : Place} {number : Nat} {before now : Emulator}
    (tracks : Tracks places shelf place number before) (own : place ∈ places) (apart : place ≠ target)
    {object : StoredObject} (records : object.Records body)
    (sets : Sets places target (some object) before now) :
    Tracks places (shelf.put target body) place number now := by
  refine ⟨tracks.shows.put records sets, ?_, Nat.lt_of_lt_of_le tracks.older sets.generations⟩
  rw [generationAt, sets.others place own apart]
  exact tracks.generation

/-- Writing the same records again leaves it alone, too. -/
theorem Tracks.put_again {place target : Place} {number : Nat} {before now : Emulator}
    (tracks : Tracks places shelf place number before ∨
      Tracks places (shelf.put target body) place number before)
    (own : place ∈ places) (apart : place ≠ target) {object : StoredObject}
    (records : object.Records body) (sets : Sets places target (some object) before now) :
    Tracks places (shelf.put target body) place number now := by
  rcases tracks with tracks | tracks
  · exact tracks.put own apart records sets
  · rw [← Shelf.put_put]
    exact tracks.put own apart records sets

/-- The waiting records are in place, so that a compose can begin. -/
structure Loaded (file after : SinkFile) (body : Bytes) (batch : Batch) (loaded : SinkFile) : Prop where
  counted : loaded.withSynced batch.records = after
  names : loaded.names = file.names
  generation : loaded.generation = file.generation
  sources : batch.sources = [file.names.inflight] ∧ file.buffer.isEmpty = true ∧ body = [] ∨
    batch.sources = [file.names.inflight, file.names.part] ∧ file.buffer.isEmpty = false
  size : file.inflightSize + body.length < Nat.pow 2 64 →
    batch.size = file.inflightSize + body.length

/-- Waiting records that can be encoded are uploaded. -/
theorem endures_uploadPart (fit : site.Fit places schedule)
    (hosts : (site.store schedule).Hosts places file.names) (encoded : file.staged = (.ok body, after))
    (shelf : Shelf) (number : Nat) :
    Endures schedule site.most
      (site.At (Tracks places shelf ((site.store schedule).client.place file.names.inflight) number))
      (file.uploadPart (site.store schedule))
      (fun result world => ∃ value : Batch × SinkFile, result = (.ok value.1, value.2) ∧
        Loaded file after body value.1 value.2 ∧
        site.At (Tracks places (Outcome.loaded (site.store schedule).client.place file body shelf)
          ((site.store schedule).client.place file.names.inflight) number) world) := by
  rw [staged] at encoded
  split at encoded
  · next empty =>
      cases encoded
      rw [uploadPart, if_pos empty]
      refine .pure ?_
      intro world start
      refine ⟨(_, _), rfl, ⟨rfl, rfl, rfl, .inl ⟨rfl, empty, rfl⟩, fun _ => rfl⟩, ?_⟩
      rw [Outcome.loaded, if_pos empty]
      exact start
  · next some =>
      split at encoded
      · cases encoded
      next encoder done =>
        cases encoded
        rw [uploadPart, if_neg some, done]
        have own := hosts.own _ file.names.inflight_mem_all
        have apart : (site.store schedule).client.place file.names.inflight ≠
            (site.store schedule).client.place file.names.part :=
          fun same => hosts.inflight_ne_part (Client.place_injective same)
        have upload := RemoteStore.endures_upload fit file.names.part body
          (lasting_tracks own shelf number)
          (lasting_tracks own (shelf.put ((site.store schedule).client.place file.names.part) body) number)
          fun before now object tracks records sets => Tracks.put_again tracks own apart records sets
        refine .bind_of upload ?_ ?_
        · intro result
          cases result <;> exact .pure
        · intro answer _
          refine .pure ?_
          intro world reached
          refine ⟨(_, _), rfl, ⟨rfl, rfl, rfl, .inr ⟨rfl, by simpa using some⟩, ?_⟩, ?_⟩
          · intro small
            exact Nat.mod_eq_of_lt small
          · rw [Outcome.loaded, if_neg some]
            exact reached

variable {client : Client (Ordeal (Watch τ))} {data : Bytes} {number : Nat} {start now : Emulator}

/-- An open file is ready for a compose: it knows its inflight object, and the waiting records fit behind
it. -/
structure Ready (places : List Place) (client : Client (Ordeal (Watch τ))) (file : SinkFile)
    (shelf : Shelf) (data : Bytes) (number : Nat) (store : Emulator) : Prop where
  tracks : Tracks places shelf (client.place file.names.inflight) number store
  stored : shelf (client.place file.names.inflight) = some data
  generation : file.generation = some (Numeral.decimal number)
  size : file.inflightSize = data.length
  small : ∀ body, file.staged.1 = .ok body → data.length + body.length < Nat.pow 2 64

/-- What is staged belongs behind the inflight object. -/
theorem length_staged_lt {marker : Marker} {past : List (List Bytes)}
    (ready : Encoder.HasWritten marker past file.encoder)
    (small : (due marker past file).length < Nat.pow 2 64) (staging : file.staged = (.ok body, after)) :
    (written marker past).length + body.length < Nat.pow 2 64 := by
  rw [due, written_append, List.length_append] at small
  rw [staged] at staging
  split at staging
  · cases staging
    exact Nat.lt_of_le_of_lt (Nat.add_le_add_left (Nat.zero_le _) _) small
  · split at staging
    · cases staging
    next encoded =>
      cases staging
      by_cases fits : ∀ run ∈ runs file.buffer.records, Fits run
      · obtain ⟨encoder, same, -⟩ := encodeRecords_of_fits ready fits
        cases same.symm.trans encoded
        exact small
      · obtain ⟨cause, failed⟩ := encodeRecords_of_not_fits ready.detached fits
        rw [encoded] at failed
        cases failed

/-- A file that stands in a store is ready there. -/
theorem Stands.ready {marker : Marker} {past : List (List Bytes)}
    (stands : Stands client marker past file start) (own : client.place file.names.inflight ∈ places)
    (small : (due marker past file).length < Nat.pow 2 64) (shows : Shows places shelf start) :
    ∃ data number, Ready places client file shelf data number start := by
  obtain ⟨object, knows⟩ := stands.inflight
  refine ⟨object.data, object.generation, ⟨shows, ?_, knows.older⟩, ?_, knows.generation, knows.size, ?_⟩
  · rw [generationAt, knows.stored]
  · rw [← shows _ own, object?, knows.stored]
    rfl
  · intro body staging
    rw [knows.data]
    exact length_staged_lt stands.encoder small (Prod.ext staging rfl)

/-- The sources of a compose are some of the objects of the file. -/
theorem Loaded.sources_cases {batch : Batch} {loaded : SinkFile}
    (prepared : Loaded file after body batch loaded) :
    batch.sources ≠ [] ∧ batch.sources.length ≤ Client.maxSources ∧
      ∀ source ∈ batch.sources, source = file.names.inflight ∨ source = file.names.part := by
  rcases prepared.sources with ⟨same, -, -⟩ | ⟨same, -⟩
  · rw [same]
    exact ⟨by simp, by simp [Client.maxSources], by simp⟩
  · rw [same]
    exact ⟨by simp, by simp [Client.maxSources], by simp⟩

/-- The sources of a compose are the inflight object and the waiting records behind it. -/
theorem Loaded.gathers {batch : Batch} {loaded : SinkFile} {store : RemoteStore (Ordeal τ)}
    {shelf full : Shelf} (prepared : Loaded file after body batch loaded)
    (hosts : store.Hosts places file.names)
    (stored : shelf (store.client.place file.names.inflight) = some data) (shows : Shows places full now)
    (inflight : full (store.client.place file.names.inflight) =
      Outcome.loaded store.client.place file body shelf (store.client.place file.names.inflight))
    (part : full (store.client.place file.names.part) =
      Outcome.loaded store.client.place file body shelf (store.client.place file.names.part)) :
    Gathers (batch.sources.map store.client.place) (data ++ body) now := by
  have apart : store.client.place file.names.inflight ≠ store.client.place file.names.part :=
    fun same => hosts.inflight_ne_part (Client.place_injective same)
  have front : now.object? (store.client.place file.names.inflight) = some data := by
    rw [shows _ (hosts.own _ file.names.inflight_mem_all), inflight, ← stored, Outcome.loaded]
    split
    · rfl
    · exact Shelf.put_other apart
  rcases prepared.sources with ⟨same, -, rfl⟩ | ⟨same, waiting⟩
  · rw [same]
    exact (gathers_nil now).cons front
  · have back : now.object? (store.client.place file.names.part) = some body := by
      rw [shows _ (hosts.own _ file.names.part_mem_all), part, Outcome.loaded, if_neg (by simp [waiting]),
        Shelf.put_self]
    have gathers := ((gathers_nil now).cons back).cons front
    rw [List.append_nil] at gathers
    rw [same]
    exact gathers

theorem grown_eq (stored : shelf (client.place file.names.inflight) = some data) :
    Outcome.grown client.place file body shelf = data ++ body := by
  rw [Outcome.grown, stored, Option.getD_some]

/-- The size in an answer is the size of the bytes. -/
theorem sizeBytes?_of_described {answer : ObjectMetadata} {place : Place}
    (described : answer.ungenerated = place.described data) (small : data.length < Nat.pow 2 64) :
    answer.sizeBytes? = some data.length := by
  have size : answer.size = Numeral.decimal data.length := congrArg ObjectMetadata.size described
  rw [ObjectMetadata.sizeBytes?, size]
  exact Numeral.readCounter?_decimal small

/-- Waiting records that can be encoded are composed onto the inflight object. -/
theorem endures_composeInflight (fit : site.Fit places schedule)
    (hosts : (site.store schedule).Hosts places file.names) (encoded : file.staged = (.ok body, after))
    (ready : Ready places (site.store schedule).client file shelf data number start) :
    Endures schedule site.most
      (site.At (Tracks places shelf ((site.store schedule).client.place file.names.inflight) number))
      (file.composeInflight (site.store schedule))
      (fun result world => ∃ value : ObjectMetadata × SinkFile, result = (.ok value.1, value.2) ∧
        value.2.ungenerated = { after with inflightSize := (data ++ body).length }.ungenerated ∧
        site.At (Shows places
          ((Outcome.loaded (site.store schedule).client.place file body shelf).put
            ((site.store schedule).client.place file.names.inflight) (data ++ body))) world) := by
  have own := hosts.own _ file.names.inflight_mem_all
  have small : (data ++ body).length < Nat.pow 2 64 := by
    rw [List.length_append]
    exact ready.small body (by rw [encoded])
  refine .bind_of (endures_uploadPart fit hosts encoded shelf number) ?_ ?_
  · rintro ⟨cause | batch, loaded⟩
    · exact .pure
    · exact .bind (RemoteStore.minds_composeReplacing site schedule _ _ _ _) fun answer => by
        cases answer <;> exact .pure
  rintro ⟨batch, loaded⟩ prepared
  obtain ⟨filled, few, -⟩ := prepared.sources_cases
  have size : batch.size = (data ++ body).length := by
    rw [List.length_append, ← ready.size]
    exact prepared.size (by rw [ready.size]; exact ready.small body (by rw [encoded]))
  have extending : RemoteStore.Extends places (site.store schedule) file.names.inflight batch.sources
      number (data ++ body)
      (Tracks places (Outcome.loaded (site.store schedule).client.place file body shelf)
        ((site.store schedule).client.place file.names.inflight) number)
      (Shows places ((Outcome.loaded (site.store schedule).client.place file body shelf).put
        ((site.store schedule).client.place file.names.inflight) (data ++ body))) :=
    { own, filled, few, small
      lasting := lasting_tracks own _ _
      lasting' := lasting_shows _ _
      old := fun now tracks => ⟨tracks.generation, tracks.older⟩
      gathers := fun now tracks => prepared.gathers hosts ready.stored tracks.shows rfl rfl
      written := fun before after object tracks records sets => tracks.shows.put records sets }
  dsimp only
  rw [prepared.names, prepared.generation, ready.generation, size]
  refine .bind_of (RemoteStore.endures_composeReplacing fit extending) ?_ ?_
  · intro answer
    cases answer <;> exact .pure
  · intro answer described
    refine .pure ?_
    intro world reached
    refine ⟨(_, _), rfl, ?_, reached⟩
    rw [sizeBytes?_of_described described small, ← prepared.counted]
    rfl

/-- Waiting records that can be encoded are composed into the publish object. -/
theorem endures_composePublish (fit : site.Fit places schedule)
    (hosts : (site.store schedule).Hosts places file.names) (encoded : file.staged = (.ok body, after))
    (ready : Ready places (site.store schedule).client file shelf data number start) :
    Endures schedule site.most
      (site.At (Tracks places shelf ((site.store schedule).client.place file.names.inflight) number))
      (file.composePublish (site.store schedule))
      (fun result world => ∃ answer : ObjectMetadata, result = (.ok answer, after) ∧
        answer.ungenerated =
          ((site.store schedule).client.place file.names.publish).described (data ++ body) ∧
        site.At (Shows places
          ((Outcome.loaded (site.store schedule).client.place file body shelf).put
            ((site.store schedule).client.place file.names.publish) (data ++ body))) world) := by
  refine .bind_of (endures_uploadPart fit hosts encoded shelf number) ?_ ?_
  · rintro ⟨cause | batch, loaded⟩
    · exact .pure
    · exact .bind (RemoteStore.minds_compose site schedule _ _) fun answer => by
        cases answer <;> exact .pure
  rintro ⟨batch, loaded⟩ prepared
  obtain ⟨filled, few, -⟩ := prepared.sources_cases
  dsimp only
  rw [prepared.names]
  have apart : ∀ name ∈ [file.names.inflight, file.names.part],
      (site.store schedule).client.place name ≠ (site.store schedule).client.place file.names.publish := by
    intro name inside same
    have equal := Client.place_injective same
    simp only [List.mem_cons, List.not_mem_nil, or_false] at inside
    rcases inside with rfl | rfl
    · exact hosts.inflight_ne_publish equal
    · exact hosts.part_ne_publish equal
  have composed := RemoteStore.endures_compose fit file.names.publish (data ++ body) filled few
    (lasting_shows places (Outcome.loaded (site.store schedule).client.place file body shelf))
    (lasting_shows places ((Outcome.loaded (site.store schedule).client.place file body shelf).put
      ((site.store schedule).client.place file.names.publish) (data ++ body)))
    (by
      rintro now (shows | shows)
      · exact prepared.gathers hosts ready.stored shows rfl rfl
      · exact prepared.gathers hosts ready.stored shows (Shelf.put_other (apart _ (by simp)))
          (Shelf.put_other (apart _ (by simp))))
    fun before now object shows records sets => Shows.put_again shows records sets
  refine .bind_of (composed.mono (fun world start => ⟨start.1, start.2.shows⟩)
    fun _ _ ended => ended) ?_ ?_
  · intro answer
    cases answer <;> exact .pure
  · intro answer described
    refine .pure ?_
    intro world reached
    exact ⟨answer, by rw [prepared.counted], described, reached⟩

/-! ## Calls -/

/-- A call comes to an outcome. -/
def Comes (places : List Place) (site : Site τ) (outcome : Outcome) (reply : Reply) (file : SinkFile)
    (world : Ordeal (Watch τ)) : Prop :=
  Outcome.of reply file outcome.shelf = outcome ∧ site.At (Shows places outcome.shelf) world

/-- From one store on a call comes to an outcome, unless a run meets too many faults. -/
abbrev EnduresCall (places : List Place) (site : Site τ) (schedule : Schedule) (start : Emulator)
    (step : StateM (Ordeal (Watch τ)) (α × SinkFile)) (reply : α → Reply) (outcome : Outcome) : Prop :=
  Endures schedule site.most (site.At fun now => now = start) step
    fun result world => Comes places site outcome (reply result.1) result.2 world

/-- A call that needs no request comes to what it gives. -/
theorem endures_answered {reply : α → Reply} {result : α} (shows : Shows places shelf start) :
    EnduresCall places site schedule start (pure (result, after)) reply
      (.of (reply result) after shelf) := by
  refine .pure ?_
  rintro world ⟨steady, rfl⟩
  exact ⟨rfl, steady, shows⟩

theorem endures_sync (fit : site.Fit places schedule)
    (hosts : (site.store schedule).Hosts places file.names) (shows : Shows places shelf start)
    (ready : file.state = .open →
      ∃ data number, Ready places (site.store schedule).client file shelf data number start) :
    EnduresCall places site schedule start (file.sync (site.store schedule)) .synced
      (.sync (site.store schedule).client.place file shelf) := by
  rw [SinkFile.sync, Outcome.sync]
  split
  · exact endures_answered shows
  next isOpen =>
    obtain ⟨data, number, ready⟩ := ready (Decidable.not_not.mp isOpen)
    rcases staging : file.staged with ⟨cause | body, after⟩
    · have stopped : file.composeInflight (site.store schedule) =
          pure (.error (.encoding cause), after) := by
        rw [composeInflight, uploadPart_of_error staging]
        rfl
      rw [stopped]
      exact endures_answered shows
    · refine .bind_of ((endures_composeInflight fit hosts staging ready).starting ready.tracks) ?_ ?_
      · rintro ⟨cause | answer, final⟩
        · exact .pure
        · exact .pure
      · rintro ⟨answer, final⟩ same
        have counted := congrArg (fun file : SinkFile =>
          { file with stats := { file.stats with syncs := file.stats.syncs + 1 } }) same
        refine .pure fun world reached => ⟨?_, ?_⟩
        · dsimp only
          rw [grown_eq ready.stored]
          exact congrArg (Outcome.mk _ · _) counted
        · dsimp only [Outcome.of]
          rw [grown_eq ready.stored]
          exact reached

theorem minds_removeAll (site : Site τ) (schedule : Schedule) (names : List ObjectName) :
    Minds schedule (removeAll (site.store schedule) names) := by
  induction names with
  | nil => exact .pure
  | cons name rest ih =>
      refine .bind (RemoteStore.minds_deleteIfExists site schedule name) fun outcome => .bind ih ?_
      intro failures
      cases outcome <;> exact .pure

/-- Objects are removed one by one. -/
theorem endures_removeAll (fit : site.Fit places schedule) (names : List ObjectName) (shelf : Shelf) :
    Endures schedule site.most (site.At (Shows places shelf)) (removeAll (site.store schedule) names)
      (fun failures world => failures = [] ∧ site.At
        (Shows places (shelf.without (names.map (site.store schedule).client.place))) world) := by
  induction names generalizing shelf with
  | nil =>
      refine .pure fun world start => ⟨rfl, ?_⟩
      rw [List.map_nil, Shelf.without_nil]
      exact start
  | cons name rest ih =>
      have delete := RemoteStore.endures_deleteIfExists fit name (lasting_shows places shelf)
        (lasting_shows places (shelf.without [(site.store schedule).client.place name]))
        (fun now shows gone => shows.missing gone)
        fun before now shows sets => Shows.removed_again shows sets
      have removed : Endures schedule site.most (site.At (Shows places shelf))
          ((site.store schedule).deleteIfExists name) (fun result world => ∃ existed,
            result = .ok existed ∧ True ∧ site.At (Shows places
              (shelf.without [(site.store schedule).client.place name])) world) :=
        delete.mono (fun _ start => start)
          fun _ _ ⟨existed, same, reached⟩ => ⟨existed, same, trivial, reached⟩
      rw [removeAll]
      refine .bind_of removed ?_ ?_
      · intro outcome
        refine .bind (minds_removeAll site schedule rest) fun failures => ?_
        cases outcome <;> exact .pure
      · intro existed _
        refine .bind (ih _) fun failures => .pure ?_
        intro world reached
        rw [Shelf.without_cons] at reached
        exact reached

/-- A publish finds the same records waiting. -/
theorem staged_attempted (file : SinkFile) :
    staged { file with publishAttempted := true } =
      (file.staged.1, { file.staged.2 with publishAttempted := true }) := by
  rcases encoded : encodeRecords file.buffer.records file.encoder with ⟨cause | body, encoder⟩
  · simp only [staged, encoded]
    split <;> rfl
  · simp only [staged, encoded]
    split <;> rfl

theorem endures_publish (fit : site.Fit places schedule)
    (hosts : (site.store schedule).Hosts places file.names) (shows : Shows places shelf start)
    (ready : file.state = .open →
      ∃ data number, Ready places (site.store schedule).client file shelf data number start) :
    EnduresCall places site schedule start (file.publish (site.store schedule)) .published
      (.publish (site.store schedule).client.place file shelf) := by
  rw [SinkFile.publish, Outcome.publish]
  split
  · exact endures_answered shows
  next isOpen =>
    obtain ⟨data, number, tracks, stored, generation, size, small⟩ := ready (Decidable.not_not.mp isOpen)
    have hosting : (site.store schedule).Hosts places
        (SinkFile.names { file with publishAttempted := true }) := hosts
    have attempting : Ready places (site.store schedule).client { file with publishAttempted := true }
        shelf data number start := by
      refine ⟨tracks, stored, generation, size, ?_⟩
      intro body staging
      rw [staged_attempted] at staging
      exact small body staging
    rcases staging : staged { file with publishAttempted := true } with ⟨cause | body, after⟩
    · have stopped : composePublish (site.store schedule) { file with publishAttempted := true } =
          pure (.error (.encoding cause), after) := by
        rw [composePublish, uploadPart_of_error staging]
        rfl
      rw [stopped]
      exact endures_answered shows
    · refine .bind_of
        ((endures_composePublish fit hosting staging attempting).starting attempting.tracks) ?_ ?_
      · rintro ⟨cause | answer, final⟩
        · exact .pure
        · exact .bind (minds_removeAll site schedule _) fun _ => .pure
      · intro answer described
        refine .bind (endures_removeAll fit _ _) ?_
        intro failures
        refine .pure ?_
        rintro world ⟨rfl, reached⟩
        dsimp only [Outcome.of]
        rw [grown_eq stored]
        exact ⟨congrArg (fun object =>
          Outcome.mk (.published (.ok { object, cleanupFailures := [] })) _ _) described, reached⟩

theorem endures_discard (fit : site.Fit places schedule) (shows : Shows places shelf start) :
    EnduresCall places site schedule start (file.discard (site.store schedule)) .discarded
      (.discard (site.store schedule).client.place file shelf) := by
  rw [SinkFile.discard, Outcome.discard]
  split
  · exact endures_answered shows
  · refine .bind ((endures_removeAll fit file.possibleNames shelf).starting shows) ?_
    intro failures
    refine .pure ?_
    rintro world ⟨rfl, reached⟩
    exact ⟨rfl, reached⟩

/-! ## Any call -/

theorem minds_sync (site : Site τ) (schedule : Schedule) (file : SinkFile) :
    Minds schedule (file.sync (site.store schedule)) := by
  have composed : Minds schedule (file.composeInflight (site.store schedule)) := by
    refine .bind (minds_uploadPart site schedule file) ?_
    rintro ⟨cause | batch, loaded⟩
    · exact .pure
    · exact .bind (RemoteStore.minds_composeReplacing site schedule _ _ _ _) fun answer => by
        cases answer <;> exact .pure
  refine .ite .pure (composed.bind ?_)
  rintro ⟨cause | answer, final⟩
  · exact .pure
  · exact .pure

theorem minds_publish (site : Site τ) (schedule : Schedule) (file : SinkFile) :
    Minds schedule (file.publish (site.store schedule)) := by
  have composed : Minds schedule
      (composePublish (site.store schedule) { file with publishAttempted := true }) := by
    refine .bind (minds_uploadPart site schedule _) ?_
    rintro ⟨cause | batch, loaded⟩
    · exact .pure
    · exact .bind (RemoteStore.minds_compose site schedule _ _) fun answer => by
        cases answer <;> exact .pure
  refine .ite .pure (composed.bind ?_)
  rintro ⟨cause | answer, final⟩
  · exact .pure
  · exact .bind (minds_removeAll site schedule _) fun _ => .pure

theorem minds_ask (site : Site τ) (schedule : Schedule) (file : SinkFile) (call : Call) :
    Minds schedule (file.ask (site.store schedule) call) := by
  cases call with
  | append record => exact .pure
  | sync => exact .bind (minds_sync site schedule file) fun _ => .pure
  | publish => exact .bind (minds_publish site schedule file) fun _ => .pure
  | discard =>
      exact .bind (.ite .pure (.bind (minds_removeAll site schedule _) fun _ => .pure)) fun _ => .pure

theorem minds_create (site : Site τ) (schedule : Schedule) (name : String) (names : FileNames)
    (capacity : Nat) (marker : Marker) :
    Minds schedule (create (site.store schedule) name names capacity marker) := by
  rw [create]
  split
  · exact .pure
  · refine .bind (RemoteStore.minds_upload site schedule _ _) ?_
    intro result
    cases result with
    | ok inflight => exact .pure
    | error cause => exact .bind (RemoteStore.minds_deleteIfExists site schedule _) fun _ => .pure

/-- Every call comes to its outcome. -/
theorem endures_ask (fit : site.Fit places schedule)
    (hosts : (site.store schedule).Hosts places file.names) (shows : Shows places shelf start)
    (ready : file.state = .open →
      ∃ data number, Ready places (site.store schedule).client file shelf data number start)
    (call : Call) :
    EnduresCall places site schedule start (file.ask (site.store schedule) call) id
      (.call (site.store schedule).client.place file shelf call) := by
  cases call with
  | append record => exact endures_answered shows
  | sync => exact (endures_sync fit hosts shows ready).bind fun _ => .pure fun _ comes => comes
  | publish => exact (endures_publish fit hosts shows ready).bind fun _ => .pure fun _ comes => comes
  | discard => exact (endures_discard fit shows).bind fun _ => .pure fun _ comes => comes

/-- A file is created by an upload that succeeds. -/
theorem endures_create (fit : site.Fit places schedule) (name : String) (names : FileNames)
    (capacity : Nat) {marker : Marker} {header : Bytes} {encoder : Encoder (Retargeting Body)}
    (encoded : encodeHeader marker = .ok (header, encoder)) (shelf : Shelf) :
    Endures schedule site.most (site.At (Shows places shelf))
      (create (site.store schedule) name names capacity marker)
      (fun result world => ∃ file, result = .ok file ∧
        file.ungenerated = (opened name names capacity encoder header.length
          (((site.store schedule).client.place names.inflight).described header)).ungenerated ∧
        site.At (Shows places
          (shelf.put ((site.store schedule).client.place names.inflight) header)) world) := by
  have upload := RemoteStore.endures_upload fit names.inflight header (lasting_shows places shelf)
    (lasting_shows places (shelf.put ((site.store schedule).client.place names.inflight) header))
    fun before now object shows records sets => Shows.put_again shows records sets
  rw [create, encoded]
  refine .bind_of upload ?_ ?_
  · intro result
    cases result with
    | ok inflight => exact .pure
    | error cause => exact .bind (RemoteStore.minds_deleteIfExists site schedule _) fun _ => .pure
  · intro answer described
    have same := congrArg (fun inflight =>
      (opened name names capacity encoder header.length inflight).ungenerated) described
    exact .pure fun world reached => ⟨_, rfl, same, reached⟩

end

end SinkFile

end RecordSink
