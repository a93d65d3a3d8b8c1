import RecordSink.Proofs.SinkFile.Hosting

/-!
# Operations of a hosted file

What each operation of a file does to its three objects, at every moment of it and at its end, whatever
other clients and faults do. A sync replaces the inflight object once or not at all; a publish writes
the publish object from an inflight object that it leaves in place until the end; a discard removes
objects that the file may have left.
-/

namespace RecordSink.SinkFile

open Emulator Ordeal RecordSink.Stream RecordSink.Stream.Encoder

variable {τ : Type} {places : List Place} {start now : Emulator} {store : RemoteStore (Ordeal τ)}
  {marker : Marker} {past : List (List Bytes)} {file : SinkFile}

/-- The stream that is due once the waiting records are encoded behind some runs. -/
def due (marker : Marker) (past : List (List Bytes)) (file : SinkFile) : Bytes :=
  written marker (past ++ runs file.buffer.records)

/-- The records of some runs and those that wait behind them. -/
def held (past : List (List Bytes)) (file : SinkFile) : List Bytes :=
  past.flatten ++ file.buffer.records

/-- The due stream decodes to all records that a file holds. -/
theorem decodes_due (marker : Marker) (fits : ∀ run ∈ past ++ runs file.buffer.records, Fits run) :
    Decodes (due marker past file) (held past file) := by
  have decodes := decodes_written marker fits
  rw [List.flatten_append, flatten_runs] at decodes
  exact decodes

/-! ## Syncing -/

/-- What a sync may have done to a store: the inflight object is the old one or it has all records. -/
structure Syncs (places : List Place) (client : Client (Ordeal τ)) (names : FileNames)
    (records : List Bytes) (start now : Emulator) : Prop where
  elsewhere : Elsewhere places [client.place names.part, client.place names.inflight] start now
  inflight : Becomes (client.place names.inflight) records start now

/-- What a sync asks the store for. -/
def syncRoutes (client : Client (Ordeal τ)) (file : SinkFile) : List Route :=
  [.upload client.bucket (some file.names.part.text),
    .compose client.bucket file.names.inflight.text (client.asked file.generation),
    .getObject client.bucket file.names.inflight.text, .unknown]

/-- A replacement of the inflight object is part of a sync. -/
theorem syncs_of_replacing {names : FileNames} {sources : List ObjectName}
    {old : StoredObject} {data : Bytes} {records : List Bytes} {history : History}
    (decodes : Decodes data records)
    (stored : start.objects.get? (store.client.place names.inflight) = some old)
    (replacing : RemoteStore.Replacing places
      [store.client.place names.part, store.client.place names.inflight] store names.inflight sources
      old data start history) :
    Syncs places store.client names records start history.store := by
  refine ⟨replacing.elsewhere, ?_⟩
  rcases replacing.replaces with ⟨inPlace, -⟩ | ⟨new, inPlace, whole, -⟩
  · exact .inl (inPlace.trans stored.symm)
  · exact .inr ⟨new, inPlace, by rwa [whole]⟩

/-- Once the part is uploaded, the replacement of the inflight object can begin. -/
theorem Prepared.replacing (hosts : store.Hosts places file.names) {old : StoredObject}
    (knows : Knows store.client marker past file start old) {history : History}
    (elsewhere : Elsewhere places [store.client.place file.names.part] start history.store)
    {batch : Batch} {after : SinkFile} {whole : List (List Bytes)}
    (ready : Prepared store.client marker whole file batch after history.store) :
    RemoteStore.Replacing places
      [store.client.place file.names.part, store.client.place file.names.inflight] store
      file.names.inflight batch.sources old (written marker whole) start history := by
  have same := hosts.untouched [file.names.part] elsewhere file.names.inflight_mem_all
    (by simpa using hosts.inflight_ne_part)
  have inPlace := same.trans knows.stored
  refine ⟨elsewhere.widen (by simp), .inl ⟨inPlace, ready.gathers⟩, ?_⟩
  intro object found
  cases inPlace.symm.trans found
  exact Nat.lt_of_lt_of_le knows.older elsewhere.generations

/-- A file that takes over the answer to a replacement knows its new inflight object. -/
theorem Prepared.knows {batch : Batch} {after final : SinkFile} {whole : List (List Bytes)}
    (ready : Prepared store.client marker whole file batch after start)
    (small : (written marker whole).length < Nat.pow 2 64) {new : StoredObject}
    (stored : now.objects.get? (store.client.place file.names.inflight) = some new)
    (data : new.data = written marker whole) (older : new.generation < now.nextGeneration)
    (named : final.names = after.names)
    (generation : final.generation = some (Numeral.decimal new.generation))
    (size : final.inflightSize =
      (new.metadata (store.client.place file.names.inflight)).sizeBytes?.getD batch.size) :
    Knows store.client marker whole final now new := by
  refine ⟨?_, data, older, generation, ?_⟩
  · rw [named, ready.continues.names]
    exact stored
  · rw [size, StoredObject.sizeBytes?_metadata _ (by rw [data]; exact small)]
    rfl

/-- Composing onto the inflight object gives it all records or leaves it alone. -/
theorem passes_composeInflight (hosts : store.Hosts places file.names)
    (stands : Stands store.client marker past file start)
    (small : (due marker past file).length < Nat.pow 2 64) :
    Passes
      (fun moment _ =>
        Syncs places store.client file.names (held past file) start moment.store ∧
        moment.route ∈ syncRoutes store.client file)
      (fun history => history.store = start) (file.composeInflight store)
      fun result history =>
        Syncs places store.client file.names (held past file) start history.store ∧
        result.2.names = file.names ∧ result.2.publishAttempted = false ∧
        ∀ object, result.1 = .ok object →
          Stands store.client marker (past ++ runs file.buffer.records) result.2 history.store ∧
          result.2.buffer = file.buffer.clear := by
  obtain ⟨old, knows⟩ := stands.inflight
  have untouched : ∀ {now}, Elsewhere places [store.client.place file.names.part] start now →
      Syncs places store.client file.names (held past file) start now := by
    intro now elsewhere
    exact ⟨elsewhere.widen (by simp), .inl (hosts.untouched [file.names.part] elsewhere
      file.names.inflight_mem_all (by simpa using hosts.inflight_ne_part))⟩
  have uploading : [.upload store.client.bucket (some file.names.part.text), .unknown] ⊆
      syncRoutes store.client file := by simp [syncRoutes]
  have upload := passes_uploadPart hosts stands.encoder stands.fits knows small
  rw [composeInflight]
  refine .bind (upload.mono ?_ (fun _ holds => holds) fun _ _ holds => holds) ?_
  · intro moment _ asked
    exact ⟨untouched asked.1, uploading asked.2⟩
  rintro ⟨result, after⟩
  cases result with
  | error cause =>
      refine .pure fun history holds => ⟨untouched holds.1, holds.2.1.names, ?_, ?_⟩
      · exact holds.2.1.attempted.trans stands.unattempted
      · intro object none
        cases none
  | ok batch =>
      refine .each fun history holds => ?_
      obtain ⟨elsewhere, continues, prepared⟩ := holds
      have ready := prepared batch rfl
      have unattempted := continues.attempted.trans stands.unattempted
      have decodes : Decodes (due marker past file) (held past file) := decodes_due marker ready.fits
      have replacement := RemoteStore.passes_replacement hosts.lent
        [store.client.place file.names.part, store.client.place file.names.inflight] start
        (hosts.own _ file.names.inflight_mem_all) (by simp) (ready.own hosts)
        ((written_append marker past (runs file.buffer.records)).trans (by rw [← knows.data]))
      rw [← due] at replacement
      dsimp only at continues ready unattempted ⊢
      rw [continues.names, continues.generation, knows.generation, ready.size, ← due]
      refine .bind (replacement.mono ?_ ?_ fun _ _ holds => holds) ?_
      · intro moment _ asked
        refine ⟨syncs_of_replacing decodes knows.stored asked.1, ?_⟩
        rw [syncRoutes, knows.generation]
        exact List.mem_cons_of_mem _ asked.2
      · rintro now rfl
        exact ready.replacing hosts knows elsewhere
      intro result
      cases result with
      | error cause =>
          refine .pure fun history holds =>
            ⟨syncs_of_replacing decodes knows.stored holds.1, continues.names, unattempted, ?_⟩
          intro object none
          cases none
      | ok answer =>
          refine .pure fun history holds =>
            ⟨syncs_of_replacing decodes knows.stored holds.1, continues.names, unattempted, ?_⟩
          rintro object ⟨⟩
          obtain ⟨new, inPlace, whole, rfl⟩ := holds.2 answer rfl
          have isOpen := continues.state.trans stands.isOpen
          refine ⟨⟨isOpen, unattempted, ready.encoder, ready.fits, new, ?_⟩, ready.cleared⟩
          exact ready.knows small inPlace whole (holds.1.older new inPlace) rfl rfl
            (by rw [ready.size]; rfl)

/-- A sync gives the inflight object all records or leaves it alone. Where it succeeds, the file
stands at the due stream; where it fails, the file is given up. -/
theorem passes_sync (hosts : store.Hosts places file.names)
    (stands : Stands store.client marker past file start)
    (small : (due marker past file).length < Nat.pow 2 64) :
    Passes
      (fun moment _ =>
        Syncs places store.client file.names (held past file) start moment.store ∧
        moment.route ∈ syncRoutes store.client file)
      (fun history => history.store = start) (file.sync store)
      fun result history =>
        Syncs places store.client file.names (held past file) start history.store ∧
        result.2.names = file.names ∧
        (result.1 = .ok () →
          Stands store.client marker (past ++ runs file.buffer.records) result.2 history.store ∧
          result.2.buffer = file.buffer.clear) ∧
        (∀ cause, result.1 = .error cause →
          result.2.state = .failed ∧ result.2.publishAttempted = false) := by
  rw [sync, if_neg (by simp [stands.isOpen])]
  refine .bind (passes_composeInflight hosts stands small) ?_
  rintro ⟨result, after⟩
  cases result with
  | error cause =>
      refine .pure fun history holds => ⟨holds.1, holds.2.1, ?_, ?_⟩
      · intro none
        cases none
      · intro other same
        exact ⟨rfl, holds.2.2.1⟩
  | ok object =>
      refine .pure fun history holds => ⟨holds.1, holds.2.1, ?_, ?_⟩
      · intro _
        obtain ⟨stands, cleared⟩ := holds.2.2.2 object rfl
        obtain ⟨isOpen, unattempted, encoder, fits, inflight, knows⟩ := stands
        exact ⟨⟨isOpen, unattempted, encoder, fits, inflight, knows.1, knows.2, knows.3, knows.4, knows.5⟩,
          cleared⟩
      · intro cause none
        cases none

/-! ## Removing -/

/-- What a removal of objects may have done: each of them is in place, or it is gone and the store was
asked to delete it. -/
structure Removes (places : List Place) (client : Client (Ordeal τ)) (names : List ObjectName)
    (start : Emulator) (history : History) : Prop where
  elsewhere : Elsewhere places (names.map client.place) start history.store
  removed : ∀ name ∈ names,
    history.store.objects.get? (client.place name) = start.objects.get? (client.place name) ∨
      history.store.objects.get? (client.place name) = none ∧
        ∃ moment ∈ history.moments, moment.route = .delete client.bucket name.text

theorem Removes.survives {client : Client (Ordeal τ)} {names : List ObjectName}
    (own : ∀ name ∈ names, client.place name ∈ places) :
    Survives places (Removes places client names start) := by
  intro history moment removes kept
  refine ⟨removes.elsewhere.keeps kept, ?_⟩
  intro name inside
  have same := kept.objects _ (own name inside)
  rcases removes.removed name inside with old | ⟨gone, moment, passed, route⟩
  · exact .inl (same.trans old)
  · exact .inr ⟨same.trans gone, moment, List.mem_cons_of_mem _ passed, route⟩

/-- A removal of objects touches nothing else, and nothing is gone that it has not asked for. -/
theorem passes_removeAll (lent : store.IsLent places) (start : Emulator) {names : List ObjectName}
    (own : ∀ name ∈ names, store.client.place name ∈ places) (left : List ObjectName)
    (within : ∀ name ∈ left, name ∈ names) :
    Passes
      (fun moment past =>
        Removes places store.client names start { store := moment.store, moments := moment :: past } ∧
        (moment.route = .unknown ∨
          ∃ name ∈ names, moment.route = .delete store.client.bucket name.text))
      (Removes places store.client names start) (removeAll store left)
      fun _ history => Removes places store.client names start history := by
  induction left with
  | nil => exact .pure fun _ holds => holds
  | cons name rest ih =>
      have inside := within name (by simp)
      have delete : Passes
          (Asking (Removes places store.client names start)
            [.delete store.client.bucket name.text, .unknown])
          (Removes places store.client names start) (store.deleteIfExists name)
          (Settled (Removes places store.client names start) fun _ _ => True) := by
        apply RemoteStore.passes_deleteIfExists lent (.survives own)
        intro history moment removes route sets
        refine ⟨removes.elsewhere.sets sets (List.mem_map_of_mem inside), ?_⟩
        intro other otherInside
        by_cases same : other = name
        · rw [same]
          exact .inr ⟨sets.object, moment, by simp [History.next], route⟩
        · have apart : store.client.place other ≠ store.client.place name :=
            fun equal => same (Client.place_injective equal)
          have untouched := sets.others _ (own other otherInside) apart
          rcases removes.removed other otherInside with old | ⟨gone, asked, passed, itsRoute⟩
          · exact .inl (untouched.trans old)
          · exact .inr ⟨untouched.trans gone, asked, List.mem_cons_of_mem _ passed, itsRoute⟩
      rw [removeAll]
      refine .bind (delete.mono ?_ (fun _ holds => holds) fun _ _ holds => holds.1) ?_
      · intro moment past asked
        refine ⟨asked.1, ?_⟩
        have route := asked.2
        simp only [List.mem_cons, List.not_mem_nil, or_false] at route
        rcases route with deleted | unknown
        · exact .inr ⟨name, inside, deleted⟩
        · exact .inl unknown
      intro outcome
      refine .bind (ih fun other more => within other (by simp [more])) ?_
      intro failures
      cases outcome with
      | ok _ => exact .pure fun _ holds => holds
      | error _ => exact .pure fun _ holds => holds

/-- The objects that a file needs no longer are its own. -/
theorem mem_all_of_transient {name : ObjectName} (inside : name ∈ file.transientNames) :
    name = file.names.inflight ∨ name = file.names.part := by
  rw [transientNames, List.mem_append, List.mem_singleton] at inside
  rcases inside with part | inflight
  · split at part
    · exact .inr (List.mem_singleton.mp part)
    · cases part
  · exact .inl inflight

theorem mem_all_of_possible {name : ObjectName} (inside : name ∈ file.possibleNames) :
    name ∈ file.names.all := by
  rw [possibleNames, List.mem_append] at inside
  rcases inside with transient | publish
  · rcases mem_all_of_transient transient with rfl | rfl <;> simp [FileNames.all]
  · split at publish
    · simp [FileNames.all, List.mem_singleton.mp publish]
    · cases publish

theorem publish_not_mem_transientNames {names : FileNames} (hosts : store.Hosts places names)
    (named : file.names = names) : names.publish ∉ file.transientNames := by
  intro inside
  rcases mem_all_of_transient inside with same | same
  · exact hosts.inflight_ne_publish (same.trans (by rw [named])).symm
  · exact hosts.part_ne_publish (same.trans (by rw [named])).symm

/-- A discard touches only the objects that the file may have left. -/
theorem passes_discard (hosts : store.Hosts places file.names)
    (permitted : file.state = .open ∨ file.state = .failed) :
    Passes
      (fun moment past =>
        Removes places store.client file.possibleNames start
          { store := moment.store, moments := moment :: past } ∧
        (moment.route = .unknown ∨
          ∃ name ∈ file.possibleNames, moment.route = .delete store.client.bucket name.text))
      (fun history => history.store = start) (file.discard store)
      fun result history =>
        Removes places store.client file.possibleNames start history ∧
        (∃ left, result.1 = .ok left) ∧ result.2.names = file.names ∧
        result.2.state = .discarded ∧ result.2.publishAttempted = file.publishAttempted := by
  have own : ∀ name ∈ file.possibleNames, store.client.place name ∈ places :=
    fun name inside => hosts.own name (mem_all_of_possible inside)
  rw [discard, if_neg (by rcases permitted with same | same <;> simp [same])]
  refine .bind ((passes_removeAll hosts.lent start own file.possibleNames fun _ inside => inside).mono
    (fun _ _ holds => holds) ?_ fun _ _ holds => holds) ?_
  · rintro history rfl
    exact ⟨.refl _, fun _ _ => .inl rfl⟩
  · intro failures
    exact .pure fun _ holds => ⟨holds, ⟨_, rfl⟩, rfl, rfl, rfl⟩

/-! ## Publishing -/

/-- What a publish may have done: the publish object is the old one or it has all records, and the
inflight object is in place unless the store was asked to delete it. -/
structure Publishes (places : List Place) (client : Client (Ordeal τ)) (names : FileNames)
    (records : List Bytes) (start : Emulator) (history : History) : Prop where
  elsewhere : Elsewhere places (names.all.map client.place) start history.store
  publish : Becomes (client.place names.publish) records start history.store
  inflight : history.store.objects.get? (client.place names.inflight) =
      start.objects.get? (client.place names.inflight) ∨
    ∃ moment ∈ history.moments, moment.route = .delete client.bucket names.inflight.text

/-- What a publish asks the store for. -/
def publishRoutes (client : Client (Ordeal τ)) (names : FileNames) : List Route :=
  [.upload client.bucket (some names.part.text),
    .compose client.bucket names.publish.text (client.asked none),
    .delete client.bucket names.part.text, .delete client.bucket names.inflight.text, .unknown]

/-- What composing into the publish object may have done. -/
structure Composes (places : List Place) (client : Client (Ordeal τ)) (names : FileNames)
    (records : List Bytes) (start now : Emulator) : Prop where
  elsewhere : Elsewhere places [client.place names.part, client.place names.publish] start now
  publish : Becomes (client.place names.publish) records start now

/-- Composing is part of a publish. -/
theorem Composes.publishes (hosts : store.Hosts places file.names) {records : List Bytes}
    {history : History}
    (composes : Composes places store.client file.names records start history.store) :
    Publishes places store.client file.names records start history := by
  refine ⟨composes.elsewhere.widen (by simp [FileNames.all]), composes.publish, .inl ?_⟩
  refine hosts.untouched [file.names.part, file.names.publish] composes.elsewhere
    file.names.inflight_mem_all ?_
  simp [hosts.inflight_ne_part, hosts.inflight_ne_publish]

/-- While a compose into the publish object is under way, its sources stay as they are. -/
def Composing (places : List Place) (client : Client (Ordeal τ)) (names : FileNames)
    (sources : List ObjectName) (data : Bytes) (records : List Bytes) (start : Emulator)
    (history : History) : Prop :=
  Composes places client names records start history.store ∧
    Gathers (sources.map client.place) data history.store

/-- A compose into the publish object gives it what its sources hold or leaves it alone. -/
theorem passes_composing (hosts : store.Hosts places file.names) {sources : List ObjectName}
    (working : ∀ source ∈ sources, source = file.names.inflight ∨ source = file.names.part)
    {data : Bytes} {records : List Bytes} (decodes : Decodes data records) :
    Passes
      (Asking (Composing places store.client file.names sources data records start)
        [.compose store.client.bucket file.names.publish.text (store.client.asked none), .unknown])
      (Composing places store.client file.names sources data records start)
      (store.compose file.names.publish sources)
      (Settled (Composing places store.client file.names sources data records start)
        fun _ history => ∃ object,
          history.store.objects.get? (store.client.place file.names.publish) = some object ∧
            object.data = data) := by
  have own := hosts.own _ file.names.publish_mem_all
  have ownSources : ∀ source ∈ sources, store.client.place source ∈ places := by
    intro source inside
    rcases working source inside with rfl | rfl
    · exact hosts.own _ file.names.inflight_mem_all
    · exact hosts.own _ file.names.part_mem_all
  have apart : store.client.place file.names.publish ∉ sources.map store.client.place := by
    apply Client.place_not_mem
    intro inside
    rcases working _ inside with same | same
    · exact hosts.inflight_ne_publish same.symm
    · exact hosts.part_ne_publish same.symm
  refine RemoteStore.passes_compose hosts.lent own ownSources ?quiet ?composed
  case quiet =>
    intro history moment composing kept
    refine ⟨⟨composing.1.elsewhere.keeps kept, ?_⟩, composing.2.keeps kept (by simpa using ownSources)⟩
    rw [Becomes, Holds, History.next, kept.objects _ own]
    exact composing.1.publish
  case composed =>
    intro history moment object pieces composing gathered whole sets
    obtain ⟨pieces', gathered', whole'⟩ := composing.2
    cases gathered.symm.trans gathered'
    have due : object.data = data := whole.trans whole'
    have holds : Holds (store.client.place file.names.publish) records (history.next moment).store := by
      refine ⟨object, sets.object, ?_⟩
      rw [due]
      exact decodes
    refine ⟨⟨⟨composing.1.elsewhere.sets sets (by simp), .inr holds⟩, ?_⟩, object, sets.object, due⟩
    exact composing.2.sets sets (by simpa using ownSources) apart

/-- Composing into the publish object gives it all records or leaves it alone. -/
theorem passes_composePublish (hosts : store.Hosts places file.names)
    (ready : HasWritten marker past file.encoder) (fits : ∀ run ∈ past, Fits run)
    {object : StoredObject} (knows : Knows store.client marker past file start object)
    (small : (due marker past file).length < Nat.pow 2 64) :
    Passes
      (fun moment _ =>
        Composes places store.client file.names (held past file) start moment.store ∧
        moment.route ∈ publishRoutes store.client file.names)
      (fun history => history.store = start) (file.composePublish store)
      fun result history =>
        Composes places store.client file.names (held past file) start history.store ∧
        result.2.names = file.names ∧ result.2.publishAttempted = file.publishAttempted ∧
        ∀ answer, result.1 = .ok answer → ∃ object,
          history.store.objects.get? (store.client.place file.names.publish) = some object ∧
            object.data = due marker past file ∧ Decodes object.data (held past file) := by
  have untouched : ∀ {now}, Elsewhere places [store.client.place file.names.part] start now →
      Composes places store.client file.names (held past file) start now := by
    intro now elsewhere
    exact ⟨elsewhere.widen (by simp), .inl (hosts.untouched [file.names.part] elsewhere
      file.names.publish_mem_all (by simpa using hosts.part_ne_publish.symm))⟩
  have uploading : [.upload store.client.bucket (some file.names.part.text), .unknown] ⊆
      publishRoutes store.client file.names := by simp [publishRoutes]
  have composing : [.compose store.client.bucket file.names.publish.text (store.client.asked none),
      .unknown] ⊆ publishRoutes store.client file.names := by simp [publishRoutes]
  rw [composePublish]
  refine .bind ((passes_uploadPart hosts ready fits knows small).mono ?_ (fun _ holds => holds)
    fun _ _ holds => holds) ?_
  · intro moment _ asked
    exact ⟨untouched asked.1, uploading asked.2⟩
  rintro ⟨result, after⟩
  cases result with
  | error cause =>
      refine .pure fun history holds =>
        ⟨untouched holds.1, holds.2.1.names, holds.2.1.attempted, ?_⟩
      intro answer none
      cases none
  | ok batch =>
      refine .each fun history holds => ?_
      obtain ⟨elsewhere, continues, prepared⟩ := holds
      have ready := prepared batch rfl
      have decodes : Decodes (due marker past file) (held past file) := decodes_due marker ready.fits
      have compose : Passes _ (Composing places store.client file.names batch.sources
          (due marker past file) (held past file) start) _ _ :=
        passes_composing hosts (fun _ inside => ready.mem_sources inside) decodes
      dsimp only at continues ready ⊢
      rw [continues.names]
      refine .bind (compose.mono ?_ ?_ fun _ _ holds => holds) ?_
      · intro moment _ asked
        exact ⟨asked.1.1, composing asked.2⟩
      · rintro now rfl
        exact ⟨untouched elsewhere, ready.gathers⟩
      intro answer
      cases answer with
      | error cause =>
          refine .pure fun history holds => ⟨holds.1.1, continues.names, continues.attempted, ?_⟩
          intro answer none
          cases none
      | ok answer =>
          refine .pure fun history holds => ⟨holds.1.1, continues.names, continues.attempted, ?_⟩
          intro other _
          obtain ⟨object, stored, data⟩ := holds.2 answer rfl
          exact ⟨object, stored, data, by rw [data]; exact decodes⟩

/-- Removing what is no longer needed is part of a publish, and leaves the publish object alone. -/
theorem Removes.publishes (hosts : store.Hosts places file.names) {records : List Bytes}
    {after : SinkFile} (named : after.names = file.names) {middle : Emulator} {history : History}
    (composes : Composes places store.client file.names records start middle)
    (removes : Removes places store.client after.transientNames middle history) :
    Publishes places store.client file.names records start history ∧
      history.store.objects.get? (store.client.place file.names.publish) =
        middle.objects.get? (store.client.place file.names.publish) := by
  have working : ∀ name ∈ after.transientNames, name = file.names.inflight ∨ name = file.names.part := by
    intro name inside
    rw [← named]
    exact mem_all_of_transient inside
  have inflight : file.names.inflight ∈ after.transientNames := by
    rw [← named, transientNames]
    simp
  have same := hosts.untouched after.transientNames removes.elsewhere file.names.publish_mem_all
    (publish_not_mem_transientNames hosts named)
  have before : Publishes places store.client file.names records start
      { history with store := middle } :=
    Composes.publishes hosts composes
  refine ⟨⟨before.elsewhere.trans (removes.elsewhere.widen ?_), ?_, ?_⟩, same⟩
  · apply List.map_subset
    intro name inside
    rcases working name inside with rfl | rfl
    · exact file.names.inflight_mem_all
    · exact file.names.part_mem_all
  · rw [Becomes, Holds, same]
    exact composes.publish
  · rcases removes.removed _ inflight with kept | ⟨-, asked⟩
    · rw [kept]
      exact before.inflight
    · exact .inr asked

/-- A publish gives the publish object all records or leaves it alone. Where it succeeds, the records
are in place; where it fails, the file is given up. -/
theorem passes_publish (hosts : store.Hosts places file.names)
    (stands : Stands store.client marker past file start)
    (small : (due marker past file).length < Nat.pow 2 64) :
    Passes
      (fun moment past' =>
        Publishes places store.client file.names (held past file) start
          { store := moment.store, moments := moment :: past' } ∧
        moment.route ∈ publishRoutes store.client file.names)
      (fun history => history.store = start) (file.publish store)
      fun result history =>
        Publishes places store.client file.names (held past file) start history ∧
        result.2.names = file.names ∧ result.2.publishAttempted = true ∧
        (∀ publication, result.1 = .ok publication → result.2.state = .published ∧
          Holds (store.client.place file.names.publish) (held past file) history.store) ∧
        ∀ cause, result.1 = .error cause → result.2.state = .failed := by
  obtain ⟨object, knows⟩ := stands.inflight
  have known : Knows store.client marker past { file with publishAttempted := true } start object :=
    ⟨knows.stored, knows.data, knows.older, knows.generation, knows.size⟩
  have compose : Passes _ _ (composePublish store { file with publishAttempted := true }) _ :=
    passes_composePublish hosts stands.encoder stands.fits known small
  rw [publish, if_neg (by simp [stands.isOpen])]
  refine .bind (compose.mono ?_ (fun _ holds => holds) fun _ _ holds => holds) ?_
  · intro moment past' holds
    exact ⟨Composes.publishes hosts holds.1, holds.2⟩
  rintro ⟨result, after⟩
  cases result with
  | error cause =>
      refine .pure fun history holds =>
        ⟨Composes.publishes hosts holds.1, holds.2.1, holds.2.2.1, ?_, fun _ _ => rfl⟩
      intro publication none
      cases none
  | ok answer =>
      refine .each fun history holds => ?_
      obtain ⟨composes, named, attempted, published⟩ := holds
      have own : ∀ name ∈ after.transientNames, store.client.place name ∈ places := by
        intro name inside
        apply hosts.own
        rcases mem_all_of_transient inside with rfl | rfl
        · rw [named]
          exact file.names.inflight_mem_all
        · rw [named]
          exact file.names.part_mem_all
      have removal := passes_removeAll hosts.lent history.store own after.transientNames
        fun _ inside => inside
      dsimp only at named attempted ⊢
      refine .bind (removal.mono ?_ ?_ fun _ _ holds => holds) ?_
      · intro moment past' holds
        refine ⟨(Removes.publishes hosts named composes holds.1).1, ?_⟩
        rcases holds.2 with unknown | ⟨name, inside, deleted⟩
        · simp [publishRoutes, unknown]
        · rcases mem_all_of_transient inside with same | same
          · simp [publishRoutes, deleted, same, named]
          · simp [publishRoutes, deleted, same, named]
      · rintro now rfl
        exact ⟨.refl _, fun _ _ => .inl rfl⟩
      intro failures
      refine .pure fun now removes => ?_
      obtain ⟨publishes, same⟩ := Removes.publishes hosts named composes removes
      refine ⟨publishes, named, attempted, ?_, ?_⟩
      · intro publication _
        refine ⟨rfl, ?_⟩
        rw [Holds, same]
        obtain ⟨object, stored, -, decodes⟩ := published answer rfl
        exact ⟨object, stored, decodes⟩
      · intro cause none
        cases none

/-! ## Opening -/

/-- What a creation asks the store for. -/
def createRoutes (client : Client (Ordeal τ)) (names : FileNames) : List Route :=
  [.upload client.bucket (some names.inflight.text), .delete client.bucket names.inflight.text, .unknown]

/-- Creating a file touches only its inflight object. Where the file is created, the object is the
header, and no removal was asked for. -/
theorem passes_create {names : FileNames} (hosts : store.Hosts places names) (name : String)
    (capacity : Nat) (marker : Marker) {before : History} :
    Passes
      (fun moment _ =>
        Elsewhere places [store.client.place names.inflight] before.store moment.store ∧
        moment.route ∈ createRoutes store.client names)
      (fun history => history = before) (create store name names capacity marker)
      fun result history =>
        Elsewhere places [store.client.place names.inflight] before.store history.store ∧
        ∀ file, result = .ok file →
          Stands store.client marker [] file history.store ∧ file.names = names ∧
          file.buffer = .empty capacity ∧
          Through (fun moment _ =>
            moment.route ∈ [.upload store.client.bucket (some names.inflight.text), .unknown])
            before.moments history.moments := by
  obtain ⟨encoder, encoded, ready⟩ := encodeHeader_eq marker
  have inside : store.client.place names.inflight ∈ [store.client.place names.inflight] :=
    List.mem_singleton_self _
  have uploading : [.upload store.client.bucket (some names.inflight.text), .unknown] ⊆
      createRoutes store.client names := by simp [createRoutes]
  have deleting : [.delete store.client.bucket names.inflight.text, .unknown] ⊆
      createRoutes store.client names := by simp [createRoutes]
  have upload : Passes _ _ (store.upload names.inflight (written marker [])) _ :=
    RemoteStore.passes_upload hosts.lent
    (I := fun history => Elsewhere places [store.client.place names.inflight] before.store history.store)
    (Q := fun answer history => ∃ object,
      history.store.objects.get? (store.client.place names.inflight) = some object ∧
        object.data = written marker [] ∧ object.generation < history.store.nextGeneration ∧
        answer = object.metadata (store.client.place names.inflight))
    (fun _ _ elsewhere kept => elsewhere.keeps kept)
    (fun _ _ object elsewhere data sets =>
      ⟨elsewhere.sets sets inside, object, sets.object, data, (sets.fresh object rfl).2, rfl⟩)
  have begun := upload.mono (fun _ _ asked => asked)
    (fun now (same : now = before) => by rw [same]; exact .refl before.store) fun _ _ holds => holds
  rw [create, encoded]
  refine .bind (begun.remember.mono ?_ (fun _ holds => holds) fun _ _ holds => holds) ?_
  · intro moment _ asked
    exact ⟨asked.1, uploading asked.2⟩
  intro result
  cases result with
  | ok answer =>
      refine .pure fun history holds => ⟨holds.1.1, ?_⟩
      rintro file ⟨⟩
      obtain ⟨object, stored, data, older, rfl⟩ := holds.1.2 answer rfl
      have size : object.data.length = headerSize := by
        rw [data, length_written]
        rfl
      refine ⟨⟨rfl, rfl, ready, fun _ none => (nomatch none), object, stored, data, older, rfl, ?_⟩,
        rfl, rfl, holds.2.mono fun _ _ asked => asked.2⟩
      dsimp only [opened]
      rw [StoredObject.sizeBytes?_metadata _ (by rw [size]; decide)]
      rfl
  | error cause =>
      have delete : Passes _ _ (store.deleteIfExists names.inflight) _ :=
        RemoteStore.passes_deleteIfExists hosts.lent
        (I := fun history =>
          Elsewhere places [store.client.place names.inflight] before.store history.store)
        (fun _ _ elsewhere kept => elsewhere.keeps kept)
        fun _ _ elsewhere _ sets => elsewhere.sets sets inside
      refine .bind (delete.mono ?_ (fun _ holds => holds.1.1) fun _ _ holds => holds) ?_
      · intro moment _ asked
        exact ⟨asked.1, deleting asked.2⟩
      intro outcome
      refine .pure fun history holds => ⟨holds.1, ?_⟩
      intro file none
      cases none

end RecordSink.SinkFile
