import RecordSink.Proofs.Ordeal.Errands
import RecordSink.Proofs.SinkFile.Hosting

/-!
# Footprints of a file

What a file asks of the store to upload and compose its records, and which objects that may change, whatever
the schedule answers: no object but those that the file counts among its possible ones afterwards.
-/

namespace RecordSink

open Emulator Ordeal

variable {τ : Type} {places : List Place} {schedule : Schedule}

/-- A store on trial that leaves the three objects of a file to it, and answers as the schedule says. The
objects lie apart. -/
structure RemoteStore.Houses (places : List Place) (schedule : Schedule) (store : RemoteStore (Ordeal τ))
    (names : FileNames) : Prop where
  exposed : store.IsExposed places schedule
  own : ∀ name ∈ names.all, store.client.place name ∈ places
  inflight_ne_part : names.inflight ≠ names.part
  inflight_ne_publish : names.inflight ≠ names.publish
  part_ne_publish : names.part ≠ names.publish

theorem RemoteStore.Houses.hosts {store : RemoteStore (Ordeal τ)} {names : FileNames}
    (houses : store.Houses places schedule names) : store.Hosts places names :=
  ⟨houses.exposed.lent, houses.own, houses.inflight_ne_part, houses.inflight_ne_publish,
    houses.part_ne_publish⟩

/-- A name has an object in a store. -/
def Client.Present {W : Type} (client : Client W) (store : Emulator) (name : ObjectName) : Bool :=
  (store.objects.get? (client.place name)).isSome

namespace SinkFile

variable {store : RemoteStore (Ordeal τ)} {client : Client (Ordeal τ)} {file after final : SinkFile}
  {start middle now : Emulator} {name : ObjectName}

/-! ## Possible objects -/

theorem mem_transientNames : name ∈ file.transientNames ↔
    name = file.names.inflight ∨ file.partWritten = true ∧ name = file.names.part := by
  rw [transientNames]
  cases file.partWritten <;> simp [or_comm]

theorem mem_possibleNames : name ∈ file.possibleNames ↔
    name = file.names.inflight ∨ file.partWritten = true ∧ name = file.names.part ∨
      file.publishAttempted = true ∧ name = file.names.publish := by
  rw [possibleNames, List.mem_append, mem_transientNames, or_assoc]
  cases file.publishAttempted <;> simp

/-- A file accounts for its objects: those that are there are among its possible ones. -/
def Accounts (client : Client (Ordeal τ)) (file : SinkFile) (store : Emulator) : Prop :=
  ∀ name ∈ file.names.all, client.Present store name = true → name ∈ file.possibleNames

/-- Between two moments a file has changed no objects but those that it counts among its possible ones
afterwards, and it has forgotten none of them. -/
structure Advances (places : List Place) (client : Client (Ordeal τ)) (file : SinkFile) (start : Emulator)
    (after : SinkFile) (now : Emulator) : Prop where
  names : after.names = file.names
  wider : file.possibleNames ⊆ after.possibleNames
  elsewhere : Elsewhere places (after.possibleNames.map client.place) start now

theorem Advances.refl (file : SinkFile) (start : Emulator) : Advances places client file start file start :=
  ⟨rfl, fun _ inside => inside, .refl start⟩

theorem Advances.trans (first : Advances places client file start after middle)
    (second : Advances places client after middle final now) :
    Advances places client file start final now :=
  ⟨second.names.trans first.names, fun _ inside => second.wider (first.wider inside),
    (first.elsewhere.widen (List.map_subset _ second.wider)).trans second.elsewhere⟩

/-- A file advances where its flags stand for what it has changed. -/
theorem Advances.of_flags (names : after.names = file.names)
    (part : file.partWritten = true → after.partWritten = true)
    (publish : file.publishAttempted = true → after.publishAttempted = true)
    (elsewhere : Elsewhere places (after.possibleNames.map client.place) start now) :
    Advances places client file start after now := by
  refine ⟨names, ?_, elsewhere⟩
  intro name inside
  rw [mem_possibleNames] at inside ⊢
  rw [names]
  rcases inside with inflight | ⟨written, same⟩ | ⟨attempted, same⟩
  · exact .inl inflight
  · exact .inr (.inl ⟨part written, same⟩)
  · exact .inr (.inr ⟨publish attempted, same⟩)

theorem Advances.survives : Survives places fun history =>
    Advances places client file start after history.store :=
  fun _ _ advances kept => ⟨advances.names, advances.wider, advances.elsewhere.keeps kept⟩

/-- A possible object of a file may change. -/
theorem Advances.bears {errand : Errand} (inside : errand.target ∈ after.possibleNames) :
    client.Bears places errand fun history => Advances places client file start after history.store :=
  fun _ _ _ advances _ sets _ =>
    ⟨advances.names, advances.wider, advances.elsewhere.sets sets (List.mem_map_of_mem inside)⟩

/-- A file that advances goes on accounting for its objects. -/
theorem Accounts.advance (accounts : Accounts client file start)
    (own : ∀ name ∈ file.names.all, client.place name ∈ places)
    (advances : Advances places client file start after now) : Accounts client after now := by
  intro name inside present
  rw [advances.names] at inside
  by_cases counted : name ∈ after.possibleNames
  · exact counted
  · have same := advances.elsewhere.objects _ (own name inside) (Client.place_not_mem counted)
    rw [Client.Present, same] at present
    exact advances.wider (accounts name inside present)

/-! ## Uploading and composing -/

/-- The upload of the waiting records changes no object but the part. -/
theorem passes_uploadPart_exposed (houses : store.Houses places schedule file.names) :
    Passes (fun moment _ => Errand.Among store.client [.upload file.names.part] moment)
      (fun history => history.store = start) (file.uploadPart store)
      fun result history =>
        Advances places store.client file start result.2 history.store ∧
        Elsewhere places [store.client.place file.names.part] start history.store ∧
        Continues file result.2 := by
  rw [uploadPart]
  split
  · refine .pure ?_
    rintro history rfl
    exact ⟨.refl _ _, .refl _, .refl file⟩
  split
  · refine .pure ?_
    rintro history rfl
    exact ⟨⟨rfl, fun _ inside => inside, .refl _⟩, .refl _, ⟨rfl, rfl, rfl, rfl, rfl⟩⟩
  next body encoder encoded =>
    have upload : Passes _ _ (store.upload file.names.part body) _ :=
      houses.exposed.passes_upload
        (I := fun history => Elsewhere places [store.client.place file.names.part] start history.store)
        (fun _ _ elsewhere kept => elsewhere.keeps kept)
        (fun _ _ _ elsewhere _ sets _ => elsewhere.sets sets (List.mem_singleton_self _))
    refine .bind (upload.mono (fun _ _ sent => ⟨_, List.mem_singleton_self _, sent⟩) ?_
      fun _ _ holds => holds) ?_
    · rintro history rfl
      exact .refl history.store
    intro result
    have advances : ∀ {after : SinkFile} {now : Emulator}, after.names = file.names →
        after.partWritten = true → after.publishAttempted = file.publishAttempted →
        Elsewhere places [store.client.place file.names.part] start now →
        Advances places store.client file start after now := by
      intro after now names written attempted elsewhere
      have counted : file.names.part ∈ after.possibleNames :=
        mem_possibleNames.mpr (.inr (.inl ⟨written, by rw [names]⟩))
      exact .of_flags names (fun _ => written) (fun tried => attempted.trans tried)
        (elsewhere.widen (List.cons_subset.mpr ⟨List.mem_map_of_mem counted, List.nil_subset _⟩))
    cases result with
    | error cause =>
        exact .pure fun history holds =>
          ⟨advances rfl rfl rfl holds.1, holds.1, ⟨rfl, rfl, rfl, rfl, rfl⟩⟩
    | ok metadata =>
        exact .pure fun history holds =>
          ⟨advances rfl rfl rfl holds.1, holds.1, ⟨rfl, rfl, rfl, rfl, rfl⟩⟩

/-- What a sync asks of the store. -/
def syncErrands (file : SinkFile) : List Errand :=
  [.upload file.names.part, .compose file.names.inflight file.generation, .look file.names.inflight]

theorem passes_composeInflight_exposed (houses : store.Houses places schedule file.names) :
    Passes (fun moment _ => Errand.Among store.client file.syncErrands moment)
      (fun history => history.store = start) (file.composeInflight store)
      fun result history => Advances places store.client file start result.2 history.store := by
  rw [composeInflight]
  refine .bind ((passes_uploadPart_exposed houses).mono (fun _ _ sent => sent.mono (by simp [syncErrands]))
    (fun _ begins => begins) fun _ _ holds => holds) ?_
  rintro ⟨result, loaded⟩
  cases result with
  | error cause => exact .pure fun _ holds => holds.1
  | ok batch =>
      refine .each ?_
      rintro middle ⟨advances, -, continues⟩
      have inside : loaded.names.inflight ∈ loaded.possibleNames := mem_possibleNames.mpr (.inl rfl)
      have compose : Passes _ _
          (store.composeReplacing loaded.names.inflight batch.sources loaded.generation batch.size) _ :=
        houses.exposed.passes_composeReplacing
          (I := fun history => Advances places store.client file start loaded history.store)
          Advances.survives (Advances.bears inside)
      rw [continues.names, continues.generation] at compose
      dsimp only
      rw [continues.names, continues.generation]
      refine .bind (compose.mono (fun _ _ sent => sent.mono (by simp [syncErrands])) ?_
        fun _ _ holds => holds.1) ?_
      · rintro history rfl
        exact advances
      · intro outcome
        cases outcome with
        | error cause => exact .pure fun _ holds => holds
        | ok object => exact .pure fun _ holds => ⟨holds.names, holds.wider, holds.elsewhere⟩

/-- A sync changes no objects but the part and the inflight object. -/
theorem passes_sync_exposed (houses : store.Houses places schedule file.names) :
    Passes (fun moment _ => Errand.Among store.client file.syncErrands moment)
      (fun history => history.store = start) (file.sync store)
      fun result history => Advances places store.client file start result.2 history.store := by
  rw [sync]
  split
  · refine .pure ?_
    rintro history rfl
    exact .refl _ _
  refine .bind (passes_composeInflight_exposed houses) ?_
  rintro ⟨result, after⟩
  cases result with
  | error cause => exact .pure fun _ holds => ⟨holds.names, holds.wider, holds.elsewhere⟩
  | ok object => exact .pure fun _ holds => ⟨holds.names, holds.wider, holds.elsewhere⟩

/-- What a publish asks of the store before its object is there. -/
def publishErrands (names : FileNames) : List Errand := [.upload names.part, .compose names.publish none]

/-- What the compose of a publish leads to: no objects have changed but possible ones, and the publish object
is the old one unless the store was asked to compose it. -/
structure Leads (places : List Place) (client : Client (Ordeal τ)) (file : SinkFile) (start : Emulator)
    (after : SinkFile) (history : History) : Prop where
  advances : Advances places client file start after history.store
  publish : (Errand.compose file.names.publish none).Sent client history.moments ∨
    history.store.objects.get? (client.place file.names.publish) =
      start.objects.get? (client.place file.names.publish)

theorem Leads.survives (own : client.place file.names.publish ∈ places) :
    Survives places (Leads places client file start after) := by
  intro history moment leads kept
  refine ⟨Advances.survives history moment leads.advances kept, ?_⟩
  rcases leads.publish with sent | same
  · exact .inl (sent.mono (List.suffix_cons _ _))
  · exact .inr ((kept.objects _ own).trans same)

/-- The publish object is composed once a publish is tried. -/
theorem passes_composePublish_exposed (houses : store.Houses places schedule file.names)
    (attempted : file.publishAttempted = true) :
    Passes (fun moment _ => Errand.Among store.client (publishErrands file.names) moment)
      (fun history => history.store = start) (file.composePublish store)
      fun result history =>
        Leads places store.client file start result.2 history ∧
        ∀ object, result.1 = .ok object →
          store.client.Present history.store file.names.publish = true := by
  have own := houses.own file.names.publish (by simp)
  have apart : store.client.place file.names.publish ∉ [file.names.part].map store.client.place :=
    Client.place_not_mem (by simpa using houses.part_ne_publish.symm)
  rw [composePublish]
  refine .bind ((passes_uploadPart_exposed houses).mono
    (fun _ _ sent => sent.mono (by simp [publishErrands])) (fun _ begins => begins)
    fun _ _ holds => holds) ?_
  rintro ⟨result, loaded⟩
  cases result with
  | error cause =>
      exact .pure fun _ holds => ⟨⟨holds.1, .inr (holds.2.1.objects _ own apart)⟩, by simp⟩
  | ok batch =>
      refine .each ?_
      rintro middle ⟨advances, elsewhere, continues⟩
      -- up to here only the part has changed, and from here on the compose accounts for the publish object
      have inside : file.names.publish ∈ loaded.possibleNames :=
        mem_possibleNames.mpr (.inr (.inr ⟨continues.attempted.trans attempted, by rw [continues.names]⟩))
      have compose : Passes _ _ (store.compose file.names.publish batch.sources) _ :=
        houses.exposed.passes_compose (I := Leads places store.client file start loaded)
          (Leads.survives own) fun history moment _ leads sent sets removed =>
            ⟨Advances.bears inside history moment _ leads.advances sent sets removed,
              .inl ⟨moment, List.mem_cons_self, sent⟩⟩
      dsimp only
      rw [continues.names]
      refine .bind (compose.mono (fun _ _ sent => ⟨_, by simp [publishErrands], sent⟩) ?_
        fun _ _ holds => holds) ?_
      · rintro history rfl
        exact ⟨advances, .inr (elsewhere.objects _ own apart)⟩
      · intro outcome
        cases outcome with
        | error cause => exact .pure fun _ holds => ⟨holds.1, by simp⟩
        | ok object =>
            refine .pure ?_
            rintro history ⟨⟨advances, publish⟩, present⟩
            exact ⟨⟨⟨advances.names, advances.wider, advances.elsewhere⟩, publish⟩,
              fun _ _ => present _ rfl⟩

end SinkFile

end RecordSink
