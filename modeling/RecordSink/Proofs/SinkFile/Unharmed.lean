import RecordSink.Proofs.Ordeal.Faultless
import RecordSink.Proofs.SinkFile.Frames

/-!
# Files without faults

The operations of a file none of whose requests meets a fault: its creation succeeds, and while it is open, so does
every sync and the publish, however long the file has grown. No size has to be known for it: the first attempt
of a compose asks for the generation alone.
-/

namespace RecordSink

open Emulator Ordeal RecordSink.Stream

variable {τ : Type} {schedule : Schedule} {credential : Credential} {marker : Marker}

theorem Client.Attends.grows {α : Type} {places : List Place} {client : Client (Ordeal τ)} {errands : List Errand}
    {step : StateM (Ordeal τ) α} (attends : client.Attends places errands step) : Grows step :=
  (attends (fun _ => True) (fun _ _ _ _ => trivial) fun _ _ _ _ _ _ _ _ _ => trivial).grows

/-- What a step gives in any world is known of it as well. -/
theorem Ordeal.Unharmed.yields {α : Type} {pre : History → Prop} {step : StateM (Ordeal τ) α}
    {post : α → History → Prop} {known : α → Prop} (unharmed : Unharmed schedule pre step post)
    (yields : Yields step known) :
    Unharmed schedule pre step fun value history => post value history ∧ known value :=
  ⟨unharmed.grows, fun world start faultless => ⟨unharmed.reaches world start faultless, yields world⟩⟩

namespace SinkFile

/-- A file thrives in a store: it is open and at rest, its waiting records can be encoded, and its inflight object
is there in the generation that it knows. -/
structure Thrives {W : Type} (client : Client W) (marker : Marker) (file : SinkFile) (store : Emulator) :
    Prop where
  isOpen : file.state = .open
  resting : file.AtRest marker
  encodable : file.Encodable
  apart : file.names.inflight ≠ file.names.part
  inflight : ∃ object, store.objects.get? (client.place file.names.inflight) = some object ∧
    file.generation = some (Numeral.decimal object.generation)

theorem encodable_of_isEmpty {file : SinkFile} (empty : file.buffer.records = []) : file.Encodable := by
  rw [Encodable, empty]
  exact List.forall_mem_nil _

variable {store : RemoteStore (Ordeal τ)} {file : SinkFile} {names : FileNames} {start : History}

/-! ## Creating -/

/-- A new file thrives. -/
theorem unharmed_create (alone : store.IsAlone credential schedule)
    (welcome : store.client.IsWelcome credential start.store) (apart : names.inflight ≠ names.part)
    (title : String) (capacity : Nat) (marker : Marker) :
    Unharmed schedule (fun now => now = start) (create store title names capacity marker)
      (Succeeds fun file history => store.client.IsWelcome credential history.store ∧
        file.buffer = .empty capacity ∧ file.Thrives store.client marker history.store) := by
  obtain ⟨encoder, encoded, ready⟩ := encodeHeader_eq marker
  have uploaded : Unharmed schedule (fun now => now = start) _
      (Succeeds (store.client.Delivered [] credential (store.client.place names.inflight) start.store)) :=
    alone.unharmed_upload welcome names.inflight (written marker [])
  rw [create, encoded]
  refine uploaded.proceed (fun cause => ?_) fun inflight => .pure fun history wrote => ?_
  · exact .bind ((alone.isExposed []).attends_deleteIfExists names.inflight).grows fun _ => .pure
  · obtain ⟨object, rfl, sets⟩ := wrote.object
    exact ⟨_, rfl, wrote.welcome, rfl, rfl, ⟨_, ready⟩, encodable_of_isEmpty rfl, apart,
      object, sets.object, rfl⟩

/-! ## Composing -/

/-- The waiting records are in place, so that a compose can begin, and the file thrives as before. -/
structure Composable {W : Type} (client : Client W) (credential : Credential) (marker : Marker) (file : SinkFile)
    (batch : Batch) (loaded : SinkFile) (history : History) : Prop where
  welcome : client.IsWelcome credential history.store
  thrives : loaded.Thrives client marker history.store
  cleared : loaded.buffer = file.buffer.clear
  filled : batch.sources ≠ []
  few : batch.sources.length ≤ Client.maxSources
  gathers : ∃ data, Gathers (batch.sources.map client.place) data history.store

/-- The waiting records of a file that thrives are uploaded. -/
theorem unharmed_uploadPart (alone : store.IsAlone credential schedule)
    (welcome : store.client.IsWelcome credential start.store)
    (thrives : file.Thrives store.client marker start.store) :
    Unharmed schedule (fun now => now = start) (file.uploadPart store) fun result history =>
      ∃ batch, result.1 = .ok batch ∧
        Composable store.client credential marker file batch result.2 history := by
  obtain ⟨object, stored, known⟩ := thrives.inflight
  have front : ∀ now : Emulator, now.objects.get? (store.client.place file.names.inflight) = some object →
      now.object? (store.client.place file.names.inflight) = some object.data := by
    intro now there
    rw [object?, there]
    rfl
  obtain ⟨past, ready⟩ := thrives.resting
  obtain ⟨encoder, encoded, ready⟩ := encodeRecords_of_fits ready (fits_of_mem_runs thrives.encodable)
  rw [uploadPart]
  split
  · next empty =>
      have nothing : file.buffer = file.buffer.clear := by
        rw [RecordBuffer.clear, ← List.isEmpty_iff.mp empty]
      refine .pure ?_
      rintro history rfl
      exact ⟨_, rfl, welcome, thrives, nothing, by simp, by simp [Client.maxSources],
        _, (gathers_nil _).cons (front _ stored)⟩
  · rw [encoded]
    have uploaded : Unharmed schedule (fun now => now = start)
        (store.upload file.names.part
          (blocksFrom marker past.length (summed .empty past) (runs file.buffer.records)))
        (Succeeds (store.client.Delivered [store.client.place file.names.inflight] credential
          (store.client.place file.names.part) start.store)) := alone.unharmed_upload welcome _ _
    refine uploaded.proceed (fun _ => .pure) fun answer => .pure fun history wrote => ?_
    obtain ⟨part, -, sets⟩ := wrote.object
    have still : history.store.objects.get? (store.client.place file.names.inflight) = some object := by
      rw [sets.others _ (List.mem_singleton_self _) fun same => thrives.apart (Client.place_injective same)]
      exact stored
    have back : history.store.object? (store.client.place file.names.part) = some part.data := by
      rw [object?, sets.object]
      rfl
    refine ⟨_, rfl, wrote.welcome, ?_, rfl, by simp, by simp [Client.maxSources], _,
      ((gathers_nil _).cons back).cons (front _ still)⟩
    exact ⟨thrives.isOpen, ⟨_, ready⟩, encodable_of_isEmpty rfl, thrives.apart, object, still, known⟩

/-- The waiting records of a file that thrives are composed onto its inflight object. -/
theorem unharmed_composeInflight (alone : store.IsAlone credential schedule)
    (welcome : store.client.IsWelcome credential start.store)
    (thrives : file.Thrives store.client marker start.store) :
    Unharmed schedule (fun now => now = start) (file.composeInflight store) fun result history =>
      (∃ object, result.1 = .ok object) ∧ store.client.IsWelcome credential history.store ∧
        result.2.Thrives store.client marker history.store ∧ result.2.buffer = file.buffer.clear := by
  rw [composeInflight]
  refine .bind (unharmed_uploadPart alone welcome thrives) ?_
  rintro ⟨cause | batch, loaded⟩
  · exact .pure (by rintro _ ⟨_, none, _⟩; cases none)
  -- the generation to ask for is known from the history that the upload has led to
  refine .each ?_ ?_
  · refine .bind ((alone.isExposed []).attends_composeReplacing _ _ _ _).grows fun outcome => ?_
    cases outcome <;> exact .pure
  rintro middle ⟨_, ⟨⟩, composable⟩
  obtain ⟨object, stored, known⟩ := composable.thrives.inflight
  obtain ⟨data, gathers⟩ := composable.gathers
  have met : middle.store.generationAt (store.client.place loaded.names.inflight) = object.generation := by
    rw [generationAt, stored]
  have composed : Unharmed schedule (fun now => now = middle) _
      (Succeeds (store.client.Delivered [] credential (store.client.place loaded.names.inflight) middle.store)) :=
    alone.unharmed_composeReplacing composable.welcome composable.filled composable.few gathers met batch.size
  dsimp only at known ⊢
  rw [known]
  refine composed.proceed (fun _ => .pure) fun answer => .pure fun history wrote => ?_
  obtain ⟨grown, rfl, sets⟩ := wrote.object
  refine ⟨⟨_, rfl⟩, wrote.welcome, ?_, composable.cleared⟩
  exact ⟨composable.thrives.isOpen, composable.thrives.resting, composable.thrives.encodable,
    composable.thrives.apart, grown, sets.object, rfl⟩

/-- The waiting records of a file that thrives are composed into its publish object. -/
theorem unharmed_composePublish (alone : store.IsAlone credential schedule)
    (welcome : store.client.IsWelcome credential start.store)
    (thrives : file.Thrives store.client marker start.store) :
    Unharmed schedule (fun now => now = start) (file.composePublish store) fun result history =>
      (∃ object, result.1 = .ok object) ∧ store.client.IsWelcome credential history.store := by
  rw [composePublish]
  refine .bind (unharmed_uploadPart alone welcome thrives) ?_
  rintro ⟨cause | batch, loaded⟩
  · exact .pure (by rintro _ ⟨_, none, _⟩; cases none)
  refine .each ?_ ?_
  · refine .bind ((alone.isExposed []).attends_compose _ _).grows fun outcome => ?_
    cases outcome <;> exact .pure
  rintro middle ⟨_, ⟨⟩, composable⟩
  obtain ⟨data, gathers⟩ := composable.gathers
  have composed : Unharmed schedule (fun now => now = middle) _
      (Succeeds (store.client.Delivered [] credential (store.client.place loaded.names.publish) middle.store)) :=
    alone.unharmed_compose composable.welcome composable.filled composable.few gathers
  exact composed.proceed (fun _ => .pure) fun answer => .pure fun _ wrote => ⟨⟨_, rfl⟩, wrote.welcome⟩

/-! ## Operations -/

/-- A sync of a file that thrives succeeds, and the file goes on thriving without waiting records. -/
theorem unharmed_sync (alone : store.IsAlone credential schedule)
    (welcome : store.client.IsWelcome credential start.store)
    (thrives : file.Thrives store.client marker start.store) :
    Unharmed schedule (fun now => now = start) (file.sync store) fun result history =>
      result.1 = .ok () ∧ store.client.IsWelcome credential history.store ∧
        result.2.Thrives store.client marker history.store ∧ result.2.buffer = file.buffer.clear := by
  rw [sync, if_neg (not_not_intro thrives.isOpen)]
  refine .bind (unharmed_composeInflight alone welcome thrives) ?_
  rintro ⟨cause | object, after⟩
  · exact .pure (by rintro _ ⟨⟨_, none⟩, _⟩; cases none)
  · refine .pure ?_
    rintro history ⟨-, still, thriving, cleared⟩
    exact ⟨rfl, still, ⟨thriving.isOpen, thriving.resting, thriving.encodable, thriving.apart,
      thriving.inflight⟩, cleared⟩

/-- Whatever removals meet, their client stays welcome. -/
theorem passes_removeAll_welcome (alone : store.IsAlone credential schedule) (left : List ObjectName) :
    Passes (fun _ _ => True) (fun history => store.client.IsWelcome credential history.store)
      (removeAll store left) fun _ history => store.client.IsWelcome credential history.store := by
  induction left with
  | nil => exact .pure fun _ holds => holds
  | cons name rest ih =>
      rw [removeAll]
      have removed : Passes (fun _ _ => True) _ (store.deleteIfExists name) fun _ history =>
          store.client.IsWelcome credential history.store :=
        (alone.passes_deleteIfExists name).mono (fun _ _ holds => holds) (fun _ holds => holds)
          fun _ _ holds => holds.1
      refine .bind removed fun outcome => .bind ih fun failures => ?_
      cases outcome <;> exact .pure fun _ holds => holds

/-- A publish of a file that thrives succeeds. -/
theorem unharmed_publish (alone : store.IsAlone credential schedule)
    (welcome : store.client.IsWelcome credential start.store)
    (thrives : file.Thrives store.client marker start.store) :
    Unharmed schedule (fun now => now = start) (file.publish store) fun result history =>
      (∃ publication, result.1 = .ok publication) ∧ store.client.IsWelcome credential history.store := by
  have tried : Thrives store.client marker { file with publishAttempted := true } start.store :=
    ⟨thrives.isOpen, thrives.resting, thrives.encodable, thrives.apart, thrives.inflight⟩
  rw [publish, if_neg (not_not_intro thrives.isOpen)]
  refine .bind (unharmed_composePublish alone welcome tried) ?_
  rintro ⟨cause | object, after⟩
  · exact .pure (by rintro _ ⟨⟨_, none⟩, _⟩; cases none)
  · have removed : Unharmed schedule _ (removeAll store after.transientNames) _ :=
      .of_passes (passes_removeAll_welcome alone after.transientNames)
        (attends_removeAll (alone.isExposed []) _).grows
    refine .bind (removed.mono (fun _ holds => holds.2) fun _ _ holds => holds) fun failures => ?_
    exact .pure fun _ still => ⟨⟨_, rfl⟩, still⟩

/-- A discard leaves its client welcome. -/
theorem unharmed_discard (alone : store.IsAlone credential schedule) (file : SinkFile) :
    Unharmed schedule (fun history => store.client.IsWelcome credential history.store) (file.discard store)
      fun _ history => store.client.IsWelcome credential history.store := by
  rw [discard]
  split
  · exact .pure fun _ holds => holds
  have removed : Unharmed schedule _ (removeAll store file.possibleNames) _ :=
    .of_passes (passes_removeAll_welcome alone file.possibleNames)
      (attends_removeAll (alone.isExposed []) _).grows
  exact .bind removed fun _ => .pure fun _ holds => holds

end SinkFile

end RecordSink
