import RecordSink.Proofs.SinkFile.Deletions

/-!
# Frames of the operations of a file

What each operation of a file asks of the store, and what it leaves alone, whatever the file is, the store holds
and the schedule answers. A step is described by its errands: it asks for nothing else, and of every object it
leaves what one of them may leave. Main statement: no operation changes an object but the three of its file, and
a publish deletes only what it no longer needs, once its compose has succeeded.
-/

namespace RecordSink

open Emulator Ordeal

variable {τ α β : Type} {places : List Place} {schedule : Schedule}

/-! ## Frames -/

/-- Each of some places holds what it held at the start, or what one of some errands may have left there. -/
def Framed {W : Type} (places : List Place) (client : Client W) (errands : List Errand)
    (start now : Emulator) : Prop :=
  ∀ place ∈ places, now.objects.get? place = start.objects.get? place ∨
    ∃ errand ∈ errands, client.place errand.target = place ∧ errand.Leaves (now.objects.get? place)

namespace Framed

variable {client : Client (Ordeal τ)} {errands : List Errand} {errand : Errand} {start now : Emulator}

theorem refl (client : Client (Ordeal τ)) (errands : List Errand) (start : Emulator) :
    Framed places client errands start start :=
  fun _ _ => .inl rfl

theorem survives : Survives places fun history => Framed places client errands start history.store := by
  intro history moment framed kept place own
  rw [History.next, kept.objects place own]
  exact framed place own

theorem bears (inside : errand ∈ errands) :
    client.Bears places errand fun history => Framed places client errands start history.store := by
  intro history moment value framed _ sets leaves place own
  by_cases same : place = client.place errand.target
  · refine .inr ⟨errand, inside, same.symm, ?_⟩
    rw [same, History.next, sets.object]
    exact leaves
  · rw [History.next, sets.others place own same]
    exact framed place own

/-- What is not about a place leaves it alone. -/
theorem untouched (framed : Framed places client errands start now) {place : Place} (own : place ∈ places)
    (other : ∀ errand ∈ errands, client.place errand.target ≠ place) :
    now.objects.get? place = start.objects.get? place := by
  rcases framed place own with same | ⟨errand, inside, about, -⟩
  · exact same
  · exact absurd about (other errand inside)

end Framed

/-- A property of histories holds now and has held at every moment since the start. -/
def Ordeal.Throughout (I : History → Prop) (start now : History) : Prop :=
  I now ∧ Through (fun moment past => I { store := moment.store, moments := moment :: past })
    start.moments now.moments

/-- From a start on, all requests were sent on some errands, and at every moment only these had changed
objects. -/
structure Confines {W : Type} (places : List Place) (client : Client W) (errands : List Errand)
    (start now : History) : Prop where
  asked : Through (fun moment _ => Errand.Among client errands moment) start.moments now.moments
  framed : Throughout (fun history => Framed places client errands start.store history.store) start now

/-- What is known of all moments in two ways is known together. -/
theorem Ordeal.Through.and {P Q : Moment → List Moment → Prop} {start now : List Moment}
    (through : Through P start now) (other : Through Q start now) :
    Through (fun moment past => P moment past ∧ Q moment past) start now := by
  induction through with
  | done => exact .done
  | @next moment past before holds ih =>
      cases other with
      | done => exact absurd before.isSuffix.length_le (by simp)
      | next earlier also => exact .next (ih earlier) ⟨holds, also⟩

theorem Ordeal.Throughout.mono {I J : History → Prop} {start now : History} (held : Throughout I start now)
    (weaker : ∀ history, I history → J history) : Throughout J start now :=
  ⟨weaker _ held.1, held.2.mono fun _ _ => weaker _⟩

/-- Of some places, those that are not of a file hold now, and have held at every moment since the start, what
they held then. -/
def KeepsOthers {W : Type} (places : List Place) (client : Client W) (names : FileNames)
    (start now : History) : Prop :=
  Throughout (fun history => ∀ place ∈ places, place ∉ names.all.map client.place →
    history.store.objects.get? place = start.store.objects.get? place) start now

/-- Errands about the objects of a file leave all others alone. -/
theorem Confines.keepsOthers {client : Client (Ordeal τ)} {names : FileNames} {errands : List Errand}
    {start now : History} (confines : Confines places client errands start now)
    (about : ∀ errand ∈ errands, errand.target ∈ names.all) : KeepsOthers places client names start now := by
  refine confines.framed.mono fun history framed place own other => ?_
  refine framed.untouched own ?_
  rintro errand inside rfl
  exact other (List.mem_map_of_mem (about errand inside))

/-- An object is written on no errand but to upload or to compose it. -/
theorem Errand.of_writes? {W : Type} {client : Client W} {errand : Errand} {moment : Moment} {name : ObjectName}
    (addressed : client.IsAddressed) (sent : errand.IsSent client moment)
    (writes : moment.route.writes? = some name.text) :
    errand = .upload name ∨ ∃ generation, errand = .compose name generation := by
  rcases errand.route_cases addressed sent with routed | unknown
  · rw [routed] at writes
    cases errand with
    | upload other =>
        rw [ObjectName.text_injective (Option.some.inj writes)]
        exact .inl rfl
    | compose other generation =>
        rw [ObjectName.text_injective (Option.some.inj writes)]
        exact .inr ⟨generation, rfl⟩
    | look other => cases writes
    | delete other => cases writes
  · rw [unknown] at writes
    cases writes

/-! ## Steps with errands -/

namespace Client

/-- A step goes on some errands: it asks for nothing else, and keeps every invariant that survives what else
happens and bears the errands. -/
def Attends (places : List Place) (client : Client (Ordeal τ)) (errands : List Errand)
    (step : StateM (Ordeal τ) α) : Prop :=
  ∀ I : History → Prop, Survives places I → (∀ errand ∈ errands, client.Bears places errand I) →
    Passes (fun moment _ => Errand.Among client errands moment) I step fun _ history => I history

namespace Attends

variable {client : Client (Ordeal τ)} {errands more : List Errand} {step : StateM (Ordeal τ) α}
  {next : α → StateM (Ordeal τ) β}

theorem pure {value : α} : client.Attends places errands (Pure.pure value) :=
  fun _ _ _ => .pure fun _ holds => holds

theorem mono (attends : client.Attends places errands step) (within : errands ⊆ more) :
    client.Attends places more step :=
  fun I quiet bears => (attends I quiet fun errand inside => bears errand (within inside)).mono
    (fun _ _ among => among.mono within) (fun _ holds => holds) fun _ _ holds => holds

theorem bind (first : client.Attends places errands step)
    (second : ∀ value, client.Attends places errands (next value)) :
    client.Attends places errands (step >>= next) :=
  fun I quiet bears => .bind (first I quiet bears) fun value => second value I quiet bears

/-- What follows a step may rely on what the step gives in any world. -/
theorem bind_of_yields {known : α → Prop} (first : client.Attends places errands step)
    (yields : Yields step known) (second : ∀ value, known value → client.Attends places errands (next value)) :
    client.Attends places errands (step >>= next) := by
  intro I quiet bears
  refine .bind ((first I quiet bears).yields yields) ?_
  rintro value world ⟨holds, given⟩
  exact second value given I quiet bears world holds

/-- A step on errands has kept an invariant at every moment. -/
theorem throughout (attends : client.Attends places errands step) {I : History → Prop}
    (quiet : Survives places I) (bears : ∀ errand ∈ errands, client.Bears places errand I)
    (world : Ordeal τ) (start : I world.history) :
    Throughout I world.history (step world).2.history := by
  refine ((attends (Throughout I world.history) ?_ ?_) world ⟨start, .done⟩).2
  · intro history moment held kept
    have now := quiet history moment held.1 kept
    exact ⟨now, .next held.2 now⟩
  · intro errand inside history moment value held sent sets leaves
    have now := bears errand inside history moment value held.1 sent sets leaves
    exact ⟨now, .next held.2 now⟩

/-- A step on errands leaves of each object what one of them may leave. -/
theorem framed (attends : client.Attends places errands step) (start : Emulator) :
    Passes (fun moment _ => Errand.Among client errands moment) (fun history => history.store = start) step
      fun _ history => Framed places client errands start history.store := by
  refine (attends (fun history => Framed places client errands start history.store) Framed.survives
    fun _ inside => Framed.bears inside).mono (fun _ _ among => among) ?_ fun _ _ holds => holds
  rintro history rfl
  exact .refl _ _ _

/-- A step on errands is confined to them. -/
theorem confines (attends : client.Attends places errands step) (world : Ordeal τ) :
    Confines places client errands world.history (step world).2.history := by
  constructor
  · exact (attends.framed world.history.store world rfl).1
  · exact attends.throughout Framed.survives (fun _ inside => Framed.bears inside) world (.refl _ _ _)

end Attends

end Client

/-! ## Calls to the store -/

/-- Since the start a compose of an object has succeeded: it was answered with success, and then the object was
there. -/
def Errand.Composed (client : Client (Ordeal τ)) (name : ObjectName) (generation : Option String)
    (start now : List Moment) : Prop :=
  ∃ moment past, start <:+ past ∧ moment :: past <:+ now ∧
    (Errand.compose name generation).IsSent client moment ∧
    (∃ response, moment.outcome = .ok response ∧ response.isSuccess = true) ∧
    (moment.store.objects.get? (client.place name)).isSome

theorem Errand.Composed.mono {client : Client (Ordeal τ)} {name : ObjectName} {generation : Option String}
    {start now later : List Moment} (composed : Composed client name generation start now)
    (within : now <:+ later) : Composed client name generation start later := by
  obtain ⟨moment, past, since, inside, sent, answered⟩ := composed
  exact ⟨moment, past, since, inside.trans within, sent, answered⟩

/-- What has happened stays so. -/
theorem Ordeal.survives_isSuffix (start : List Moment) :
    Survives places fun history => start <:+ history.moments :=
  fun _ _ within _ => within.trans (List.suffix_cons _ _)

theorem Client.bears_isSuffix {client : Client (Ordeal τ)} (errand : Errand) (start : List Moment) :
    client.Bears places errand fun history => start <:+ history.moments :=
  fun _ _ _ within _ _ _ => within.trans (List.suffix_cons _ _)

/-- A compose that the client takes for done was answered with success. -/
theorem Client.IsExposed.passes_composed {client : Client (Ordeal τ)}
    (exposed : client.IsExposed places schedule) {name : ObjectName} {sources : List ObjectName}
    {contentType : String} {generation : Option String} (start : List Moment) :
    Passes (fun _ _ => True) (fun history => start <:+ history.moments)
      (client.compose name sources contentType generation)
      (Settled (fun history => start <:+ history.moments)
        fun _ history => Errand.Composed client name generation start history.moments) := by
  have present : Passes _ _ (client.compose name sources contentType generation) _ :=
    exposed.passes_compose (survives_isSuffix start) (Client.bears_isSuffix (.compose name generation) start)
  have answered : Passes (fun _ _ => True) (fun history => start <:+ history.moments)
      (client.compose name sources contentType generation) fun result history =>
        ∀ object, result = .ok object → ∃ moment past, history = ⟨moment.store, moment :: past⟩ ∧
          start <:+ past ∧ (Errand.compose name generation).IsSent client moment ∧
          ∃ response, moment.outcome = .ok response ∧ response.isSuccess = true := by
    rw [compose]
    split
    · exact .pure (by simp)
    refine .bind ((exposed.passes_exchange (client.composeRequest name sources contentType generation)
      (K := fun result history => ∀ object, readBody ObjectMetadata.read? result = .ok object →
        ∃ moment past, history = ⟨moment.store, moment :: past⟩ ∧ start <:+ past ∧
          (Errand.compose name generation).IsSent client moment ∧
          ∃ response, moment.outcome = .ok response ∧ response.isSuccess = true) ?_ ?_).mono
        (fun _ _ _ => trivial) (fun _ holds => holds) fun _ _ holds => holds) ?_
    · intro world cause after _ _ object none
      cases none
    · intro history moment within method url _ object read
      obtain ⟨response, given, success, -⟩ := of_readBody_verdict read
      exact ⟨moment, history.moments, rfl, within, ⟨method, url⟩, response, given, success⟩
    · exact fun result => .pure fun _ holds object same => holds object same
  refine (present.and answered).mono (fun _ _ _ => trivial) (fun _ holds => holds) ?_
  rintro result history ⟨⟨within, there⟩, told⟩
  refine ⟨within, fun object same => ?_⟩
  obtain ⟨moment, past, rfl, since, sent, answered⟩ := told object same
  exact ⟨moment, past, since, List.suffix_rfl, sent, answered, there object same⟩

namespace RemoteStore.IsExposed

variable {store : RemoteStore (Ordeal τ)} {name : ObjectName}

theorem attends_upload (exposed : store.IsExposed places schedule) (name : ObjectName) (body : Bytes) :
    store.client.Attends places [.upload name] (store.upload name body) := by
  intro I quiet bears
  exact (exposed.passes_upload quiet (bears _ (List.mem_singleton_self _))).mono
    (fun _ _ sent => ⟨_, List.mem_singleton_self _, sent⟩) (fun _ holds => holds) fun _ _ holds => holds.1

theorem attends_compose (exposed : store.IsExposed places schedule) (name : ObjectName)
    (sources : List ObjectName) :
    store.client.Attends places [.compose name none] (store.compose name sources) := by
  intro I quiet bears
  exact (exposed.passes_compose quiet (bears _ (List.mem_singleton_self _))).mono
    (fun _ _ sent => ⟨_, List.mem_singleton_self _, sent⟩) (fun _ holds => holds) fun _ _ holds => holds.1

theorem attends_composeReplacing (exposed : store.IsExposed places schedule) (name : ObjectName)
    (sources : List ObjectName) (generation : Option String) (size : Nat) :
    store.client.Attends places [.compose name generation, .look name]
      (store.composeReplacing name sources generation size) := by
  intro I quiet bears
  exact (exposed.passes_composeReplacing quiet (bears _ List.mem_cons_self)).mono
    (fun _ _ among => among) (fun _ holds => holds) fun _ _ holds => holds.1

theorem attends_deleteIfExists (exposed : store.IsExposed places schedule) (name : ObjectName) :
    store.client.Attends places [.delete name] (store.deleteIfExists name) := by
  intro I quiet bears
  exact (exposed.passes_deleteIfExists quiet (bears _ (List.mem_singleton_self _))).mono
    (fun _ _ sent => ⟨_, List.mem_singleton_self _, sent⟩) (fun _ holds => holds) fun _ _ holds => holds.1

/-- A compose that has succeeded was answered with success, at this or at an earlier attempt. -/
theorem passes_composed (exposed : store.IsExposed places schedule) (name : ObjectName)
    (sources : List ObjectName) (start : List Moment) :
    Passes (fun _ _ => True) (fun history => start <:+ history.moments) (store.compose name sources)
      (Settled (fun history => start <:+ history.moments)
        fun _ history => Errand.Composed store.client name none start history.moments) := by
  obtain ⟨clock, ticking⟩ := exposed.clock
  rw [compose, ticking]
  exact Retry.passes_run (fun _ => exposed.client.passes_composed start) _ _

end RemoteStore.IsExposed

/-! ## Operations -/

namespace SinkFile

variable {store : RemoteStore (Ordeal τ)} {client : Client (Ordeal τ)} {file after : SinkFile}
  {names : FileNames} {start : History}

theorem uploadPart_continues {W : Type} (store : RemoteStore W) (file : SinkFile) :
    Yields (file.uploadPart store) fun result => Continues file result.2 := by
  rw [uploadPart]
  split
  · exact .pure (.refl file)
  split
  · exact .pure ⟨rfl, rfl, rfl, rfl, rfl⟩
  refine .after fun outcome => ?_
  cases outcome with
  | error cause => exact .pure ⟨rfl, rfl, rfl, rfl, rfl⟩
  | ok object => exact .pure ⟨rfl, rfl, rfl, rfl, rfl⟩

theorem attends_create (exposed : store.IsExposed places schedule) (title : String) (names : FileNames)
    (capacity : Nat) (marker : Marker) :
    store.client.Attends places [.upload names.inflight, .delete names.inflight]
      (create store title names capacity marker) := by
  rw [create]
  split
  · exact .pure
  refine .bind ((exposed.attends_upload names.inflight _).mono (by simp)) fun outcome => ?_
  cases outcome with
  | ok inflight => exact .pure
  | error cause =>
      exact .bind ((exposed.attends_deleteIfExists names.inflight).mono (by simp)) fun _ => .pure

theorem attends_uploadPart (exposed : store.IsExposed places schedule) (file : SinkFile) :
    store.client.Attends places [.upload file.names.part] (file.uploadPart store) := by
  rw [uploadPart]
  split
  · exact .pure
  split
  · exact .pure
  refine .bind (exposed.attends_upload file.names.part _) fun outcome => ?_
  cases outcome with
  | error cause => exact .pure
  | ok object => exact .pure

theorem attends_sync (exposed : store.IsExposed places schedule) (file : SinkFile) :
    store.client.Attends places file.syncErrands (file.sync store) := by
  have composed : store.client.Attends places file.syncErrands (file.composeInflight store) := by
    rw [composeInflight]
    refine .bind_of_yields ((attends_uploadPart exposed file).mono (by simp [syncErrands]))
      (uploadPart_continues store file) ?_
    rintro ⟨result, loaded⟩ continues
    cases result with
    | error cause => exact .pure
    | ok batch =>
        have compose := exposed.attends_composeReplacing loaded.names.inflight batch.sources
          loaded.generation batch.size
        dsimp only at compose ⊢
        rw [continues.names, continues.generation] at compose ⊢
        refine .bind (compose.mono (by simp [syncErrands])) fun outcome => ?_
        cases outcome with
        | error cause => exact .pure
        | ok object => exact .pure
  rw [sync]
  split
  · exact .pure
  refine .bind composed fun outcome => ?_
  rcases outcome with ⟨cause | object, after⟩
  · exact .pure
  · exact .pure

theorem attends_composePublish (exposed : store.IsExposed places schedule) (file : SinkFile) :
    store.client.Attends places (publishErrands file.names) (file.composePublish store) := by
  rw [composePublish]
  refine .bind_of_yields ((attends_uploadPart exposed file).mono (by simp [publishErrands]))
    (uploadPart_continues store file) ?_
  rintro ⟨result, loaded⟩ continues
  cases result with
  | error cause => exact .pure
  | ok batch =>
      have compose := exposed.attends_compose loaded.names.publish batch.sources
      dsimp only at compose ⊢
      rw [continues.names] at compose ⊢
      refine .bind (compose.mono (by simp [publishErrands])) fun outcome => ?_
      cases outcome with
      | error cause => exact .pure
      | ok object => exact .pure

theorem attends_removeAll (exposed : store.IsExposed places schedule) (left : List ObjectName) :
    store.client.Attends places (left.map .delete) (removeAll store left) := by
  induction left with
  | nil => exact .pure
  | cons name rest ih =>
      rw [removeAll]
      refine .bind ((exposed.attends_deleteIfExists name).mono (by simp)) fun outcome => ?_
      refine .bind (ih.mono (List.subset_cons_self _ _)) fun failures => ?_
      cases outcome with
      | ok _ => exact .pure
      | error cause => exact .pure

theorem attends_discard (exposed : store.IsExposed places schedule) (file : SinkFile) :
    store.client.Attends places (file.possibleNames.map .delete) (file.discard store) := by
  rw [discard]
  split
  · exact .pure
  exact .bind (attends_removeAll exposed file.possibleNames) fun _ => .pure

/-- The names of a file are the same once its records were composed. -/
theorem composePublish_names {W : Type} (store : RemoteStore W) (file : SinkFile) :
    Yields (file.composePublish store) fun result => result.2.names = file.names := by
  rw [composePublish]
  refine .bind (uploadPart_continues store file) ?_
  rintro ⟨result, loaded⟩ continues
  cases result with
  | error cause => exact .pure continues.names
  | ok batch =>
      refine .after fun outcome => ?_
      cases outcome with
      | error cause => exact .pure continues.names
      | ok object => exact .pure continues.names

theorem transient_subset_cleanup (file : SinkFile) :
    file.transientNames.map .delete ⊆ cleanupErrands file.names := by
  intro errand inside
  obtain ⟨name, transient, rfl⟩ := List.mem_map.mp inside
  rcases mem_all_of_transient transient with rfl | rfl <;> simp [cleanupErrands]

theorem attends_publish (exposed : store.IsExposed places schedule) (file : SinkFile) :
    store.client.Attends places (publishErrands file.names ++ cleanupErrands file.names)
      (file.publish store) := by
  rw [publish]
  split
  · exact .pure
  have composed : store.client.Attends places (publishErrands file.names)
      (composePublish store { file with publishAttempted := true }) :=
    attends_composePublish exposed { file with publishAttempted := true }
  have named : Yields (composePublish store { file with publishAttempted := true }) fun result =>
      result.2.names = file.names := composePublish_names store _
  refine .bind_of_yields (composed.mono (List.subset_append_left _ _)) named ?_
  rintro ⟨result, loaded⟩ same
  cases result with
  | error cause => exact .pure
  | ok object =>
      have removed := (attends_removeAll exposed loaded.transientNames).mono (transient_subset_cleanup loaded)
      have same : loaded.names = file.names := same
      rw [same] at removed
      exact .bind (removed.mono (List.subset_append_right _ _)) fun _ => .pure

/-! ## Cleanup after the publish -/

/-- Where the records were composed into the publish object, the compose has succeeded. -/
theorem passes_composePublish_composed (exposed : store.IsExposed places schedule) (file : SinkFile)
    (start : List Moment) :
    Passes (fun moment _ => Errand.Among store.client (publishErrands file.names) moment)
      (fun history => start <:+ history.moments) (file.composePublish store)
      fun result history => ∀ object, result.1 = .ok object →
        Errand.Composed store.client file.names.publish none start history.moments := by
  have uploaded : Passes (fun _ _ => True) _ (file.uploadPart store) _ :=
    ((attends_uploadPart exposed file) _ (survives_isSuffix start)
      (fun errand _ => Client.bears_isSuffix errand start)).mono (fun _ _ _ => trivial) (fun _ holds => holds)
      fun _ _ holds => holds
  have composed : Passes (fun _ _ => True) (fun history => start <:+ history.moments)
      (file.composePublish store) fun result history => ∀ object, result.1 = .ok object →
        Errand.Composed store.client file.names.publish none start history.moments := by
    rw [composePublish]
    refine .bind (uploaded.yields (uploadPart_continues store file)) ?_
    rintro ⟨result, loaded⟩
    cases result with
    | error cause => exact .pure (by simp)
    | ok batch =>
        refine .each ?_
        rintro middle ⟨within, continues⟩
        have named : loaded.names = file.names := continues.names
        dsimp only
        rw [named]
        refine .bind ((exposed.passes_composed file.names.publish batch.sources start).mono
          (fun _ _ holds => holds) (by rintro _ rfl; exact within) fun _ _ holds => holds) fun outcome => ?_
        cases outcome with
        | error cause => exact .pure (by simp)
        | ok object => exact .pure fun _ holds _ _ => holds.2 object rfl
  have among := attends_composePublish exposed file _ (survives_isSuffix start)
    fun errand _ => Client.bears_isSuffix errand start
  exact (among.and composed).mono (fun _ _ among => among) (fun _ holds => holds) fun _ _ holds => holds.2

/-- A publish deletes nothing before its compose has succeeded. -/
theorem passes_publish_composed (exposed : store.IsExposed places schedule) (file : SinkFile) :
    Passes (fun moment past => ∀ name, (Errand.delete name).IsSent store.client moment →
        Errand.Composed store.client file.names.publish none start.moments past)
      (fun now => now = start) (file.publish store) fun _ _ => True := by
  have addressed := exposed.client.addressed
  rw [publish]
  split
  · exact .pure fun _ _ => trivial
  have composed := passes_composePublish_composed exposed { file with publishAttempted := true } start.moments
  refine .bind (composed.mono ?_ (by rintro _ rfl; exact List.suffix_rfl) fun _ _ holds => holds) ?_
  · rintro moment past ⟨errand, inside, sent⟩ name deleting
    rw [Errand.eq_delete addressed sent deleting] at inside
    simp [publishErrands] at inside
  rintro ⟨result, loaded⟩
  cases result with
  | error cause => exact .pure fun _ _ => trivial
  | ok object =>
      refine .each fun middle published => ?_
      have removed : Passes _ (fun now => now = middle) (removeAll store loaded.transientNames) _ :=
        ((attends_removeAll exposed loaded.transientNames) (fun _ => True) (fun _ _ _ _ => trivial)
          fun _ _ _ _ _ _ _ _ _ => trivial).mono (fun _ _ holds => holds) (fun _ _ => trivial)
            fun _ _ holds => holds
      refine .bind (removed.along.mono ?_ (fun _ same => same) fun _ _ holds => holds) ?_
      · rintro moment past ⟨-, since⟩ name -
        exact (published object rfl).mono since
      · exact fun _ => .pure fun _ _ => trivial

/-! ## All operations -/

theorem ask_publish_snd {W : Type} (store : RemoteStore W) (file : SinkFile) (world : W) :
    (file.ask store .publish world).2 = (file.publish store world).2 := rfl

/-- A call is about the objects of its file. -/
theorem attends_ask (exposed : store.IsExposed places schedule) (file : SinkFile) (call : Call) :
    ∃ errands : List Errand, (∀ errand ∈ errands, errand.target ∈ file.names.all) ∧
      store.client.Attends places errands (file.ask store call) := by
  cases call with
  | append record => exact ⟨[], List.forall_mem_nil _, .pure⟩
  | sync =>
      refine ⟨file.syncErrands, ?_, .bind (attends_sync exposed file) fun _ => .pure⟩
      simp [syncErrands, Errand.target, FileNames.all]
  | publish =>
      refine ⟨_, ?_, .bind (attends_publish exposed file) fun _ => .pure⟩
      simp [publishErrands, cleanupErrands, Errand.target, FileNames.all]
  | discard =>
      refine ⟨_, ?_, .bind (attends_discard exposed file) fun _ => .pure⟩
      intro errand inside
      obtain ⟨name, possible, rfl⟩ := List.mem_map.mp inside
      exact mem_all_of_possible possible

/-- The frame of the operations, for any file, any objects and any faults. At every moment of a creation or of a
call the objects that are not the file's hold the bytes, the content type and the generation from before. An
append sends no request. A creation asks only for the inflight object. A sync uploads the part, composes the
inflight object and looks at it. A publish uploads the part and composes the publish object; it never writes
the inflight object, and only after its compose has succeeded does it delete, the part and the inflight object. A
discard only deletes the objects of the file. Each step leaves of them what such a request may leave. -/
theorem operations_framed {working publish title : String}
    (exposed : store.IsExposed places schedule)
    (named : FileNames.ofDirectories working publish title = .ok names) (world : Ordeal τ) :
    (∀ capacity marker,
      let opened := (create store title names capacity marker world).2.history
      KeepsOthers places store.client names world.history opened ∧
      Confines places store.client [.upload names.inflight, .delete names.inflight] world.history opened) ∧
    ∀ file : SinkFile, file.names = names →
      (∀ call, KeepsOthers places store.client names world.history (file.ask store call world).2.history) ∧
      (∀ record, (file.ask store (.append record) world).2 = world) ∧
      Confines places store.client
        [.upload names.part, .compose names.inflight file.generation, .look names.inflight]
        world.history (file.sync store world).2.history ∧
      Confines places store.client
        [.upload names.part, .compose names.publish none, .delete names.part, .delete names.inflight]
        world.history (file.publish store world).2.history ∧
      Through
        (fun moment past => moment.route.writes? ≠ some names.inflight.text ∧
          ∀ name, (Errand.delete name).IsSent store.client moment →
            Errand.Composed store.client names.publish none world.history.moments past)
        world.history.moments (file.publish store world).2.history.moments ∧
      Confines places store.client
        [.delete names.inflight, .delete names.part, .delete names.publish]
        world.history (file.discard store world).2.history := by
  have addressed := exposed.client.addressed
  have apart := FileNames.isFor_of_ofDirectories named
  constructor
  · intro capacity marker
    have creates := (attends_create exposed title names capacity marker).confines world
    exact ⟨creates.keepsOthers (by simp [Errand.target]), creates⟩
  rintro file rfl
  have publishes := (attends_publish exposed file).confines world
  have composed := (passes_publish_composed exposed file world rfl).1
  refine ⟨?_, fun _ => rfl, (attends_sync exposed file).confines world, publishes, ?_, ?_⟩
  · intro call
    obtain ⟨errands, about, attends⟩ := attends_ask exposed file call
    exact (attends.confines world).keepsOthers about
  · refine publishes.asked.and composed |>.mono ?_
    rintro moment past ⟨⟨errand, inside, sent⟩, deletes⟩
    refine ⟨fun writes => ?_, deletes⟩
    rcases Errand.of_writes? addressed sent writes with rfl | ⟨generation, rfl⟩
    · simp [publishErrands, cleanupErrands, apart.inflight_ne_part] at inside
    · simp [publishErrands, cleanupErrands, apart.working_ne_publish.1] at inside
  · refine Client.Attends.confines ((attends_discard exposed file).mono ?_) world
    intro errand inside
    obtain ⟨name, possible, rfl⟩ := List.mem_map.mp inside
    exact List.mem_map_of_mem (mem_all_of_possible possible)

namespace Trial

/-- The place of an object beside the file. -/
def neighbour : Place := ⟨"logs", "out/b"⟩

/-- The creation of a file beside the object. -/
def settling : Except SinkError SinkFile × Ordeal Unit :=
  create Trial.store "a" Trial.names 1 marker
    { rest := (), history := .fresh ((Emulator.withBucket "logs").put neighbour [7]) }

theorem settles : settling.1.toOption.isSome = true := by
  decide +kernel

/-- The file with one record to publish. -/
def shared : (SinkFile × Ledger) × Ordeal Unit :=
  run Trial.store [.append [1, 2, 3]] (settling.1.toOption.get settles) .empty settling.2

theorem shared_names : shared.1.1.names = Trial.names := by
  decide +kernel

theorem neighbour_not_mem : neighbour ∉ Trial.names.all.map Trial.store.client.place := by
  decide +kernel

theorem shared_neighbour : (shared.2.history.store.objects.get? neighbour).map (·.data) = some [7] := by
  decide +kernel

end Trial

/-- A publish leaves the object beside the file alone, although a response is lost, and what it deletes it
deletes after its compose. -/
theorem operations_framed_trial :
    ((Trial.shared.1.1.publish Trial.store Trial.shared.2).2.history.store.objects.get? Trial.neighbour).map
        (·.data) = some [7] ∧
      Through
        (fun moment past => ∀ name, (Errand.delete name).IsSent Trial.store.client moment →
          Errand.Composed Trial.store.client Trial.names.publish none Trial.shared.2.history.moments past)
        Trial.shared.2.history.moments
        (Trial.shared.1.1.publish Trial.store Trial.shared.2).2.history.moments := by
  have framed := (operations_framed (Trial.isExposed Trial.schedule (fun _ => rfl) [Trial.neighbour])
    (Except.eq_ok_of_isSome Trial.named) Trial.shared.2).2 Trial.shared.1.1 Trial.shared_names
  obtain ⟨others, -, -, -, ordered, -⟩ := framed
  have same := (others .publish).1 Trial.neighbour (List.mem_singleton_self _) Trial.neighbour_not_mem
  rw [ask_publish_snd] at same
  constructor
  · calc
      ((Trial.shared.1.1.publish Trial.store Trial.shared.2).2.history.store.objects.get? Trial.neighbour).map
          (·.data)
        = (Trial.shared.2.history.store.objects.get? Trial.neighbour).map (·.data) :=
          congrArg (Option.map (·.data)) same
      _ = some [7] := Trial.shared_neighbour
  · exact ordered.mono fun _ _ holds => holds.2

end SinkFile

end RecordSink
