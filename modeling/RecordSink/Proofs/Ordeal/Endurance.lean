import RecordSink.Proofs.Ordeal.Attempts
import RecordSink.Proofs.Ordeal.Replacement

/-!
# Endurance

Where no run of attempts meets more faults than it has attempts to spare, every call to a store on trial
succeeds and has its effect: an upload and a compose that are applied again write the same bytes again,
a compose onto one of its sources finds its own effect, and a delete that is applied again finds
nothing.
-/

namespace RecordSink

open Emulator Ordeal

variable {τ α : Type} {places : List Place} {site : Site τ} {schedule : Schedule}

/-- What a store says about an object, but for the generation. -/
def ObjectMetadata.ungenerated (object : ObjectMetadata) : ObjectMetadata :=
  { object with generation := none }

/-- What a store says about some bytes of records at a place, but for the generation. -/
def Emulator.Place.described (place : Place) (data : Bytes) : ObjectMetadata :=
  { name := place.name, bucket := place.bucket, size := Numeral.decimal data.length
    contentType := some Client.recordType, generation := none }

/-! ## Effects of admitted requests -/

namespace Emulator

variable {store : Emulator} {bucket name : String} {data : Bytes}

/-- An object of records with some bytes. -/
structure StoredObject.Records (data : Bytes) (object : StoredObject) : Prop where
  data : object.data = data
  contentType : object.contentType = Client.recordType

theorem StoredObject.Records.ungenerated {object : StoredObject} (records : object.Records data)
    (place : Place) : (object.metadata place).ungenerated = place.described data := by
  rw [StoredObject.metadata, ObjectMetadata.ungenerated, Place.described, records.data,
    records.contentType]

/-- A request writes records at a place, and the response describes the new object. -/
def Writes (places : List Place) (place : Place) (data : Bytes) (before : Emulator)
    (settled : Http.Response × Emulator) : Prop :=
  ∃ object : StoredObject, object.Records data ∧ Sets places place (some object) before settled.2 ∧
    settled.1 = answer (object.metadata place).toJson

theorem writes_upload (known : bucket ∈ store.buckets) :
    Writes places ⟨bucket, name⟩ data store (store.apply (.upload bucket (some name)) data) := by
  have counted : Alike store { store with
    stats := { store.stats with uploads := store.stats.uploads + 1 } } := ⟨rfl, rfl, rfl⟩
  rw [apply_upload known]
  exact ⟨_, ⟨rfl, rfl⟩, counted.keeps.sets (sets_write _ ⟨bucket, name⟩ data defaultType), rfl⟩

theorem writes_compose (known : bucket ∈ store.buckets) {generation : Option String}
    (met : ∀ asked, generation = some asked →
      asked = Numeral.decimal (store.generationAt ⟨bucket, name⟩))
    {sources : List String} (filled : sources ≠ [])
    (gathers : Gathers (sources.map fun source => ⟨bucket, source⟩) data store) :
    Writes places ⟨bucket, name⟩ data store (store.apply (.compose bucket name generation)
      (ComposeRequest.mk Client.recordType sources).toJson.render) := by
  obtain ⟨pieces, gathered, rfl⟩ := gathers
  have counted : Alike store { store with
    stats := { store.stats with composes := store.stats.composes + 1 } } := ⟨rfl, rfl, rfl⟩
  rw [apply_compose known met filled gathered]
  exact ⟨_, ⟨rfl, rfl⟩,
    counted.keeps.sets (sets_write _ ⟨bucket, name⟩ pieces.flatten Client.recordType), rfl⟩

/-- A compose that asks for another generation is refused as such. -/
theorem apply_compose_other (known : bucket ∈ store.buckets) {asked : String} (body : Bytes)
    (other : asked ≠ Numeral.decimal (store.generationAt ⟨bucket, name⟩)) :
    ∃ message, store.apply (.compose bucket name (some asked)) body =
      (refusal RemoteStore.preconditionFailed message, store) := by
  have present : ¬ bucket ∉ store.buckets := not_not_intro known
  have differs : (some asked).any (· != Numeral.decimal (store.generationAt ⟨bucket, name⟩)) = true := by
    simpa using other
  dsimp only [apply, applyCompose]
  rw [if_neg present, if_pos differs]
  exact ⟨_, rfl⟩

/-- An object is removed where it is in place. -/
theorem apply_delete_cases (places : List Place) (store : Emulator) (body : Bytes) :
    (store.objects.get? ⟨bucket, name⟩ = none ∧
        ∃ message, store.apply (.delete bucket name) body = (refusal 404 message, store)) ∨
      (Sets places ⟨bucket, name⟩ none store (store.apply (.delete bucket name) body).2 ∧
        (store.apply (.delete bucket name) body).1.isSuccess = true) := by
  cases found : store.objects.get? ⟨bucket, name⟩ with
  | none =>
      left
      refine ⟨rfl, "No such object: " ++ bucket ++ "/" ++ name, ?_⟩
      rw [apply, applyDelete, found]
      rfl
  | some object =>
      right
      rcases @applyDelete_cases places _ _ _ _ rfl with ⟨-, -, missing⟩ | removed
      · cases found.symm.trans missing
      · exact removed

/-- An object in place is described. -/
theorem apply_object {object : StoredObject} (stored : store.objects.get? ⟨bucket, name⟩ = some object)
    (body : Bytes) :
    store.apply (.getObject bucket name) body = (answer (object.metadata ⟨bucket, name⟩).toJson, store) := by
  rw [apply, stored]

end Emulator

/-- A client reads the description in an answer. -/
theorem Client.readBody_answer (object : ObjectMetadata) :
    readBody ObjectMetadata.read? (verdict (.ok (answer object.toJson))) = .ok object := by
  rw [verdict, if_pos (isSuccess_answer _), readBody]
  dsimp only [answer]
  rw [ObjectMetadata.read?_render]

/-- With some sources, and not too many, a client sends the request. -/
theorem Client.compose_eq {W : Type} (client : Client W) (name : ObjectName) {sources : List ObjectName}
    (filled : sources ≠ []) (few : sources.length ≤ maxSources) (contentType : String)
    (generation : Option String) : client.compose name sources contentType generation =
      client.exchange (client.composeRequest name sources contentType generation) >>= fun result =>
        pure (readBody ObjectMetadata.read? result) := by
  have counted := List.length_pos_iff.mpr filled
  exact if_neg (by omega)

namespace Site

/-! ## Requests -/

theorem lasting_or {I I' : Emulator → Prop} (one : Lasting places I) (other : Lasting places I') :
    Lasting places fun store => I store ∨ I' store :=
  fun before after holds kept => holds.imp (one before after · kept) (other before after · kept)

/-- The answer to a call that wrote some records. -/
def Answered (site : Site τ) (place : Place) (data : Bytes) (I : Emulator → Prop)
    (answer : ObjectMetadata) (world : Ordeal (Watch τ)) : Prop :=
  answer.ungenerated = place.described data ∧ site.At I world

variable {name : ObjectName} {I I' : Emulator → Prop} {data : Bytes}

/-- A request that writes records is answered once it meets no fault; where it meets one, the records
may be written or not. -/
theorem tries_write (fit : site.Fit places schedule) {request : Http.Request} {route : Route}
    (plain : request.header? "authorization" = none)
    (routed : Route.ofRequest request.method request.url = route) (known : route.operation?.isSome)
    {place : Place} (lasting : Lasting places I)
    (effect : ∀ store, I store → site.bucket ∈ store.buckets →
      Writes places place data store (store.apply route (request.body.getD [])))
    (written : ∀ before after object, I before → object.Records data →
      Sets places place (some object) before after → I' after) :
    Tries (site.At I)
      ((site.store schedule).client.exchange request >>= fun result =>
        pure (Client.readBody ObjectMetadata.read? result))
      (Succeeds (site.Answered place data I'))
      (site.At fun store => I store ∨ I' store) := by
  have exchange := tries_exchange fit plain routed known (J := fun store => I store ∨ I' store)
    (K := fun response after => I' after ∧ ∃ object : StoredObject, object.Records data ∧
      response = answer (object.metadata place).toJson) lasting (fun _ holds => .inl holds) (by
    intro store response applied after holds present settled alike
    obtain ⟨object, records, sets, answered⟩ := effect store holds present
    rw [settled] at sets answered
    have reached := written store after object holds records (sets.alike alike)
    exact ⟨.inr reached, reached, object, records, answered⟩)
  refine exchange.bind (fun cause _ => rfl) ?_
  intro result
  refine .pure ?_
  rintro world ⟨steady, response, rfl, reached, object, records, rfl⟩
  exact ⟨object.metadata place, Client.readBody_answer _, records.ungenerated place, steady, reached⟩

theorem tries_upload (fit : site.Fit places schedule) (lasting : Lasting places I)
    (written : ∀ before after object, I before → object.Records data →
      Sets places ((site.store schedule).client.place name) (some object) before after → I' after) :
    Tries (site.At I) ((site.store schedule).client.upload name Client.recordType data)
      (Succeeds (site.Answered ((site.store schedule).client.place name) data I'))
      (site.At fun store => I store ∨ I' store) :=
  tries_write fit rfl (fit.reaches.upload name) rfl lasting (fun _ _ known => writes_upload known)
    written

theorem tries_compose (fit : site.Fit places schedule) {sources : List ObjectName}
    (filled : sources ≠ []) (few : sources.length ≤ Client.maxSources) {generation : Option String}
    (lasting : Lasting places I)
    (gathers : ∀ store, I store → Gathers (sources.map (site.store schedule).client.place) data store)
    (met : ∀ store, I store → ∀ asked, generation = some asked →
      asked = Numeral.decimal (store.generationAt ((site.store schedule).client.place name)))
    (written : ∀ before after object, I before → object.Records data →
      Sets places ((site.store schedule).client.place name) (some object) before after → I' after) :
    Tries (site.At I)
      ((site.store schedule).client.compose name sources Client.recordType generation)
      (Succeeds (site.Answered ((site.store schedule).client.place name) data I'))
      (site.At fun store => I store ∨ I' store) := by
  rw [Client.compose_eq _ name filled few]
  refine tries_write fit rfl (fit.reaches.compose name _) rfl lasting ?_ written
  intro store holds known
  have gathered : Gathers ((sources.map (·.text)).map fun source => ⟨site.bucket, source⟩) data store := by
    rw [List.map_map]
    exact gathers store holds
  exact writes_compose known (met store holds) (by simpa using filled) gathered

/-- A compose that asks for another generation is refused as such. -/
theorem tries_compose_other (fit : site.Fit places schedule) {sources : List ObjectName}
    (filled : sources ≠ []) (few : sources.length ≤ Client.maxSources) {generation : Nat}
    (lasting : Lasting places I)
    (other : ∀ store, I store →
      generation ≠ store.generationAt ((site.store schedule).client.place name)) :
    Tries (site.At I)
      ((site.store schedule).client.compose name sources Client.recordType
        (some (Numeral.decimal generation)))
      (fun result world => site.At I world ∧
        ∃ cause, result = .error cause ∧ cause.failure.status? = some RemoteStore.preconditionFailed)
      (site.At I) := by
  rw [Client.compose_eq _ name filled few]
  refine .bind (tries_exchange fit rfl (fit.reaches.compose name _) rfl (J := I)
    (K := fun response after => I after ∧
      ∃ message, response = refusal RemoteStore.preconditionFailed message) lasting
    (fun _ holds => holds) ?_) (fun cause _ => rfl) ?_
  · intro store response reached after holds known settled alike
    obtain ⟨message, refused⟩ := apply_compose_other known _
      fun same => other store holds (Numeral.decimal_injective same)
    cases refused.symm.trans settled
    have kept := lasting _ _ holds alike.keeps
    exact ⟨kept, kept, message, rfl⟩
  · intro result
    refine .pure ?_
    rintro world ⟨steady, response, rfl, holds, message, rfl⟩
    exact ⟨⟨steady, holds⟩, _, rfl, rfl⟩

/-- An object that is in place is described. -/
theorem tries_object (fit : site.Fit places schedule) (lasting : Lasting places I)
    (present : ∀ store, I store → ∃ object : StoredObject, object.Records data ∧
      store.objects.get? ((site.store schedule).client.place name) = some object) :
    Tries (site.At I) ((site.store schedule).client.object name)
      (fun result world => ∃ object : StoredObject, object.Records data ∧ site.At I world ∧
        result = .ok (object.metadata ((site.store schedule).client.place name)))
      (site.At I) := by
  refine .bind (tries_exchange fit rfl (fit.reaches.object name) rfl (J := I)
    (K := fun response after => I after ∧ ∃ object : StoredObject, object.Records data ∧
      response = answer (object.metadata ((site.store schedule).client.place name)).toJson) lasting
    (fun _ holds => holds) ?_) (fun cause _ => rfl) ?_
  · intro store response reached after holds _ settled alike
    obtain ⟨object, records, stored⟩ := present store holds
    cases (apply_object stored _).symm.trans settled
    have kept := lasting _ _ holds alike.keeps
    exact ⟨kept, kept, object, records, rfl⟩
  · intro result
    refine .pure ?_
    rintro world ⟨steady, response, rfl, holds, object, records, rfl⟩
    exact ⟨object, records, ⟨steady, holds⟩, Client.readBody_answer _⟩

/-- An object is removed, or it is found to be gone. -/
theorem tries_delete (fit : site.Fit places schedule) (lasting : Lasting places I)
    (missing : ∀ store, I store →
      store.objects.get? ((site.store schedule).client.place name) = none → I' store)
    (lasting' : Lasting places I')
    (removed : ∀ before after, I before →
      Sets places ((site.store schedule).client.place name) none before after → I' after) :
    Tries (site.At I) ((site.store schedule).client.delete name)
      (fun result world => site.At I' world ∧
        (result = .ok () ∨ ∃ cause, result = .error cause ∧ cause.isNotFound = true))
      (site.At fun store => I store ∨ I' store) := by
  rw [Client.delete]
  refine .bind (tries_exchange fit rfl (fit.reaches.delete name) rfl
    (J := fun store => I store ∨ I' store)
    (K := fun response after => I' after ∧ (Client.verdict (.ok response) = .ok response ∨
      ∃ cause, Client.verdict (.ok response) = .error cause ∧ cause.isNotFound = true)) lasting
    (fun _ holds => .inl holds) ?_) (fun cause _ => rfl) ?_
  · intro store response reached after holds _ settled alike
    rcases apply_delete_cases places store _ with ⟨gone, message, refused⟩ | ⟨sets, success⟩
    · cases refused.symm.trans settled
      have kept := lasting' _ _ (missing store holds gone) alike.keeps
      exact ⟨.inr kept, kept, .inr ⟨_, rfl, rfl⟩⟩
    · rw [show store.apply _ _ = _ from settled] at sets success
      have kept := removed store after holds (sets.alike alike)
      exact ⟨.inr kept, kept, .inl (if_pos success)⟩
  · intro result
    cases result with
    | ok response =>
        refine .pure ?_
        rintro world ⟨steady, answered, same, reached, told⟩
        exact ⟨⟨steady, reached⟩, .inl rfl⟩
    | error cause =>
        refine .pure ?_
        rintro world ⟨steady, answered, same, reached, told | ⟨other, told, gone⟩⟩
        · cases same.trans told
        · cases same.trans told
          exact ⟨⟨steady, reached⟩, .inr ⟨cause, rfl, gone⟩⟩

end Site

/-! ## Calls -/

namespace Client

theorem minds_exchange (site : Site τ) (schedule : Schedule) (request : Http.Request) :
    Minds schedule ((site.store schedule).client.exchange request) := by
  refine .bind (.aside fun watch => (Watch.onward_noted watch).trans (Watch.onward_beside _ _)) ?_
  intro credential
  cases credential with
  | error cause => exact .pure
  | ok credential =>
      refine .bind (.link _) ?_
      intro outcome
      cases outcome with
      | error cause => exact .pure
      | ok response => exact .ite .pure .pure

theorem minds_compose (site : Site τ) (schedule : Schedule) (name : ObjectName)
    (sources : List ObjectName) (generation : Option String) :
    Minds schedule ((site.store schedule).client.compose name sources recordType generation) :=
  .ite .pure (.bind (minds_exchange site schedule _) fun _ => .pure)

theorem minds_object (site : Site τ) (schedule : Schedule) (name : ObjectName) :
    Minds schedule ((site.store schedule).client.object name) :=
  .bind (minds_exchange site schedule _) fun _ => .pure

theorem minds_delete (site : Site τ) (schedule : Schedule) (name : ObjectName) :
    Minds schedule ((site.store schedule).client.delete name) := by
  refine .bind (minds_exchange site schedule _) ?_
  intro result
  cases result <;> exact .pure

end Client

namespace RemoteStore

variable {name : ObjectName} {sources : List ObjectName} {I I' : Emulator → Prop} {data : Bytes}

theorem minds_upload (site : Site τ) (schedule : Schedule) (name : ObjectName) (data : Bytes) :
    Minds schedule ((site.store schedule).upload name data) :=
  .run (fun _ => .bind (Client.minds_exchange site schedule _) fun _ => .pure) _ _ _ _

theorem minds_compose (site : Site τ) (schedule : Schedule) (name : ObjectName)
    (sources : List ObjectName) : Minds schedule ((site.store schedule).compose name sources) :=
  .run (fun _ => Client.minds_compose site schedule name sources none) _ _ _ _

theorem minds_composeOnce (site : Site τ) (schedule : Schedule) (name : ObjectName)
    (sources : List ObjectName) (generation : Option String) (size attempt : Nat) :
    Minds schedule ((site.store schedule).composeOnce name sources generation size attempt) := by
  refine .bind (Client.minds_compose site schedule name sources generation) ?_
  intro result
  cases result with
  | ok object => exact .pure
  | error cause =>
      refine .ite (.bind (Client.minds_object site schedule name) ?_) .pure
      intro found
      cases found with
      | error other => exact .pure
      | ok current => exact .ite .pure .pure

theorem minds_composeReplacing (site : Site τ) (schedule : Schedule) (name : ObjectName)
    (sources : List ObjectName) (generation : Option String) (size : Nat) :
    Minds schedule ((site.store schedule).composeReplacing name sources generation size) :=
  .run (minds_composeOnce site schedule name sources generation size) _ _ _ _

theorem minds_deleteIfExists (site : Site τ) (schedule : Schedule) (name : ObjectName) :
    Minds schedule ((site.store schedule).deleteIfExists name) := by
  refine .run (fun _ => .bind (Client.minds_delete site schedule name) ?_) _ _ _ _
  intro result
  cases result with
  | ok _ => exact .pure
  | error cause => exact .ite .pure .pure

/-- An upload succeeds, however often it is applied. -/
theorem endures_upload (fit : site.Fit places schedule) (name : ObjectName) (data : Bytes)
    (lasting : Site.Lasting places I) (lasting' : Site.Lasting places I')
    (written : ∀ before after object, I before ∨ I' before → object.Records data →
      Sets places ((site.store schedule).client.place name) (some object) before after → I' after) :
    Endures schedule site.most (site.At I) ((site.store schedule).upload name data)
      (Site.Succeeds (site.Answered ((site.store schedule).client.place name) data I')) :=
  Site.endures_repeated fit.unlimited (.bind (Client.minds_exchange site schedule _) fun _ => .pure)
    (Site.tries_upload fit (Site.lasting_or lasting lasting') written) _ _

/-- A compose succeeds, however often it is applied. -/
theorem endures_compose (fit : site.Fit places schedule) (name : ObjectName) (data : Bytes)
    (filled : sources ≠ []) (few : sources.length ≤ Client.maxSources)
    (lasting : Site.Lasting places I) (lasting' : Site.Lasting places I')
    (gathers : ∀ store, I store ∨ I' store →
      Gathers (sources.map (site.store schedule).client.place) data store)
    (written : ∀ before after object, I before ∨ I' before → object.Records data →
      Sets places ((site.store schedule).client.place name) (some object) before after → I' after) :
    Endures schedule site.most (site.At I) ((site.store schedule).compose name sources)
      (Site.Succeeds (site.Answered ((site.store schedule).client.place name) data I')) :=
  Site.endures_repeated fit.unlimited (Client.minds_compose site schedule name sources none)
    (Site.tries_compose fit filled few (Site.lasting_or lasting lasting') gathers
      (fun _ _ _ none => nomatch none) written) _ _

/-- A delete succeeds, however often it is applied. -/
theorem endures_deleteIfExists (fit : site.Fit places schedule) (name : ObjectName)
    (lasting : Site.Lasting places I) (lasting' : Site.Lasting places I')
    (missing : ∀ store, I store →
      store.objects.get? ((site.store schedule).client.place name) = none → I' store)
    (removed : ∀ before after, I before ∨ I' before →
      Sets places ((site.store schedule).client.place name) none before after → I' after) :
    Endures schedule site.most (site.At I) ((site.store schedule).deleteIfExists name)
      (fun result world => ∃ existed, result = .ok existed ∧ site.At I' world) := by
  have gone : ∀ store, I store ∨ I' store →
      store.objects.get? ((site.store schedule).client.place name) = none → I' store :=
    fun store holds none => holds.elim (missing store · none) id
  refine Site.endures_repeated fit.unlimited ?_ (.bind
    (Site.tries_delete fit (Site.lasting_or lasting lasting') gone lasting' removed) ?_ ?_) _ _
  · refine .bind (Client.minds_delete site schedule name) ?_
    intro result
    cases result with
    | ok _ => exact .pure
    | error cause => exact .ite .pure .pure
  · -- a fault is not taken for a missing object
    intro cause passes
    have found : cause.isNotFound = false := by
      apply Decidable.byContradiction
      intro missing
      simp only [Bool.not_eq_false, RemoteError.isNotFound, beq_iff_eq] at missing
      cases passes.status 404 missing
    simp only [found, Bool.false_eq_true, ↓reduceIte]
  · intro result
    cases result with
    | ok _ => exact .pure fun world reached => ⟨true, rfl, reached.1⟩
    | error cause =>
        dsimp only
        split
        · exact .pure fun world reached => ⟨false, rfl, reached.1⟩
        · next other =>
            refine .pure ?_
            rintro world ⟨-, none | ⟨cause, same, missing⟩⟩
            · cases none
            · cases same
              exact absurd missing other

/-! ## Composing onto a source -/

/-- A compose onto a source was applied: the object in place has a later generation. -/
def Grew (place : Place) (generation : Nat) (data : Bytes) (I : Emulator → Prop) (store : Emulator) :
    Prop :=
  I store ∧ ∃ object : StoredObject, object.Records data ∧ generation < object.generation ∧
    store.objects.get? place = some object

theorem lasting_grew {place : Place} (own : place ∈ places) {generation : Nat}
    (lasting : Site.Lasting places I) : Site.Lasting places (Grew place generation data I) := by
  rintro before after ⟨holds, object, records, later, stored⟩ kept
  exact ⟨lasting before after holds kept, object, records, later,
    (kept.objects place own).trans stored⟩

/-- A compose onto an object of a known generation may begin: stores with one property have the sources,
and writing their bytes gives stores with another one. -/
structure Extends (places : List Place) (store : RemoteStore (Ordeal (Watch τ))) (name : ObjectName)
    (sources : List ObjectName) (generation : Nat) (data : Bytes) (I I' : Emulator → Prop) : Prop where
  own : store.client.place name ∈ places
  filled : sources ≠ []
  few : sources.length ≤ Client.maxSources
  small : data.length < Nat.pow 2 64
  lasting : Site.Lasting places I
  lasting' : Site.Lasting places I'
  old : ∀ now, I now → now.generationAt (store.client.place name) = generation ∧
    generation < now.nextGeneration
  gathers : ∀ now, I now → Gathers (sources.map store.client.place) data now
  written : ∀ before after object, I before → object.Records data →
    Sets places (store.client.place name) (some object) before after → I' after

variable {generation attempt : Nat}

/-- A fault is not taken for a generation that does not match. -/
theorem composeOnce_handed {cause : RemoteError} (passes : cause.Passes) (attempt : Nat) :
    ¬ (cause.failure.status? = some preconditionFailed ∧ 2 ≤ attempt) := by
  rintro ⟨refused, -⟩
  cases passes.status _ refused

/-- While the old object is in place, an attempt replaces it. -/
theorem tries_composeOnce (fit : site.Fit places schedule)
    (extending : Extends places (site.store schedule) name sources generation data I I')
    (attempt : Nat) :
    Site.Tries (site.At I)
      ((site.store schedule).composeOnce name sources (some (Numeral.decimal generation)) data.length
        attempt)
      (Site.Succeeds (site.Answered ((site.store schedule).client.place name) data I'))
      (site.At fun store =>
        I store ∨ Grew ((site.store schedule).client.place name) generation data I' store) := by
  refine .bind (Site.tries_compose fit extending.filled extending.few extending.lasting
    extending.gathers ?_ ?_) ?_ ?_
  · intro store holds asked same
    rw [(extending.old store holds).1]
    exact (Option.some.inj same).symm
  · intro before after object holds records sets
    obtain ⟨above, -⟩ := sets.fresh object rfl
    exact ⟨extending.written before after object holds records sets, object, records,
      Nat.lt_of_lt_of_le (extending.old before holds).2 above, sets.object⟩
  · intro cause passes
    dsimp only
    rw [if_neg (composeOnce_handed passes attempt)]
  · intro result
    cases result with
    | ok object =>
        refine .pure ?_
        rintro world ⟨answer, same, described, steady, holds, -⟩
        exact ⟨answer, same, described, steady, holds⟩
    | error cause =>
        rintro world ⟨answer, none, -⟩
        cases none

/-- An attempt after one that was applied finds the effect of that one. -/
theorem tries_composeOnce_grew (fit : site.Fit places schedule)
    (extending : Extends places (site.store schedule) name sources generation data I I')
    (late : 2 ≤ attempt) :
    Site.Tries (site.At (Grew ((site.store schedule).client.place name) generation data I'))
      ((site.store schedule).composeOnce name sources (some (Numeral.decimal generation)) data.length
        attempt)
      (Site.Succeeds (site.Answered ((site.store schedule).client.place name) data I'))
      (site.At (Grew ((site.store schedule).client.place name) generation data I')) := by
  have still : Site.Lasting places
      (Grew ((site.store schedule).client.place name) generation data I') :=
    lasting_grew extending.own extending.lasting'
  refine .bind (Site.tries_compose_other fit extending.filled extending.few still ?_) ?_ ?_
  · rintro store ⟨-, object, -, later, stored⟩
    rw [generationAt, stored]
    exact Nat.ne_of_lt later
  · intro cause passes
    dsimp only
    rw [if_neg (composeOnce_handed passes attempt)]
  · intro result
    cases result with
    | ok object =>
        rintro world ⟨-, cause, none, -⟩
        cases none
    | error cause =>
        dsimp only
        split
        · -- the generation asked for is gone; the object in place has the size that was to be reached
          have present : ∀ now, Grew ((site.store schedule).client.place name) generation data I' now →
              ∃ object : StoredObject, object.Records data ∧
                now.objects.get? ((site.store schedule).client.place name) = some object := by
            rintro now ⟨-, object, records, -, stored⟩
            exact ⟨object, records, stored⟩
          refine .bind ((Site.tries_object fit still present).mono (fun world reached => reached.1)
            fun _ reached => reached) (fun _ _ => rfl) ?_
          intro found
          cases found with
          | error other =>
              rintro world ⟨object, -, -, none⟩
              cases none
          | ok current =>
              rintro world ⟨object, records, ⟨steady, holds, -⟩, same⟩
              cases same
              have size : (object.metadata ((site.store schedule).client.place name)).sizeBytes? =
                  some data.length := by
                rw [← records.data]
                exact StoredObject.sizeBytes?_metadata _ (by rw [records.data]; exact extending.small)
              dsimp only
              rw [if_pos size]
              exact .inl ⟨rfl, _, rfl, records.ungenerated _, steady, holds⟩
        · next other =>
            rintro world ⟨reached, cause, same, refused⟩
            cases same
            exact absurd ⟨refused, late⟩ other

/-- A compose onto a source succeeds: an attempt that was applied without an answer is found out. -/
theorem endures_composeReplacing (fit : site.Fit places schedule)
    (extending : Extends places (site.store schedule) name sources generation data I I') :
    Endures schedule site.most (site.At I)
      ((site.store schedule).composeReplacing name sources (some (Numeral.decimal generation))
        data.length)
      (Site.Succeeds (site.Answered ((site.store schedule).client.place name) data I')) := by
  have attempt : ∀ number, 1 ≤ number → Site.Tries
      (site.At fun store => I store ∨ 2 ≤ number ∧
        Grew ((site.store schedule).client.place name) generation data I' store)
      ((site.store schedule).composeOnce name sources (some (Numeral.decimal generation)) data.length
        number)
      (Site.Succeeds (site.Answered ((site.store schedule).client.place name) data I'))
      (site.At fun store => I store ∨ 2 ≤ number + 1 ∧
        Grew ((site.store schedule).client.place name) generation data I' store) := by
    intro number first
    rintro world ⟨steady, holds | ⟨late, holds⟩⟩
    · refine (tries_composeOnce fit extending number).mono (fun _ start => start) ?_ world ⟨steady, holds⟩
      exact fun _ reached => ⟨reached.1, reached.2.imp id fun grew => ⟨by omega, grew⟩⟩
    · refine (tries_composeOnce_grew fit extending late).mono (fun _ start => start) ?_ world
        ⟨steady, holds⟩
      exact fun _ reached => ⟨reached.1, .inr ⟨by omega, reached.2⟩⟩
  have endures := Site.endures_run fit.unlimited
    (minds_composeOnce site schedule name sources (some (Numeral.decimal generation)) data.length)
    attempt .compose name.text
  refine endures.mono ?_ fun _ _ ended => ended
  exact fun world start => ⟨start.1, .inl start.2⟩

end RemoteStore

end RecordSink
