import RecordSink.Proofs.Ordeal.Calls

/-!
# Calm stores

A store without faults and without other clients, asked with one credential. Where it took one upload,
it takes the next one at the first attempt, whatever the object is called and holds.
-/

namespace RecordSink

open Emulator Ordeal

variable {τ α : Type}

/-! ## Requests -/

namespace Emulator

/-- What comes of a request without a fault. -/
def calmly (request : Http.Request) (store : Emulator) : Http.Outcome × Emulator :=
  store.exchangeWith (fun _ store => (none, store)) request

variable {request : Http.Request} {store : Emulator} {bucket name : String}

/-- A request that is not authorized is refused. -/
theorem calmly_of_not_authorized (refused : store.isAuthorized request = false) :
    ∃ response, (store.calmly request).1 = .ok response ∧ response.isSuccess = false := by
  have turned : (store.record request (Route.ofRequest request.method request.url)).isAuthorized
      request = false := refused
  rw [calmly, exchangeWith, if_pos (by rw [turned]; rfl)]
  exact ⟨_, rfl, rfl⟩

/-- A request that is authorized is settled as it is routed. -/
theorem calmly_of_authorized (authorized : store.isAuthorized request = true) {route : Route}
    (routed : Route.ofRequest request.method request.url = route) :
    store.calmly request = match route.operation? with
      | none => (.ok (refusal 400 "Unsupported request"), store.record request route)
      | some _ => (store.record request route).settle none route (request.body.getD []) := by
  have passed : (store.record request (Route.ofRequest request.method request.url)).isAuthorized
      request = true := authorized
  rewrite [calmly, exchangeWith, if_neg (by rw [passed]; decide), routed]
  cases route.operation? <;> rfl

/-- An upload that the store took was authorized and routed, and the bucket exists. -/
theorem of_calmly_upload {response : Http.Response}
    (routed : Route.ofRequest request.method request.url = .upload bucket (some name) ∨
      Route.ofRequest request.method request.url = .unknown)
    (answered : (store.calmly request).1 = .ok response) (success : response.isSuccess = true) :
    store.isAuthorized request = true ∧
      Route.ofRequest request.method request.url = .upload bucket (some name) ∧
      bucket ∈ store.buckets := by
  cases authorized : store.isAuthorized request with
  | false =>
      obtain ⟨other, refused, failed⟩ := calmly_of_not_authorized authorized
      cases refused.symm.trans answered
      cases failed.symm.trans success
  | true =>
      rcases routed with same | same
      · refine ⟨rfl, same, ?_⟩
        apply Decidable.byContradiction
        intro missing
        have absent : bucket ∉ (store.record request (.upload bucket (some name))).buckets := missing
        rw [calmly_of_authorized authorized same] at answered
        dsimp only [Route.operation?, settle, apply, applyUpload] at answered
        rw [if_pos absent] at answered
        cases answered
        cases success
      · rw [calmly_of_authorized authorized same] at answered
        cases answered
        cases success

/-- The store takes an upload that is authorized and routed, into a bucket that exists. -/
theorem calmly_upload (authorized : store.isAuthorized request = true)
    (routed : Route.ofRequest request.method request.url = .upload bucket (some name))
    (known : bucket ∈ store.buckets) :
    ∃ object : StoredObject, object.generation = store.nextGeneration ∧
      (store.calmly request).1 = .ok (answer (object.metadata ⟨bucket, name⟩).toJson) ∧
      (store.calmly request).2.objects.get? ⟨bucket, name⟩ = some object ∧
      (store.calmly request).2.buckets = store.buckets ∧
      (store.calmly request).2.requiredToken = store.requiredToken := by
  have present : ¬ bucket ∉ (store.record request (.upload bucket (some name))).buckets :=
    not_not_intro known
  refine ⟨⟨request.body.getD [], defaultType, store.nextGeneration⟩, rfl, ?_⟩
  rw [calmly_of_authorized authorized routed]
  dsimp only [Route.operation?, settle, apply, applyUpload]
  rw [if_neg present]
  refine ⟨rfl, ?_, rfl, rfl⟩
  dsimp only [stored, write]
  rw [(alike_counted _ _).objects, Objects.get?_insert, if_pos rfl]
  rfl

end Emulator

namespace Ordeal

/-- The schedule without other clients and without faults. -/
def calm : Schedule := fun _ => .calm

theorem calm_spares (places : List Place) : calm.Spares places := fun _ => Turn.calm_spares places

end Ordeal

/-! ## Clients -/

namespace Client

/-- A client of a calm store, with one credential. -/
structure IsCalm (credential : Credential) (client : Client (Ordeal τ)) : Prop where
  addressed : client.IsAddressed
  link : client.link = Ordeal.link calm
  credentials : client.credentials = Ordeal.credentials (.fixed credential)

/-- The store takes every upload of a client. -/
structure IsAdmitted {W : Type} (client : Client W) (credential : Credential) (store : Emulator) :
    Prop where
  authorized : ∀ name body, store.isAuthorized
    ((client.uploadRequest name recordType body).withHeaders credential.headers) = true
  routed : ∀ name,
    Route.ofRequest .post (client.uploadUrl name) = .upload client.bucket (some name.text)
  bucket : client.bucket ∈ store.buckets

variable {client : Client (Ordeal τ)} {credential : Credential}

/-- What a calm client sees of a request. -/
theorem IsCalm.exchange_eq (calm : client.IsCalm credential) (request : Http.Request)
    (world : Ordeal τ) :
    client.exchange request world =
      let moment := Turn.calm.moment (request.withHeaders credential.headers) world.history.store
      (match moment.outcome with
        | .error cause => .error ⟨cause.isTransient, .link cause.message⟩
        | .ok response =>
            if response.isSuccess then .ok response
            else .error (.ofStatus response.status response.text),
        { world with history := world.history.next moment }) := by
  rw [Client.exchange, calm.link, calm.credentials]
  show (match (Turn.calm.moment (request.withHeaders credential.headers) world.history.store).outcome with
    | .error cause => _
    | .ok response => _ : StateM (Ordeal τ) (Except RemoteError Http.Response)) _ = _
  dsimp only
  cases happened : (Turn.calm.moment (request.withHeaders credential.headers) world.history.store).outcome with
  | error cause => rfl
  | ok response =>
      dsimp only
      cases response.isSuccess <;> rfl

/-- An upload is an exchange whose response is read. -/
theorem upload_apply (client : Client (Ordeal τ)) (name : ObjectName) (contentType : String)
    (body : Bytes) (world : Ordeal τ) :
    client.upload name contentType body world =
      (readBody ObjectMetadata.read?
        (client.exchange (client.uploadRequest name contentType body) world).1,
        (client.exchange (client.uploadRequest name contentType body) world).2) := rfl

/-- Admission depends on the buckets and on the token alone. -/
theorem IsAdmitted.of_eq {W : Type} {client : Client W} {before after : Emulator}
    (admitted : client.IsAdmitted credential before) (buckets : after.buckets = before.buckets)
    (token : after.requiredToken = before.requiredToken) : client.IsAdmitted credential after := by
  refine ⟨?_, admitted.routed, ?_⟩
  · intro name body
    rw [isAuthorized, token]
    exact admitted.authorized name body
  · rw [buckets]
    exact admitted.bucket

/-- An upload that succeeds shows that all of them do. -/
theorem IsCalm.isAdmitted_of_upload (calm : client.IsCalm credential) {name : ObjectName} {body : Bytes}
    {world after : Ordeal τ} {object : ObjectMetadata}
    (uploaded : client.upload name recordType body world = (.ok object, after)) :
    client.IsAdmitted credential after.history.store := by
  rw [upload_apply, calm.exchange_eq] at uploaded
  obtain ⟨read, rfl⟩ := Prod.mk.inj uploaded
  dsimp only at read ⊢
  cases answered : (world.history.store.calmly
    ((client.uploadRequest name recordType body).withHeaders credential.headers)).1 with
  | error cause =>
      rw [show (Turn.calm.moment _ world.history.store).outcome = _ from answered] at read
      cases read
  | ok response =>
      rw [show (Turn.calm.moment _ world.history.store).outcome = _ from answered] at read
      dsimp only at read
      cases success : response.isSuccess with
      | false =>
          rw [success] at read
          cases read
      | true =>
          have routes := ofRequest_uploadUrl calm.addressed
          obtain ⟨authorized, routed, known⟩ :=
            of_calmly_upload (routes.imp (· name) (· name)) answered success
          rcases routes with every | none
          · obtain ⟨-, -, -, -, buckets, token⟩ := calmly_upload authorized routed known
            have before : client.IsAdmitted credential world.history.store :=
              ⟨fun _ _ => authorized, every, known⟩
            exact before.of_eq buckets token
          · cases routed.symm.trans (none name)

/-- An admitted upload succeeds, and its object has the next generation. -/
theorem IsCalm.upload_eq (calm : client.IsCalm credential) (name : ObjectName) (body : Bytes)
    {world : Ordeal τ} (admitted : client.IsAdmitted credential world.history.store) :
    ∃ metadata moment, client.upload name recordType body world =
        (.ok metadata, { world with history := world.history.next moment }) ∧
      ∃ object, moment.store.objects.get? (client.place name) = some object ∧
        object.generation = world.history.store.nextGeneration := by
  obtain ⟨object, generation, answered, stored, -, -⟩ :=
    calmly_upload (admitted.authorized name body) (admitted.routed name) admitted.bucket
  refine ⟨object.metadata (client.place name), Turn.calm.moment
    ((client.uploadRequest name recordType body).withHeaders credential.headers) world.history.store,
    ?_, object, stored, generation⟩
  rw [upload_apply, calm.exchange_eq]
  dsimp only
  rw [show (Turn.calm.moment _ world.history.store).outcome = _ from answered]
  dsimp only
  rw [if_pos (isSuccess_answer _), readBody]
  dsimp only [answer]
  rw [ObjectMetadata.read?_render]
  rfl

end Client

/-! ## Attempts -/

/-- A first attempt that succeeds is the last one. -/
theorem Retry.run_of_ok {clock : Clock τ} {policy : RetryPolicy}
    {call : Nat → StateM (Ordeal τ) (Except RemoteError α)} {world after : Ordeal τ} {value : α}
    (first : call 1 { world with rest := (clock.now world.rest).2 } = (.ok value, after))
    (operation : Operation) (object : String) :
    run (Ordeal.clock clock) policy operation object call world = (.ok value, after) := by
  have once : ∀ started left, attempts (Ordeal.clock clock) policy started call left 1
      { world with rest := (clock.now world.rest).2 } = ((.ok value, 1), after) := by
    intro started left
    cases left with
    | zero =>
        simp only [attempts, bind, StateT.bind, first]
        rfl
    | succ left =>
        simp only [attempts, bind, StateT.bind, first]
        rfl
  have started : (Ordeal.clock clock).now world =
      ((clock.now world.rest).1, { world with rest := (clock.now world.rest).2 }) := rfl
  rw [run]
  simp only [bind, StateT.bind, started, once]
  rfl

/-! ## Stores -/

namespace RemoteStore

/-- A store that is calm, with any clock. -/
structure IsCalm (credential : Credential) (store : RemoteStore (Ordeal τ)) : Prop where
  client : store.client.IsCalm credential
  clock : ∃ clock, store.clock = Ordeal.clock clock

variable {store : RemoteStore (Ordeal τ)} {credential : Credential} {name : ObjectName} {body : Bytes}

theorem IsCalm.isTried (calm : store.IsCalm credential) (places : List Place) : store.IsTried places :=
  ⟨⟨calm.client.addressed, ⟨_, calm_spares places, calm.client.link⟩, ⟨_, calm.client.credentials⟩⟩,
    calm.clock⟩

theorem IsCalm.grows_compose (calm : store.IsCalm credential) (sources : List ObjectName) :
    Grows (store.compose name sources) := by
  have passes : Passes (Asking (fun _ => True) _) _ (store.compose name sources)
      (Settled _ fun _ _ => True) :=
    passes_compose (calm.isTried (store.client.place name :: sources.map store.client.place)).lent
      (List.mem_cons_self ..) (fun source inside => List.mem_cons_of_mem _ (List.mem_map_of_mem inside))
      (fun _ _ _ _ => trivial) fun _ _ _ _ _ _ _ _ => ⟨trivial, trivial⟩
  exact passes.grows

theorem IsCalm.grows_deleteIfExists (calm : store.IsCalm credential) :
    Grows (store.deleteIfExists name) := by
  have passes : Passes (Asking (fun _ => True) _) _ (store.deleteIfExists name)
      (Settled _ fun _ _ => True) :=
    passes_deleteIfExists (calm.isTried []).lent (fun _ _ _ _ => trivial) fun _ _ _ _ _ => trivial
  exact passes.grows

/-- An upload that succeeds shows that all of them do. -/
theorem IsCalm.isAdmitted_of_upload (calm : store.IsCalm credential) {world after : Ordeal τ}
    {object : ObjectMetadata} (uploaded : store.upload name body world = (.ok object, after)) :
    store.client.IsAdmitted credential after.history.store := by
  have attempt : Passes (fun _ _ => True) (fun _ => True)
      (store.client.upload name Client.recordType body)
      (Settled (fun _ => True) fun _ history => store.client.IsAdmitted credential history.store) := by
    intro world _
    have tried : Passes (Asking (fun _ => True) _) _ (store.client.upload name Client.recordType body)
        (Settled _ fun _ _ => True) :=
      Client.passes_upload (calm.isTried []).lent.client (fun _ _ _ _ => trivial)
        fun _ _ _ _ _ _ => ⟨trivial, trivial⟩
    refine ⟨(tried world trivial).1.mono fun _ _ _ => trivial, trivial, ?_⟩
    intro object done
    exact calm.client.isAdmitted_of_upload (Prod.ext done rfl)
  obtain ⟨clock, ticking⟩ := calm.clock
  rw [upload, ticking] at uploaded
  have ran : Passes _ _ (Retry.run (Ordeal.clock clock) store.policy _ _ _) _ :=
    Retry.passes_run (fun _ => attempt) .upload name.text
  obtain ⟨-, -, done⟩ := ran world trivial
  rw [uploaded] at done
  exact done object rfl

/-- An admitted upload passes one moment, after which its object has the next generation. -/
theorem IsCalm.passes_upload (calm : store.IsCalm credential) {start : History}
    (admitted : store.client.IsAdmitted credential start.store) :
    Passes (fun _ _ => True) (fun history => history = start) (store.upload name body)
      fun _ history => ∃ moment, history.moments = moment :: start.moments ∧
        ∃ object, moment.store.objects.get? (store.client.place name) = some object ∧
          object.generation = start.store.nextGeneration := by
  rintro world rfl
  obtain ⟨clock, ticking⟩ := calm.clock
  rw [upload, ticking]
  obtain ⟨metadata, moment, first, written⟩ := calm.client.upload_eq name body
    (show store.client.IsAdmitted credential ({ world with rest := (clock.now world.rest).2 } :
      Ordeal τ).history.store from admitted)
  rw [Retry.run_of_ok first]
  exact ⟨.next .done trivial, moment, rfl, written⟩

end RemoteStore

end RecordSink
