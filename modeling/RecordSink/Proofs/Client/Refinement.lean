import RecordSink.Proofs.Emulator.Quiet
import RecordSink.Proofs.Ordeal.Endurance
import RecordSink.Proofs.Sink.Connected

/-!
# A store of objects by their names

Behind an endpoint without a path, a client and a store without pending faults are a store of objects by
their names: each call has the one effect that it names, whatever characters the names consist of, and its
answer describes the object in the store.
-/

namespace RecordSink

open Emulator

/-- Of all objects, the one at a place becomes the given one or is removed. -/
def Emulator.Updates (place : Place) (value : Option StoredObject) (before after : Emulator) : Prop :=
  ∀ other, after.objects.get? other = if other = place then value else before.objects.get? other

/-- A store without pending faults that has the bucket of a client and accepts its credential. -/
structure Emulator.Serves (store : Emulator) (client : Client Emulator) : Prop where
  link : client.link = Emulator.link
  credentials : ∃ credential, client.credentials = .fixed credential ∧ credential.Opens store
  bucket : client.bucket ∈ store.buckets
  quiet : store.IsQuiet

namespace Client

/-- A client with a valid bucket name behind an endpoint that consists of a scheme and an authority. -/
structure IsBare {W : Type} (client : Client W) : Prop where
  bucket : Config.checkBucket client.bucket = .ok ()
  scheme : client.endpoint.scheme = "http" ∨ client.endpoint.scheme = "https"
  path : client.endpoint.path = .rooted "/"
  query : client.endpoint.query = none

theorem IsBare.reaches {W : Type} {client : Client W} (bare : client.IsBare) : client.Reaches := by
  refine reaches_of_bare ⟨?_, ?_, Config.isSegment_bucket bare.bucket⟩ bare.path bare.query
  · rw [Url.isBase, bare.path]
  · rcases bare.scheme with http | https
    · rw [http]
      decide
    · rw [https]
      decide

variable {client : Client Emulator} {store : Emulator} {name : ObjectName}

/-! ## One request -/

/-- What a client makes of a request to an emulated store. -/
theorem exchange_eq (linked : client.link = Emulator.link) {credential : Credential}
    (fixed : client.credentials = .fixed credential) (request : Http.Request) (store : Emulator) :
    client.exchange request store =
      let answered := store.exchange (request.withHeaders credential.headers)
      (verdict answered.1, answered.2) := by
  have handed : (CredentialSource.fixed credential).obtain store = (.ok credential, store) := rfl
  rw [exchange, fixed, linked]
  simp only [Emulator.link, bind, StateT.bind, handed]
  cases (store.exchange (request.withHeaders credential.headers)).1 with
  | error cause => rfl
  | ok response =>
      dsimp only [verdict]
      split <;> rfl

/-- A store that serves a client applies its requests, answers them, and goes on to serve it. -/
theorem exchange_serves (serves : store.Serves client) {request : Http.Request} {route : Route}
    (plain : request.header? "authorization" = none)
    (routed : Route.ofRequest request.method request.url = route) (known : route.operation?.isSome) :
    ∃ reached after, Alike store reached ∧
      client.exchange request store =
        (verdict (.ok (reached.apply route (request.body.getD [])).1), after) ∧
      Alike (reached.apply route (request.body.getD [])).2 after ∧ after.Serves client := by
  obtain ⟨credential, fixed, opens⟩ := serves.credentials
  obtain ⟨reached, quiet, objects, nextGeneration, buckets, token, exchanged⟩ :=
    serves.quiet.exchange_eq (opens request plain) routed known
  have lets : Lets store reached := ⟨buckets, token⟩
  have settled := lets.trans (lets_settle none route (request.body.getD []) reached)
  have bucket : client.bucket ∈ (reached.settle none route (request.body.getD [])).2.buckets := by
    rw [settled.buckets]
    exact serves.bucket
  rw [exchange_eq serves.link fixed, exchanged]
  exact ⟨reached, _, ⟨objects, nextGeneration, buckets⟩, rfl, alike_counted _ _, serves.link,
    ⟨credential, fixed, opens.lets settled⟩, bucket, quiet.settle route _⟩

/-! ## Calls -/

/-- A call wrote an object: the answer describes it, and nothing else has changed. -/
structure Wrote (client : Client Emulator) (name : ObjectName) (data : Bytes) (before : Emulator)
    (outcome : Except RemoteError ObjectMetadata × Emulator) : Prop where
  updates : ∃ object : StoredObject, object.data = data ∧
    Updates (client.place name) (some object) before outcome.2 ∧
    outcome.1 = .ok (object.metadata (client.place name))
  serves : outcome.2.Serves client

/-- A call failed for good with a status, and nothing has changed. -/
structure Refused {α : Type} (client : Client Emulator) (status : Nat) (before : Emulator)
    (outcome : Except RemoteError α × Emulator) : Prop where
  refusal : ∃ cause : RemoteError, outcome.1 = .error cause ∧ cause.retriable = false ∧
    cause.failure.status? = some status
  same : outcome.2.objects = before.objects
  serves : outcome.2.Serves client

/-- Where a store applies a request by writing an object, the client has written it. -/
theorem wrote_of_stored (serves : store.Serves client) (request : Http.Request) {route : Route}
    (plain : request.header? "authorization" = none)
    (routed : Route.ofRequest request.method request.url = route) (known : route.operation?.isSome)
    {data : Bytes}
    (applied : ∀ reached : Emulator, Alike store reached → ∃ contentType stats,
      reached.apply route (request.body.getD []) =
        stored (client.place name) data contentType { reached with stats }) :
    client.Wrote name data store
      (readBody ObjectMetadata.read? (client.exchange request store).1,
        (client.exchange request store).2) := by
  obtain ⟨reached, after, alike, exchanged, effect, served⟩ := exchange_serves serves plain routed known
  obtain ⟨contentType, stats, written⟩ := applied reached alike
  rw [written] at exchanged effect
  rw [exchanged]
  refine ⟨⟨⟨data, contentType, reached.nextGeneration⟩, rfl, ?_, readBody_answer _⟩, served⟩
  intro other
  dsimp only [stored, write] at effect
  rw [effect.objects, Objects.get?_insert, alike.objects]

/-- Where a store refuses a request and stays as it is, the client has been refused. -/
theorem refused_of_refusal {α : Type} (serves : store.Serves client) (request : Http.Request)
    {route : Route} (plain : request.header? "authorization" = none)
    (routed : Route.ofRequest request.method request.url = route) (known : route.operation?.isSome)
    {status : Nat} (failed : Http.isSuccess status = false) (final : isRetriableStatus status = false)
    (refused : ∀ reached : Emulator, Alike store reached → ∃ message,
      reached.apply route (request.body.getD []) = (refusal status message, reached))
    (conclude : Except RemoteError Http.Response → Except RemoteError α)
    (hands : ∀ cause, conclude (.error cause) = .error cause) :
    client.Refused status store
      (conclude (client.exchange request store).1, (client.exchange request store).2) := by
  obtain ⟨reached, after, alike, exchanged, effect, served⟩ := exchange_serves serves plain routed known
  obtain ⟨message, answered⟩ := refused reached alike
  rw [answered] at exchanged effect
  have told : verdict (.ok (refusal status message)) =
      .error (.ofStatus status (refusal status message).text) := by
    have unsuccessful : (refusal status message).isSuccess = false := failed
    rw [verdict, unsuccessful]
    rfl
  rw [exchanged, told]
  exact ⟨⟨_, hands _, final, rfl⟩, effect.objects.trans alike.objects, served⟩

theorem wrote_upload (bare : client.IsBare) (serves : store.Serves client) (name : ObjectName)
    (contentType : String) (body : Bytes) :
    client.Wrote name body store (client.upload name contentType body store) := by
  refine wrote_of_stored serves (client.uploadRequest name contentType body) rfl
    (bare.reaches.upload name) rfl ?_
  intro reached alike
  have bucket : client.bucket ∈ reached.buckets := by
    rw [alike.buckets]
    exact serves.bucket
  exact ⟨_, _, apply_upload bucket body⟩

theorem wrote_compose (bare : client.IsBare) (serves : store.Serves client) (name : ObjectName)
    {sources : List ObjectName} (filled : sources ≠ []) (few : sources.length ≤ maxSources)
    (contentType : String) {generation : Option String}
    (met : ∀ asked, generation = some asked →
      asked = Numeral.decimal (store.generationAt (client.place name))) {pieces : List Bytes}
    (gathered : store.gather (sources.map client.place) = .ok pieces) :
    client.Wrote name pieces.flatten store (client.compose name sources contentType generation store) := by
  rw [compose_eq client name filled few contentType generation]
  refine wrote_of_stored serves (client.composeRequest name sources contentType generation) rfl
    (bare.reaches.compose name generation) rfl ?_
  intro reached alike
  have bucket : client.bucket ∈ reached.buckets := by
    rw [alike.buckets]
    exact serves.bucket
  have kept : Keeps (client.place name :: sources.map client.place) store reached := alike.keeps
  refine ⟨_, _, apply_compose bucket ?_ (by simpa using filled) ?_ contentType⟩
  · intro asked same
    rw [met asked same]
    exact congrArg _ (kept.generationAt List.mem_cons_self).symm
  · rw [List.map_map]
    exact (kept.gather fun _ inside => List.mem_cons_of_mem _ inside).trans gathered

theorem refused_compose (bare : client.IsBare) (serves : store.Serves client) (name : ObjectName)
    {sources : List ObjectName} (filled : sources ≠ []) (few : sources.length ≤ maxSources)
    (contentType : String) {asked : String}
    (stale : asked ≠ Numeral.decimal (store.generationAt (client.place name))) :
    client.Refused RemoteStore.preconditionFailed store
      (client.compose name sources contentType (some asked) store) := by
  rw [compose_eq client name filled few contentType (some asked)]
  refine refused_of_refusal serves (client.composeRequest name sources contentType (some asked)) rfl
    (bare.reaches.compose name (some asked)) rfl rfl rfl ?_ (readBody ObjectMetadata.read?) fun _ => rfl
  intro reached alike
  have bucket : client.bucket ∈ reached.buckets := by
    rw [alike.buckets]
    exact serves.bucket
  have kept : Keeps [client.place name] store reached := alike.keeps
  apply apply_compose_other bucket
  rw [← kept.generationAt List.mem_cons_self] at stale
  exact stale

/-- Objects are not gathered where one of them does not exist. -/
theorem gather_of_missing {places : List Place} {place : Place} (among : place ∈ places)
    (absent : store.objects.get? place = none) : ∃ missing, store.gather places = .error missing := by
  induction places with
  | nil => cases among
  | cons first rest ih =>
      rw [gather]
      rcases List.mem_cons.mp among with rfl | later
      · exact ⟨place, by rw [absent]⟩
      · obtain ⟨missing, failed⟩ := ih later
        rw [failed]
        split
        · exact ⟨first, rfl⟩
        · exact ⟨missing, rfl⟩

/-- A compose with a source that does not exist fails for good. -/
theorem refused_compose_missing (bare : client.IsBare) (serves : store.Serves client) (name : ObjectName)
    {sources : List ObjectName} (few : sources.length ≤ maxSources) (contentType : String)
    {generation : Option String}
    (met : ∀ asked, generation = some asked →
      asked = Numeral.decimal (store.generationAt (client.place name)))
    {source : ObjectName} (among : source ∈ sources)
    (absent : store.objects.get? (client.place source) = none) :
    client.Refused 404 store (client.compose name sources contentType generation store) := by
  have filled : sources ≠ [] := List.ne_nil_of_mem among
  obtain ⟨missing, failed⟩ := gather_of_missing (List.mem_map_of_mem among) absent
  rw [compose_eq client name filled few contentType generation]
  refine refused_of_refusal serves (client.composeRequest name sources contentType generation) rfl
    (bare.reaches.compose name generation) rfl rfl rfl ?_ (readBody ObjectMetadata.read?) fun _ => rfl
  intro reached alike
  have bucket : client.bucket ∈ reached.buckets := by
    rw [alike.buckets]
    exact serves.bucket
  have kept : Keeps (client.place name :: sources.map client.place) store reached := alike.keeps
  have gathered : reached.gather ((sources.map ObjectName.text).map fun source => ⟨client.bucket, source⟩) =
      .error missing := by
    rw [List.map_map]
    exact (kept.gather fun _ inside => List.mem_cons_of_mem _ inside).trans failed
  refine ⟨_, apply_compose_missing bucket ?_ (by simpa using filled) gathered contentType⟩
  intro asked same
  rw [met asked same]
  exact congrArg _ (kept.generationAt List.mem_cons_self).symm

/-- Too few or too many sources are refused without a request. -/
theorem compose_of_count (client : Client Emulator) (name : ObjectName) {sources : List ObjectName}
    (count : sources.length = 0 ∨ maxSources < sources.length) (contentType : String)
    (generation : Option String) (store : Emulator) :
    ∃ cause, client.compose name sources contentType generation store = (.error cause, store) := by
  rw [compose, if_pos count]
  exact ⟨_, rfl⟩

/-- A delete makes nothing of the response but that there is one. -/
theorem delete_eq (client : Client Emulator) (name : ObjectName) (store : Emulator) :
    client.delete name store =
      let exchanged := client.exchange (.plain .delete (client.objectUrl name)) store
      (exchanged.1.map fun _ => (), exchanged.2) := by
  rw [delete]
  simp only [bind, StateT.bind]
  rcases client.exchange (.plain .delete (client.objectUrl name)) store with ⟨result, after⟩
  cases result <;> rfl

/-- A delete of an object that exists removes it, and nothing else. -/
theorem deleted (bare : client.IsBare) (serves : store.Serves client) (name : ObjectName)
    {object : StoredObject} (found : store.objects.get? (client.place name) = some object) :
    (client.delete name store).1 = .ok () ∧
      Updates (client.place name) none store (client.delete name store).2 ∧
      (client.delete name store).2.Serves client := by
  have plain : (Http.Request.plain .delete (client.objectUrl name)).header? "authorization" = none := rfl
  obtain ⟨reached, after, alike, exchanged, effect, served⟩ :=
    exchange_serves serves plain (bare.reaches.delete name) rfl
  have inPlace : reached.objects.get? ⟨client.bucket, name.text⟩ = some object := by
    rw [alike.objects]
    exact found
  rw [apply, applyDelete, inPlace] at exchanged effect
  rw [delete_eq, exchanged]
  refine ⟨rfl, ?_, served⟩
  intro other
  dsimp only at effect ⊢
  rw [effect.objects, Objects.get?_erase, alike.objects]
  rfl

/-- A delete of an object that does not exist fails for good. -/
theorem refused_delete (bare : client.IsBare) (serves : store.Serves client) (name : ObjectName)
    (missing : store.objects.get? (client.place name) = none) :
    client.Refused 404 store (client.delete name store) := by
  rw [delete_eq]
  refine refused_of_refusal serves (.plain .delete (client.objectUrl name)) rfl
    (bare.reaches.delete name) rfl rfl rfl ?_ (Except.map fun _ => ()) fun _ => rfl
  intro reached alike
  have absent : reached.objects.get? ⟨client.bucket, name.text⟩ = none := by
    rw [alike.objects]
    exact missing
  rw [apply, applyDelete, absent]
  exact ⟨_, rfl⟩

/-- A request for what is known of an object changes nothing, and the answer describes the object. -/
theorem described (bare : client.IsBare) (serves : store.Serves client) (name : ObjectName) :
    (client.object name store).2.objects = store.objects ∧
      (client.object name store).2.Serves client ∧
      ∀ object, store.objects.get? (client.place name) = some object →
        (client.object name store).1 = .ok (object.metadata (client.place name)) := by
  have plain : (Http.Request.plain .get (client.objectUrl name)).header? "authorization" = none := rfl
  obtain ⟨reached, after, alike, exchanged, effect, served⟩ :=
    exchange_serves serves plain (bare.reaches.object name) rfl
  have asked : client.object name store =
      (readBody ObjectMetadata.read? (client.exchange (.plain .get (client.objectUrl name)) store).1,
        (client.exchange (.plain .get (client.objectUrl name)) store).2) := rfl
  have untouched : (reached.apply (.getObject client.bucket name.text) []).2 = reached := by
    rw [apply]
    split <;> rfl
  rw [asked, exchanged]
  refine ⟨?_, served, ?_⟩
  · exact effect.objects.trans ((congrArg Emulator.objects untouched).trans alike.objects)
  · intro object found
    have inPlace : reached.objects.get? ⟨client.bucket, name.text⟩ = some object := by
      rw [alike.objects]
      exact found
    dsimp only
    rw [apply_object inPlace]
    exact readBody_answer _

/-- A request for what is known of an object that does not exist fails for good. -/
theorem refused_object (bare : client.IsBare) (serves : store.Serves client) (name : ObjectName)
    (absent : store.objects.get? (client.place name) = none) :
    client.Refused 404 store (client.object name store) := by
  refine refused_of_refusal serves (.plain .get (client.objectUrl name)) rfl (bare.reaches.object name) rfl rfl
    rfl ?_ (readBody ObjectMetadata.read?) fun _ => rfl
  intro reached alike
  have missing : reached.objects.get? ⟨client.bucket, name.text⟩ = none := by
    rw [alike.objects]
    exact absent
  rw [apply, missing]
  exact ⟨_, rfl⟩

/-- Objects that exist are gathered. -/
theorem gather_of_objects {sources : List ObjectName} {pieces : List Bytes}
    (found : (sources.map fun source => store.object? (client.place source)) = pieces.map some) :
    store.gather (sources.map client.place) = .ok pieces := by
  induction sources generalizing pieces with
  | nil =>
      cases pieces with
      | nil => rfl
      | cons piece rest => cases found
  | cons source rest ih =>
      cases pieces with
      | nil => cases found
      | cons piece more =>
          rw [List.map_cons, List.map_cons, List.cons.injEq, object?, Option.map_eq_some_iff] at found
          obtain ⟨⟨object, here, rfl⟩, others⟩ := found
          rw [List.map_cons, gather, here, ih others]
          rfl

/-- Only the current generation is asked for. -/
theorem met_of_current {generation : Option String} {current : String}
    (known : generation = none ∨ generation = some current) :
    ∀ asked, generation = some asked → asked = current := by
  intro asked same
  rcases known with none | known
  · cases none.symm.trans same
  · exact Option.some.inj (same.symm.trans known)

/-- A client behind a bare endpoint and a store that serves it are a store of objects by their names. An
upload writes its body and a compose the concatenation of its sources under the name that is given, a delete
removes the object, and a request for what is known of it changes nothing; each answer describes the object
in the store. A compose that asks for another generation, or with too few or too many sources or one that does not
exist, and a delete of an object that does not exist or a request for it fail and change nothing. -/
theorem refines_objects (client : Client Emulator) (bare : client.IsBare) (store : Emulator)
    (serves : store.Serves client) :
    (∀ name contentType body,
      client.Wrote name body store (client.upload name contentType body store)) ∧
    (∀ name (sources : List ObjectName) contentType generation (pieces : List Bytes),
      1 ≤ sources.length → sources.length ≤ 32 →
      (sources.map fun source => store.object? (client.place source)) = pieces.map some →
      generation = none ∨
        generation = some (Numeral.decimal (store.generationAt (client.place name))) →
      client.Wrote name pieces.flatten store
        (client.compose name sources contentType generation store)) ∧
    (∀ name (sources : List ObjectName) contentType asked, 1 ≤ sources.length → sources.length ≤ 32 →
      asked ≠ Numeral.decimal (store.generationAt (client.place name)) →
      client.Refused 412 store (client.compose name sources contentType (some asked) store)) ∧
    (∀ name (sources : List ObjectName) contentType generation, sources.length = 0 ∨ 32 < sources.length →
      ∃ cause, client.compose name sources contentType generation store = (.error cause, store)) ∧
    (∀ name object, store.objects.get? (client.place name) = some object →
      (client.delete name store).1 = .ok () ∧
        Updates (client.place name) none store (client.delete name store).2 ∧
        (client.delete name store).2.Serves client) ∧
    (∀ name, store.objects.get? (client.place name) = none →
      client.Refused 404 store (client.delete name store)) ∧
    (∀ name, (client.object name store).2.objects = store.objects ∧
      (client.object name store).2.Serves client ∧
      ∀ object, store.objects.get? (client.place name) = some object →
        (client.object name store).1 = .ok (object.metadata (client.place name))) ∧
    (∀ name, store.objects.get? (client.place name) = none →
      client.Refused 404 store (client.object name store)) ∧
    (∀ name (sources : List ObjectName) contentType generation source, sources.length ≤ 32 →
      generation = none ∨
        generation = some (Numeral.decimal (store.generationAt (client.place name))) →
      source ∈ sources → store.objects.get? (client.place source) = none →
      client.Refused 404 store (client.compose name sources contentType generation store)) := by
  refine ⟨wrote_upload bare serves, ?_, ?_, ?_, fun name object => deleted bare serves name,
    refused_delete bare serves, described bare serves, refused_object bare serves, ?_⟩
  · intro name sources contentType generation pieces some' few found current
    exact wrote_compose bare serves name (List.ne_nil_of_length_pos some') few contentType
      (met_of_current current) (gather_of_objects found)
  · intro name sources contentType asked some' few stale
    exact refused_compose bare serves name (List.ne_nil_of_length_pos some') few contentType stale
  · intro name sources contentType generation count
    exact compose_of_count client name count contentType generation store
  · intro name sources contentType generation source few current among absent
    exact refused_compose_missing bare serves name few contentType (met_of_current current) among absent

end Client

/-! ## A trial -/

namespace Client.Trial

theorem parses : (Url.parse? "https://store.example:8443").toOption.isSome = true := by
  decide +kernel

def client : Client Emulator :=
  { link := Emulator.link, credentials := .fixed (.bearer "t")
    endpoint := (Url.parse? "https://store.example:8443").toOption.get parses, bucket := "logs" }

theorem bare : client.IsBare :=
  ⟨rfl, .inr (by decide +kernel), by decide +kernel, by decide +kernel⟩

/-- A name that no encoding leaves as it is. -/
def name : ObjectName := ⟨"a b/+%?#\x22\\é", rfl⟩

/-- A store with an object that needs a token. -/
def store : Emulator :=
  ((Emulator.withBucket "logs").requireToken "t").put (client.place name) [1, 2]

theorem serves : store.Serves client := by
  refine ⟨rfl, ⟨.bearer "t", rfl, Credential.opens_bearer ?_⟩, ?_, ?_⟩
  · rintro other ⟨⟩
    rfl
  · decide +kernel
  · exact (isQuiet_withBucket "logs").congr rfl rfl

end Client.Trial

/-- An object is appended to itself under a name that every encoding has to change. -/
theorem Client.refines_objects_trial :
    Trial.client.Wrote Trial.name [1, 2, 1, 2] Trial.store
      (Trial.client.compose Trial.name [Trial.name, Trial.name] Client.recordType (some "1") Trial.store) := by
  obtain ⟨-, composes, -⟩ := refines_objects Trial.client Trial.bare Trial.store Trial.serves
  exact composes Trial.name [Trial.name, Trial.name] Client.recordType (some "1") [[1, 2], [1, 2]]
    (by decide) (by decide) (by decide +kernel) (.inr (by decide +kernel))

end RecordSink
