import RecordSink.Proofs.Client.Routes
import RecordSink.Proofs.Json.Refusals
import RecordSink.Proofs.Ordeal.Effects
import RecordSink.RemoteStore

/-!
# Calls to a store on trial

One rule for each call. An invariant that a request without an effect keeps, and that the effect of
the call keeps, holds at every moment of the call; where the call succeeds, its effect is in place.
The rules hold for one attempt and, since no rule counts the attempts, for a run of them. No rule asks what
requests are refused with: a refusal describes no object, not even one that reports success.
-/

namespace RecordSink

open Emulator Ordeal

variable {τ α : Type} {places : List Place}

namespace Ordeal

/-- An invariant survives every request that leaves some places alone. -/
def Survives (places : List Place) (I : History → Prop) : Prop :=
  ∀ history moment, I history → Keeps places history.store moment.store → I (history.next moment)

/-- An invariant holds at a moment, and the request asked for one of some routes. -/
def Asking (I : History → Prop) (routes : List Route) (moment : Moment) (past : List Moment) : Prop :=
  I { store := moment.store, moments := moment :: past } ∧ moment.route ∈ routes

theorem Asking.mono {I : History → Prop} {routes more : List Route} {moment : Moment}
    {past : List Moment} (asked : Asking I routes moment past) (within : routes ⊆ more) :
    Asking I more moment past :=
  ⟨asked.1, within asked.2⟩

/-- An invariant holds after a call, and so does a property of the value that it gives. -/
def Settled {ε : Type} (I : History → Prop) (Q : α → History → Prop) (result : Except ε α)
    (history : History) : Prop :=
  I history ∧ ∀ value, result = .ok value → Q value history

theorem Settled.error {ε : Type} {I : History → Prop} {Q : α → History → Prop} {cause : ε}
    {history : History} (holds : I history) : Settled I Q (.error cause) history :=
  ⟨holds, fun _ none => nomatch none⟩

theorem Settled.ok {ε : Type} {I : History → Prop} {Q : α → History → Prop} {value : α}
    {history : History} (holds : I history) (property : Q value history) :
    Settled I Q (.ok value : Except ε α) history :=
  ⟨holds, fun _ same => Except.ok.inj same ▸ property⟩

end Ordeal

namespace Client

/-- A client that talks to a store on trial, which leaves some places to it. -/
structure IsTried (places : List Place) (client : Client (Ordeal τ)) : Prop where
  addressed : client.IsAddressed
  link : ∃ schedule : Schedule, schedule.Spares places ∧ client.link = Ordeal.link schedule
  credentials : ∃ source, client.credentials = Ordeal.credentials source

/-- A client that talks to a store on trial, which leaves some places to it and refuses requests in any
way. -/
structure IsLent (places : List Place) (client : Client (Ordeal τ)) : Prop where
  addressed : client.IsAddressed
  link : ∃ schedule : Schedule, schedule.Lends places ∧ client.link = Ordeal.link schedule
  credentials : ∃ source, client.credentials = Ordeal.credentials source

theorem IsTried.lent {client : Client (Ordeal τ)} (tried : client.IsTried places) : client.IsLent places := by
  obtain ⟨addressed, ⟨schedule, spares, linked⟩, credentials⟩ := tried
  exact ⟨addressed, ⟨schedule, spares.lends, linked⟩, credentials⟩

/-- The place of an object in the bucket of a client. -/
def place {W : Type} (client : Client W) (name : ObjectName) : Place := ⟨client.bucket, name.text⟩

variable {client : Client (Ordeal τ)} {I : History → Prop} {routes : List Route}

/-! ## One exchange -/

/-- A request that passes the link keeps an invariant where it has no effect and where it has the
effect of its route. What is known of a response has to be known of every refusal, since a refusal may
report success. -/
theorem passes_link {schedule : Schedule} (lends : schedule.Lends places) {request : Http.Request}
    {Q : Http.Response → History → Prop}
    (routed : Route.ofRequest request.method request.url ∈ routes)
    (quiet : Survives places I)
    (hollow : ∀ status message history, Q (refusal status message) history)
    (applied : ∀ history moment reached response after, I history →
      Keeps places history.store reached →
      reached.apply moment.route (request.body.getD []) = (response, after) →
      Alike after moment.store → moment.route = Route.ofRequest request.method request.url →
      I (history.next moment) ∧ (response.isSuccess = true → Q response (history.next moment))) :
    Passes (Asking I routes) I ((Ordeal.link schedule : Link (Ordeal τ)).exchange request)
      fun outcome history => I history ∧
        ∀ response, outcome = .ok response → response.isSuccess = true → Q response history := by
  intro world start
  obtain ⟨rest, history⟩ := world
  have others := keeps_deeds (lends history.moments.length) history.store
  rcases exchangeWith_answers (schedule history.moments.length).fault request
    ((schedule history.moments.length).deeds.foldl Deed.run history.store) with
    ⟨alike, status, message, refused, -⟩ | ⟨reached, response, after, alike, effect, shown, outcome⟩
  · have kept := quiet history ((schedule history.moments.length).moment request history.store) start
      (others.trans alike.keeps)
    refine ⟨.next .done ⟨kept, routed⟩, kept, ?_⟩
    intro response same _
    cases refused.symm.trans same
    exact hollow status message _
  · have kept := applied history ((schedule history.moments.length).moment request history.store)
      reached response after start (others.trans alike.keeps) effect shown rfl
    refine ⟨.next .done ⟨kept.1, routed⟩, kept.1, ?_⟩
    intro other same success
    rcases outcome with given | ⟨cause, lost⟩
    · have equal := given.symm.trans same
      cases equal
      exact kept.2 success
    · cases lost.symm.trans same

/-- An exchange of the client keeps such an invariant. -/
theorem passes_exchange (lent : client.IsLent places) {request : Http.Request}
    {Q : Http.Response → History → Prop}
    (routed : Route.ofRequest request.method request.url ∈ routes)
    (quiet : Survives places I)
    (hollow : ∀ status message history, Q (refusal status message) history)
    (applied : ∀ history moment reached response after, I history →
      Keeps places history.store reached →
      reached.apply moment.route (request.body.getD []) = (response, after) →
      Alike after moment.store → moment.route = Route.ofRequest request.method request.url →
      I (history.next moment) ∧ (response.isSuccess = true → Q response (history.next moment))) :
    Passes (Asking I routes) I (client.exchange request) (Settled I Q) := by
  obtain ⟨schedule, lends, linked⟩ := lent.link
  obtain ⟨source, obtained⟩ := lent.credentials
  rw [exchange, obtained, linked]
  refine .bind (.aside fun _ _ holds => holds) ?_
  intro credential
  cases credential with
  | error cause => exact .pure fun _ holds => .error holds
  | ok credential =>
      refine .bind (passes_link lends routed quiet hollow applied) ?_
      intro outcome
      cases outcome with
      | error cause => exact .pure fun _ holds => .error holds.1
      | ok response =>
          dsimp only
          split
          · next success => exact .pure fun _ holds => .ok holds.1 (holds.2 response rfl success)
          · exact .pure fun _ holds => .error holds.1

/-- The body of a response is read after the exchange. -/
theorem passes_readBody {P : Moment → List Moment → Prop} {read? : Bytes → Option α}
    {step : StateM (Ordeal τ) (Except RemoteError Http.Response)} {Q : α → History → Prop}
    (passes : Passes P I step (Settled I fun response history =>
      ∀ value, read? response.body = some value → Q value history)) :
    Passes P I (step >>= fun result => pure (readBody read? result)) (Settled I Q) := by
  refine .bind passes ?_
  intro result
  cases result with
  | error cause => exact .pure fun _ holds => .error holds.1
  | ok response =>
      rw [readBody]
      cases read : read? response.body with
      | none => exact .pure fun _ holds => .error holds.1
      | some value => exact .pure fun _ holds => .ok holds.1 (holds.2 response rfl value read)

/-- No resource is read from a refusal. -/
theorem hollow_refusal {Q : ObjectMetadata → History → Prop} (status : Nat) (message : String)
    (history : History) :
    ∀ value, ObjectMetadata.read? (refusal status message).body = some value → Q value history := by
  intro value read
  rw [metadata_refusal] at read
  cases read

/-- An exchange that is routed as wanted, or not at all, keeps an invariant that the wanted effect
keeps. -/
theorem passes_routed (lent : client.IsLent places) {request : Http.Request} {route : Route}
    {Q : Http.Response → History → Prop}
    (routed : Route.ofRequest request.method request.url = route ∨
      Route.ofRequest request.method request.url = .unknown)
    (quiet : Survives places I)
    (hollow : ∀ status message history, Q (refusal status message) history)
    (applied : ∀ history moment reached response after, I history → moment.route = route →
      Keeps places history.store reached →
      reached.apply route (request.body.getD []) = (response, after) → Alike after moment.store →
      (Keeps places reached after ∧ response.isSuccess = false) ∨
        (I (history.next moment) ∧ (response.isSuccess = true → Q response (history.next moment)))) :
    Passes (Asking I [route, .unknown]) I (client.exchange request) (Settled I Q) := by
  have failing : ∀ {history : History} {moment : Moment} {reached after : Emulator}
      {response : Http.Response}, I history → Keeps places history.store reached →
      Alike after moment.store → Keeps places reached after ∧ response.isSuccess = false →
      I (history.next moment) ∧ (response.isSuccess = true → Q response (history.next moment)) := by
    intro history moment reached after response holds others shown failed
    refine ⟨quiet history moment holds ((others.trans failed.1).trans shown.keeps), ?_⟩
    rw [failed.2]
    exact fun success => nomatch success
  refine passes_exchange lent ?_ quiet hollow ?_
  · rcases routed with same | same
    · rw [same]
      simp
    · rw [same]
      simp
  intro history moment reached response after holds others effect shown own
  rcases routed with same | same
  · rw [own, same] at effect
    rcases applied history moment reached response after holds (own.trans same) others effect shown with
      failed | kept
    · exact failing holds others shown failed
    · exact kept
  · rw [own, same] at effect
    cases effect
    exact failing holds others shown ⟨.refl reached, rfl⟩

/-! ## Calls -/

/-- An upload keeps an invariant that writing the object keeps. -/
theorem passes_upload (lent : client.IsLent places) {name : ObjectName} {contentType : String}
    {body : Bytes} {Q : ObjectMetadata → History → Prop} (quiet : Survives places I)
    (stored : ∀ history moment object, I history → object.data = body →
      Sets places (client.place name) (some object) history.store moment.store →
      I (history.next moment) ∧ Q (object.metadata (client.place name)) (history.next moment)) :
    Passes (Asking I [.upload client.bucket (some name.text), .unknown]) I
      (client.upload name contentType body) (Settled I Q) := by
  have routed : Route.ofRequest .post (client.uploadUrl name) =
      .upload client.bucket (some name.text) ∨
        Route.ofRequest .post (client.uploadUrl name) = .unknown := by
    rcases ofRequest_uploadUrl lent.addressed with every | none
    · exact .inl (every name)
    · exact .inr (none name)
  apply passes_readBody
  apply passes_routed lent routed quiet hollow_refusal
  intro history moment reached response after holds _ others effect shown
  rcases applyUpload_cases effect with failed | ⟨object, data, sets, answered⟩
  · exact .inl failed
  obtain ⟨kept, property⟩ := stored history moment object holds data ((others.sets sets).alike shown)
  refine .inr ⟨kept, ?_⟩
  intro _ value read
  rw [answered, answer, ObjectMetadata.read?_render] at read
  exact Option.some.inj read ▸ property

/-- A compose keeps an invariant that writing the concatenation of the sources keeps. -/
theorem passes_compose (lent : client.IsLent places) {name : ObjectName} {sources : List ObjectName}
    {contentType : String} {generation : Option String} {Q : ObjectMetadata → History → Prop}
    (own : client.place name ∈ places) (ownSources : ∀ source ∈ sources, client.place source ∈ places)
    (quiet : Survives places I)
    (composed : ∀ history moment object pieces, I history →
      history.store.gather (sources.map client.place) = .ok pieces → object.data = pieces.flatten →
      (∀ asked, client.asked generation = some asked →
        asked = Numeral.decimal (history.store.generationAt (client.place name))) →
      Sets places (client.place name) (some object) history.store moment.store →
      I (history.next moment) ∧ Q (object.metadata (client.place name)) (history.next moment)) :
    Passes
      (Asking I [.compose client.bucket name.text (client.asked generation), .unknown]) I
      (client.compose name sources contentType generation) (Settled I Q) := by
  rw [compose]
  split
  · exact .pure fun _ holds => .error holds
  refine passes_readBody (passes_routed lent (ofRequest_composeUrl lent.addressed name generation)
    quiet hollow_refusal ?_)
  intro history moment reached response after holds _ others effect shown
  rcases applyCompose_cases effect with failed | ⟨pieces, object, data, gathered, met, sets, answered⟩
  · exact .inl failed
  have gatheredBefore : history.store.gather (sources.map client.place) = .ok pieces := by
    have same := others.gather (show ∀ source ∈ sources.map client.place, source ∈ places by
      simpa using ownSources)
    rw [List.map_map] at gathered
    exact same.symm.trans gathered
  have metBefore : ∀ asked, client.asked generation = some asked →
      asked = Numeral.decimal (history.store.generationAt (client.place name)) := by
    intro asked same
    rw [← others.generationAt own]
    exact met asked same
  obtain ⟨kept, property⟩ := composed history moment object pieces holds gatheredBefore data metBefore
    ((others.sets sets).alike shown)
  refine .inr ⟨kept, ?_⟩
  intro _ value read
  rw [answered, answer, ObjectMetadata.read?_render] at read
  exact Option.some.inj read ▸ property

/-- A request for what the store says about an object keeps an invariant, and the answer is about
the stored object. -/
theorem passes_object (lent : client.IsLent places) {name : ObjectName} (quiet : Survives places I) :
    Passes (Asking I [.getObject client.bucket name.text, .unknown]) I (client.object name)
      (Settled I fun current history => ∃ object,
        history.store.objects.get? (client.place name) = some object ∧
          current = object.metadata (client.place name)) := by
  apply passes_readBody
  apply passes_routed lent (ofRequest_objectUrl lent.addressed name).2 quiet hollow_refusal
  intro history moment reached response after holds _ others effect shown
  dsimp only [apply] at effect
  split at effect
  · cases effect
    exact .inl ⟨.refl reached, rfl⟩
  · next object found =>
      cases effect
      refine .inr ⟨quiet history moment holds (others.trans shown.keeps), ?_⟩
      intro _ value read
      rw [answer, ObjectMetadata.read?_render] at read
      refine ⟨object, ?_, (Option.some.inj read).symm⟩
      rw [History.next, shown.objects]
      exact found

/-- A delete keeps an invariant that removing the object keeps. -/
theorem passes_delete (lent : client.IsLent places) {name : ObjectName} (quiet : Survives places I)
    (removed : ∀ history moment, I history → moment.route = .delete client.bucket name.text →
      Sets places (client.place name) none history.store moment.store → I (history.next moment)) :
    Passes (Asking I [.delete client.bucket name.text, .unknown]) I (client.delete name)
      (Settled I fun _ _ => True) := by
  rw [delete]
  refine .bind (passes_routed (Q := fun _ _ => True) lent (ofRequest_objectUrl lent.addressed name).1
    quiet (fun _ _ _ => trivial) ?_) ?_
  · intro history moment reached response after holds route others effect shown
    rcases applyDelete_cases effect with ⟨kept, failed, _⟩ | ⟨sets, _⟩
    · exact .inl ⟨kept, failed⟩
    · exact .inr ⟨removed history moment holds route ((others.sets sets).alike shown), fun _ => trivial⟩
  · intro result
    cases result with
    | error cause => exact .pure fun _ holds => .error holds.1
    | ok response => exact .pure fun _ holds => .ok holds.1 trivial

end Client

namespace Retry

variable {P : Moment → List Moment → Prop} {I : History → Prop} {Q : α → History → Prop}
  {clock : Clock τ} {policy : RetryPolicy} {call : Nat → StateM (Ordeal τ) (Except RemoteError α)}

/-- Attempts keep an invariant that each of them keeps. -/
theorem passes_attempts (attempt : ∀ number, Passes P I (call number) (Settled I Q))
    (started : Duration) (left number : Nat) :
    Passes P I (attempts (Ordeal.clock clock) policy started call left number)
      fun result history => Settled I Q result.1 history := by
  induction left generalizing number with
  | zero =>
      rw [attempts]
      exact .bind (attempt number) fun _ => .pure fun _ holds => holds
  | succ left ih =>
      rw [attempts]
      refine .bind (attempt number) ?_
      intro result
      cases result with
      | ok value => exact .pure fun _ holds => holds
      | error cause =>
          dsimp only
          split
          · exact .pure fun _ holds => holds
          refine .bind (.aside fun _ _ holds => holds) ?_
          intro delay
          refine .bind (.aside fun _ _ holds => holds) ?_
          intro now
          split
          · exact .pure fun _ holds => holds
          refine .bind (.aside fun _ _ holds => holds) ?_
          intro _
          exact (ih (number + 1)).mono (fun _ _ holds => holds) (fun _ holds => holds.1)
            fun _ _ holds => holds

/-- A run of attempts keeps an invariant that each attempt keeps. -/
theorem passes_run (attempt : ∀ number, Passes P I (call number) (Settled I Q))
    (operation : Operation) (object : String) :
    Passes P I (run (Ordeal.clock clock) policy operation object call) (Settled I Q) := by
  rw [run]
  refine .bind (.aside fun _ _ holds => holds) ?_
  intro started
  refine .bind (passes_attempts attempt started _ 1) ?_
  rintro ⟨result, number⟩
  cases result with
  | ok value => exact .pure fun _ holds => .ok holds.1 (holds.2 value rfl)
  | error cause => exact .pure fun _ holds => .error holds.1

end Retry

namespace RemoteStore

/-- A store on trial, which leaves some places to its client. -/
structure IsTried (places : List Place) (store : RemoteStore (Ordeal τ)) : Prop where
  client : store.client.IsTried places
  clock : ∃ clock, store.clock = Ordeal.clock clock

/-- A store on trial, which leaves some places to its client and refuses requests in any way. -/
structure IsLent (places : List Place) (store : RemoteStore (Ordeal τ)) : Prop where
  client : store.client.IsLent places
  clock : ∃ clock, store.clock = Ordeal.clock clock

theorem IsTried.lent {store : RemoteStore (Ordeal τ)} (tried : store.IsTried places) :
    store.IsLent places :=
  ⟨tried.client.lent, tried.clock⟩

variable {store : RemoteStore (Ordeal τ)} {I : History → Prop} {Q : ObjectMetadata → History → Prop}
  {name : ObjectName}

/-- An upload keeps an invariant that writing the object keeps. -/
theorem passes_upload (lent : store.IsLent places) {body : Bytes} (quiet : Survives places I)
    (stored : ∀ history moment object, I history → object.data = body →
      Sets places (store.client.place name) (some object) history.store moment.store →
      I (history.next moment) ∧
        Q (object.metadata (store.client.place name)) (history.next moment)) :
    Passes (Asking I [.upload store.client.bucket (some name.text), .unknown]) I
      (store.upload name body) (Settled I Q) := by
  obtain ⟨clock, ticking⟩ := lent.clock
  rw [upload, ticking]
  exact Retry.passes_run (fun _ => Client.passes_upload lent.client quiet stored) _ _

/-- A compose keeps an invariant that writing the concatenation of the sources keeps. -/
theorem passes_compose (lent : store.IsLent places) {sources : List ObjectName}
    (own : store.client.place name ∈ places)
    (ownSources : ∀ source ∈ sources, store.client.place source ∈ places)
    (quiet : Survives places I)
    (composed : ∀ history moment object pieces, I history →
      history.store.gather (sources.map store.client.place) = .ok pieces →
      object.data = pieces.flatten →
      Sets places (store.client.place name) (some object) history.store moment.store →
      I (history.next moment) ∧
        Q (object.metadata (store.client.place name)) (history.next moment)) :
    Passes (Asking I [.compose store.client.bucket name.text (store.client.asked none), .unknown]) I
      (store.compose name sources) (Settled I Q) := by
  obtain ⟨clock, ticking⟩ := lent.clock
  rw [compose, ticking]
  refine Retry.passes_run (fun _ => Client.passes_compose lent.client own ownSources quiet ?_) _ _
  intro history moment object pieces holds gathered data _ sets
  exact composed history moment object pieces holds gathered data sets

/-- A compose onto a source keeps an invariant that writing the concatenation of the sources keeps
where the object still has the generation that is asked for. Where the answer is about an object
of the expected size that was found in place, it has to be as good as an answer to the compose. -/
theorem passes_composeReplacing (lent : store.IsLent places) {sources : List ObjectName}
    {generation : String} {expectedSize : Nat} (own : store.client.place name ∈ places)
    (ownSources : ∀ source ∈ sources, store.client.place source ∈ places)
    (quiet : Survives places I)
    (composed : ∀ history moment object pieces, I history →
      history.store.gather (sources.map store.client.place) = .ok pieces →
      object.data = pieces.flatten →
      (∃ asked, store.client.asked (some generation) = some asked ∧
        asked = Numeral.decimal (history.store.generationAt (store.client.place name))) →
      Sets places (store.client.place name) (some object) history.store moment.store →
      I (history.next moment) ∧
        Q (object.metadata (store.client.place name)) (history.next moment))
    (recovered : ∀ history object, I history →
      history.store.objects.get? (store.client.place name) = some object →
      (object.metadata (store.client.place name)).sizeBytes? = some expectedSize →
      Q (object.metadata (store.client.place name)) history) :
    Passes
      (Asking I [.compose store.client.bucket name.text (store.client.asked (some generation)),
        .getObject store.client.bucket name.text, .unknown]) I
      (store.composeReplacing name sources (some generation) expectedSize) (Settled I Q) := by
  obtain ⟨clock, ticking⟩ := lent.clock
  rw [composeReplacing, ticking]
  refine Retry.passes_run (fun number => ?_) _ _
  rw [composeOnce]
  have asking : ∃ asked, store.client.asked (some generation) = some asked := by
    rw [Client.asked]
    cases Route.generation? store.client.endpoint.pairs with
    | none => exact ⟨generation, rfl⟩
    | some other => exact ⟨other, rfl⟩
  have compose : Passes
      (Asking I
        [.compose store.client.bucket name.text (store.client.asked (some generation)), .unknown]) I
      (store.client.compose name sources Client.recordType (some generation)) (Settled I Q) := by
    apply Client.passes_compose lent.client own ownSources quiet
    intro history moment object pieces holds gathered data met sets
    obtain ⟨asked, same⟩ := asking
    exact composed history moment object pieces holds gathered data ⟨asked, same, met asked same⟩ sets
  refine .bind (compose.mono (fun _ _ asked => asked.mono (by simp)) (fun _ holds => holds)
    fun _ _ holds => holds) ?_
  intro result
  cases result with
  | ok object => exact .pure fun _ holds => holds
  | error cause =>
      dsimp only
      split
      · have found : Passes (Asking I [.getObject store.client.bucket name.text, .unknown]) I
            (store.client.object name) _ := Client.passes_object lent.client quiet
        refine .bind (found.mono (fun _ _ asked => asked.mono (by simp)) (fun _ holds => holds.1)
          fun _ _ holds => holds) ?_
        intro answer
        cases answer with
        | error other => exact .pure fun _ holds => .error holds.1
        | ok current =>
            dsimp only
            split
            · next size =>
                refine .pure fun history holds => .ok holds.1 ?_
                obtain ⟨object, stored, rfl⟩ := holds.2 current rfl
                exact recovered history object holds.1 stored size
            · exact .pure fun _ holds => .error holds.1
      · exact .pure fun _ holds => holds

/-- A delete keeps an invariant that removing the object keeps. -/
theorem passes_deleteIfExists (lent : store.IsLent places) (quiet : Survives places I)
    (removed : ∀ history moment, I history → moment.route = .delete store.client.bucket name.text →
      Sets places (store.client.place name) none history.store moment.store →
      I (history.next moment)) :
    Passes (Asking I [.delete store.client.bucket name.text, .unknown]) I
      (store.deleteIfExists name) (Settled I fun _ _ => True) := by
  obtain ⟨clock, ticking⟩ := lent.clock
  rw [deleteIfExists, ticking]
  refine Retry.passes_run (fun _ => ?_) _ _
  refine .bind (Client.passes_delete lent.client quiet removed) ?_
  intro result
  cases result with
  | ok _ => exact .pure fun _ holds => .ok holds.1 trivial
  | error cause =>
      dsimp only
      split
      · exact .pure fun _ holds => .ok holds.1 trivial
      · exact .pure fun _ holds => .error holds.1

end RemoteStore

end RecordSink
