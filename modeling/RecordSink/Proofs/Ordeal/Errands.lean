import RecordSink.Proofs.Json.Refusals
import RecordSink.Proofs.Ordeal.Sites

/-!
# Errands

What a client asks of a store on trial about one object, where the schedule may answer in any way, with a
success that has no effect as well. A request changes at most the object that it is about. Main statements:
an object whose compose succeeded is there, and one whose delete succeeded is gone unless an answer lied
about it.
-/

namespace RecordSink

open Emulator Ordeal

variable {τ α : Type} {places : List Place} {schedule : Schedule}

/-! ## Errands -/

/-- What a client asks of the store about one object. -/
inductive Errand where
  | upload (name : ObjectName)
  | compose (name : ObjectName) (generation : Option String)
  | look (name : ObjectName)
  | delete (name : ObjectName)

namespace Errand

open Client

variable {W : Type} {client : Client W} {moment : Moment} {errand : Errand} {name : ObjectName}

def method : Errand → Http.Method
  | .upload _ => .post
  | .compose _ _ => .post
  | .look _ => .get
  | .delete _ => .delete

def url (client : Client W) : Errand → Url
  | .upload name => client.uploadUrl name
  | .compose name generation => client.composeUrl name generation
  | .look name => client.objectUrl name
  | .delete name => client.objectUrl name

/-- The object that an errand is about. -/
def target : Errand → ObjectName
  | .upload name => name
  | .compose name _ => name
  | .look name => name
  | .delete name => name

/-- What the store is asked for, where its interface is not hidden. -/
def route (client : Client W) : Errand → Route
  | .upload name => .upload client.bucket (some name.text)
  | .compose name generation => .compose client.bucket name.text (client.asked generation)
  | .look name => .getObject client.bucket name.text
  | .delete name => .delete client.bucket name.text

/-- What an errand may leave of its object where it changes it. -/
def Leaves : Errand → Option StoredObject → Prop
  | .upload _, value => value.isSome
  | .compose _ _, value => value.isSome
  | .look _, _ => False
  | .delete _, value => value = none

/-- The request of a moment was sent on an errand. -/
def IsSent (client : Client W) (errand : Errand) (moment : Moment) : Prop :=
  moment.request.method = errand.method ∧ moment.request.url = errand.url client

instance : Decidable (errand.IsSent client moment) := inferInstanceAs (Decidable (_ ∧ _))

/-- One of some requests was sent on an errand. -/
def Sent (client : Client W) (errand : Errand) (moments : List Moment) : Prop :=
  ∃ moment ∈ moments, errand.IsSent client moment

instance {moments : List Moment} : Decidable (errand.Sent client moments) :=
  inferInstanceAs (Decidable (∃ moment ∈ moments, _))

theorem Sent.mono {early late : List Moment} (sent : errand.Sent client early) (within : early <:+ late) :
    errand.Sent client late := by
  obtain ⟨moment, inside, asked⟩ := sent
  exact ⟨moment, within.subset inside, asked⟩

/-- The request of a moment was sent on one of some errands. -/
def Among (client : Client W) (errands : List Errand) (moment : Moment) : Prop :=
  ∃ errand ∈ errands, errand.IsSent client moment

theorem Among.mono {errands more : List Errand} (among : Among client errands moment)
    (within : errands ⊆ more) : Among client more moment := by
  obtain ⟨errand, inside, sent⟩ := among
  exact ⟨errand, within inside, sent⟩

/-- A request to delete an object is sent on no other errand. -/
theorem eq_delete (addressed : client.IsAddressed) (sent : errand.IsSent client moment)
    (deleting : (delete name).IsSent client moment) : errand = .delete name := by
  have methods := sent.1.symm.trans deleting.1
  have urls := sent.2.symm.trans deleting.2
  obtain ⟨own, joined⟩ := Url.names_join addressed.base addressed.web
  cases errand with
  | upload _ => cases methods
  | compose _ _ => cases methods
  | look _ => cases methods
  | delete other =>
      have names := congrArg Url.names urls
      simp only [url, Client.Appends.names_objectUrl joined addressed] at names
      simp at names
      rw [ObjectName.text_injective names]

/-- A request to compose an object is sent on no errand but to compose it. -/
theorem eq_compose (addressed : client.IsAddressed) {generation : Option String}
    (sent : errand.IsSent client moment) (composing : (compose name generation).IsSent client moment) :
    ∃ other, errand = .compose name other := by
  have methods := sent.1.symm.trans composing.1
  have urls := sent.2.symm.trans composing.2
  obtain ⟨own, joined⟩ := Url.names_join addressed.base addressed.web
  have names := congrArg Url.names urls
  cases errand with
  | upload _ =>
      simp only [url, Client.Appends.names_uploadUrl joined addressed,
        Client.Appends.names_composeUrl joined addressed] at names
      have sizes := congrArg List.length names
      simp at sizes
  | compose other asked =>
      simp only [url, Client.Appends.names_composeUrl joined addressed] at names
      simp at names
      exact ⟨asked, by rw [ObjectName.text_injective names]⟩
  | look _ => cases methods
  | delete _ => cases methods

theorem route_cases (addressed : client.IsAddressed) (sent : errand.IsSent client moment) :
    moment.route = errand.route client ∨ moment.route = .unknown := by
  rw [Moment.route, sent.1, sent.2]
  cases errand with
  | upload name => exact (ofRequest_uploadUrl addressed).imp (· name) (· name)
  | compose name generation => exact ofRequest_composeUrl addressed name generation
  | look name => exact (ofRequest_objectUrl addressed name).2
  | delete name => exact (ofRequest_objectUrl addressed name).1

/-- What is applied on an errand changes nothing, or the one object that the errand is about. -/
theorem apply_cases {store after : Emulator} {response : Http.Response} {body : Bytes}
    (applied : store.apply (errand.route client) body = (response, after)) :
    Keeps places store after ∨
      ∃ value, Sets places (client.place errand.target) value store after ∧ errand.Leaves value := by
  cases errand with
  | upload name =>
      rcases applyUpload_cases applied with ⟨kept, -⟩ | ⟨object, -, sets, -⟩
      · exact .inl kept
      · exact .inr ⟨some object, sets, rfl⟩
  | compose name generation =>
      have counted : Alike store { store with
        stats := { store.stats with composes := store.stats.composes + 1 } } := ⟨rfl, rfl, rfl⟩
      dsimp only [route, apply, applyCompose] at applied
      repeat' split at applied
      all_goals cases applied
      · exact .inl (.refl store)
      · exact .inl (.refl store)
      · exact .inl (.refl store)
      · exact .inl (.refl store)
      · exact .inl (.refl store)
      · exact .inr ⟨_, counted.keeps.sets (sets_write _ (client.place name) _ _), rfl⟩
  | look name =>
      dsimp only [route, apply] at applied
      split at applied <;> cases applied <;> exact .inl (.refl store)
  | delete name =>
      rcases applyDelete_cases applied with ⟨kept, -, -⟩ | ⟨sets, -⟩
      · exact .inl kept
      · exact .inr ⟨none, sets, rfl⟩

end Errand

/-! ## Answers -/

namespace Ordeal

/-- No answer out of a schedule lies about a delete: none of them reports it as done, or the object as
missing. -/
def Honest (schedule : Schedule) (moments : List Moment) : Prop :=
  ∀ moment past, moment :: past <:+ moments → ∀ bucket name, moment.route = .delete bucket name →
    ∀ status message, (schedule past.length).fault = some (.refuse status message) →
      status ≠ 404 ∧ Http.isSuccess status = false

theorem Honest.mono {early late : List Moment} (honest : Honest schedule late) (within : early <:+ late) :
    Honest schedule early :=
  fun moment past inside => honest moment past (inside.trans within)

/-- What the store makes of a request that meets a fault, or none: it refuses the request, or it applies the
request to what other clients have left. -/
inductive Moment.Answers (places : List Place) (fault : Option Fault) (body : Bytes) (before : Emulator)
    (moment : Moment) : Prop where
  | refused {status : Nat} {message : String} (kept : Keeps places before moment.store)
      (outcome : moment.outcome = .ok (refusal status message))
      (reason : status = 400 ∨ status = 401 ∨
        fault = some (.refuse status message) ∧ moment.route.operation?.isSome)
  | applied {reached after : Emulator} {response : Http.Response} (others : Keeps places before reached)
      (effect : reached.apply moment.route body = (response, after)) (shown : Alike after moment.store)
      (outcome : moment.outcome = .ok response ∨ ∃ cause, moment.outcome = .error cause)

/-- A response is a refusal, or it tells what came of the request. -/
theorem Moment.Answers.of_ok {fault : Option Fault} {body : Bytes} {before : Emulator} {moment : Moment}
    {response : Http.Response} (answers : moment.Answers places fault body before)
    (given : moment.outcome = .ok response) :
    (∃ status message, response = refusal status message ∧ (status = 400 ∨ status = 401 ∨
        fault = some (.refuse status message) ∧ moment.route.operation?.isSome)) ∨
      ∃ (reached : Emulator) (after : Emulator),
        reached.apply moment.route body = (response, after) ∧ Alike after moment.store := by
  cases answers with
  | @refused status message _ outcome reason =>
      exact .inl ⟨status, message, Except.ok.inj (given.symm.trans outcome), reason⟩
  | applied _ effect shown outcome =>
      rcases outcome with answered | ⟨cause, lost⟩
      · cases answered.symm.trans given
        exact .inr ⟨_, _, effect, shown⟩
      · cases lost.symm.trans given

end Ordeal

/-! ## Clients -/

namespace Client

/-- A client of a store on trial that leaves some places to it, and answers as the schedule says. -/
structure IsExposed (places : List Place) (schedule : Schedule) (client : Client (Ordeal τ)) : Prop where
  addressed : client.IsAddressed
  link : client.link = Ordeal.link schedule
  deeds : ∀ number, ∀ deed ∈ (schedule number).deeds, deed.place ∉ places
  credentials : ∃ source, client.credentials = Ordeal.credentials source

variable {client : Client (Ordeal τ)} {I : History → Prop} {name : ObjectName}

theorem IsExposed.lent (exposed : client.IsExposed places schedule) : client.IsLent places :=
  ⟨exposed.addressed, ⟨schedule, exposed.deeds, exposed.link⟩, exposed.credentials⟩

/-- A request that is sent is answered. -/
theorem IsExposed.answers (exposed : client.IsExposed places schedule) (request : Http.Request)
    (headers : List (String × String)) (history : History) :
    ((schedule history.moments.length).moment (request.withHeaders headers) history.store).Answers
      places (schedule history.moments.length).fault (request.body.getD []) history.store := by
  have others := keeps_deeds (exposed.deeds history.moments.length) history.store
  rcases exchangeWith_answers (schedule history.moments.length).fault (request.withHeaders headers)
    ((schedule history.moments.length).deeds.foldl Deed.run history.store) with
    ⟨alike, status, message, outcome, reason⟩ | ⟨reached, response, after, alike, effect, shown, outcome⟩
  · exact .refused (others.trans alike.keeps) outcome reason
  · exact .applied (others.trans alike.keeps) effect shown outcome

/-- A request of a client is answered, unless there is no credential for it. -/
theorem IsExposed.passes_exchange (exposed : client.IsExposed places schedule) (request : Http.Request)
    {K : Except RemoteError Http.Response → History → Prop}
    (unsent : ∀ world cause after, client.credentials.obtain world = (.error cause, after) →
      I world.history → K (.error (.fatal (.credential cause.message))) world.history)
    (sent : ∀ history moment, I history → moment.request.method = request.method →
      moment.request.url = request.url →
      moment.Answers places (schedule history.moments.length).fault (request.body.getD []) history.store →
      K (verdict moment.outcome) (history.next moment)) :
    Passes (fun moment _ => moment.request.method = request.method ∧ moment.request.url = request.url) I
      (client.exchange request) K := by
  obtain ⟨source, obtained⟩ := exposed.credentials
  intro world start
  rcases given : source.obtain world.rest with ⟨result, rest⟩
  have begun : client.credentials.obtain world = (result, { world with rest }) := by
    simp only [obtained, Ordeal.credentials, Ordeal.aside, given]
  cases result with
  | error cause =>
      have failed : client.exchange request world =
          (.error (.fatal (.credential cause.message)), { world with rest }) := by
        simp only [exchange, bind, StateT.bind, begun]
        rfl
      rw [failed]
      exact ⟨.done, unsent world cause _ begun start⟩
  | ok credential =>
      let moment := (schedule world.history.moments.length).moment
        (request.withHeaders credential.headers) world.history.store
      have passed : client.exchange request world =
          (verdict moment.outcome, { rest, history := world.history.next moment }) := by
        simp only [exchange, bind, StateT.bind, begun, exposed.link, Ordeal.link]
        show _ = (verdict moment.outcome, _)
        cases moment.outcome with
        | error cause => rfl
        | ok response =>
            dsimp only [verdict]
            split <;> rfl
      rw [passed]
      exact ⟨.next .done ⟨rfl, rfl⟩,
        sent world.history moment start rfl rfl (exposed.answers request credential.headers _)⟩

/-- An invariant survives every change of the object that an errand is about. -/
def Bears {W : Type} (places : List Place) (client : Client W) (errand : Errand) (I : History → Prop) :
    Prop :=
  ∀ history moment value, I history → errand.IsSent client moment →
    Sets places (client.place errand.target) value history.store moment.store → errand.Leaves value →
      I (history.next moment)

/-- A look changes nothing. -/
theorem bears_look {W : Type} {client : Client W} {I : History → Prop} {name : ObjectName} :
    client.Bears places (.look name) I :=
  fun _ _ _ _ _ _ leaves => leaves.elim

/-- An exchange on an errand keeps an invariant that survives every change of its object. What is known of the
result is known of each answer. -/
theorem IsExposed.passes_errand (exposed : client.IsExposed places schedule) (errand : Errand)
    {request : Http.Request} (method : request.method = errand.method) (url : request.url = errand.url client)
    (quiet : Survives places I) (bears : client.Bears places errand I)
    {K : Except RemoteError Http.Response → History → Prop}
    (unsent : ∀ cause history, K (.error (.fatal (.credential cause))) history)
    (sent : ∀ (history : History) moment, errand.IsSent client moment →
      moment.Answers places (schedule history.moments.length).fault (request.body.getD []) history.store →
      K (verdict moment.outcome) (history.next moment)) :
    Passes (fun moment _ => errand.IsSent client moment) I (client.exchange request)
      fun result history => I history ∧ K result history := by
  have passes := exposed.passes_exchange (I := I) request
    (K := fun result history => I history ∧ K result history)
    (fun world cause _ _ holds => ⟨holds, unsent _ _⟩) ?_
  · rw [method, url] at passes
    exact passes
  intro history moment holds sameMethod sameUrl answers
  have asked : errand.IsSent client moment := ⟨sameMethod.trans method, sameUrl.trans url⟩
  refine ⟨?_, sent history moment asked answers⟩
  cases answers with
  | refused kept => exact quiet history moment holds kept
  | applied others effect shown outcome =>
      rcases errand.route_cases exposed.addressed asked with routed | unknown
      · rw [routed] at effect
        rcases Errand.apply_cases effect with kept | ⟨value, sets, leaves⟩
        · exact quiet history moment holds ((others.trans kept).trans shown.keeps)
        · exact bears history moment value holds asked ((others.sets sets).alike shown) leaves
      · rw [unknown] at effect
        cases effect
        exact quiet history moment holds (others.trans shown.keeps)

/-! ## Calls -/

/-- A resource is read from a response that reports success. -/
theorem of_readBody_verdict {read? : Bytes → Option α} {outcome : Http.Outcome} {answer : α}
    (read : readBody read? (verdict outcome) = .ok answer) :
    ∃ response, outcome = .ok response ∧ response.isSuccess = true ∧ read? response.body = some answer := by
  cases outcome with
  | error cause => cases read
  | ok response =>
      rw [verdict] at read
      split at read
      · next success =>
        refine ⟨response, rfl, success, ?_⟩
        rw [readBody] at read
        split at read
        · next found => rw [found, Except.ok.inj read]
        · cases read
      · cases read

/-- What is no failure but that the object is missing was answered with a success, or that it is missing. -/
theorem of_isNotFound_verdict {outcome : Http.Outcome}
    (told : ∀ cause, verdict outcome = .error cause → cause.isNotFound = true) :
    ∃ response, outcome = .ok response ∧ (response.isSuccess = true ∨ response.status = 404) := by
  cases outcome with
  | error cause => cases told _ rfl
  | ok response =>
      refine ⟨response, rfl, ?_⟩
      rw [verdict] at told
      split at told
      · next success => exact .inl success
      · have missing := told _ rfl
        simp only [RemoteError.isNotFound, RemoteError.ofStatus, Failure.status?, beq_iff_eq,
          Option.some.injEq] at missing
        exact .inr missing

theorem IsExposed.passes_upload (exposed : client.IsExposed places schedule) {contentType : String}
    {body : Bytes} (quiet : Survives places I) (bears : client.Bears places (.upload name) I) :
    Passes (fun moment _ => (Errand.upload name).IsSent client moment) I
      (client.upload name contentType body) (Settled I fun _ _ => True) := by
  rw [upload]
  refine .bind (exposed.passes_errand (.upload name) rfl rfl quiet bears (K := fun _ _ => True)
    (fun _ _ => trivial) fun _ _ _ _ => trivial) ?_
  exact fun _ => .pure fun _ holds => ⟨holds.1, fun _ _ => trivial⟩

theorem IsExposed.passes_object (exposed : client.IsExposed places schedule)
    (quiet : Survives places I) :
    Passes (fun moment _ => (Errand.look name).IsSent client moment) I (client.object name)
      (Settled I fun _ _ => True) := by
  rw [object]
  refine .bind (exposed.passes_errand (.look name) rfl rfl quiet bears_look (K := fun _ _ => True)
    (fun _ _ => trivial) fun _ _ _ _ => trivial) ?_
  exact fun _ => .pure fun _ holds => ⟨holds.1, fun _ _ => trivial⟩

/-- An object whose compose succeeded is there: no refusal describes an object. -/
theorem IsExposed.passes_compose (exposed : client.IsExposed places schedule)
    {sources : List ObjectName} {contentType : String} {generation : Option String}
    (quiet : Survives places I) (bears : client.Bears places (.compose name generation) I) :
    Passes (fun moment _ => (Errand.compose name generation).IsSent client moment) I
      (client.compose name sources contentType generation)
      (Settled I fun _ history => (history.store.objects.get? (client.place name)).isSome) := by
  rw [compose]
  split
  · exact .pure fun _ holds => .error holds
  refine .bind (exposed.passes_errand (.compose name generation) rfl rfl quiet bears
    (K := fun result history => ∀ answer, readBody ObjectMetadata.read? result = .ok answer →
      (history.store.objects.get? (client.place name)).isSome) ?_ ?_) ?_
  · intro cause history answer none
    cases none
  · intro history moment asked answers answer read
    obtain ⟨response, given, success, described⟩ := of_readBody_verdict read
    rcases answers.of_ok given with ⟨status, message, rfl, -⟩ | ⟨reached, after, effect, shown⟩
    · rw [metadata_refusal] at described
      cases described
    rcases Errand.route_cases exposed.addressed asked with routed | unknown
    · rw [routed] at effect
      rcases @applyCompose_cases [] _ _ _ _ _ _ _ effect with ⟨-, failed⟩ | ⟨_, object, _, _, _, sets, _⟩
      · cases failed.symm.trans success
      · have stored := sets.object
        rw [← shown.objects] at stored
        exact Option.isSome_of_eq_some stored
    · rw [unknown] at effect
      cases effect
      cases success
  · exact fun result => .pure fun _ holds => ⟨holds.1, fun answer same => holds.2 answer same⟩

/-- An object that a client takes for removed is gone, unless an answer lied. -/
theorem IsExposed.passes_delete (exposed : client.IsExposed places schedule)
    (quiet : Survives places I) (bears : client.Bears places (.delete name) I) :
    Passes (fun moment _ => (Errand.delete name).IsSent client moment) I (client.delete name)
      fun result history => I history ∧
        ((∀ cause, result = .error cause → cause.isNotFound = true) → Honest schedule history.moments →
          history.store.objects.get? (client.place name) = none) := by
  rw [delete]
  refine .bind (exposed.passes_errand (.delete name) rfl rfl quiet bears
    (K := fun result history => (∀ cause, result = .error cause → cause.isNotFound = true) →
      Honest schedule history.moments →
      history.store.objects.get? (client.place name) = none) ?_ ?_) ?_
  · intro cause history told
    cases told _ rfl
  · intro history moment asked answers told honest
    obtain ⟨response, given, reported⟩ := of_isNotFound_verdict told
    have routed := Errand.route_cases exposed.addressed asked
    rcases answers.of_ok given with ⟨status, message, rfl, reason⟩ | ⟨reached, after, effect, shown⟩
    · have reported : Http.isSuccess status = true ∨ status = 404 := reported
      -- of the refusals only a scripted one can look like a removal, and then it has lied
      rcases reason with rfl | rfl | ⟨scripted, known⟩
      · exact absurd reported (by decide)
      · exact absurd reported (by decide)
      rcases routed with route | unknown
      · obtain ⟨other, failed⟩ :=
          honest moment history.moments List.suffix_rfl _ _ route status message scripted
        rcases reported with success | missing
        · cases success.symm.trans failed
        · exact absurd missing other
      · rw [unknown] at known
        cases known
    · have stored := shown.objects
      rcases routed with route | unknown
      · rw [route] at effect
        rcases @applyDelete_cases [client.place name] _ _ _ _ effect with ⟨kept, -, missing⟩ | ⟨sets, -⟩
        · rw [History.next, stored, kept.objects _ (by simp)]
          exact missing
        · rw [History.next, stored]
          exact sets.object
      · rw [unknown] at effect
        cases effect
        exact absurd reported (by decide)
  · intro result
    cases result with
    | error cause =>
        refine .pure fun _ holds => ⟨holds.1, fun told => holds.2 fun other same => ?_⟩
        cases same
        exact told _ rfl
    | ok response =>
        exact .pure fun _ holds => ⟨holds.1, fun _ => holds.2 (by simp)⟩

/-- There is a credential for every request of a client. -/
def IsProvided (client : Client (Ordeal τ)) : Prop :=
  ∀ world, ∃ credential after, client.credentials.obtain world = (.ok credential, after)

/-- With a credential at hand, a delete is sent. -/
theorem IsExposed.sends_delete (exposed : client.IsExposed places schedule) :
    Passes (fun moment _ => (Errand.delete name).IsSent client moment) (fun _ => True) (client.delete name)
      fun _ history => client.IsProvided → (Errand.delete name).Sent client history.moments := by
  rw [delete]
  refine .bind (exposed.passes_exchange (.plain .delete (client.objectUrl name))
    (K := fun _ history => client.IsProvided → (Errand.delete name).Sent client history.moments) ?_ ?_) ?_
  · intro world cause after failed _ provided
    obtain ⟨credential, other, obtained⟩ := provided world
    cases obtained.symm.trans failed
  · intro history moment _ method url _ _
    exact ⟨moment, List.mem_cons_self, method, url⟩
  · intro result
    cases result with
    | error cause => exact .pure fun _ holds => holds
    | ok response => exact .pure fun _ holds => holds

end Client

/-! ## Runs of attempts -/

/-- What every attempt brings about has come about after a run: there is always a first attempt. -/
theorem Retry.passes_run_once {P : Moment → List Moment → Prop} {J : History → Prop} {clock : Clock τ}
    {policy : RetryPolicy} {call : Nat → StateM (Ordeal τ) (Except RemoteError α)}
    (each : ∀ number, Passes P (fun _ => True) (call number) fun _ history => J history)
    (operation : Operation) (object : String) :
    Passes P (fun _ => True) (run (Ordeal.clock clock) policy operation object call)
      fun _ history => J history := by
  have others : ∀ number, Passes P J (call number) (Settled J fun _ _ => True) := fun number =>
    (each number).mono (fun _ _ holds => holds) (fun _ _ => trivial)
      fun _ _ holds => ⟨holds, fun _ _ => trivial⟩
  have attempting : ∀ started left, Passes P (fun _ => True)
      (attempts (Ordeal.clock clock) policy started call left 1) fun _ history => J history := by
    intro started left
    cases left with
    | zero =>
        rw [attempts]
        exact .bind (each 1) fun _ => .pure fun _ holds => holds
    | succ left =>
        rw [attempts]
        refine .bind (each 1) ?_
        intro result
        cases result with
        | ok value => exact .pure fun _ holds => holds
        | error cause =>
            dsimp only
            split
            · exact .pure fun _ holds => holds
            refine .bind (.aside fun _ _ holds => holds) ?_
            intro delay
            refine .bind (.aside fun _ _ holds => holds) ?_
            intro now
            split
            · exact .pure fun _ holds => holds
            refine .bind (.aside fun _ _ holds => holds) ?_
            intro _
            exact (passes_attempts others started left 2).mono (fun _ _ holds => holds)
              (fun _ holds => holds) fun _ _ holds => holds.1
  rw [run]
  refine .bind (.aside fun _ _ holds => holds) ?_
  intro started
  refine .bind (attempting started _) ?_
  rintro ⟨result, number⟩
  cases result with
  | ok value => exact .pure fun _ holds => holds
  | error cause => exact .pure fun _ holds => holds

namespace RemoteStore

/-- A store on trial that leaves some places to its client, and answers as the schedule says. -/
structure IsExposed (places : List Place) (schedule : Schedule) (store : RemoteStore (Ordeal τ)) :
    Prop where
  client : store.client.IsExposed places schedule
  clock : ∃ clock, store.clock = Ordeal.clock clock

theorem IsExposed.lent {store : RemoteStore (Ordeal τ)} (exposed : store.IsExposed places schedule) :
    store.IsLent places :=
  ⟨exposed.client.lent, exposed.clock⟩

variable {store : RemoteStore (Ordeal τ)} {I : History → Prop} {name : ObjectName}

theorem IsExposed.passes_upload (exposed : store.IsExposed places schedule) {body : Bytes}
    (quiet : Survives places I) (bears : store.client.Bears places (.upload name) I) :
    Passes (fun moment _ => (Errand.upload name).IsSent store.client moment) I (store.upload name body)
      (Settled I fun _ _ => True) := by
  obtain ⟨clock, ticking⟩ := exposed.clock
  rw [upload, ticking]
  exact Retry.passes_run (fun _ => exposed.client.passes_upload quiet bears) _ _

/-- An object whose compose succeeded is there. -/
theorem IsExposed.passes_compose (exposed : store.IsExposed places schedule) {sources : List ObjectName}
    (quiet : Survives places I) (bears : store.client.Bears places (.compose name none) I) :
    Passes (fun moment _ => (Errand.compose name none).IsSent store.client moment) I
      (store.compose name sources)
      (Settled I fun _ history => (history.store.objects.get? (store.client.place name)).isSome) := by
  obtain ⟨clock, ticking⟩ := exposed.clock
  rw [compose, ticking]
  exact Retry.passes_run (fun _ => exposed.client.passes_compose quiet bears) _ _

theorem IsExposed.passes_composeReplacing (exposed : store.IsExposed places schedule)
    {sources : List ObjectName} {generation : Option String} {expectedSize : Nat}
    (quiet : Survives places I) (bears : store.client.Bears places (.compose name generation) I) :
    Passes (fun moment _ => Errand.Among store.client [.compose name generation, .look name] moment) I
      (store.composeReplacing name sources generation expectedSize) (Settled I fun _ _ => True) := by
  obtain ⟨clock, ticking⟩ := exposed.clock
  rw [composeReplacing, ticking]
  refine Retry.passes_run (fun number => ?_) _ _
  rw [composeOnce]
  refine .bind ((exposed.client.passes_compose quiet bears).mono (fun _ _ sent => ⟨_, by simp, sent⟩)
    (fun _ holds => holds) fun _ _ holds => holds) ?_
  intro result
  cases result with
  | ok object => exact .pure fun _ holds => .ok holds.1 trivial
  | error cause =>
      dsimp only
      split
      · refine .bind ((exposed.client.passes_object quiet).mono
          (fun _ _ sent => ⟨_, by simp, sent⟩) (fun _ holds => holds.1) fun _ _ holds => holds) ?_
        intro answer
        cases answer with
        | error other => exact .pure fun _ holds => .error holds.1
        | ok current =>
            dsimp only
            split
            · exact .pure fun _ holds => .ok holds.1 trivial
            · exact .pure fun _ holds => .error holds.1
      · exact .pure fun _ holds => .error holds.1

/-- An object whose removal succeeded is gone, unless an answer lied. -/
theorem IsExposed.passes_deleteIfExists (exposed : store.IsExposed places schedule)
    (quiet : Survives places I) (bears : store.client.Bears places (.delete name) I) :
    Passes (fun moment _ => (Errand.delete name).IsSent store.client moment) I (store.deleteIfExists name)
      (Settled I fun _ history => Honest schedule history.moments →
        history.store.objects.get? (store.client.place name) = none) := by
  obtain ⟨clock, ticking⟩ := exposed.clock
  rw [deleteIfExists, ticking]
  refine Retry.passes_run (fun _ => ?_) _ _
  refine .bind (exposed.client.passes_delete quiet bears) ?_
  intro result
  cases result with
  | ok _ => exact .pure fun _ holds => .ok holds.1 (holds.2 (by simp))
  | error cause =>
      dsimp only
      split
      · next missing =>
        refine .pure fun _ holds => .ok holds.1 (holds.2 ?_)
        rintro other ⟨⟩
        exact missing
      · exact .pure fun _ holds => .error holds.1

/-- With a credential at hand, a delete is sent. -/
theorem IsExposed.sends_deleteIfExists (exposed : store.IsExposed places schedule) :
    Passes (fun moment _ => (Errand.delete name).IsSent store.client moment) (fun _ => True)
      (store.deleteIfExists name)
      fun _ history =>
        store.client.IsProvided → (Errand.delete name).Sent store.client history.moments := by
  obtain ⟨clock, ticking⟩ := exposed.clock
  rw [deleteIfExists, ticking]
  refine Retry.passes_run_once (fun _ => ?_) _ _
  refine .bind exposed.client.sends_delete ?_
  intro result
  cases result with
  | ok _ => exact .pure fun _ holds => holds
  | error cause =>
      dsimp only
      split
      · exact .pure fun _ holds => holds
      · exact .pure fun _ holds => holds

end RemoteStore

end RecordSink
