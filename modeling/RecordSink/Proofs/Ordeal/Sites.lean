import RecordSink.Proofs.Emulator.Requests
import RecordSink.Proofs.Ordeal.Calls
import RecordSink.Proofs.Ordeal.Watch

/-!
# Sites

A site is what a client of a store on trial brings along: a clock, credentials and a policy for its
attempts. Where the store lets it in, every one of its requests is answered as the store answers it or
meets a fault that may pass, and the watch has noted which of it happened.
-/

namespace RecordSink

open Emulator Ordeal

variable {τ α : Type} {places : List Place}

/-! ## Stores that let their client in -/

namespace Emulator

/-- The buckets of a store and its token stay as they are. -/
structure Lets (before after : Emulator) : Prop where
  buckets : after.buckets = before.buckets
  token : after.requiredToken = before.requiredToken

variable {first second third store : Emulator} {request : Http.Request} {route : Route}

theorem Lets.refl (store : Emulator) : Lets store store := ⟨rfl, rfl⟩

theorem Lets.trans (one : Lets first second) (other : Lets second third) : Lets first third :=
  ⟨other.buckets.trans one.buckets, other.token.trans one.token⟩

theorem lets_deeds (deeds : List Deed) (store : Emulator) : Lets store (deeds.foldl Deed.run store) := by
  induction deeds generalizing store with
  | nil => exact .refl store
  | cons deed rest ih =>
      have first : Lets store (deed.run store) := by cases deed <;> exact ⟨rfl, rfl⟩
      exact first.trans (ih _)

theorem lets_counted (status : Nat) (store : Emulator) : Lets store (store.counted status) := by
  rw [counted]
  split <;> exact ⟨rfl, rfl⟩

theorem lets_record (request : Http.Request) (route : Route) (store : Emulator) :
    Lets store (store.record request route) := ⟨rfl, rfl⟩

theorem lets_apply (route : Route) (body : Bytes) (store : Emulator) :
    Lets store (store.apply route body).2 := by
  obtain ⟨stats, same | ⟨_, _, _, same⟩ | ⟨_, same⟩⟩ := apply_cases route body store
  all_goals
    rw [same]
    exact ⟨rfl, rfl⟩

theorem lets_settle (fault : Option Fault) (route : Route) (body : Bytes) (store : Emulator) :
    Lets store (store.settle fault route body).2 := by
  have applied := lets_apply route body store
  match fault with
  | some (.refuse status message) => exact .refl store
  | some .lose => exact (applied.trans (lets_counted _ _)).trans ⟨rfl, rfl⟩
  | none => exact applied.trans (lets_counted _ _)

/-- A request that is authorized is settled as it is routed. -/
theorem exchangeWith_eq {fault : Option Fault} (authorized : store.isAuthorized request = true)
    (routed : Route.ofRequest request.method request.url = route) (known : route.operation?.isSome) :
    store.exchangeWith (fun _ store => (fault, store)) request =
      (store.record request route).settle fault route (request.body.getD []) := by
  have passed : (store.record request (Route.ofRequest request.method request.url)).isAuthorized
      request = true := authorized
  rewrite [exchangeWith, if_neg (by rw [passed]; decide), routed]
  cases operation : route.operation? with
  | none => rw [operation] at known; cases known
  | some operation => rfl

end Emulator

/-- With a credential the store lets every request in that brings no other one. -/
def Credential.Opens (credential : Credential) (store : Emulator) : Prop :=
  ∀ request : Http.Request, request.header? "authorization" = none →
    store.isAuthorized (request.withHeaders credential.headers) = true

theorem Credential.Opens.lets {credential : Credential} {before after : Emulator}
    (opens : credential.Opens before) (lets : Lets before after) : credential.Opens after := by
  intro request plain
  rw [isAuthorized, lets.token]
  exact opens request plain

/-- The bearer of the token that a store needs is let in. -/
theorem Credential.opens_bearer {token : String} {store : Emulator}
    (needed : ∀ other, store.requiredToken = some other → other = token) :
    (Credential.bearer token).Opens store := by
  intro request plain
  rw [isAuthorized]
  cases required : store.requiredToken with
  | none => rfl
  | some other =>
      have found : (request.withHeaders (Credential.bearer token).headers).header? "authorization" =
          some ("Bearer " ++ token) := by
        rw [Http.Request.header?, Option.map_eq_none_iff] at plain
        rw [Http.Request.header?, Http.Request.withHeaders]
        dsimp only at plain ⊢
        have same : ("Authorization".toList.map Char.toLower ==
            "authorization".toList.map Char.toLower) = true := by decide
        rw [List.find?_append, plain, bearer, Option.none_or, List.find?_cons, same]
        rfl
      dsimp only
      rw [found, needed other required]
      exact beq_self_eq_true _

/-! ## Sites -/

/-- A fault that may pass: the store reports that it is unavailable, or a response is lost. -/
def Emulator.Fault.Passes : Fault → Prop
  | .lose => True
  | .refuse status _ => isRetriableStatus status = true

/-- A schedule without writers of some places, in which every fault may pass. -/
structure Ordeal.Schedule.Allows (places : List Place) (schedule : Schedule) : Prop where
  deeds : ∀ number, ∀ deed ∈ (schedule number).deeds, deed.place ∉ places
  faults : ∀ number fault, (schedule number).fault = some fault → fault.Passes

theorem Ordeal.Schedule.Allows.spares {schedule : Schedule} (allows : schedule.Allows places) :
    schedule.Spares places := by
  intro number
  refine ⟨allows.deeds number, ?_⟩
  intro status message refused
  have passes : isRetriableStatus status = true := allows.faults number _ refused
  simp only [isRetriableStatus, Bool.or_eq_true, beq_iff_eq] at passes
  rcases passes with ((rfl | rfl) | rfl) | rfl <;> rfl

/-- What a client of a store on trial brings along. -/
structure Site (τ : Type) where
  clock : Clock τ
  source : CredentialSource τ
  endpoint : Url
  bucket : String
  policy : RetryPolicy

namespace Site

/-- The store behind a site, with a watch. -/
def store (site : Site τ) (schedule : Schedule) : RemoteStore (Ordeal (Watch τ)) :=
  { client := {
      link := Ordeal.link schedule
      credentials := Ordeal.credentials (Watch.credentials schedule site.source)
      endpoint := site.endpoint
      bucket := site.bucket }
    clock := Ordeal.clock (Watch.clock site.clock)
    policy := site.policy }

/-- The most faults that a run of attempts survives. -/
def most (site : Site τ) : Nat := site.policy.maxAttempts - 1

/-- A store has the bucket of a site and lets every credential in that the site hands out. -/
structure Admitted (site : Site τ) (store : Emulator) : Prop where
  bucket : site.bucket ∈ store.buckets
  opens : ∀ rest, ∃ credential after,
    site.source.obtain rest = (.ok credential, after) ∧ credential.Opens store

/-- Nothing but faults keeps the requests of a site from a store, and nothing but its number of
attempts ends a run. -/
structure Fit (places : List Place) (site : Site τ) (schedule : Schedule) : Prop where
  allows : schedule.Allows places
  addressed : (site.store schedule).client.IsAddressed
  reaches : (site.store schedule).client.Reaches
  unlimited : site.policy.totalDuration = none

variable {site : Site τ} {schedule : Schedule} {before after : Emulator}

theorem Admitted.lets (admitted : site.Admitted before) (lets : Lets before after) :
    site.Admitted after := by
  constructor
  · rw [lets.buckets]
    exact admitted.bucket
  · intro rest
    obtain ⟨credential, later, obtained, opens⟩ := admitted.opens rest
    exact ⟨credential, later, obtained, opens.lets lets⟩

theorem Fit.isTried (fit : site.Fit places schedule) : (site.store schedule).IsTried places :=
  ⟨⟨fit.addressed, ⟨schedule, fit.allows.spares, rfl⟩, ⟨_, rfl⟩⟩, ⟨_, rfl⟩⟩

/-- Between two requests of a run, and between two runs: the watch counted every request, and the store
lets the site in. -/
structure Steady (site : Site τ) (world : Ordeal (Watch τ)) : Prop where
  asked : world.rest.asked = world.history.moments.length
  resumed : world.rest.resuming = false
  admitted : site.Admitted world.history.store

end Site

/-! ## One request -/

/-- A failure that may pass, as only a fault causes it. -/
structure RemoteError.Passes (cause : RemoteError) : Prop where
  retriable : cause.retriable = true
  status : ∀ status, cause.failure.status? = some status → isRetriableStatus status = true

/-- What a client makes of the outcome of a request. -/
def Client.verdict : Http.Outcome → Except RemoteError Http.Response
  | .error cause => .error ⟨cause.isTransient, .link cause.message⟩
  | .ok response =>
      if response.isSuccess then .ok response
      else .error (.ofStatus response.status response.text)

theorem RemoteError.passes_ofStatus {status : Nat} (passing : isRetriableStatus status = true)
    (body : String) : (RemoteError.ofStatus status body).Passes := by
  refine ⟨passing, ?_⟩
  rintro other ⟨⟩
  exact passing

/-- A request that is settled without a fault is answered as it is applied. One that meets a fault is
refused or applied all the same, and the client is told of a failure that may pass. -/
theorem Emulator.settle_cases {fault : Option Fault} (passes : ∀ met, fault = some met → met.Passes)
    (route : Route) (body : Bytes) (store : Emulator) :
    (fault.isSome = false ∧ (store.settle fault route body).1 = .ok (store.apply route body).1 ∧
        Alike (store.apply route body).2 (store.settle fault route body).2) ∨
      (fault.isSome = true ∧
        (∃ cause, Client.verdict (store.settle fault route body).1 = .error cause ∧ cause.Passes) ∧
        (Alike store (store.settle fault route body).2 ∨
          Alike (store.apply route body).2 (store.settle fault route body).2)) := by
  match fault with
  | none => exact .inl ⟨rfl, rfl, alike_counted _ _⟩
  | some .lose =>
      right
      refine ⟨rfl, ⟨_, rfl, rfl, fun status none => nomatch none⟩, .inr ?_⟩
      exact (alike_counted _ _).trans ⟨rfl, rfl, rfl⟩
  | some (.refuse status message) =>
      right
      have passing : isRetriableStatus status = true := passes _ rfl
      have failed : Http.isSuccess status = false := by
        simp only [isRetriableStatus, Bool.or_eq_true, beq_iff_eq] at passing
        rcases passing with ((rfl | rfl) | rfl) | rfl <;> rfl
      have unsuccessful : (refusal status message).isSuccess = false := failed
      have told : Client.verdict (store.settle (some (.refuse status message)) route body).1 =
          .error (.ofStatus status (refusal status message).text) := by
        rw [settle, Client.verdict, unsuccessful]
        rfl
      exact ⟨rfl, ⟨_, told, RemoteError.passes_ofStatus passing _⟩, .inl (.refl store)⟩

/-- A request that is let in is settled behind the deeds of its turn. -/
theorem Ordeal.Turn.moment_eq (turn : Turn) {request : Http.Request} {route : Route} {start : Emulator}
    (authorized : (turn.deeds.foldl Deed.run start).isAuthorized request = true)
    (routed : Route.ofRequest request.method request.url = route) (known : route.operation?.isSome) :
    turn.moment request start =
      let settled := ((turn.deeds.foldl Deed.run start).record request route).settle turn.fault route
        (request.body.getD [])
      { request, outcome := settled.1, store := settled.2 } := by
  rw [Turn.moment]
  dsimp only
  rw [exchangeWith_eq authorized routed known]

namespace Site

variable {site : Site τ} {schedule : Schedule}

/-- What an exchange does to the world: one request passes, and the watch notes it. -/
theorem exchange_eq (request : Http.Request) {world : Ordeal (Watch τ)} {credential : Credential}
    {rest : τ} (obtained : site.source.obtain world.rest.rest = (.ok credential, rest)) :
    (site.store schedule).client.exchange request world =
      let moment := (schedule world.history.moments.length).moment
        (request.withHeaders credential.headers) world.history.store
      (Client.verdict moment.outcome,
        { rest := { world.rest.noted schedule with rest }, history := world.history.next moment }) := by
  have noted : (Watch.credentials schedule site.source).obtain world.rest =
      (.ok credential, { world.rest.noted schedule with rest }) := by
    simp only [Watch.credentials, Watch.beside, Watch.noted, obtained]
  have begun : (Ordeal.credentials (Watch.credentials schedule site.source)).obtain world =
      (.ok credential, { world with rest := { world.rest.noted schedule with rest } }) := by
    simp only [Ordeal.credentials, Ordeal.aside, noted]
  rw [Client.exchange]
  simp only [store, bind, StateT.bind, begun, Ordeal.link]
  cases ((schedule world.history.moments.length).moment (request.withHeaders credential.headers)
    world.history.store).outcome with
  | error cause => rfl
  | ok response =>
      dsimp only [Client.verdict]
      split <;> rfl

/-- A request of a steady site is settled with the fault of its turn. -/
theorem exchange_settles (fit : site.Fit places schedule) {request : Http.Request} {route : Route}
    (plain : request.header? "authorization" = none)
    (routed : Route.ofRequest request.method request.url = route) (known : route.operation?.isSome)
    {world : Ordeal (Watch τ)} (steady : site.Steady world) :
    let fault := (schedule world.history.moments.length).fault
    ∃ reached after, Keeps places world.history.store reached ∧ site.bucket ∈ reached.buckets ∧
      (site.store schedule).client.exchange request world =
        (Client.verdict (reached.settle fault route (request.body.getD [])).1, after) ∧
      after.history.store = (reached.settle fault route (request.body.getD [])).2 ∧
      after.rest.runs = (if fault.isSome then Watch.hit world.rest.runs else world.rest.runs) ∧
      site.Steady after := by
  obtain ⟨credential, rest, obtained, opens⟩ := steady.admitted.opens world.rest.rest
  have lets := lets_deeds (schedule world.history.moments.length).deeds world.history.store
  have kept := keeps_deeds (fit.allows.deeds world.history.moments.length) world.history.store
  rw [exchange_eq request obtained, Turn.moment_eq _ (opens.lets lets request plain) routed known]
  refine ⟨((schedule world.history.moments.length).deeds.foldl Deed.run world.history.store).record
    (request.withHeaders credential.headers) route, _, kept.trans (Alike.keeps ⟨rfl, rfl, rfl⟩), ?_, rfl,
    rfl, ?_, ?_⟩
  · exact (steady.admitted.lets lets).bucket
  · dsimp only [Watch.noted]
    rw [steady.asked]
  · refine ⟨congrArg (· + 1) steady.asked, steady.resumed, steady.admitted.lets ?_⟩
    exact (lets.trans (lets_record _ _ _)).trans (lets_settle _ _ _ _)

/-- One attempt: it meets no fault, and ends with a result and a world as they should be; or it meets one
fault, and then it fails in a way that may pass and leaves a world in which another attempt is worth
it. -/
def Tries (pre : Ordeal (Watch τ) → Prop)
    (step : StateM (Ordeal (Watch τ)) (Except RemoteError α))
    (clear : Except RemoteError α → Ordeal (Watch τ) → Prop) (struck : Ordeal (Watch τ) → Prop) : Prop :=
  ∀ world, pre world →
    ((step world).2.rest.runs = world.rest.runs ∧ clear (step world).1 (step world).2) ∨
      ((step world).2.rest.runs = Watch.hit world.rest.runs ∧
        (∃ cause, (step world).1 = .error cause ∧ cause.Passes) ∧ struck (step world).2)

/-- The world is steady, and its store has a property. -/
def At (site : Site τ) (I : Emulator → Prop) (world : Ordeal (Watch τ)) : Prop :=
  site.Steady world ∧ I world.history.store

/-- A property of stores is kept while some places keep their objects. -/
def Lasting (places : List Place) (I : Emulator → Prop) : Prop :=
  ∀ before after, I before → Keeps places before after → I after

/-- A request is answered as the store answers it, or it meets a fault: then it is refused, or it is
applied all the same. -/
theorem tries_exchange (fit : site.Fit places schedule) {request : Http.Request} {route : Route}
    (plain : request.header? "authorization" = none)
    (routed : Route.ofRequest request.method request.url = route) (known : route.operation?.isSome)
    {I J : Emulator → Prop} {K : Http.Response → Emulator → Prop} (lasting : Lasting places I)
    (refused : ∀ store, I store → J store)
    (applied : ∀ store response reached after, I store → site.bucket ∈ store.buckets →
      store.apply route (request.body.getD []) = (response, reached) → Alike reached after →
      J after ∧ K response after) :
    Tries (site.At I) ((site.store schedule).client.exchange request)
      (fun result world => site.Steady world ∧
        ∃ response, result = Client.verdict (.ok response) ∧ K response world.history.store)
      (site.At J) := by
  rintro world ⟨steady, holds⟩
  obtain ⟨reached, after, kept, bucket, exchanged, store, runs, still⟩ :=
    exchange_settles fit plain routed known steady
  rw [exchanged]
  dsimp only
  have there := lasting _ _ holds kept
  rcases settle_cases (fit.allows.faults world.history.moments.length) route (request.body.getD [])
    reached with ⟨calm, answered, effect⟩ | ⟨faulty, told, effect⟩
  · left
    rw [if_neg (by rw [calm]; decide)] at runs
    rw [← store] at effect
    refine ⟨runs, still, (reached.apply route (request.body.getD [])).1, by rw [answered], ?_⟩
    exact (applied reached _ _ _ there bucket rfl effect).2
  · right
    rw [if_pos faulty] at runs
    rw [← store] at effect
    refine ⟨runs, told, still, ?_⟩
    rcases effect with untouched | effect
    · exact refused _ (lasting _ _ there untouched.keeps)
    · exact (applied reached _ _ _ there bucket rfl effect).1

end Site

end RecordSink
