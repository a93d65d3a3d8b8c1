import RecordSink.Proofs.Ordeal.Endurance
import RecordSink.Proofs.Ordeal.Errands

/-!
# Requests without faults

What a client that is alone with a store on trial comes to while none of its requests meets a fault: every upload
and every compose succeeds at its first attempt, however many attempts there are and whatever the clock says.
-/

namespace RecordSink

open Emulator Ordeal

variable {τ α β ε : Type} {places : List Place} {schedule : Schedule}

/-! ## Steps without faults -/

namespace Ordeal

/-- No request that has passed has met a fault. -/
def Faultless (schedule : Schedule) (history : History) : Prop :=
  ∀ number < history.moments.length, (schedule number).fault = none

instance {history : History} : Decidable (Faultless schedule history) :=
  inferInstanceAs (Decidable (∀ number < history.moments.length, _))

theorem Faultless.earlier {early late : History} (faultless : Faultless schedule late)
    (within : early.moments <:+ late.moments) : Faultless schedule early :=
  fun number passed => faultless number (Nat.lt_of_lt_of_le passed within.length_le)

/-- A step only adds moments, and where none of them has met a fault, it has led from histories with one property
to a value and a history with another. -/
structure Unharmed (schedule : Schedule) (pre : History → Prop) (step : StateM (Ordeal τ) α)
    (post : α → History → Prop) : Prop where
  grows : Grows step
  reaches : ∀ world, pre world.history → Faultless schedule (step world).2.history →
    post (step world).1 (step world).2.history

/-- A call gives a value with a property. -/
def Succeeds (post : α → History → Prop) (result : Except ε α) (history : History) : Prop :=
  ∃ value, result = .ok value ∧ post value history

theorem Grows.aside {step : StateM τ α} : Grows (Ordeal.aside step) := fun _ => List.suffix_rfl

theorem Grows.get : Grows (MonadState.get : StateM (Ordeal τ) (Ordeal τ)) := fun _ => List.suffix_rfl

namespace Unharmed

variable {pre : History → Prop} {step : StateM (Ordeal τ) α} {next : α → StateM (Ordeal τ) β}
  {middle : α → History → Prop} {post : β → History → Prop}

theorem pure {value : β} (holds : ∀ history, pre history → post value history) :
    Unharmed schedule pre (Pure.pure value : StateM (Ordeal τ) β) post :=
  ⟨.pure, fun world start _ => holds world.history start⟩

theorem bind (first : Unharmed schedule pre step middle)
    (second : ∀ value, Unharmed schedule (middle value) (next value) post) :
    Unharmed schedule pre (step >>= next) post := by
  refine ⟨first.grows.bind fun value => (second value).grows, fun world start faultless => ?_⟩
  -- what is faultless at the end was so in between, since the second step only adds moments
  have reached := first.reaches world start (faultless.earlier ((second _).grows _))
  exact (second _).reaches (step world).2 reached faultless

theorem aside {step : StateM τ α} (holds : ∀ value history, pre history → middle value history) :
    Unharmed schedule pre (Ordeal.aside step) middle :=
  ⟨.aside, fun _ start _ => holds _ _ start⟩

/-- A look at the world changes nothing. -/
theorem get : Unharmed schedule pre (MonadState.get : StateM (Ordeal τ) (Ordeal τ)) fun _ history => pre history :=
  ⟨.get, fun _ start _ => start⟩

/-- Nothing has to be known of a step that is never come to. -/
theorem never (grows : Grows step) (none : ∀ history, ¬ pre history) : Unharmed schedule pre step middle :=
  ⟨grows, fun world start _ => absurd start (none world.history)⟩

theorem mono {stronger : History → Prop} {weaker : α → History → Prop}
    (unharmed : Unharmed schedule pre step middle) (before : ∀ history, stronger history → pre history)
    (after : ∀ value history, middle value history → weaker value history) :
    Unharmed schedule stronger step weaker :=
  ⟨unharmed.grows, fun world start faultless =>
    after _ _ (unharmed.reaches world (before _ start) faultless)⟩

/-- It is enough to look at each history by itself. -/
theorem each (grows : Grows step)
    (single : ∀ history, pre history → Unharmed schedule (fun now => now = history) step middle) :
    Unharmed schedule pre step middle :=
  ⟨grows, fun world start => (single world.history start).reaches world rfl⟩

/-- After a call that succeeds, only what follows a success has to be known. -/
theorem proceed {call : StateM (Ordeal τ) (Except ε α)} {next : Except ε α → StateM (Ordeal τ) β}
    (first : Unharmed schedule pre call (Succeeds middle)) (failed : ∀ cause, Grows (next (.error cause)))
    (second : ∀ value, Unharmed schedule (middle value) (next (.ok value)) post) :
    Unharmed schedule pre (call >>= next) post := by
  refine .bind first fun result => ?_
  cases result with
  | error cause => exact .never (failed cause) (by rintro _ ⟨_, none, _⟩; cases none)
  | ok value =>
      refine (second value).mono ?_ fun _ _ holds => holds
      rintro history ⟨_, ⟨⟩, holds⟩
      exact holds

/-- What a step comes to whatever its requests meet. -/
theorem of_passes {P : Moment → List Moment → Prop} (passes : Passes P pre step middle) (grows : Grows step) :
    Unharmed schedule pre step middle :=
  ⟨grows, fun world start _ => (passes world start).2⟩

end Unharmed

end Ordeal

/-! ## Attempts -/

namespace Retry

variable {clock : Clock τ} {policy : RetryPolicy} {call : Nat → StateM (Ordeal τ) (Except RemoteError α)}

theorem grows_attempts (calls : ∀ number, Grows (call number)) (started : Duration) (left number : Nat) :
    Grows (attempts (Ordeal.clock clock) policy started call left number) := by
  have each : ∀ number, Passes (fun _ _ => True) (fun _ => True) (call number)
      (Settled (fun _ => True) fun _ _ => True) := fun number =>
    ((calls number).passes fun _ _ _ _ => trivial).mono (fun _ _ _ => trivial) (fun _ _ => trivial)
      fun _ _ _ => ⟨trivial, fun _ _ => trivial⟩
  exact (passes_attempts each started left number).grows

/-- A run whose first attempt succeeds comes to what that attempt comes to. -/
theorem unharmed_run {pre : History → Prop} {post : α → History → Prop}
    (calls : ∀ number, Grows (call number)) (first : Unharmed schedule pre (call 1) (Succeeds post))
    (operation : Operation) (object : String) :
    Unharmed schedule pre (run (Ordeal.clock clock) policy operation object call) (Succeeds post) := by
  have attempting : ∀ started left, Unharmed schedule pre
      (attempts (Ordeal.clock clock) policy started call left 1)
      fun result history => Succeeds post result.1 history := by
    intro started left
    cases left with
    | zero =>
        rw [attempts]
        exact .bind first fun _ => .pure fun _ holds => holds
    | succ left =>
        rw [attempts]
        refine first.proceed (fun cause => ?_) fun value => .pure fun _ holds => ⟨value, rfl, holds⟩
        dsimp only
        split
        · exact .pure
        refine .bind .aside fun delay => .bind .aside fun now => ?_
        split
        · exact .pure
        · exact .bind .aside fun _ => grows_attempts calls started left 2
  rw [run]
  refine .bind (.aside fun _ _ holds => holds) fun started => .bind (attempting started _) ?_
  rintro ⟨result, number⟩
  cases result with
  | ok value =>
      refine .pure ?_
      rintro history ⟨given, ⟨⟩, holds⟩
      exact ⟨value, rfl, holds⟩
  | error cause => exact .pure (by rintro _ ⟨_, none, _⟩; cases none)

end Retry

/-! ## Requests -/

/-- No request takes the bucket away or changes the token. -/
theorem Emulator.lets_exchangeWith (fault : Option Fault) (request : Http.Request) (store : Emulator) :
    Lets store (store.exchangeWith (fun _ store => (fault, store)) request).2 := by
  dsimp only [exchangeWith]
  split
  · exact ⟨rfl, rfl⟩
  split
  · exact ⟨rfl, rfl⟩
  · exact (lets_record request _ store).trans (lets_settle fault _ _ _)

namespace Client

/-- A client is alone with a store on trial, and reaches its whole interface with one credential. -/
structure IsAlone (credential : Credential) (schedule : Schedule) (client : Client (Ordeal τ)) : Prop where
  addressed : client.IsAddressed
  reaches : client.Reaches
  link : client.link = Ordeal.link schedule
  alone : ∀ number, (schedule number).deeds = []
  credentials : client.credentials = Ordeal.credentials (.fixed credential)

/-- A store has the bucket of a client and takes its credential. -/
structure IsWelcome {W : Type} (client : Client W) (credential : Credential) (store : Emulator) : Prop where
  bucket : client.bucket ∈ store.buckets
  opens : credential.Opens store

variable {client : Client (Ordeal τ)} {credential : Credential} {name : ObjectName} {start : History}

theorem IsWelcome.lets {W : Type} {client : Client W} {before after : Emulator}
    (welcome : client.IsWelcome credential before) (lets : Lets before after) :
    client.IsWelcome credential after :=
  ⟨by rw [lets.buckets]; exact welcome.bucket, welcome.opens.lets lets⟩

theorem IsAlone.isExposed (alone : client.IsAlone credential schedule) (places : List Place) :
    client.IsExposed places schedule := by
  refine ⟨alone.addressed, alone.link, fun number deed inside => ?_, ⟨_, alone.credentials⟩⟩
  rw [alone.alone number] at inside
  cases inside

/-- What an exchange does to the world: one request passes. -/
theorem IsAlone.exchange_eq (alone : client.IsAlone credential schedule) (request : Http.Request)
    (world : Ordeal τ) :
    client.exchange request world =
      let moment := (schedule world.history.moments.length).moment
        (request.withHeaders credential.headers) world.history.store
      (verdict moment.outcome, { world with history := world.history.next moment }) := by
  have obtained : client.credentials.obtain world = (.ok credential, world) := by
    rw [alone.credentials]
    rfl
  rw [Client.exchange]
  simp only [bind, StateT.bind, obtained, alone.link, Ordeal.link]
  cases ((schedule world.history.moments.length).moment (request.withHeaders credential.headers)
    world.history.store).outcome with
  | error cause => rfl
  | ok response =>
      dsimp only [verdict]
      split <;> rfl

theorem IsAlone.grows_exchange (alone : client.IsAlone credential schedule) (request : Http.Request) :
    Grows (client.exchange request) := by
  intro world
  rw [alone.exchange_eq]
  exact List.suffix_cons _ _

/-- Whatever a request meets, its client stays welcome. -/
theorem IsAlone.welcome_exchange (alone : client.IsAlone credential schedule) (request : Http.Request)
    {world : Ordeal τ} (welcome : client.IsWelcome credential world.history.store) :
    client.IsWelcome credential (client.exchange request world).2.history.store := by
  rw [alone.exchange_eq]
  exact welcome.lets ((lets_deeds _ _).trans (lets_exchangeWith _ _ _))

/-- A request that meets no fault is answered as the store applies it. -/
theorem IsAlone.unharmed_exchange (alone : client.IsAlone credential schedule) {request : Http.Request}
    {route : Route} (plain : request.header? "authorization" = none)
    (routed : Route.ofRequest request.method request.url = route) (known : route.operation?.isSome)
    (welcome : client.IsWelcome credential start.store) {K : Http.Response → Emulator → Prop}
    (applied : ∀ reached response effect after, Alike start.store reached →
      reached.apply route (request.body.getD []) = (response, effect) → Alike effect after → K response after) :
    Unharmed schedule (fun now => now = start) (client.exchange request) fun result history =>
      client.IsWelcome credential history.store ∧
        ∃ response, result = verdict (.ok response) ∧ K response history.store := by
  refine ⟨alone.grows_exchange request, ?_⟩
  rintro world rfl faultless
  have still := alone.welcome_exchange request welcome
  rw [alone.exchange_eq] at faultless still ⊢
  have calm : (schedule world.history.moments.length).fault = none :=
    faultless world.history.moments.length (Nat.lt_succ_self _)
  have settled := Turn.moment_eq (schedule world.history.moments.length)
    (welcome.opens.lets (lets_deeds _ _) request plain) routed known
  rw [alone.alone, calm] at settled
  refine ⟨still, ((world.history.store.record (request.withHeaders credential.headers) route).apply route
    (request.body.getD [])).1, ?_, ?_⟩
  · rw [settled]
    rfl
  · dsimp only [History.next]
    rw [settled]
    exact applied (world.history.store.record (request.withHeaders credential.headers) route) _ _ _
      ⟨rfl, rfl, rfl⟩ rfl (alike_counted _ _)

/-- Of some places one has a new object, which an answer describes, and the client stays welcome. -/
structure Delivered {W : Type} (places : List Place) (client : Client W) (credential : Credential) (place : Place)
    (start : Emulator) (answer : ObjectMetadata) (history : History) : Prop where
  welcome : client.IsWelcome credential history.store
  object : ∃ object : StoredObject, answer = object.metadata place ∧
    Sets places place (some object) start history.store

/-- A request that writes an object and meets no fault is answered with a description of the object. -/
theorem IsAlone.unharmed_write (alone : client.IsAlone credential schedule) {request : Http.Request}
    {route : Route} (plain : request.header? "authorization" = none)
    (routed : Route.ofRequest request.method request.url = route) (known : route.operation?.isSome)
    (welcome : client.IsWelcome credential start.store) {place : Place}
    (effect : ∀ reached, Alike start.store reached →
      ∃ data, Writes places place data reached (reached.apply route (request.body.getD []))) :
    Unharmed schedule (fun now => now = start)
      (client.exchange request >>= fun result => pure (readBody ObjectMetadata.read? result))
      (Succeeds (Delivered places client credential place start.store)) := by
  refine .bind (alone.unharmed_exchange plain routed known welcome
    (K := fun response after => ∃ object : StoredObject, response = answer (object.metadata place).toJson ∧
      Sets places place (some object) start.store after) ?_) fun result => .pure ?_
  · intro reached response applied after alike settled shown
    obtain ⟨-, object, -, sets, answered⟩ := effect reached alike
    rw [settled] at sets answered
    exact ⟨object, answered, (alike.keeps.sets sets).alike shown⟩
  · rintro history ⟨still, response, rfl, object, rfl, sets⟩
    exact ⟨_, readBody_answer _, still, object, rfl, sets⟩

theorem IsAlone.unharmed_upload (alone : client.IsAlone credential schedule)
    (welcome : client.IsWelcome credential start.store) (name : ObjectName) (body : Bytes) :
    Unharmed schedule (fun now => now = start) (client.upload name recordType body)
      (Succeeds (Delivered places client credential (client.place name) start.store)) := by
  refine alone.unharmed_write rfl (alone.reaches.upload name) rfl welcome fun reached alike => ?_
  refine ⟨body, writes_upload ?_⟩
  rw [alike.buckets]
  exact welcome.bucket

theorem IsAlone.unharmed_compose (alone : client.IsAlone credential schedule)
    (welcome : client.IsWelcome credential start.store) {sources : List ObjectName} (filled : sources ≠ [])
    (few : sources.length ≤ maxSources) {generation : Option String} {data : Bytes}
    (gathers : Gathers (sources.map client.place) data start.store)
    (met : ∀ asked, generation = some asked →
      asked = Numeral.decimal (start.store.generationAt (client.place name))) :
    Unharmed schedule (fun now => now = start) (client.compose name sources recordType generation)
      (Succeeds (Delivered places client credential (client.place name) start.store)) := by
  rw [compose_eq _ name filled few]
  refine alone.unharmed_write rfl (alone.reaches.compose name _) rfl welcome fun reached alike => ?_
  have present : client.bucket ∈ reached.buckets := by
    rw [alike.buckets]
    exact welcome.bucket
  have gathered : Gathers ((sources.map (·.text)).map fun source => ⟨client.bucket, source⟩) data reached := by
    rw [List.map_map]
    exact gathers.keeps alike.keeps fun _ inside => inside
  refine ⟨data, writes_compose present (fun asked same => ?_) (by simpa using filled) gathered⟩
  rw [met asked same, alike.keeps.generationAt (List.mem_singleton_self _)]
  rfl

theorem IsAlone.grows_compose (alone : client.IsAlone credential schedule) (sources : List ObjectName)
    (generation : Option String) : Grows (client.compose name sources recordType generation) := by
  rw [compose]
  split
  · exact .pure
  · exact .bind (alone.grows_exchange _) fun _ => .pure

/-- Whatever a removal meets, its client stays welcome. -/
theorem IsAlone.passes_delete (alone : client.IsAlone credential schedule) (name : ObjectName) :
    Passes (fun _ _ => True) (fun history => client.IsWelcome credential history.store) (client.delete name)
      fun _ history => client.IsWelcome credential history.store := by
  have exchange : ∀ request, Passes (fun _ _ => True) (fun history => client.IsWelcome credential history.store)
      (client.exchange request) fun _ history => client.IsWelcome credential history.store := by
    intro request world welcome
    refine ⟨?_, alone.welcome_exchange request welcome⟩
    rw [alone.exchange_eq]
    exact .next .done trivial
  rw [delete]
  refine .bind (exchange _) fun result => ?_
  cases result <;> exact .pure fun _ holds => holds

end Client

/-! ## Calls -/

namespace RemoteStore

/-- A client is alone with a store on trial, with any clock. -/
structure IsAlone (credential : Credential) (schedule : Schedule) (store : RemoteStore (Ordeal τ)) : Prop where
  client : store.client.IsAlone credential schedule
  clock : ∃ clock, store.clock = Ordeal.clock clock

variable {store : RemoteStore (Ordeal τ)} {credential : Credential} {name : ObjectName} {start : History}

theorem IsAlone.isExposed (alone : store.IsAlone credential schedule) (places : List Place) :
    store.IsExposed places schedule :=
  ⟨alone.client.isExposed places, alone.clock⟩

/-- An upload succeeds. -/
theorem IsAlone.unharmed_upload (alone : store.IsAlone credential schedule)
    (welcome : store.client.IsWelcome credential start.store) (name : ObjectName) (body : Bytes) :
    Unharmed schedule (fun now => now = start) (store.upload name body)
      (Succeeds (store.client.Delivered places credential (store.client.place name) start.store)) := by
  obtain ⟨clock, ticking⟩ := alone.clock
  rw [upload, ticking]
  refine Retry.unharmed_run (fun _ => ?_) (alone.client.unharmed_upload welcome name body) _ _
  exact .bind (alone.client.grows_exchange _) fun _ => .pure

variable {sources : List ObjectName} {data : Bytes}

/-- A compose of objects that are there succeeds. -/
theorem IsAlone.unharmed_compose (alone : store.IsAlone credential schedule)
    (welcome : store.client.IsWelcome credential start.store) (filled : sources ≠ [])
    (few : sources.length ≤ Client.maxSources)
    (gathers : Gathers (sources.map store.client.place) data start.store) :
    Unharmed schedule (fun now => now = start) (store.compose name sources)
      (Succeeds (store.client.Delivered places credential (store.client.place name) start.store)) := by
  obtain ⟨clock, ticking⟩ := alone.clock
  rw [compose, ticking]
  refine Retry.unharmed_run (fun _ => alone.client.grows_compose sources none)
    (alone.client.unharmed_compose welcome filled few gathers ?_) _ _
  rintro asked ⟨⟩

/-- A compose onto an object with the generation asked for succeeds. -/
theorem IsAlone.unharmed_composeReplacing (alone : store.IsAlone credential schedule)
    (welcome : store.client.IsWelcome credential start.store) (filled : sources ≠ [])
    (few : sources.length ≤ Client.maxSources)
    (gathers : Gathers (sources.map store.client.place) data start.store) {generation : Nat}
    (met : start.store.generationAt (store.client.place name) = generation) (size : Nat) :
    Unharmed schedule (fun now => now = start)
      (store.composeReplacing name sources (some (Numeral.decimal generation)) size)
      (Succeeds (store.client.Delivered places credential (store.client.place name) start.store)) := by
  obtain ⟨clock, ticking⟩ := alone.clock
  have grows : ∀ attempt,
      Grows (store.composeOnce name sources (some (Numeral.decimal generation)) size attempt) := by
    intro attempt
    rw [composeOnce]
    refine .bind (alone.client.grows_compose sources _) fun result => ?_
    cases result with
    | ok object => exact .pure
    | error cause =>
        dsimp only
        split
        · refine .bind (.bind (alone.client.grows_exchange _) fun _ => .pure) fun found => ?_
          cases found with
          | error other => exact .pure
          | ok current =>
              dsimp only
              split
              · exact .pure
              · exact .pure
        · exact .pure
  have first : Unharmed schedule (fun now => now = start)
      (store.composeOnce name sources (some (Numeral.decimal generation)) size 1)
      (Succeeds (store.client.Delivered places credential (store.client.place name) start.store)) := by
    have composed : Unharmed schedule (fun now => now = start)
        (store.client.compose name sources Client.recordType (some (Numeral.decimal generation)))
        (Succeeds (store.client.Delivered places credential (store.client.place name) start.store)) := by
      refine alone.client.unharmed_compose welcome filled few gathers ?_
      rintro asked ⟨⟩
      rw [met]
    rw [composeOnce]
    refine composed.proceed (fun cause => ?_) fun object => .pure fun _ wrote => ⟨object, rfl, wrote⟩
    -- a first attempt does not look at the object
    dsimp only
    rw [if_neg (by omega)]
    exact .pure
  rw [composeReplacing, ticking]
  exact Retry.unharmed_run grows first _ _

/-- Whatever a removal meets, its client stays welcome. -/
theorem IsAlone.passes_deleteIfExists (alone : store.IsAlone credential schedule) (name : ObjectName) :
    Passes (fun _ _ => True) (fun history => store.client.IsWelcome credential history.store)
      (store.deleteIfExists name)
      (Settled (fun history => store.client.IsWelcome credential history.store) fun _ _ => True) := by
  obtain ⟨clock, ticking⟩ := alone.clock
  rw [deleteIfExists, ticking]
  refine Retry.passes_run (fun _ => .bind (alone.client.passes_delete name) fun deleted => ?_) _ _
  cases deleted with
  | ok _ => exact .pure fun _ holds => .ok holds trivial
  | error cause =>
      dsimp only
      split
      · exact .pure fun _ holds => .ok holds trivial
      · exact .pure fun _ holds => .error holds

end RemoteStore

end RecordSink
