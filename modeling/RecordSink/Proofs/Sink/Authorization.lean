import RecordSink.Proofs.Sink.Transcripts

/-!
# Authorized requests

What the transcript of a remote call says of its requests. Each is sent with the headers of the credential that
was handed out for it. Where none is handed out, nothing is sent, and the call ends with the number of the
attempt.
-/

namespace RecordSink

variable {W α β : Type} {asks : Http.Request → Prop} {result : Except RemoteError α} {log more : List Event}

/-! ## Requests with credentials -/

/-- The requests of an operation on an object, with the headers of their own. A compose may also ask what became
of the object. -/
inductive Client.Asks (client : Client W) : Operation → String → Http.Request → Prop where
  | upload (name : ObjectName) (body : Bytes) :
      Asks client .upload name.text (client.uploadRequest name Client.recordType body)
  | compose (name : ObjectName) (sources : List ObjectName) (generation : Option String) :
      Asks client .compose name.text (client.composeRequest name sources Client.recordType generation)
  | composed (name : ObjectName) : Asks client .compose name.text (.plain .get (client.objectUrl name))
  | delete (name : ObjectName) : Asks client .delete name.text (.plain .delete (client.objectUrl name))
  | getBucket : Asks client .getBucket client.bucket (.plain .get client.bucketUrl)

/-- The events of requests in turn. Each is sent right after a credential was handed out for it, with the headers
of the credential after its own. Where none is handed out, nothing follows. -/
inductive Authorized (asks : Http.Request → Prop) : List Event → Prop where
  | nil : Authorized asks []
  | refused (cause : CredentialError) : Authorized asks [.obtained (.error cause)]
  | sent {own : Http.Request} {rest : List Event} (credential : Credential) (outcome : Http.Outcome) :
      asks own → Authorized asks rest →
        Authorized asks (.obtained (.ok credential) :: .sent (own.withHeaders credential.headers) outcome :: rest)

/-- Why a source of credentials handed out none. -/
def Event.refusal? : Event → Option CredentialError
  | .obtained (.error cause) => some cause
  | _ => none

/-- The first refusal of a source. -/
def refusal? (log : List Event) : Option CredentialError := log.findSome? Event.refusal?

theorem Authorized.append (first : Authorized asks log) (granted : refusal? log = none)
    (second : Authorized asks more) : Authorized asks (log ++ more) := by
  induction first with
  | nil => exact second
  | refused cause => cases granted
  | sent credential outcome asked _ ih => exact .sent credential outcome asked (ih granted)

/-- One attempt of a remote call: its requests are authorized, and where a credential is missing it fails for
good. -/
structure Heeds (asks : Http.Request → Prop) (result : Except RemoteError α) (log : List Event) : Prop where
  authorized : Authorized asks log
  refused : ∀ cause, refusal? log = some cause → result = .error (.fatal (.credential cause.message))

/-- What passes on all failures heeds what it follows. -/
theorem Heeds.passes {later : Except RemoteError β} (heeds : Heeds asks result log)
    (passes : ∀ cause, result = .error cause → cause.failure.status? = none → later = .error cause) :
    Heeds asks later log := by
  constructor
  · exact heeds.authorized
  · intro cause missing
    exact passes _ (heeds.refused cause missing) rfl

theorem Heeds.granted (heeds : Heeds asks result log)
    (other : ∀ cause, result = .error cause → cause.retriable = true ∨ cause.failure.status?.isSome = true) :
    refusal? log = none := by
  cases missing : refusal? log with
  | none => rfl
  | some cause => cases other _ (heeds.refused cause missing) <;> contradiction

/-- What heeds its own requests heeds those before it too, where these had their credentials. -/
theorem Heeds.behind (heeds : Heeds asks result more) (first : Authorized asks log)
    (granted : refusal? log = none) : Heeds asks result (log ++ more) := by
  constructor
  · exact first.append granted heeds.authorized
  · intro cause missing
    rw [refusal?, List.findSome?_append, ← refusal?, granted, Option.none_or] at missing
    exact heeds.refused cause missing

namespace Client

variable {client : Client W} {request : Http.Request}

theorem exchange_heeds (asked : asks request) :
    Reports (client.traced.exchange request) (client.exchange request) (Heeds asks) := by
  apply Reports.bind (Reports.noting client.credentials.obtain .obtained)
  rintro outcome log rfl
  cases outcome with
  | error cause =>
      apply Reports.pure
      constructor
      · exact .refused cause
      · rintro other ⟨⟩
        rfl
  | ok credential =>
      apply Reports.bind (Reports.noting (client.link.exchange _) (.sent _))
      rintro answer log rfl
      have authorized := Authorized.sent credential answer asked .nil
      cases answer with
      | error cause => exact .pure ⟨authorized, nofun⟩
      | ok response =>
          dsimp only
          split
          · exact .pure ⟨authorized, nofun⟩
          · exact .pure ⟨authorized, nofun⟩

theorem readBody_heeds {result : Except RemoteError Http.Response} (read? : Bytes → Option α)
    (heeds : Heeds asks result log) : Heeds asks (readBody read? result) log := by
  apply heeds.passes
  rintro cause rfl -
  rfl

theorem upload_heeds (name : ObjectName) (body : Bytes) :
    Reports (client.traced.upload name recordType body) (client.upload name recordType body)
      (Heeds (client.Asks .upload name.text)) :=
  (exchange_heeds (.upload name body)).returns fun _ _ heeds => readBody_heeds _ heeds

theorem compose_heeds (name : ObjectName) (sources : List ObjectName) (generation : Option String) :
    Reports (client.traced.compose name sources recordType generation)
      (client.compose name sources recordType generation) (Heeds (client.Asks .compose name.text)) := by
  rw [compose, compose]
  split
  · exact .pure ⟨.nil, nofun⟩
  · exact (exchange_heeds (.compose name sources generation)).returns fun _ _ heeds => readBody_heeds _ heeds

theorem object_heeds (name : ObjectName) :
    Reports (client.traced.object name) (client.object name) (Heeds (client.Asks .compose name.text)) :=
  (exchange_heeds (.composed name)).returns fun _ _ heeds => readBody_heeds _ heeds

theorem delete_heeds (name : ObjectName) :
    Reports (client.traced.delete name) (client.delete name) (Heeds (client.Asks .delete name.text)) := by
  have asked : client.Asks .delete name.text (.plain .delete (client.objectUrl name)) := .delete name
  apply (exchange_heeds asked).bind
  intro result log heeds
  cases result with
  | error cause =>
      apply Reports.ends
      exact heeds.passes fun _ same _ => by cases same; rfl
  | ok response =>
      apply Reports.ends
      exact heeds.passes nofun

theorem bucketMetadata_heeds :
    Reports client.traced.bucketMetadata client.bucketMetadata (Heeds (client.Asks .getBucket client.bucket)) :=
  (exchange_heeds .getBucket).returns fun _ _ heeds => readBody_heeds _ heeds

end Client

/-- One attempt of a guarded compose, with the look at the object that may follow. -/
theorem RemoteStore.composeOnce_heeds (store : RemoteStore W) (name : ObjectName) (sources : List ObjectName)
    (generation : Option String) (expectedSize attempt : Nat) :
    Reports (store.traced.composeOnce name sources generation expectedSize attempt)
      (store.composeOnce name sources generation expectedSize attempt)
      (Heeds (store.client.Asks .compose name.text)) := by
  apply (Client.compose_heeds name sources generation).bind
  intro result log heeds
  cases result with
  | ok object =>
      apply Reports.ends
      exact heeds.passes nofun
  | error cause =>
      dsimp only
      split
      next stale =>
        have granted : refusal? log = none := by
          apply heeds.granted
          rintro other ⟨⟩
          exact .inr (by rw [stale.1]; rfl)
        apply (Client.object_heeds name).bind
        intro found more heedsToo
        cases found with
        | error other =>
            apply Reports.pure
            rw [List.append_nil]
            exact (heedsToo.passes fun _ same _ => same).behind heeds.authorized granted
        | ok current =>
            dsimp only
            split
            · apply Reports.pure
              rw [List.append_nil]
              exact (heedsToo.passes nofun).behind heeds.authorized granted
            · apply Reports.pure
              rw [List.append_nil]
              exact (heedsToo.passes nofun).behind heeds.authorized granted
      · apply Reports.ends
        exact heeds.passes fun _ same _ => by cases same; rfl

/-! ## Remote calls -/

/-- A failure. -/
def errorOf? {ε : Type} : Except ε α → Option ε
  | .ok _ => none
  | .error cause => some cause

/-- A remote call as its transcript has it: the events of its first attempt, each further one behind a wait, and
how it failed, if it did. -/
structure Remote where
  operation : Operation
  object : String
  first : List Event
  retries : List (Duration × List Event)
  error? : Option SinkError

namespace Remote

/-- The events of each attempt. -/
def attempts (remote : Remote) : List (List Event) := remote.first :: remote.retries.map (·.2)

/-- The events of waits, each with those of an attempt behind it. -/
def spaced (retries : List (Duration × List Event)) : List Event :=
  retries.flatMap fun (span, log) => .waited span :: log

/-- All events in order. -/
def events (remote : Remote) : List Event := remote.first ++ spaced remote.retries

/-- All requests are those of the operation and carry the headers of their credentials. Where none is handed out,
the attempt is the last one, and the call fails for good with its number. -/
structure IsAuthorized (asks : Operation → String → Http.Request → Prop) (remote : Remote) : Prop where
  authorized : ∀ attempt ∈ remote.attempts, Authorized (asks remote.operation remote.object) attempt
  refused : ∀ index attempt cause, remote.attempts[index]? = some attempt → refusal? attempt = some cause →
    index + 1 = remote.attempts.length ∧
      remote.error? =
        some (.remote remote.operation remote.object (index + 1) (.fatal (.credential cause.message)))

end Remote

/-- Attempts from a number on: the last one gives the result, and one without a credential is the last. -/
structure Retry.Row (asks : Http.Request → Prop) (number : Nat) (result : Except RemoteError α × Nat)
    (first : List Event) (retries : List (Duration × List Event)) : Prop where
  last : result.2 = number + retries.length
  authorized : ∀ attempt ∈ first :: retries.map (·.2), Authorized asks attempt
  refused : ∀ index attempt cause, (first :: retries.map (·.2))[index]? = some attempt →
    refusal? attempt = some cause →
    index = retries.length ∧ result.1 = .error (.fatal (.credential cause.message))

theorem Heeds.row (heeds : Heeds asks result log) (number : Nat) : Retry.Row asks number (result, number) log [] := by
  constructor
  · rfl
  · intro attempt among
    rw [List.mem_singleton.mp among]
    exact heeds.authorized
  · intro index attempt cause found missing
    obtain ⟨rfl, rfl⟩ : index = 0 ∧ log = attempt := by
      cases index with
      | zero => exact ⟨rfl, Option.some.inj found⟩
      | succ index => cases found
    exact ⟨rfl, heeds.refused cause missing⟩

theorem Retry.Row.cons {outcome : Except RemoteError α × Nat} {number : Nat} {first : List Event}
    {retries : List (Duration × List Event)} (authorized : Authorized asks log) (granted : refusal? log = none)
    (span : Duration) (row : Row asks (number + 1) outcome first retries) :
    Row asks number outcome log ((span, first) :: retries) := by
  constructor
  · rw [row.last, List.length_cons]
    omega
  · intro attempt among
    obtain rfl | later := List.mem_cons.mp among
    · exact authorized
    · exact row.authorized attempt later
  · intro index attempt cause found missing
    cases index with
    | zero =>
        rw [← Option.some.inj found, granted] at missing
        cases missing
    | succ index =>
        obtain ⟨last, failed⟩ := row.refused index attempt cause found missing
        exact ⟨congrArg (· + 1) last, failed⟩

namespace Retry

variable {clock : Clock W} {policy : RetryPolicy} {traced : Nat → StateM (Traced W) (Except RemoteError α)}
  {plain : Nat → StateM W (Except RemoteError α)}

/-- The transcript of a row of attempts. -/
def Tried (asks : Http.Request → Prop) (number : Nat) (result : Except RemoteError α × Nat) (log : List Event) :
    Prop :=
  ∃ first retries, log = first ++ Remote.spaced retries ∧ Row asks number result first retries

/-- By induction on the attempts that are left. A further attempt follows only a failure that may pass, and so
one whose requests had their credentials. -/
theorem attempts_reports (heeds : ∀ number, Reports (traced number) (plain number) (Heeds asks))
    (started : Duration) (left number : Nat) :
    Reports (attempts clock.traced policy started traced left number)
      (attempts clock policy started plain left number) (Tried asks number) := by
  induction left generalizing number with
  | zero =>
      apply (heeds number).returns
      intro result log given
      exact ⟨log, [], (List.append_nil log).symm, given.row number⟩
  | succ left ih =>
      rw [attempts, attempts]
      apply (heeds number).bind
      intro result log given
      have ended : Tried asks number (result, number) log := ⟨log, [], (List.append_nil log).symm, given.row number⟩
      cases result with
      | ok value => exact .ends ended
      | error cause =>
          dsimp only
          split
          · exact .ends ended
          next again =>
            have granted : refusal? log = none := by
              apply given.granted
              rintro other ⟨⟩
              exact .inl (by simpa using again)
            apply Reports.silent
            intro delay
            apply Reports.silent
            intro now
            split
            · exact .ends ended
            · apply (Reports.noting (clock.wait delay) fun _ => .waited delay).bind
              rintro - - rfl
              apply (ih (number + 1)).mono
              rintro outcome more ⟨first, retries, rfl, row⟩
              exact ⟨log, (delay, first) :: retries, rfl, row.cons given.authorized granted delay⟩

/-- The transcript of one remote call. -/
def Made (client : Client W) (operation : Operation) (object : String) (result : Except SinkError α)
    (log : List Event) : Prop :=
  ∃ remote : Remote, log = remote.events ∧ remote.IsAuthorized client.Asks ∧ remote.operation = operation ∧
    remote.object = object ∧ remote.error? = errorOf? result

theorem run_reports (client : Client W) (operation : Operation) (object : String)
    (heeds : ∀ number, Reports (traced number) (plain number) (Heeds (client.Asks operation object))) :
    Reports (run clock.traced policy operation object traced) (run clock policy operation object plain)
      (Made client operation object) := by
  rw [run, run]
  apply Reports.silent
  intro started
  apply (attempts_reports heeds started _ 1).bind
  rintro ⟨result, last⟩ log ⟨first, retries, rfl, row⟩
  have ending := row.last
  cases result with
  | ok value =>
      apply Reports.ends
      refine ⟨⟨operation, object, first, retries, none⟩, rfl, ⟨row.authorized, ?_⟩, rfl, rfl, rfl⟩
      intro index attempt cause found missing
      cases (row.refused index attempt cause found missing).2
  | error cause =>
      apply Reports.ends
      refine ⟨⟨operation, object, first, retries, some (.remote operation object last cause)⟩, rfl,
        ⟨row.authorized, ?_⟩, rfl, rfl, rfl⟩
      intro index attempt missing found refused
      obtain ⟨rfl, same⟩ := row.refused index attempt missing found refused
      cases same
      dsimp only at ending
      rw [Remote.attempts, List.length_cons, List.length_map, ending, Nat.add_comm]
      exact ⟨rfl, rfl⟩

end Retry

end RecordSink
