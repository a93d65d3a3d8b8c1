import RecordSink.Proofs.Credential.Answers
import RecordSink.Proofs.Sink.Transcripts
import RecordSink.Rehearsal

/-!
# Kept tokens

A metadata server that is asked for credentials again and again, over any link and by any clock that does not run
backwards. Main statement: which of the calls send a request, what each hands out, and what is kept behind it.
-/

namespace RecordSink

/-! ## Moments in order -/

namespace Duration

variable {first second third : Duration}

theorem le_refl (moment : Duration) : moment ≤ moment := Nat.le_refl _

theorem le_trans (before : first ≤ second) (behind : second ≤ third) : first ≤ third := Nat.le_trans before behind

theorem lt_of_le_of_lt (before : first ≤ second) (behind : second < third) : first < third :=
  Nat.lt_of_le_of_lt before behind

theorem not_lt : ¬ first < second ↔ second ≤ first := Nat.not_lt

/-- A span that is over leaves nothing. -/
theorem add_sub_le (short : second ≤ third) (moment : Duration) : moment + (second - third) ≤ moment := by
  have nothing : second.nanos - third.nanos = 0 := Nat.sub_eq_zero_of_le short
  show moment.nanos + (second.nanos - third.nanos) ≤ moment.nanos
  omega

end Duration

namespace MetadataServer

/-! ## Calls for credentials -/

variable {W : Type}

/-- The request for a token. -/
def tokenRequest (server : MetadataServer W) : Http.Request :=
  (Http.Request.plain .get server.tokenUrl).withHeaders [("Metadata-Flavor", "Google")]

/-- The server over the world that writes down its requests. -/
def traced (server : MetadataServer W) : MetadataServer (Traced W) where
  link := server.link.traced
  tokenUrl := server.tokenUrl
  now := Traced.lift server.now
  kept := Traced.lift server.kept
  keep token := Traced.lift (server.keep token)

/-- A call for a credential, and what it did. -/
structure Call (W : Type) where
  before : W
  events : List Event
  result : Except CredentialError Credential
  after : W

/-- The call sent a request that was answered with a token. -/
def Call.Fetches (call : Call W) (token : Token) : Prop :=
  ∃ request outcome, call.events = [.sent request outcome] ∧ Answers outcome token

/-- The call fetched a token that is worth keeping. -/
def Call.Lasts (call : Call W) : Prop := ∃ token, call.Fetches token ∧ margin < token.lifetime

/-- Asks for a credential. -/
def call (server : MetadataServer W) (world : W) : Call W :=
  let made := server.traced.obtain ⟨world, []⟩
  { before := world, events := made.2.events, result := made.1, after := made.2.world }

/-- Asks for a number of credentials, one after the other. -/
def run (server : MetadataServer W) : Nat → W → List (Call W) × W
  | 0, world => ([], world)
  | count + 1, world =>
      let first := server.call world
      let later := run server count first.after
      (first :: later.1, later.2)

variable {call : Call W} {past : List (Call W)}

theorem fetches_iff {request : Http.Request} {outcome : Http.Outcome} (sent : call.events = [.sent request outcome])
    (token : Token) : call.Fetches token ↔ accept outcome = .ok token := by
  rw [accept_ok_iff]
  constructor
  · rintro ⟨_, other, also, answers⟩
    cases also.symm.trans sent
    exact answers
  · exact fun answers => ⟨request, outcome, sent, answers⟩

/-- The token that a call fetched. -/
def Call.token? (call : Call W) : Option Token :=
  match call.events with
  | [.sent _ outcome] => (accept outcome).toOption
  | _ => none

theorem fetches_iff_token? (token : Token) : call.Fetches token ↔ call.token? = some token := by
  rw [Call.token?]
  split
  · rename_i request outcome sent
    rw [fetches_iff sent]
    cases accept outcome <;> simp [Except.toOption]
  · rename_i other
    constructor
    · rintro ⟨request, outcome, sent, -⟩
      exact absurd sent (other request outcome)
    · nofun

/-- The token that was fetched last. -/
theorem filterMap_token? {early between : List (Call W)} {token : Token} (split : past = early ++ call :: between)
    (fetches : call.Fetches token) (without : ∀ other ∈ between, ∀ token, ¬ other.Fetches token) :
    past.filterMap Call.token? = early.filterMap Call.token? ++ [token] := by
  have nothing : between.filterMap Call.token? = [] := by
    rw [List.filterMap_eq_nil_iff]
    intro other inside
    apply Option.eq_none_iff_forall_ne_some.mpr
    exact fun token found => without other inside token ((fetches_iff_token? token).mpr found)
  rw [split, List.filterMap_append, List.filterMap_cons_some ((fetches_iff_token? token).mp fetches), nothing]

/-- What a place for a token and a clock do that are used by a server alone. The clock does not run backwards, each
reading lies between the time before it and the time after it, and a token whose moment the clock can express is
kept until another one is. -/
structure Keeping (server : MetadataServer W) where
  kept : W → Option KeptCredential
  time : W → Duration
  Expresses : Duration → Prop
  kept_eq : ∀ world, server.kept world = (kept world, world)
  now_kept : ∀ world, kept (server.now world).2 = kept world
  time_le_now : ∀ world, time world ≤ (server.now world).1
  now_le_time : ∀ world, (server.now world).1 ≤ time (server.now world).2
  exchange_kept : ∀ request world, kept (server.link.exchange request world).2 = kept world
  exchange_time : ∀ request world, time world ≤ time (server.link.exchange request world).2
  keep_kept : ∀ token world, Expresses token.refreshAt → kept (server.keep token world).2 = some token
  keep_time : ∀ token world, time world ≤ time (server.keep token world).2

variable {server : MetadataServer W} {keeping : server.Keeping} {world : W}

/-! ## One call -/

/-- What a server does with the token that it was given, or without one. -/
def settle (server : MetadataServer W) : Except CredentialError Token → StateM W (Except CredentialError Credential)
  | .error cause => return .error cause
  | .ok token => do
      let now ← server.now
      server.keep { credential := .bearer token.text, refreshAt := now + (token.lifetime - margin) }
      return .ok (.bearer token.text)

theorem fetch_eq (server : MetadataServer W) :
    server.fetch = (server.link.exchange server.tokenRequest >>= fun outcome => server.settle (accept outcome)) := by
  rw [fetch]
  apply bind_congr
  intro outcome
  cases outcome with
  | error cause => rfl
  | ok response =>
      simp only [accept]
      split
      · rfl
      · cases readToken response.body <;> rfl

/-- There is one request at most, and it is the one for a token. -/
def Asks (server : MetadataServer W) (_ : Except CredentialError Credential) (log : List Event) : Prop :=
  log = [] ∨ ∃ outcome, log = [.sent server.tokenRequest outcome]

theorem fetch_asks (server : MetadataServer W) : Reports server.traced.fetch server.fetch server.Asks := by
  rw [fetch_eq, fetch_eq]
  apply (Reports.noting (server.link.exchange server.tokenRequest) (.sent server.tokenRequest)).bind
  rintro outcome log rfl
  have asked (result) : server.Asks result [.sent server.tokenRequest outcome] := .inr ⟨outcome, rfl⟩
  cases accept outcome with
  | error cause => exact .ends (asked _)
  | ok token =>
      apply Reports.silent
      intro now
      apply Reports.silent
      intro
      exact .ends (asked _)

theorem obtain_asks (server : MetadataServer W) : Reports server.traced.obtain server.obtain server.Asks := by
  apply Reports.silent
  intro now
  apply Reports.silent
  intro kept
  cases kept with
  | none => exact server.fetch_asks
  | some token =>
      dsimp only
      split
      · exact .pure (.inl rfl)
      · exact server.fetch_asks

/-- A call looks at the clock and at what is kept. -/
theorem traced_obtain (keeping : server.Keeping) (world : W) :
    server.traced.obtain ⟨world, []⟩ =
      (match keeping.kept world with
        | some token =>
            if (server.now world).1 < token.refreshAt then pure (Except.ok token.credential)
            else server.traced.fetch
        | none => server.traced.fetch) ⟨(server.now world).2, []⟩ := by
  have looked := keeping.kept_eq (server.now world).2
  rw [keeping.now_kept] at looked
  show (match (server.kept (server.now world).2).1 with
    | some token =>
        if (server.now world).1 < token.refreshAt then pure (Except.ok token.credential)
            else server.traced.fetch
    | none => server.traced.fetch) ⟨(server.kept (server.now world).2).2, []⟩ = _
  rw [looked]

theorem traced_fetch (server : MetadataServer W) (world : W) :
    let asked := server.link.exchange server.tokenRequest world
    let settled := server.settle (accept asked.1) asked.2
    server.traced.fetch ⟨world, []⟩ = (settled.1, ⟨settled.2, [.sent server.tokenRequest asked.1]⟩) := by
  intro asked settled
  rw [fetch_eq]
  show server.traced.settle (accept asked.1) ⟨asked.2, [.sent server.tokenRequest asked.1]⟩ = _
  cases given : accept asked.1 <;> simp only [settled, given] <;> rfl

/-- What one call does. -/
inductive Step (keeping : server.Keeping) (call : Call W) : Prop where
  /-- A fresh token is kept, and handed out. -/
  | served (token : KeptCredential) (held : keeping.kept call.before = some token)
      (fresh : keeping.time call.before < token.refreshAt) (quiet : call.events = [])
      (result : call.result = .ok token.credential) (same : keeping.kept call.after = keeping.kept call.before)
      (grows : keeping.time call.before ≤ keeping.time call.after)
  /-- None is, and none is given. -/
  | failed (outcome : Http.Outcome) (cause : CredentialError)
      (due : ∀ token, keeping.kept call.before = some token → token.refreshAt ≤ keeping.time call.after)
      (sent : call.events = [.sent server.tokenRequest outcome]) (refused : accept outcome = .error cause)
      (result : call.result = .error cause) (same : keeping.kept call.after = keeping.kept call.before)
      (grows : keeping.time call.before ≤ keeping.time call.after)
  /-- None is, and one is given, kept and handed out. -/
  | fetched (outcome : Http.Outcome) (token : Token) (moment : Duration)
      (due : ∀ token, keeping.kept call.before = some token → token.refreshAt ≤ keeping.time call.after)
      (sent : call.events = [.sent server.tokenRequest outcome]) (accepted : accept outcome = .ok token)
      (result : call.result = .ok (.bearer token.text)) (early : keeping.time call.before ≤ moment)
      (late : moment ≤ keeping.time call.after)
      (keeps : keeping.Expresses (moment + (token.lifetime - margin)) → keeping.kept call.after =
        some { credential := .bearer token.text, refreshAt := moment + (token.lifetime - margin) })

/-- A call that finds a fresh token hands it out. -/
theorem call_of_fresh (keeping : server.Keeping) {token : KeptCredential} (held : keeping.kept world = some token)
    (fresh : (server.now world).1 < token.refreshAt) :
    server.call world =
      { before := world, events := [], result := .ok token.credential, after := (server.now world).2 } := by
  rw [call, traced_obtain keeping, held]
  dsimp only
  rw [if_pos fresh]
  rfl

/-- A call that finds none asks for one. -/
theorem call_of_due (keeping : server.Keeping)
    (due : ∀ token, keeping.kept world = some token → ¬ (server.now world).1 < token.refreshAt) :
    let asked := server.link.exchange server.tokenRequest (server.now world).2
    let settled := server.settle (accept asked.1) asked.2
    server.call world =
      { before := world, events := [.sent server.tokenRequest asked.1], result := settled.1, after := settled.2 } := by
  intro asked settled
  have made : server.traced.obtain ⟨world, []⟩ = server.traced.fetch ⟨(server.now world).2, []⟩ := by
    rw [traced_obtain keeping]
    cases held : keeping.kept world with
    | none => rfl
    | some token =>
        dsimp only
        rw [if_neg (due token held)]
  rw [call, made, traced_fetch]

theorem call_cases (keeping : server.Keeping) (world : W) : Step keeping (server.call world) := by
  have looked := Duration.le_trans (keeping.time_le_now world) (keeping.now_le_time world)
  by_cases fresh : ∃ token, keeping.kept world = some token ∧ (server.now world).1 < token.refreshAt
  · obtain ⟨token, held, fresh⟩ := fresh
    have ahead := Duration.lt_of_le_of_lt (keeping.time_le_now world) fresh
    rw [call_of_fresh keeping held fresh]
    exact .served token held ahead rfl rfl (keeping.now_kept world) looked
  · have due : ∀ token, keeping.kept world = some token → ¬ (server.now world).1 < token.refreshAt :=
      fun token held early => fresh ⟨token, held, early⟩
    have given := call_of_due keeping due
    have waited := keeping.exchange_time server.tokenRequest (server.now world).2
    have same := keeping.exchange_kept server.tokenRequest (server.now world).2
    rw [keeping.now_kept] at same
    generalize server.link.exchange server.tokenRequest (server.now world).2 = asked at given waited same
    have past (token) (held : keeping.kept world = some token) : token.refreshAt ≤ keeping.time asked.2 :=
      Duration.le_trans (Duration.not_lt.mp (due token held)) (Duration.le_trans (keeping.now_le_time world) waited)
    rw [given]
    cases accepted : accept asked.1 with
    | error cause => exact .failed asked.1 cause past rfl accepted rfl same (Duration.le_trans looked waited)
    | ok token =>
        have early := keeping.time_le_now asked.2
        have late := keeping.now_le_time asked.2
        generalize read : server.now asked.2 = clock at early late
        have through (token) := Duration.le_trans late (keeping.keep_time token clock.2)
        have after : server.settle (.ok token) asked.2 = (.ok (.bearer token.text),
            (server.keep { credential := .bearer token.text, refreshAt := clock.1 + (token.lifetime - margin) }
              clock.2).2) := by
          rw [← read]
          rfl
        rw [after]
        exact .fetched asked.1 token clock.1
          (fun other held => Duration.le_trans (past other held) (Duration.le_trans early (through _)))
          rfl accepted rfl (Duration.le_trans (Duration.le_trans looked waited) early) (through _)
          fun expresses => keeping.keep_kept _ _ expresses

variable {all : List (Call W)} {last : W}

theorem Step.grows (step : Step keeping call) : keeping.time call.before ≤ keeping.time call.after := by
  cases step with
  | served _ _ _ _ _ _ grows => exact grows
  | failed _ _ _ _ _ _ _ grows => exact grows
  | fetched _ _ _ _ _ _ _ early late => exact Duration.le_trans early late

/-- What comes of a request is what the server makes of its answer. -/
theorem Step.result_of_sent {request : Http.Request} {outcome : Http.Outcome} (step : Step keeping call)
    (sent : call.events = [.sent request outcome]) :
    call.result = (accept outcome).map fun token => .bearer token.text := by
  cases step with
  | served _ _ _ quiet => cases quiet.symm.trans sent
  | failed _ _ _ other refused result =>
      cases other.symm.trans sent
      rw [result, refused, Except.map]
  | fetched _ _ _ _ other accepted result =>
      cases other.symm.trans sent
      rw [result, accepted, Except.map]

/-- A call that fails does not fetch a token, and keeps nothing. -/
theorem Step.failure (step : Step keeping call) {cause : CredentialError} (failed : call.result = .error cause) :
    ¬ call.Lasts ∧ keeping.kept call.after = keeping.kept call.before := by
  cases step with
  | served _ _ _ _ result => cases failed.symm.trans result
  | failed outcome other _ sent refused _ same =>
      constructor
      · rintro ⟨token, fetches, -⟩
        cases refused.symm.trans ((fetches_iff sent token).mp fetches)
      · exact same
  | fetched _ _ _ _ _ _ result => cases failed.symm.trans result

/-- Where no fresh token is kept, a request is sent. -/
theorem Step.sends (step : Step keeping call)
    (stale : ∀ token, keeping.kept call.before = some token → token.refreshAt ≤ keeping.time call.before) :
    call.events ≠ [] := by
  cases step with
  | served token held fresh => exact absurd fresh (Duration.not_lt.mpr (stale token held))
  | failed _ _ _ sent => simp [sent]
  | fetched _ _ _ _ sent => simp [sent]

/-- Where a token is kept that stays fresh, it is handed out, and nothing is sent. -/
theorem Step.serves (step : Step keeping call) {token : KeptCredential}
    (held : keeping.kept call.before = some token) (ahead : keeping.time call.after < token.refreshAt) :
    call.events = [] ∧ call.result = .ok token.credential ∧ keeping.kept call.after = keeping.kept call.before := by
  cases step with
  | served other also _ quiet result same =>
      cases also.symm.trans held
      exact ⟨quiet, result, same⟩
  | failed _ _ due => exact absurd ahead (Duration.not_lt.mpr (due token held))
  | fetched _ _ _ due => exact absurd ahead (Duration.not_lt.mpr (due token held))

/-! ## Runs -/

/-- The clock can express when the fetched tokens are due, and at the end it has reached none of the moments at
which those are due that were worth keeping. -/
structure Keeping.Early (keeping : server.Keeping) (calls : List (Call W)) (last : W) : Prop where
  expressible : ∀ call ∈ calls, ∀ token, call.Fetches token → ∀ moment, keeping.time call.before ≤ moment →
    moment ≤ keeping.time call.after → keeping.Expresses (moment + (token.lifetime - margin))
  unreached : ∀ call ∈ calls, call.Lasts → ∀ token, keeping.kept call.after = some token →
    keeping.time last < token.refreshAt

/-- How the kept token stands after some calls. -/
inductive Stands (keeping : server.Keeping) (past : List (Call W)) (world : W) : Prop where
  /-- None of them fetched one that was worth keeping. -/
  | bare (without : ∀ call ∈ past, ¬ call.Lasts)
      (stale : ∀ token, keeping.kept world = some token → token.refreshAt ≤ keeping.time world)
  /-- One of them fetched the token that is kept, and those behind it sent nothing. -/
  | holding (early : List (Call W)) (fetched : Call W) (between : List (Call W)) (token : Token) (due : Duration)
      (split : past = early ++ fetched :: between) (fetches : fetched.Fetches token)
      (lasts : margin < token.lifetime) (quiet : ∀ other ∈ between, other.events = [])
      (since : keeping.kept fetched.after = keeping.kept world)
      (held : keeping.kept world = some { credential := .bearer token.text, refreshAt := due })

/-- A token that was worth keeping is not due yet. -/
theorem Keeping.Early.ahead {token : Token} {kept : KeptCredential} (timely : keeping.Early all last)
    (inside : call ∈ all) (fetches : call.Fetches token) (lasts : margin < token.lifetime)
    (held : keeping.kept call.after = some kept) : keeping.time last < kept.refreshAt :=
  timely.unreached call inside ⟨token, fetches, lasts⟩ kept held

/-- A call keeps the token that is held, and one that is worth keeping from then on. -/
theorem stands_call (stands : Stands keeping past world) (timely : keeping.Early all last)
    (inside : ∀ call ∈ past ++ [server.call world], call ∈ all)
    (within : keeping.time (server.call world).after ≤ keeping.time last) :
    Stands keeping (past ++ [server.call world]) (server.call world).after := by
  have step := call_cases keeping world
  have here := inside _ (List.mem_append_right _ (List.mem_singleton_self _))
  cases stands with
  | bare without stale =>
      have still (fails : ¬ (server.call world).Lasts) : ∀ call ∈ past ++ [server.call world], ¬ call.Lasts := by
        intro call among
        obtain among | among := List.mem_append.mp among
        · exact without call among
        · rwa [List.mem_singleton.mp among]
      have sends := step.sends stale
      have grows := step.grows
      have failure {cause} (failed : (server.call world).result = .error cause) := step.failure failed
      cases step with
      | served _ _ _ quiet => exact absurd quiet sends
      | failed _ _ _ _ _ result =>
          obtain ⟨fails, same⟩ := failure result
          apply Stands.bare (still fails)
          intro token held
          exact Duration.le_trans (stale token (same.symm.trans held)) grows
      | fetched outcome token moment _ sent accepted _ early late keeps =>
          have fetches := (fetches_iff sent token).mpr accepted
          have held := keeps (timely.expressible _ here token fetches moment early late)
          by_cases lasts : margin < token.lifetime
          · exact .holding past _ [] token _ rfl fetches lasts nofun rfl held
          · apply Stands.bare
            · apply still
              rintro ⟨other, also, longer⟩
              cases accepted.symm.trans ((fetches_iff sent other).mp also)
              exact lasts longer
            · rintro other also
              cases held.symm.trans also
              exact Duration.le_trans (Duration.add_sub_le (Duration.not_lt.mp lasts) moment) late
  | holding early fetched between token due split fetches lasts quiet since held =>
      have among : fetched ∈ all := by
        apply inside
        simp [split]
      have ahead := timely.ahead among fetches lasts (since.trans held)
      obtain ⟨silent, -, same⟩ := step.serves held (Duration.lt_of_le_of_lt within ahead)
      apply Stands.holding early fetched (between ++ [server.call world]) token due _ fetches lasts _
        (since.trans same.symm) (same.trans held)
      · simp [split]
      · intro other among
        obtain among | among := List.mem_append.mp among
        · exact quiet other among
        · rwa [List.mem_singleton.mp among]

theorem time_le_run (keeping : server.Keeping) (count : Nat) (world : W) :
    keeping.time world ≤ keeping.time (server.run count world).2 := by
  induction count generalizing world with
  | zero => exact Duration.le_refl _
  | succ count ih => exact Duration.le_trans (call_cases keeping world).grows (ih _)

@[simp]
theorem length_run (server : MetadataServer W) (count : Nat) (world : W) :
    (server.run count world).1.length = count := by
  induction count generalizing world with
  | zero => rfl
  | succ count ih => exact congrArg Nat.succ (ih _)

/-- How the token stands before each call of a run. -/
theorem stands_run {count : Nat} {done rest : List (Call W)}
    (timely : keeping.Early (past ++ (server.run count world).1) (server.run count world).2)
    (stands : Stands keeping past world) (made : (server.run count world).1 = done ++ call :: rest) :
    Stands keeping (past ++ done) call.before ∧ call = server.call call.before ∧
      keeping.time call.after ≤ keeping.time (server.run count world).2 := by
  induction count generalizing past world done with
  | zero => simp [run] at made
  | succ count ih =>
      have within := time_le_run keeping count (server.call world).after
      cases done with
      | nil =>
          obtain ⟨rfl, -⟩ := List.cons.inj made
          rw [List.append_nil]
          exact ⟨stands, rfl, within⟩
      | cons first done =>
          obtain ⟨rfl, later⟩ : server.call world = first ∧
            (server.run count (server.call world).after).1 = done ++ call :: rest := List.cons.inj made
          have timely : keeping.Early (past ++ [server.call world] ++ (server.run count (server.call world).after).1)
              (server.run count (server.call world).after).2 := by
            rw [List.append_assoc]
            exact timely
          rw [List.append_cons]
          apply ih timely _ later
          apply stands_call stands timely _ within
          exact fun other among => List.mem_append_left _ among

/-! ## What calls owe -/

/-- What a call owes, with those before and behind it. -/
structure Owes (keeping : server.Keeping) (past : List (Call W)) (call : Call W) (rest : List (Call W)) : Prop where
  /-- It is the server that is asked. -/
  plain : server.obtain call.before = (call.result, call.after)
  /-- Nothing is sent if and only if a call before it fetched a token that was worth keeping. -/
  quiet : call.events = [] ↔ ∃ earlier ∈ past, earlier.Lasts
  /-- Else one request is sent. -/
  once : call.events ≠ [] → ∃ outcome, call.events = [.sent server.tokenRequest outcome]
  /-- Without a request the token is handed out that was fetched last. -/
  latest : call.events = [] → ∃ early fetched between token, past = early ++ fetched :: between ∧
    fetched.Fetches token ∧ (∀ other ∈ between, ∀ token, ¬ other.Fetches token) ∧
    call.result = .ok (.bearer token.text)
  /-- With a request the token of the answer is handed out. -/
  fetched : ∀ request outcome, call.events = [.sent request outcome] → ∀ credential,
    call.result = .ok credential ↔ ∃ token, Answers outcome token ∧ credential = .bearer token.text
  /-- An answer without success. -/
  unavailable : ∀ request outcome, call.events = [.sent request outcome] →
    ((∃ reason, call.result = .error (.unavailable reason)) ↔ ¬ Succeeds outcome)
  /-- An answer with success and without a token. -/
  malformed : ∀ request outcome, call.events = [.sent request outcome] →
    ((∃ reason, call.result = .error (.malformed reason)) ↔ Succeeds outcome ∧ ∀ token, ¬ Answers outcome token)
  /-- A failure changes nothing, and the next call sends a request again. -/
  failed : ∀ cause, call.result = .error cause → keeping.kept call.after = keeping.kept call.before ∧
    ∀ next others, rest = next :: others → ∃ outcome, next.events = [.sent server.tokenRequest outcome]

/-- A call writes down what the server does. -/
theorem obtain_eq_call (server : MetadataServer W) (world : W) :
    server.obtain world = ((server.call world).result, (server.call world).after) ∧
      server.Asks (server.call world).result (server.call world).events := by
  obtain ⟨more, same, asks⟩ := server.obtain_asks world []
  rw [call, same]
  exact ⟨rfl, asks⟩

/-- The part that a call has in a run. -/
inductive Turn (past : List (Call W)) (call : Call W) : Prop where
  /-- Nothing is kept yet, and it sends a request. -/
  | asks (sends : call.events ≠ []) (without : ∀ earlier ∈ past, ¬ earlier.Lasts)
  /-- It hands out what is kept. -/
  | hands (early : List (Call W)) (fetched : Call W) (between : List (Call W)) (token : Token)
      (split : past = early ++ fetched :: between) (fetches : fetched.Fetches token)
      (lasts : margin < token.lifetime) (quiet : ∀ other ∈ between, other.events = [])
      (silent : call.events = []) (result : call.result = .ok (.bearer token.text))

theorem Stands.turn (stands : Stands keeping past call.before) (step : Step keeping call)
    (timely : keeping.Early all last) (inside : ∀ earlier ∈ past, earlier ∈ all)
    (within : keeping.time call.after ≤ keeping.time last) : Turn past call := by
  cases stands with
  | bare without stale => exact .asks (step.sends stale) without
  | holding early fetched between token due split fetches lasts quiet since held =>
      have among : fetched ∈ all := by
        apply inside
        simp [split]
      have ahead := timely.ahead among fetches lasts (since.trans held)
      obtain ⟨silent, result, -⟩ := step.serves held (Duration.lt_of_le_of_lt within ahead)
      exact .hands early fetched between token split fetches lasts quiet silent result

/-- A call hands out a kept token if and only if one before it fetched a token that was worth keeping. -/
theorem Turn.quiet_iff (turn : Turn past call) : call.events = [] ↔ ∃ earlier ∈ past, earlier.Lasts := by
  cases turn with
  | asks sends without =>
      constructor
      · exact fun silent => absurd silent sends
      · rintro ⟨earlier, inside, lasts⟩
        exact absurd lasts (without earlier inside)
  | hands early fetched between token split fetches lasts _ silent =>
      constructor
      · intro
        exact ⟨fetched, by simp [split], token, fetches, lasts⟩
      · exact fun _ => silent

/-- Before a call that fails no token was fetched that was worth keeping. -/
theorem Turn.without_of_failed (turn : Turn past call) {cause : CredentialError}
    (failed : call.result = .error cause) : ∀ earlier ∈ past, ¬ earlier.Lasts := by
  cases turn with
  | asks _ without => exact without
  | hands _ _ _ _ _ _ _ _ _ result => cases failed.symm.trans result

/-- What a call does in a run, and the part it has in it. -/
theorem call_of_run {count : Nat} {rest : List (Call W)} (new : keeping.kept world = none)
    (timely : keeping.Early (server.run count world).1 (server.run count world).2)
    (split : (server.run count world).1 = past ++ call :: rest) :
    call = server.call call.before ∧ Step keeping call ∧ Turn past call := by
  have bare : Stands keeping [] world := .bare nofun (by simp [new])
  obtain ⟨stands, made, within⟩ := stands_run timely bare split
  have step : Step keeping call := made ▸ call_cases keeping call.before
  exact ⟨made, step, stands.turn step timely (by simp +contextual [split]) within⟩

/-- Whatever a metadata server answers, and however often a credential is asked for where none is kept at first, as
long as the clock can express the moments at which the fetched tokens are due, and does not reach them: a call sends
one request for a token if and only if no call before it fetched one with more than a minute to live. Without a
request it hands out what was fetched last. With one it hands out a token if and only if the answer reports success
and holds a bearer token. A failure leaves what is kept as it is, and the next call tries again. -/
theorem calls_keep_tokens (server : MetadataServer W) (keeping : server.Keeping) (count : Nat) (world : W)
    (new : keeping.kept world = none)
    (timely : keeping.Early (server.run count world).1 (server.run count world).2) :
    (server.run count world).1.length = count ∧
      ∀ past call rest, (server.run count world).1 = past ++ call :: rest → Owes keeping past call rest := by
  constructor
  · exact length_run server count world
  intro past call rest split
  obtain ⟨made, step, turn⟩ := call_of_run new timely split
  obtain ⟨plain, asks⟩ := server.obtain_eq_call call.before
  rw [← made] at plain asks
  constructor
  case plain => exact plain
  case quiet => exact turn.quiet_iff
  case once => exact asks.resolve_left
  case latest =>
    intro silent
    cases turn with
    | asks sends => exact absurd silent sends
    | hands early fetched between token split fetches _ quiet _ result =>
        refine ⟨early, fetched, between, token, split, fetches, ?_, result⟩
        rintro other inside token ⟨request, outcome, sent, -⟩
        cases (quiet other inside).symm.trans sent
  case fetched =>
    intro request outcome sent credential
    rw [step.result_of_sent sent]
    simp only [← accept_ok_iff]
    cases accept outcome <;> simp [Except.map, eq_comm]
  case unavailable =>
    intro request outcome sent
    rw [step.result_of_sent sent, ← accept_unavailable_iff]
    cases accept outcome <;> simp [Except.map]
  case malformed =>
    intro request outcome sent
    rw [step.result_of_sent sent, ← accept_malformed_iff]
    cases accept outcome <;> simp [Except.map]
  case failed =>
    intro cause failed
    obtain ⟨fails, same⟩ := step.failure failed
    constructor
    · exact same
    rintro next others rfl
    have further : (server.run count world).1 = (past ++ [call]) ++ next :: others := by
      rw [List.append_assoc]
      exact split
    obtain ⟨made, -, again⟩ := call_of_run new timely further
    obtain ⟨-, asks⟩ := server.obtain_eq_call next.before
    rw [← made] at asks
    apply asks.resolve_left
    rw [again.quiet_iff]
    rintro ⟨earlier, inside, lasts⟩
    obtain inside | inside := List.mem_append.mp inside
    · exact turn.without_of_failed failed earlier inside lasts
    · cases List.mem_singleton.mp inside
      exact fails lasts

namespace Trial

theorem parses : (Url.parse? "http://h/t").toOption.isSome = true := by
  decide +kernel

/-- A server whose clock moves on by a second whenever someone looks at it. -/
def ticking : MetadataServer Rehearsal :=
  { Rehearsal.metadataServer Rehearsal.tappedLink ((Url.parse? "http://h/t").toOption.get parses) with
    now := fun world => (world.time.now, { world with time := world.time.wait (.ofSeconds 1) }) }

theorem now_le_wait (span : Duration) (time : VirtualTime) : time.now ≤ (time.wait span).now := by
  have later : time.now.nanos ≤ (time.now + span.shorter VirtualTime.longestWait).nanos := Nat.le_add_right _ _
  have ticks (moment : Duration) : moment.nanos ≤ (Duration.ofMillis moment.millisUp).nanos := by
    simp only [Duration.ofMillis, Duration.millisUp]
    omega
  exact Nat.le_trans later (ticks _)

/-- A place for a token in a rehearsal. -/
def place : ticking.Keeping where
  kept world := world.token
  time world := world.time.now
  Expresses due := due.wholeSeconds < Nat.pow 2 63
  kept_eq _ := rfl
  now_kept world := by
    show ({ world with time := world.time.wait (.ofSeconds 1) } : Rehearsal).token = world.token
    rfl
  time_le_now _ := Duration.le_refl _
  now_le_time _ := now_le_wait _ _
  exchange_kept _ _ := rfl
  exchange_time _ _ := Duration.le_refl _
  keep_kept token world expresses := by
    show (world.keep token).token = some token
    rw [Rehearsal.keep, if_pos expresses]
  keep_time token world := by
    show world.time.now ≤ (world.keep token).time.now
    rw [Rehearsal.keep]
    split <;> exact Duration.le_refl _

/-- A response with a body. -/
def answer (status : Nat) (body : String) : Http.Outcome := .ok { status, body := Bytes.ofText body }

/-- A response with a token, spelled with its lifetime. -/
def tokenAnswer (text lifetime : String) : Http.Outcome :=
  answer 200 ("\x7b\"access_token\":\"" ++ text ++ "\",\"expires_in\":" ++ lifetime ++ "\x7d")

/-- No response, no success, a token of another kind, one that is soon over, and one that lasts. -/
def answers : List Http.Outcome :=
  [.error (.connect "refused"), answer 404 "not here", tokenAnswer "a" "3600,\"token_type\":\"MAC\"",
    tokenAnswer "b" "60", tokenAnswer "c" "3600,\"token_type\":\"BEARER\""]

/-- A rehearsal with these answers. -/
def start : Rehearsal := (Rehearsal.withStore .empty).onTap (·.withAnswers answers)

/-- Seven calls. -/
def course : List (Call Rehearsal) := (ticking.run 7 start).1

/-- The rehearsal behind them. -/
def final : Rehearsal := (ticking.run 7 start).2

theorem fetched : (course.take 5).filterMap Call.token? =
    [{ text := "b", lifetime := .ofSeconds 60 }, { text := "c", lifetime := .ofSeconds 3600 }] := by
  decide +kernel

theorem expressible : ∀ call ∈ course, ∀ token ∈ call.token?,
    (call.after.time.now + (token.lifetime - margin)).wholeSeconds < Nat.pow 2 63 := by
  decide +kernel

theorem unreached : ∀ call ∈ course, ∀ token ∈ call.token?, margin < token.lifetime →
    ∀ kept ∈ call.after.token, final.time.now < kept.refreshAt := by
  decide +kernel

theorem timely : place.Early course final := by
  constructor
  · intro call inside token fetches moment _ late
    have bound := expressible call inside token ((fetches_iff_token? token).mp fetches)
    exact Nat.lt_of_le_of_lt (Nat.div_le_div_right (Nat.add_le_add_right late _)) bound
  · rintro call inside ⟨token, fetches, lasts⟩ kept held
    exact unreached call inside token ((fetches_iff_token? token).mp fetches) lasts kept held

end Trial

/-- The first five calls send a request, and the sixth one hands out the token that lasts. -/
theorem calls_keep_tokens_trial :
    Trial.place.kept Trial.start = none ∧ Trial.place.Early Trial.course Trial.final ∧
      Trial.course.map (·.events.length) = [1, 1, 1, 1, 1, 0, 0] ∧
      ∃ call rest, Trial.course = Trial.course.take 5 ++ call :: rest ∧ call.events = [] ∧
        call.result = .ok (.bearer "c") := by
  obtain ⟨number, owes⟩ := calls_keep_tokens Trial.ticking Trial.place 7 Trial.start rfl Trial.timely
  obtain ⟨call, rest, behind⟩ : ∃ call rest, Trial.course.drop 5 = call :: rest := by
    apply List.exists_cons_of_length_pos
    rw [List.length_drop, show Trial.course.length = 7 from number]
    decide
  have split : Trial.course = Trial.course.take 5 ++ call :: rest := by
    rw [← behind, List.take_append_drop]
  obtain ⟨earlier, inside, found⟩ : ∃ earlier ∈ Trial.course.take 5,
      earlier.token? = some { text := "c", lifetime := .ofSeconds 3600 } := by
    rw [← List.mem_filterMap, Trial.fetched]
    simp
  have owed := owes _ call rest split
  have silent : call.events = [] := owed.quiet.mpr
    ⟨earlier, inside, _, (fetches_iff_token? _).mpr found, by decide⟩
  obtain ⟨early, fetched, between, token, before, fetches, without, result⟩ := owed.latest silent
  have last := congrArg List.getLast? (filterMap_token? before fetches without)
  rw [Trial.fetched, List.getLast?_concat] at last
  cases last
  exact ⟨rfl, Trial.timely, by decide +kernel, call, rest, split, silent, result⟩

end MetadataServer

end RecordSink
