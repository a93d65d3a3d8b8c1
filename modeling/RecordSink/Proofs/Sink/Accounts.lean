import RecordSink.Proofs.Sink.Authorization
import RecordSink.Proofs.SinkFile.Outcome

/-!
# Accounts of operations

What becomes of a missing credential. The remote calls of an operation are accounted for one by one: where one
that writes fails, the operation returns its failure and asks for nothing more, and where one that cleans up
fails, the failure is counted and the next object is removed.
-/

namespace RecordSink

variable {W α β : Type} {client : Client W} {store : RemoteStore W} {operation : Operation} {object : String}

/-! ## Remote calls in turn -/

/-- The transcript of remote calls, all of them authorized. -/
def Kept (client : Client W) (post : α → List Remote → Prop) (value : α) (log : List Event) : Prop :=
  ∃ remotes : List Remote, log = remotes.flatMap Remote.events ∧
    (∀ remote ∈ remotes, remote.IsAuthorized client.Asks) ∧ post value remotes

/-- A step writes down remote calls, and what they came to goes with its value. -/
def Calls (client : Client W) (traced : StateM (Traced W) α) (plain : StateM W α)
    (post : α → List Remote → Prop) : Prop :=
  Reports traced plain (Kept client post)

namespace Calls

variable {traced : StateM (Traced W) α} {plain : StateM W α} {post weaker : α → List Remote → Prop}

theorem pure {value : α} (holds : post value []) :
    Calls client (Pure.pure value : StateM (Traced W) α) (Pure.pure value : StateM W α) post :=
  Reports.pure ⟨[], rfl, List.forall_mem_nil _, holds⟩

theorem mono (calls : Calls client traced plain post)
    (imp : ∀ value remotes, post value remotes → weaker value remotes) : Calls client traced plain weaker := by
  apply Reports.mono calls
  rintro value log ⟨remotes, same, authorized, holds⟩
  exact ⟨remotes, same, authorized, imp _ _ holds⟩

theorem bind {next : α → StateM (Traced W) β} {nextPlain : α → StateM W β} {final : β → List Remote → Prop}
    (first : Calls client traced plain post)
    (second : ∀ value remotes, post value remotes →
      Calls client (next value) (nextPlain value) fun result more => final result (remotes ++ more)) :
    Calls client (traced >>= next) (plain >>= nextPlain) final := by
  apply Reports.bind first
  rintro value log ⟨remotes, rfl, authorized, holds⟩
  apply Reports.mono (second value remotes holds)
  rintro result log ⟨more, rfl, authorizedToo, holdsToo⟩
  refine ⟨remotes ++ more, List.flatMap_append.symm, ?_, holdsToo⟩
  intro remote among
  obtain old | new := List.mem_append.mp among
  · exact authorized remote old
  · exact authorizedToo remote new

/-- A value after the remote calls that were made before. -/
theorem ends {value : α} {remotes : List Remote} (holds : post value remotes) :
    Calls client (Pure.pure value : StateM (Traced W) α) (Pure.pure value : StateM W α)
      fun result more => post result (remotes ++ more) := by
  apply pure
  rwa [List.append_nil]

/-- What only passes on a value makes no more calls. -/
theorem returns {give : α → β} {final : β → List Remote → Prop} (first : Calls client traced plain post)
    (holds : ∀ value remotes, post value remotes → final (give value) remotes) :
    Calls client (traced >>= fun value => Pure.pure (give value))
      (plain >>= fun value => Pure.pure (give value)) final := by
  apply first.bind
  intro value remotes given
  exact ends (holds value remotes given)

end Calls

/-! ## Calls of the store -/

/-- One remote call, with the failure of a result. -/
def Remote.Only (operation : Operation) (object : String) (result : Except SinkError α) (remotes : List Remote) :
    Prop :=
  ∃ remote, remotes = [remote] ∧ remote.operation = operation ∧ remote.object = object ∧
    remote.error? = errorOf? result

theorem Retry.run_calls {clock : Clock W} {policy : RetryPolicy}
    {traced : Nat → StateM (Traced W) (Except RemoteError α)} {plain : Nat → StateM W (Except RemoteError α)}
    (heeds : ∀ number, Reports (traced number) (plain number) (Heeds (client.Asks operation object))) :
    Calls client (run clock.traced policy operation object traced) (run clock policy operation object plain)
      (Remote.Only operation object) := by
  apply (run_reports client operation object heeds).mono
  rintro result log ⟨remote, rfl, authorized, same⟩
  refine ⟨[remote], (List.flatMap_singleton ..).symm, ?_, remote, rfl, same⟩
  intro other among
  rw [List.mem_singleton.mp among]
  exact authorized

namespace RemoteStore

theorem upload_calls (name : ObjectName) (body : Bytes) :
    Calls store.client (store.traced.upload name body) (store.upload name body) (Remote.Only .upload name.text) :=
  Retry.run_calls fun _ => Client.upload_heeds name body

theorem compose_calls (name : ObjectName) (sources : List ObjectName) :
    Calls store.client (store.traced.compose name sources) (store.compose name sources)
      (Remote.Only .compose name.text) :=
  Retry.run_calls fun _ => Client.compose_heeds name sources none

theorem composeReplacing_calls (name : ObjectName) (sources : List ObjectName) (generation : Option String)
    (expectedSize : Nat) :
    Calls store.client (store.traced.composeReplacing name sources generation expectedSize)
      (store.composeReplacing name sources generation expectedSize) (Remote.Only .compose name.text) :=
  Retry.run_calls fun attempt => store.composeOnce_heeds name sources generation expectedSize attempt

theorem verifyBucket_calls :
    Calls store.client store.traced.verifyBucket store.verifyBucket (Remote.Only .getBucket store.client.bucket) :=
  Retry.run_calls fun _ => Client.bucketMetadata_heeds

/-- A missing object is a success, a missing credential is not. -/
theorem deleteIfExists_calls (name : ObjectName) :
    Calls store.client (store.traced.deleteIfExists name) (store.deleteIfExists name)
      (Remote.Only .delete name.text) := by
  apply Retry.run_calls
  intro number
  apply (Client.delete_heeds name).bind
  intro result log heeds
  cases result with
  | ok _ =>
      apply Reports.ends
      exact heeds.passes nofun
  | error cause =>
      dsimp only
      split
      next missing =>
        apply Reports.ends
        apply heeds.passes
        rintro other ⟨⟩ unanswered
        rw [RemoteError.isNotFound, unanswered] at missing
        cases missing
      · apply Reports.ends
        exact heeds.passes fun _ same _ => by cases same; rfl

end RemoteStore

/-! ## Operations of a file -/

/-- Remote calls that remove nothing, up to the first that fails: its failure is the result. -/
structure Proceeds (result : Except SinkError α) (remotes : List Remote) : Prop where
  kinds : ∀ remote ∈ remotes, remote.operation ≠ .delete
  failure : ∀ index remote cause, remotes[index]? = some remote → remote.error? = some cause →
    index + 1 = remotes.length ∧ result = .error cause

/-- Remote calls that remove objects: each is tried, and the failures are collected. -/
structure Cleaning (names : List ObjectName) (failures : List SinkError) (remotes : List Remote) : Prop where
  kinds : ∀ remote ∈ remotes, remote.operation = .delete
  objects : remotes.map Remote.object = names.map (·.text)
  failures : failures = remotes.filterMap Remote.error?

variable {remotes more : List Remote} {result : Except SinkError α} {later : Except SinkError β}

theorem Proceeds.nil (result : Except SinkError α) : Proceeds result [] := by
  constructor
  · exact List.forall_mem_nil _
  · intro index remote cause found
    cases List.getElem?_nil.symm.trans found

theorem Remote.Only.proceeds (only : Remote.Only operation object result remotes) (writes : operation ≠ .delete)
    (passes : ∀ cause, result = .error cause → later = .error cause) : Proceeds later remotes := by
  obtain ⟨remote, rfl, rfl, rfl, same⟩ := only
  constructor
  · intro other among
    rw [List.mem_singleton.mp among]
    exact writes
  · intro index other cause found failed
    obtain ⟨rfl, rfl⟩ : index = 0 ∧ remote = other := by
      cases index with
      | zero => exact ⟨rfl, Option.some.inj found⟩
      | succ index => cases found
    rw [same] at failed
    cases result with
    | ok value => cases failed
    | error _ =>
        cases failed
        exact ⟨rfl, passes cause rfl⟩

theorem Proceeds.clean {value : α} (proceeds : Proceeds (.ok value : Except SinkError α) remotes) :
    ∀ remote ∈ remotes, remote.error? = none := by
  intro remote among
  obtain ⟨index, found⟩ := List.getElem?_of_mem among
  cases failed : remote.error? with
  | none => rfl
  | some cause => cases (proceeds.failure index remote cause found failed).2

/-- What goes on after a success may write more. -/
theorem Proceeds.append {value : α} (first : Proceeds (.ok value : Except SinkError α) remotes)
    (second : Proceeds later more) : Proceeds later (remotes ++ more) := by
  constructor
  · intro remote among
    obtain old | new := List.mem_append.mp among
    · exact first.kinds remote old
    · exact second.kinds remote new
  · intro index remote cause found failed
    rw [List.getElem?_append] at found
    split at found
    · cases failed.symm.trans (first.clean remote (List.mem_of_getElem? found))
    · obtain ⟨last, same⟩ := second.failure _ remote cause found failed
      rw [List.length_append]
      exact ⟨by omega, same⟩

theorem Proceeds.passes (proceeds : Proceeds result remotes)
    (passes : ∀ cause, result = .error cause → later = .error cause) : Proceeds later remotes := by
  constructor
  · exact proceeds.kinds
  · intro index remote cause found failed
    obtain ⟨last, same⟩ := proceeds.failure index remote cause found failed
    exact ⟨last, passes cause same⟩

/-- One more object is tried, and where that fails there is one more failure. -/
theorem Cleaning.cons {name : ObjectName} {names : List ObjectName} {failures collected : List SinkError}
    {remote : Remote} (cleaning : Cleaning names failures remotes) (kind : remote.operation = .delete)
    (removed : remote.object = name.text) (same : collected = remote.error?.toList ++ failures) :
    Cleaning (name :: names) collected (remote :: remotes) := by
  constructor
  · exact List.forall_mem_cons.mpr ⟨kind, cleaning.kinds⟩
  · rw [List.map_cons, List.map_cons, removed, cleaning.objects]
  · rw [same, cleaning.failures, List.filterMap_cons]
    cases remote.error? with
    | none => rfl
    | some cause => rfl

/-- A step whose failure ends what follows it, and whose success is gone on with. -/
theorem Calls.proceeds {γ δ : Type} {traced : StateM (Traced W) α} {plain : StateM W α}
    {next : α → StateM (Traced W) β} {nextPlain : α → StateM W β} {told : α → Except SinkError γ}
    {outcome : β → Except SinkError δ} (first : Calls client traced plain fun value => Proceeds (told value))
    (failed : ∀ value cause, told value = .error cause →
      ∃ given, next value = Pure.pure given ∧ nextPlain value = Pure.pure given ∧ outcome given = .error cause)
    (succeeded : ∀ value done, told value = .ok done →
      Calls client (next value) (nextPlain value) fun result => Proceeds (outcome result)) :
    Calls client (traced >>= next) (plain >>= nextPlain) fun result => Proceeds (outcome result) := by
  apply first.bind
  intro value remotes proceeds
  cases ending : told value with
  | error cause =>
      obtain ⟨given, traced, plain, same⟩ := failed value cause ending
      rw [traced, plain]
      apply Calls.ends
      rw [ending] at proceeds
      apply proceeds.passes
      rintro other ⟨⟩
      exact same
  | ok done =>
      rw [ending] at proceeds
      apply (succeeded value done ending).mono
      intro result more proceedsToo
      exact proceeds.append proceedsToo

namespace RemoteStore

theorem upload_proceeds (name : ObjectName) (body : Bytes) :
    Calls store.client (store.traced.upload name body) (store.upload name body) fun result => Proceeds result :=
  (upload_calls name body).mono fun _ _ only => only.proceeds (by decide) fun _ same => same

theorem compose_proceeds (name : ObjectName) (sources : List ObjectName) :
    Calls store.client (store.traced.compose name sources) (store.compose name sources) fun result =>
      Proceeds result :=
  (compose_calls name sources).mono fun _ _ only => only.proceeds (by decide) fun _ same => same

theorem composeReplacing_proceeds (name : ObjectName) (sources : List ObjectName) (generation : Option String)
    (expectedSize : Nat) :
    Calls store.client (store.traced.composeReplacing name sources generation expectedSize)
      (store.composeReplacing name sources generation expectedSize) fun result => Proceeds result :=
  (composeReplacing_calls name sources generation expectedSize).mono fun _ _ only =>
    only.proceeds (by decide) fun _ same => same

end RemoteStore

namespace SinkFile

theorem uploadPart_calls (store : RemoteStore W) (file : SinkFile) :
    Calls store.client (file.uploadPart store.traced) (file.uploadPart store) fun result =>
      Proceeds result.1 := by
  rw [uploadPart, uploadPart]
  split
  · exact .pure (.nil _)
  split
  · exact .pure (.nil _)
  · apply (RemoteStore.upload_proceeds _ _).proceeds
    · rintro _ cause rfl
      exact ⟨_, rfl, rfl, rfl⟩
    · rintro _ object rfl
      exact .pure (.nil _)

theorem composePublish_calls (store : RemoteStore W) (file : SinkFile) :
    Calls store.client (file.composePublish store.traced) (file.composePublish store) fun result =>
      Proceeds result.1 := by
  apply (uploadPart_calls store file).proceeds
  · rintro ⟨_, after⟩ cause rfl
    exact ⟨_, rfl, rfl, rfl⟩
  · rintro ⟨_, after⟩ batch rfl
    apply (RemoteStore.compose_proceeds _ _).proceeds
    · rintro _ cause rfl
      exact ⟨_, rfl, rfl, rfl⟩
    · rintro _ object rfl
      exact .pure (.nil _)

theorem composeInflight_calls (store : RemoteStore W) (file : SinkFile) :
    Calls store.client (file.composeInflight store.traced) (file.composeInflight store) fun result =>
      Proceeds result.1 := by
  apply (uploadPart_calls store file).proceeds
  · rintro ⟨_, after⟩ cause rfl
    exact ⟨_, rfl, rfl, rfl⟩
  · rintro ⟨_, after⟩ batch rfl
    apply (RemoteStore.composeReplacing_proceeds _ _ _ _).proceeds
    · rintro _ cause rfl
      exact ⟨_, rfl, rfl, rfl⟩
    · rintro _ object rfl
      exact .pure (.nil _)

theorem sync_calls (store : RemoteStore W) (file : SinkFile) :
    Calls store.client (file.sync store.traced) (file.sync store) fun result => Proceeds result.1 := by
  rw [sync, sync]
  split
  · exact .pure (.nil _)
  · apply (composeInflight_calls store file).proceeds
    · rintro ⟨_, after⟩ cause rfl
      exact ⟨_, rfl, rfl, rfl⟩
    · rintro ⟨_, after⟩ object rfl
      exact .pure (.nil _)

/-- By induction on the names: a failure is collected, and the next object is tried all the same. -/
theorem removeAll_calls (store : RemoteStore W) (names : List ObjectName) :
    Calls store.client (removeAll store.traced names) (removeAll store names) (Cleaning names) := by
  induction names with
  | nil => exact .pure ⟨List.forall_mem_nil _, rfl, rfl⟩
  | cons name rest ih =>
      apply (RemoteStore.deleteIfExists_calls name).bind
      rintro outcome - ⟨remote, rfl, kind, removed, same⟩
      apply ih.bind
      intro failures remotes cleaning
      cases outcome with
      | ok gone =>
          apply Calls.pure
          rw [List.append_nil]
          exact cleaning.cons kind removed (by rw [same]; rfl)
      | error cause =>
          apply Calls.pure
          rw [List.append_nil]
          exact cleaning.cons kind removed (by rw [same]; rfl)

/-- What the remote calls of a creation come to. After a failure the object is removed, whatever becomes of it. -/
def Creates (result : Except SinkError SinkFile) (remotes : List Remote) : Prop :=
  ∃ writes cleanup, remotes = writes ++ cleanup ∧ Proceeds result writes ∧
    (∀ remote ∈ cleanup, remote.operation = .delete) ∧ (cleanup ≠ [] → ∃ cause, result = .error cause)

/-- What the remote calls of a publish come to. Only after a success objects are removed, and the failures of that
are told beside it. -/
def Publishing (after : SinkFile) (result : Except SinkError Publication) (remotes : List Remote) : Prop :=
  ∃ writes cleanup, remotes = writes ++ cleanup ∧ Proceeds result writes ∧
    match result with
    | .error _ => cleanup = []
    | .ok publication => Cleaning after.transientNames publication.cleanupFailures cleanup

/-- What the remote calls of a discard come to: their failures are counted. -/
def Discarding (file : SinkFile) (result : Except SinkError Nat) (remotes : List Remote) : Prop :=
  match result with
  | .error _ => remotes = []
  | .ok left => ∃ failures, Cleaning file.possibleNames failures remotes ∧ left = failures.length

/-- A creation may do without a removal. -/
theorem creates_of_proceeds {result : Except SinkError SinkFile} (proceeds : Proceeds result remotes) :
    Creates result remotes :=
  ⟨remotes, [], (List.append_nil remotes).symm, proceeds, List.forall_mem_nil _, fun some => absurd rfl some⟩

theorem create_calls (store : RemoteStore W) (name : String) (names : FileNames) (capacity : Nat)
    (marker : Marker) :
    Calls store.client (create store.traced name names capacity marker) (create store name names capacity marker)
      Creates := by
  rw [create, create]
  split
  · exact .pure (creates_of_proceeds (.nil _))
  · apply (RemoteStore.upload_calls _ _).bind
    intro uploaded remotes only
    cases uploaded with
    | ok inflight =>
        apply Calls.ends
        exact creates_of_proceeds (only.proceeds (by decide) nofun)
    | error cause =>
        apply (RemoteStore.deleteIfExists_calls _).bind
        rintro - - ⟨remote, rfl, kind, -⟩
        apply Calls.pure
        refine ⟨remotes, [remote], rfl, only.proceeds (by decide) fun _ same => by cases same; rfl, ?_,
          fun _ => ⟨cause, rfl⟩⟩
        intro other among
        rw [List.mem_singleton.mp among]
        exact kind

theorem publish_calls (store : RemoteStore W) (file : SinkFile) :
    Calls store.client (file.publish store.traced) (file.publish store) fun result remotes =>
      Publishing result.2 result.1 remotes := by
  rw [publish, publish]
  split
  · exact .pure ⟨[], [], rfl, .nil _, rfl⟩
  · apply (composePublish_calls store _).bind
    rintro ⟨composed, after⟩ writes proceeds
    cases composed with
    | error cause =>
        apply Calls.pure
        exact ⟨writes, [], rfl, proceeds.passes fun _ same => by cases same; rfl, rfl⟩
    | ok object =>
        apply (removeAll_calls store _).bind
        intro failures cleanup cleaning
        apply Calls.pure
        rw [List.append_nil]
        exact ⟨writes, cleanup, rfl, proceeds.passes (fun _ same => by cases same), cleaning⟩

theorem discard_calls (store : RemoteStore W) (file : SinkFile) :
    Calls store.client (file.discard store.traced) (file.discard store) fun result remotes =>
      Discarding file result.1 remotes := by
  rw [discard, discard]
  split
  · exact .pure rfl
  · apply (removeAll_calls store _).bind
    intro failures remotes cleaning
    apply Calls.ends
    exact ⟨failures, cleaning, rfl⟩

/-- What the remote calls of a call come to in its answer. -/
def Settles (file : SinkFile) (reply : Reply) (after : SinkFile) (remotes : List Remote) : Prop :=
  match reply with
  | .appended _ => remotes = []
  | .synced result => Proceeds result remotes
  | .published result => Publishing after result remotes
  | .discarded result => Discarding file result remotes

theorem ask_calls (store : RemoteStore W) (file : SinkFile) (call : Call) :
    Calls store.client (file.ask store.traced call) (file.ask store call) fun result remotes =>
      file.Settles result.1 result.2 remotes := by
  cases call with
  | append record => exact .pure rfl
  | sync => exact (sync_calls store file).returns fun _ _ holds => holds
  | publish => exact (publish_calls store file).returns fun _ _ holds => holds
  | discard => exact (discard_calls store file).returns fun _ _ holds => holds

end SinkFile

/-! ## Operations of a sink -/

namespace Sink

/-- What is asked of a sink and its files. -/
inductive Order where
  | verify
  | create (name : String) (marker : Marker) (capacity : Nat)
  | ask (number : Nat) (call : SinkFile.Call)

/-- What was done, and how it was answered. -/
inductive Deed where
  | verified (result : Except SinkError BucketMetadata)
  | created (result : Except SinkError SinkFile)
  | asked (file : SinkFile) (reply : SinkFile.Reply) (after : SinkFile)

/-- Carries out an order. A new file is put behind those that there are. -/
def carryOut (sink : Sink W) (files : List SinkFile) : Order → StateM W (List Deed × List SinkFile)
  | .verify => do
      let result ← sink.verify
      return ([.verified result], files)
  | .create name marker capacity => do
      let result ← sink.createFile name marker capacity
      return ([.created result], files ++ result.toOption.toList)
  | .ask number call =>
      match files[number]? with
      | none => return ([], files)
      | some file => do
          let (reply, after) ← file.ask sink.store call
          return ([.asked file reply after], files.set number after)

/-- Carries out orders one after the other. -/
def conduct (sink : Sink W) : List Order → List SinkFile → StateM W (List Deed)
  | [], _ => return []
  | order :: rest, files => do
      let (deeds, files) ← sink.carryOut files order
      let later ← sink.conduct rest files
      return deeds ++ later

/-- What was done, with what was written down of it: a look at the source of credentials before all requests, and
the remote calls. -/
structure Account where
  deed : Deed
  checks : List Event
  remotes : List Remote

/-- All events in order. -/
def Account.events (account : Account) : List Event := account.checks ++ account.remotes.flatMap Remote.events

/-- What the events of a verification come to. Without a credential nothing is sent. -/
inductive Verifies : Except SinkError BucketMetadata → List Event → List Remote → Prop where
  | refused (cause : CredentialError) : Verifies (.error (.credential cause)) [.obtained (.error cause)] []
  | granted {result : Except SinkError BucketMetadata} {remotes : List Remote} (credential : Credential) :
      Proceeds result remotes → Verifies result [.obtained (.ok credential)] remotes

/-- What the events of an operation come to in its answer. -/
def Deed.Settles : Deed → List Event → List Remote → Prop
  | .verified result, checks, remotes => Verifies result checks remotes
  | .created result, checks, remotes => checks = [] ∧ SinkFile.Creates result remotes
  | .asked file reply after, checks, remotes => checks = [] ∧ file.Settles reply after remotes

/-- All requests of an operation are authorized, and its answer is settled. -/
structure Account.IsSettled (client : Client W) (account : Account) : Prop where
  authorized : ∀ remote ∈ account.remotes, remote.IsAuthorized client.Asks
  settles : account.deed.Settles account.checks account.remotes

/-- The transcript of operations, all of them settled. -/
def Accounted (client : Client W) (deeds : List Deed) (log : List Event) : Prop :=
  ∃ accounts : List Account, deeds = accounts.map Account.deed ∧ log = accounts.flatMap Account.events ∧
    ∀ account ∈ accounts, account.IsSettled client

variable {sink : Sink W}

/-- One operation is accounted for by its checks and its remote calls. -/
theorem accounted_of_settles {deed : Deed} {checks : List Event} {remotes : List Remote}
    (authorized : ∀ remote ∈ remotes, remote.IsAuthorized client.Asks)
    (settles : deed.Settles checks remotes) :
    Accounted client [deed] (checks ++ remotes.flatMap Remote.events) := by
  refine ⟨[⟨deed, checks, remotes⟩], rfl, (List.flatMap_singleton ..).symm, ?_⟩
  intro account among
  rw [List.mem_singleton.mp among]
  exact ⟨authorized, settles⟩

theorem Accounted.append {first second : List Deed} {log more : List Event}
    (accounted : Accounted client first log) (accountedToo : Accounted client second more) :
    Accounted client (first ++ second) (log ++ more) := by
  obtain ⟨accounts, rfl, rfl, settled⟩ := accounted
  obtain ⟨further, rfl, rfl, settledToo⟩ := accountedToo
  refine ⟨accounts ++ further, List.map_append.symm, List.flatMap_append.symm, ?_⟩
  intro account among
  obtain old | new := List.mem_append.mp among
  · exact settled account old
  · exact settledToo account new

theorem verify_accounted (sink : Sink W) :
    Reports sink.traced.verify sink.verify fun result => Accounted sink.store.client [.verified result] := by
  apply (Reports.noting sink.credentials.obtain .obtained).bind
  rintro outcome - rfl
  cases outcome with
  | error cause =>
      apply Reports.pure
      exact accounted_of_settles (List.forall_mem_nil _) (.refused cause)
  | ok credential =>
      have config : sink.traced.config = sink.config := rfl
      dsimp only
      rw [config]
      split
      · apply Reports.pure
        exact accounted_of_settles (List.forall_mem_nil _) (.granted credential (.nil _))
      · apply Reports.mono RemoteStore.verifyBucket_calls
        rintro result log ⟨remotes, rfl, authorized, only⟩
        exact accounted_of_settles authorized
          (.granted credential (only.proceeds (by decide) fun _ same => same))

theorem createFile_accounted (sink : Sink W) (name : String) (marker : Marker) (capacity : Nat) :
    Reports (sink.traced.createFile name marker capacity) (sink.createFile name marker capacity) fun result =>
      Accounted sink.store.client [.created result] := by
  have config : sink.traced.config = sink.config := rfl
  rw [createFile, createFile, config]
  split
  next cause refused =>
    apply Reports.pure
    have settled : (Deed.created (.error (.invalidName cause))).Settles [] [] :=
      ⟨rfl, SinkFile.creates_of_proceeds (.nil _)⟩
    exact accounted_of_settles (List.forall_mem_nil _) settled
  · apply Reports.mono (SinkFile.create_calls sink.store name _ capacity marker)
    rintro result log ⟨remotes, rfl, authorized, creates⟩
    have settled : (Deed.created result).Settles [] remotes := ⟨rfl, creates⟩
    exact accounted_of_settles authorized settled

theorem carryOut_accounted (sink : Sink W) (files : List SinkFile) (order : Order) :
    Reports (sink.traced.carryOut files order) (sink.carryOut files order) fun result =>
      Accounted sink.store.client result.1 := by
  cases order with
  | verify => exact sink.verify_accounted.returns fun _ _ accounted => accounted
  | create name marker capacity =>
      exact (sink.createFile_accounted name marker capacity).returns fun _ _ accounted => accounted
  | ask number call =>
      rw [carryOut, carryOut]
      split
      · exact .pure ⟨[], rfl, rfl, List.forall_mem_nil _⟩
      next file found =>
        apply Reports.returns (SinkFile.ask_calls sink.store file call)
        rintro ⟨reply, after⟩ log ⟨remotes, rfl, authorized, settles⟩
        have settled : (Deed.asked file reply after).Settles [] remotes := ⟨rfl, settles⟩
        exact accounted_of_settles authorized settled

theorem conduct_accounted (sink : Sink W) (orders : List Order) (files : List SinkFile) :
    Reports (sink.traced.conduct orders files) (sink.conduct orders files) (Accounted sink.store.client) := by
  induction orders generalizing files with
  | nil => exact .pure ⟨[], rfl, rfl, List.forall_mem_nil _⟩
  | cons order rest ih =>
      apply (sink.carryOut_accounted files order).bind
      rintro ⟨deeds, files⟩ log accounted
      apply (ih files).returns
      intro later more accountedToo
      exact accounted.append accountedToo

/-- Every request is authorized, or it is not sent. Over a world that writes down what passes, a sink does whatever
is asked of it and of its files just as over the plain world, whatever the source of credentials hands out. What
is written down are the remote calls of one operation after the other. Each of their requests is sent right after
a credential was handed out for it, with the headers of this credential, all of them and in order, behind those
of its kind. Where none is handed out, the request is not sent, and the call ends with a final failure that tells
the number of the attempt. A creation, a sync, and a publish up to its compose return this failure and go on with
nothing but removals; a discard and the removals after a publish only count it, and try the other objects all the
same. -/
theorem requests_authorized (sink : Sink W) (orders : List Order) (files : List SinkFile) (world : W) :
    ∃ accounts : List Account,
      sink.traced.conduct orders files ⟨world, []⟩ =
          ((sink.conduct orders files world).1,
            ⟨(sink.conduct orders files world).2, accounts.flatMap Account.events⟩) ∧
        (sink.conduct orders files world).1 = accounts.map Account.deed ∧
        ∀ account ∈ accounts, account.IsSettled sink.store.client := by
  obtain ⟨log, same, accounts, deeds, rfl, settled⟩ := sink.conduct_accounted orders files world []
  exact ⟨accounts, same, deeds, settled⟩

namespace Trial

/-- A sink over a store that is never available, with a source that hands out two credentials. -/
def lapsing : Sink Nat :=
  let credentials : CredentialSource Nat :=
    ⟨fun given => (if given < 2 then .ok (.bearer "t") else .error (.unavailable "none left"), given + 1)⟩
  { config := Config.trial "http://h"
    credentials
    store := {
      client := {
        link := ⟨fun _ => pure (.ok { status := 503, body := [] })⟩, credentials
        endpoint := {
          scheme := "http", username := "", password := "", host := some "h", port := none, dotted := false
          path := .rooted "/", query := none, fragment := none }
        bucket := "logs" }
      clock := { now := pure .zero, wait := fun _ => pure (), delay := fun _ _ => pure .zero }
      policy := .immediate 5 } }

end Trial

/-- The third attempt has no credential. The removal after it has none either, and is not told. -/
example :
    errorOf? (Trial.lapsing.createFile "f" ⟨List.replicate 16 0, rfl⟩ 4 0).1 =
        some (.remote .upload "inflight/f" 3
          (.fatal (.credential "credential source unavailable: none left"))) ∧
      (Trial.lapsing.traced.createFile "f" ⟨List.replicate 16 0, rfl⟩ 4 ⟨0, []⟩).2.events.filterMap
          Event.refusal? = [.unavailable "none left", .unavailable "none left"] := by
  decide +kernel

end Sink

end RecordSink
