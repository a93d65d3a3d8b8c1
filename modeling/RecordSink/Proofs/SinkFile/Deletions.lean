import RecordSink.Proofs.SinkFile.Cleanup
import RecordSink.Proofs.SinkFile.States

/-!
# Deletions of a publish object

When a file asks the store to delete its publish object: only in a discard after a publish was tried. The
publish may have failed before its compose was sent, so that the object is another's.
-/

namespace RecordSink

open Emulator Ordeal

variable {τ : Type} {places : List Place} {schedule : Schedule}

/-- What is known of the value of a step in any world is known on trial. -/
theorem Ordeal.Passes.yields {α : Type} {P : Moment → List Moment → Prop} {pre : History → Prop}
    {step : StateM (Ordeal τ) α} {post : α → History → Prop} {known : α → Prop}
    (passes : Passes P pre step post) (yields : Yields step known) :
    Passes P pre step fun value history => post value history ∧ known value :=
  fun world begins => ⟨(passes world begins).1, (passes world begins).2, yields world⟩

/-- What is known of a step in two ways is known together. -/
theorem Ordeal.Passes.and {α : Type} {P Q : Moment → List Moment → Prop} {pre : History → Prop}
    {step : StateM (Ordeal τ) α} {post known : α → History → Prop} (passes : Passes P pre step post)
    (other : Passes Q pre step known) : Passes P pre step fun value history => post value history ∧
      known value history :=
  fun world begins => ⟨(passes world begins).1, (passes world begins).2, (other world begins).2⟩

/-- A moment of a history came before some later one, or after it. -/
theorem Ordeal.suffix_cases {moment : Moment} {past early late : List Moment} (whole : early <:+ late)
    (inside : moment :: past <:+ late) : moment :: past <:+ early ∨ early <:+ past := by
  rcases List.suffix_or_suffix_of_suffix inside whole with before | after
  · exact .inl before
  · rcases List.suffix_cons_iff.mp after with same | within
    · exact .inl (same ▸ List.suffix_rfl)
    · exact .inr within

namespace Errand

variable {W : Type} {client : Client W} {errands : List Errand} {errand : Errand} {name : ObjectName}
  {early late : List Moment}

/-- What was sent along the way was sent on one of the errands. -/
theorem Sent.through (through : Through (fun moment _ => Among client errands moment) early late)
    (sent : errand.Sent client late) :
    errand.Sent client early ∨ ∃ moment, errand.IsSent client moment ∧ Among client errands moment := by
  induction through with
  | done => exact .inl sent
  | next _ among ih =>
      obtain ⟨moment, inside, asked⟩ := sent
      rcases List.mem_cons.mp inside with rfl | before
      · exact .inr ⟨moment, asked, among⟩
      · exact ih ⟨moment, before, asked⟩

theorem Sent.delete_through (addressed : client.IsAddressed)
    (through : Through (fun moment _ => Among client errands moment) early late)
    (sent : (delete name).Sent client late) : (delete name).Sent client early ∨ delete name ∈ errands := by
  rcases sent.through through with before | ⟨moment, asked, errand, inside, same⟩
  · exact .inl before
  · rw [eq_delete addressed same asked] at inside
    exact .inr inside

end Errand

/-- With a credential at hand, a delete is sent for each object to be removed. -/
theorem SinkFile.sends_removeAll {store : RemoteStore (Ordeal τ)} (exposed : store.IsExposed places schedule)
    (left : List ObjectName) :
    Passes (fun moment _ => Errand.Among store.client (left.map .delete) moment) (fun _ => True)
      (removeAll store left) fun _ history =>
        store.client.IsProvided → ∀ name ∈ left, (Errand.delete name).Sent store.client history.moments := by
  induction left with
  | nil => exact .pure fun _ _ _ => List.forall_mem_nil _
  | cons name rest ih =>
      rw [removeAll]
      refine .bind (exposed.sends_deleteIfExists.mono (fun _ _ sent => ⟨_, List.mem_cons_self, sent⟩)
        (fun _ begins => begins) fun _ _ holds => holds) ?_
      intro outcome
      refine .each fun middle sent => ?_
      have others : Passes _ (fun now => now = middle) (removeAll store rest) _ :=
        ih.mono (fun _ _ sent => sent) (fun _ _ => trivial) fun _ _ holds => holds
      refine .bind (others.along.mono (fun _ _ sent => sent.1.mono (List.subset_cons_self _ _))
        (fun _ same => same) fun _ _ holds => holds) ?_
      intro failures
      have whole : ∀ history : History,
          (store.client.IsProvided → ∀ name ∈ rest, (Errand.delete name).Sent store.client history.moments) ∧
            middle.moments <:+ history.moments →
          store.client.IsProvided →
            ∀ other ∈ name :: rest, (Errand.delete other).Sent store.client history.moments := by
        rintro history ⟨later, within⟩ provided other inside
        rcases List.mem_cons.mp inside with rfl | more
        · exact (sent provided).mono within
        · exact later provided other more
      cases outcome with
      | ok _ => exact .pure whole
      | error cause => exact .pure whole

namespace SinkFile

variable {store : RemoteStore (Ordeal τ)} {client : Client (Ordeal τ)} {names : FileNames} {marker : Marker}
  {initial : Option StoredObject} {file after : SinkFile} {ledger : Ledger} {start history : History}
  {early late : List Moment}

/-- The store was asked to compose the publish object. -/
def Composition (client : Client (Ordeal τ)) (names : FileNames) (moments : List Moment) : Prop :=
  ∃ generation, (Errand.compose names.publish generation).Sent client moments

/-- The store was asked to delete the publish object. -/
def Deletion (client : Client (Ordeal τ)) (names : FileNames) (moments : List Moment) : Prop :=
  (Errand.delete names.publish).Sent client moments

instance {moments : List Moment} : Decidable (Deletion client names moments) :=
  inferInstanceAs (Decidable (Errand.Sent _ _ _))

/-- Every request to delete the publish object comes after one to compose it. -/
def Justified (client : Client (Ordeal τ)) (names : FileNames) (moments : List Moment) : Prop :=
  ∀ moment past, moment :: past <:+ moments → (Errand.delete names.publish).IsSent client moment →
    Composition client names past

theorem Composition.mono (composition : Composition client names early) (within : early <:+ late) :
    Composition client names late := by
  obtain ⟨generation, sent⟩ := composition
  exact ⟨generation, sent.mono within⟩

theorem Composition.through {errands : List Errand} (addressed : client.IsAddressed)
    (through : Through (fun moment _ => Errand.Among client errands moment) early late)
    (composition : Composition client names late) :
    Composition client names early ∨ ∃ generation, .compose names.publish generation ∈ errands := by
  obtain ⟨generation, sent⟩ := composition
  rcases sent.through through with before | ⟨moment, asked, errand, inside, same⟩
  · exact .inl ⟨generation, before⟩
  · obtain ⟨other, rfl⟩ := Errand.eq_compose addressed same asked
    exact .inr ⟨other, inside⟩

/-- The URL of a compose shows in its path, whatever generation is asked for. -/
theorem not_composition {moments : List Moment} (addressed : client.IsAddressed)
    (others : ∀ moment ∈ moments, moment.request.url.names ≠
      ((Errand.compose names.publish none).url client).names) :
    ¬ Composition client names moments := by
  rintro ⟨generation, moment, inside, -, asked⟩
  obtain ⟨own, joined⟩ := Url.names_join addressed.base addressed.web
  apply others moment inside
  rw [asked, Errand.url, Errand.url, Client.Appends.names_composeUrl joined addressed,
    Client.Appends.names_composeUrl joined addressed]

/-- Without a deletion there is nothing to justify. -/
theorem justified_of_not_deletion {moments : List Moment} (none : ¬ Deletion client names moments) :
    Justified client names moments :=
  fun moment _ inside sent => absurd ⟨moment, inside.subset List.mem_cons_self, sent⟩ none

/-- What the requests of a file say about its publish object. -/
structure Follows (client : Client (Ordeal τ)) (names : FileNames) (initial : Option StoredObject)
    (ledger : Ledger) (history : History) : Prop where
  deletion : Deletion client names history.moments → ledger.tried = true ∧ ledger.discarded = true
  deleted : client.IsProvided → ledger.tried = true → ledger.discarded = true →
    Deletion client names history.moments
  ordered : Composition client names history.moments → Justified client names history.moments
  publish : Composition client names history.moments ∨ Deletion client names history.moments ∨
    history.store.objects.get? (client.place names.publish) = initial

/-- The deletions are justified exactly where there is a composition to any. -/
theorem Follows.justified_iff (follows : Follows client names initial ledger history) :
    Justified client names history.moments ↔
      (Deletion client names history.moments → Composition client names history.moments) := by
  constructor
  · rintro justified ⟨moment, inside, sent⟩
    obtain ⟨newer, past, split⟩ := List.append_of_mem inside
    have within : moment :: past <:+ history.moments := ⟨newer, split.symm⟩
    exact (justified moment past within sent).mono ((List.suffix_cons _ _).trans within)
  · intro composed
    by_cases deletion : Deletion client names history.moments
    · exact follows.ordered (composed deletion)
    · exact justified_of_not_deletion deletion

/-- A file that has been through nothing new follows a ledger that says the same of it. -/
theorem Follows.noted {noted : Ledger} (follows : Follows client names initial ledger history)
    (tried : noted.tried = ledger.tried) (discarded : noted.discarded = ledger.discarded) :
    Follows client names initial noted history := by
  obtain ⟨deletion, deleted, ordered, publish⟩ := follows
  rw [← tried, ← discarded] at deletion deleted
  exact ⟨deletion, deleted, ordered, publish⟩

/-- Before a discard nothing has been deleted. -/
theorem Follows.of_kept {noted : Ledger} (kept : noted.discarded ≠ true)
    (none : ¬ Deletion client names history.moments)
    (publish : Composition client names history.moments ∨
      history.store.objects.get? (client.place names.publish) = initial) :
    Follows client names initial noted history :=
  ⟨fun deletion => absurd deletion none, fun _ _ discarded => absurd discarded kept,
    fun _ => justified_of_not_deletion none, publish.imp id .inr⟩

theorem sends_discard (exposed : store.IsExposed places schedule)
    (unfinished : ¬ (file.state ≠ .open ∧ file.state ≠ .failed)) :
    Passes (fun moment _ => Errand.Among store.client (file.possibleNames.map .delete) moment)
      (fun _ => True) (file.discard store) fun _ history => store.client.IsProvided →
        ∀ name ∈ file.possibleNames, (Errand.delete name).Sent store.client history.moments := by
  rw [discard, if_neg unfinished]
  exact .bind (sends_removeAll exposed _) fun _ => .pure fun _ holds => holds

/-- What is known before a discard. -/
theorem Follows.undeleted (follows : Follows client names initial ledger history)
    (kept : ledger.discarded ≠ true) :
    ¬ Deletion client names history.moments ∧
      (Composition client names history.moments ∨
        history.store.objects.get? (client.place names.publish) = initial) := by
  have none : ¬ Deletion client names history.moments := fun deletion => kept (follows.deletion deletion).2
  refine ⟨none, follows.publish.imp id fun rest => ?_⟩
  exact rest.resolve_left none

/-- A sync of an open file asks nothing of the publish object. -/
theorem passes_sync_follows (houses : store.Houses places schedule file.names)
    (agrees : Agrees marker ledger file) (isOpen : file.state = .open)
    (follows : Follows store.client file.names initial ledger start) :
    Passes (fun _ _ => True) (fun now => now = start) (file.sync store)
      fun result history =>
        Follows store.client file.names initial (ledger.note .sync result.1.isOk) history := by
  have synced : Passes _ (fun now => now = start) (file.sync store) _ :=
    (passes_sync_exposed houses).since.remember.yields (sync_yields store isOpen (agrees.resting isOpen))
  refine synced.mono (fun _ _ _ => trivial) (fun _ same => same) ?_
  rintro ⟨result, after⟩ history ⟨⟨advances, through⟩, -, attempted, -, -⟩
  have addressed := houses.exposed.client.addressed
  have kept := agrees.kept isOpen
  obtain ⟨none, publish⟩ := follows.undeleted kept
  have unchanged : (ledger.note .sync result.isOk).discarded = ledger.discarded := by
    cases result <;> rfl
  refine .of_kept (by rw [unchanged]; exact kept) ?_ ?_
  · intro deletion
    rcases deletion.delete_through addressed through with before | asked
    · exact none before
    · simp [syncErrands] at asked
  · refine publish.imp (fun composition => composition.mono through.isSuffix) fun same => ?_
    have named : after.names = file.names := advances.names
    have apart : file.names.publish ∉ after.possibleNames := by
      rw [← named]
      refine publish_not_possible (named ▸ houses) fun tried => ?_
      exact agrees.untried isOpen (agrees.tried.trans (attempted.symm.trans tried))
    exact (advances.elsewhere.objects _ (houses.own _ (by simp)) (Client.place_not_mem apart)).trans same

/-- A publish of an open file deletes only the other objects. -/
theorem passes_publish_follows (houses : store.Houses places schedule file.names)
    (agrees : Agrees marker ledger file)
    (isOpen : file.state = .open) (follows : Follows store.client file.names initial ledger start) :
    Passes (fun _ _ => True) (fun now => now = start) (file.publish store)
      fun result history =>
        Follows store.client file.names initial (ledger.note .publish result.1.isOk) history := by
  have published : Passes _ (fun now => now = start) (file.publish store) _ :=
    (passes_publish_exposed houses).since.remember
  refine published.mono (fun _ _ _ => trivial) (fun _ same => same) ?_
  rintro ⟨result, after⟩ history ⟨⟨leads, -⟩, through⟩
  have kept := agrees.kept isOpen
  obtain ⟨none, publish⟩ := follows.undeleted kept
  refine .of_kept kept ?_ ?_
  · intro deletion
    rcases deletion.delete_through houses.exposed.client.addressed through with before | asked
    · exact none before
    · rcases List.mem_append.mp asked with composing | cleaning
      · simp [publishErrands] at composing
      · simp only [cleanupErrands, List.mem_pair, Errand.delete.injEq] at cleaning
        rcases cleaning with part | inflight
        · exact houses.part_ne_publish part.symm
        · exact houses.inflight_ne_publish inflight.symm
  · rcases leads.publish with composed | same
    · exact .inl ⟨_, composed⟩
    · exact publish.imp (fun composition => composition.mono through.isSuffix) fun old => same.trans old

/-- A discard deletes the publish object where a publish was tried, and composes nothing. -/
theorem passes_discard_follows (houses : store.Houses places schedule file.names)
    (agrees : Agrees marker ledger file)
    (unfinished : ¬ (file.state ≠ .open ∧ file.state ≠ .failed))
    (follows : Follows store.client file.names initial ledger start) :
    Passes (fun _ _ => True) (fun now => now = start) (file.discard store)
      fun result history =>
        Follows store.client file.names initial (ledger.note .discard result.1.isOk) history := by
  have discarded : Passes _ (fun now => now = start) (file.discard store) _ :=
    (passes_discard_exposed houses).since.remember.yields (discard_yields store unfinished)
        |>.and ((sends_discard houses.exposed unfinished).mono (fun _ _ sent => sent) (fun _ _ => trivial)
          fun _ _ holds => holds)
  refine discarded.mono (fun _ _ _ => trivial) (fun _ same => same) ?_
  rintro ⟨result, after⟩ history ⟨⟨⟨⟨-, clears, -⟩, through⟩, ⟨left, rfl⟩, -, -⟩, sends⟩
  have addressed := houses.exposed.client.addressed
  have kept : ledger.discarded ≠ true := by
    intro told
    rw [agrees.discarded.mp told] at unfinished
    exact unfinished (by decide)
  obtain ⟨none, publish⟩ := follows.undeleted kept
  have possible : file.names.publish ∈ file.possibleNames ↔ ledger.tried = true := by
    rw [mem_possibleNames, agrees.tried]
    simp [houses.inflight_ne_publish.symm, houses.part_ne_publish.symm]
  constructor
  · intro deletion
    rcases deletion.delete_through addressed through with before | asked
    · exact absurd before none
    · simp only [List.mem_map, Errand.delete.injEq, exists_eq_right] at asked
      exact ⟨possible.mp asked, rfl⟩
  · intro provided tried _
    exact sends provided _ (possible.mpr tried)
  · -- a discard composes nothing, so that the compose came before each of its deletes
    intro composition moment past inside sent
    rcases suffix_cases through.isSuffix inside with before | after
    · exact absurd ⟨moment, before.subset List.mem_cons_self, sent⟩ none
    · rcases composition.through addressed through with composed | ⟨generation, asked⟩
      · exact composed.mono after
      · simp at asked
  · rcases publish with composition | same
    · exact .inl (composition.mono through.isSuffix)
    by_cases inside : file.names.publish ∈ file.possibleNames
    · rcases clears.removed _ inside with kept | ⟨-, sent⟩
      · exact .inr (.inr (kept.trans same))
      · exact .inr (.inl sent)
    · have kept := clears.elsewhere.objects _ (houses.own _ (by simp)) (Client.place_not_mem inside)
      exact .inr (.inr (kept.trans same))

/-- A call of a file keeps the ledger right about the requests. -/
theorem passes_perform_follows (houses : store.Houses places schedule file.names)
    (agrees : Agrees marker ledger file) (call : Call)
    (follows : Follows store.client file.names initial ledger start) :
    Passes (fun _ _ => True) (fun now => now = start) (file.perform store call)
      fun result history =>
        Follows store.client file.names initial (ledger.note call result.1) history := by
  have refused : file.state ≠ .open →
      Follows store.client file.names initial (ledger.note call false) start := by
    intro closed
    rw [Ledger.note_refused (Bool.eq_false_iff.mpr fun opened => closed (agrees.isOpen.mp opened))]
    exact follows
  cases call with
  | append record =>
      refine .pure ?_
      rintro history rfl
      have silent : ∀ succeeded, (ledger.note (.append record) succeeded).tried = ledger.tried ∧
          (ledger.note (.append record) succeeded).discarded = ledger.discarded := by
        rintro (_ | _) <;> exact ⟨rfl, rfl⟩
      exact follows.noted (silent _).1 (silent _).2
  | sync =>
      by_cases isOpen : file.state = .open
      · exact .bind (passes_sync_follows houses agrees isOpen follows) fun _ => .pure fun _ holds => holds
      · rw [perform, sync, if_pos isOpen]
        exact .pure fun history same => same ▸ refused isOpen
  | publish =>
      by_cases isOpen : file.state = .open
      · exact .bind (passes_publish_follows houses agrees isOpen follows)
          fun _ => .pure fun _ holds => holds
      · rw [perform, publish, if_pos isOpen]
        exact .pure fun history same => same ▸ refused isOpen
  | discard =>
      by_cases finished : file.state ≠ .open ∧ file.state ≠ .failed
      · rw [perform, discard, if_pos finished]
        exact .pure fun history same => same ▸ refused finished.1
      · exact .bind (passes_discard_follows houses agrees finished follows)
          fun _ => .pure fun _ holds => holds

/-- The ledger is right about the requests after any calls. -/
theorem passes_run_follows (houses : store.Houses places schedule file.names)
    (agrees : Agrees marker ledger file)
    (calls : List Call) (follows : Follows store.client file.names initial ledger start) :
    Passes (fun _ _ => True) (fun now => now = start) (run store calls file ledger)
      fun result history => Follows store.client file.names initial result.2 history := by
  induction calls generalizing file ledger start with
  | nil => exact .pure fun history same => same ▸ follows
  | cons call rest ih =>
      rw [run]
      have performed : Passes _ (fun now => now = start) (file.perform store call) _ :=
        (passes_perform_follows houses agrees call follows).and
          (passes_perform_exposed houses call).since |>.yields (agrees_perform store agrees call)
      refine .bind performed ?_
      rintro ⟨succeeded, after⟩
      refine .each ?_
      rintro middle ⟨⟨noted, advances⟩, agreed⟩
      have named := advances.names
      dsimp only at named noted
      rw [← named] at houses noted ⊢
      exact ih houses agreed noted

/-! ## Created files -/

variable {names : FileNames} {world later : Ordeal τ} {calls : List Call} {rest : τ} {title : String}
  {capacity : Nat} {start : Emulator}

/-- What is known of the requests of a created file after any calls. -/
theorem Exposed.follows (exposed : Exposed schedule store names)
    (created : create store title names capacity marker { rest, history := .fresh start } = (.ok file, world))
    (ran : run store calls file .empty world = ((after, ledger), later)) :
    Follows store.client names (start.objects.get? (store.client.place names.publish)) ledger
      later.history := by
  have houses := exposed.houses
  have addressed := houses.exposed.client.addressed
  obtain ⟨through, elsewhere, opened⟩ := passes_create_exposed houses title capacity marker
    ⟨rest, .fresh start⟩ (rfl : (History.fresh start).store = start)
  have agrees := agrees_create store title names capacity marker ⟨rest, .fresh start⟩
  rw [created] at through elsewhere opened agrees
  obtain ⟨rfl, -⟩ := opened file rfl
  have apart : file.names.publish ∉ [file.names.inflight] := by
    simpa using houses.inflight_ne_publish.symm
  have begun : Follows store.client file.names (start.objects.get? (store.client.place file.names.publish))
      .empty world.history := by
    have same := elsewhere.objects _ (houses.own _ (by simp)) (Client.place_not_mem apart)
    refine .of_kept Bool.false_ne_true ?_ (.inr same)
    intro deletion
    rcases deletion.delete_through addressed through with ⟨moment, none, -⟩ | asked
    · cases none
    · simp [houses.inflight_ne_publish.symm] at asked
  have kept := (passes_run_follows houses (agrees file rfl) calls begun world rfl).2
  rw [ran] at kept
  exact kept

/-- Every deletion of the publish object is justified, and the object of before is in place where the file has
sent no compose, exactly where a discarded file with a publish tried has sent the compose if it has sent
the delete. With a credential at hand it has sent the delete. -/
theorem deletions_justified_iff (exposed : Exposed schedule store names)
    (created : create store title names capacity marker { rest, history := .fresh start } = (.ok file, world))
    (ran : run store calls file .empty world = ((after, ledger), later)) :
    let place := store.client.place names.publish
    let moments := later.history.moments
    (Justified store.client names moments ∧
        (¬ Composition store.client names moments →
          later.history.store.objects.get? place = start.objects.get? place) ↔
      (ledger.tried = true → ledger.discarded = true → Deletion store.client names moments →
        Composition store.client names moments)) ∧
    (store.client.IsProvided → ledger.tried = true → ledger.discarded = true →
      Deletion store.client names moments) := by
  have follows := exposed.follows created ran
  refine ⟨⟨?_, ?_⟩, follows.deleted⟩
  · rintro ⟨justified, -⟩ _ _
    exact follows.justified_iff.mp justified
  · intro composed
    have whole : Deletion store.client names later.history.moments →
        Composition store.client names later.history.moments := fun deletion =>
      composed (follows.deletion deletion).1 (follows.deletion deletion).2 deletion
    refine ⟨follows.justified_iff.mpr whole, fun none => ?_⟩
    exact (follows.publish.resolve_left none).resolve_left fun deletion => none (whole deletion)

namespace Trial

/-- One request is refused for good: the upload of the part, or the compose behind it. -/
def barred (turn : Nat) : Schedule := fun number =>
  { deeds := [], fault := if number = turn then some (.refuse 403 "forbidden") else none }

/-- A bucket with a finished object in the place of the file to be published. -/
def finished : Emulator :=
  (Emulator.withBucket "logs").write (Trial.store.client.place Trial.names.publish) [7] Client.recordType

def opening (turn : Nat) : Except SinkError SinkFile × Ordeal Unit :=
  create (storeOf (barred turn)) "a" Trial.names 1 Trial.marker { rest := (), history := .fresh finished }

theorem opens_part : (opening 1).1.toOption.isSome = true := by
  decide +kernel

theorem opens_compose : (opening 2).1.toOption.isSome = true := by
  decide +kernel

/-- The file is discarded after its publish has failed. -/
def abandoned (turn : Nat) (opens : (opening turn).1.toOption.isSome = true) :
    (SinkFile × Ledger) × Ordeal Unit :=
  run (storeOf (barred turn)) [.append [1], .publish, .discard] ((opening turn).1.toOption.get opens) .empty
    (opening turn).2

/-- No request to the URL of the compose has passed. -/
theorem uncomposed : ∀ moment ∈ (abandoned 1 opens_part).2.history.moments,
    moment.request.url.names ≠
      ((Errand.compose Trial.names.publish none).url (storeOf (barred 1)).client).names := by
  decide +kernel

end Trial

/-- Where the compose was refused, the deletion comes after it. -/
theorem deletions_justified_iff_trial :
    Justified (Trial.storeOf (Trial.barred 2)).client Trial.names
      (Trial.abandoned 2 Trial.opens_compose).2.history.moments :=
  ((deletions_justified_iff (Trial.exposed (Trial.barred 2) fun _ => rfl)
    (eq_mk_of_fst (Except.eq_ok_of_isSome Trial.opens_compose))
    (eq_mk_of_fst_fst (rfl : (Trial.abandoned 2 Trial.opens_compose).1.1 =
      (Trial.abandoned 2 Trial.opens_compose).1.1))).1.mpr
    fun _ _ _ => ⟨none, by decide +kernel⟩).1

/-- Where the upload of the part was refused, no compose was sent, and the deletion removes a finished object
that the file has not written. -/
theorem deletion_without_composition :
    let client := (Trial.storeOf (Trial.barred 1)).client
    let place := client.place Trial.names.publish
    let history := (Trial.abandoned 1 Trial.opens_part).2.history
    ¬ Justified client Trial.names history.moments ∧ ¬ Composition client Trial.names history.moments ∧
      (Trial.finished.objects.get? place).isSome ∧ history.store.objects.get? place = none := by
  intro client place history
  have exposed := Trial.exposed (Trial.barred 1) fun _ => rfl
  have uncomposed : ¬ Composition client Trial.names history.moments :=
    not_composition exposed.houses.exposed.client.addressed Trial.uncomposed
  have seen : Deletion client Trial.names history.moments ∧ (Trial.finished.objects.get? place).isSome ∧
      history.store.objects.get? place = none := by
    decide +kernel
  have follows := exposed.follows (eq_mk_of_fst (Except.eq_ok_of_isSome Trial.opens_part))
    (eq_mk_of_fst_fst (rfl : (Trial.abandoned 1 Trial.opens_part).1.1 =
      (Trial.abandoned 1 Trial.opens_part).1.1))
  refine ⟨fun justified => ?_, uncomposed, seen.2⟩
  exact uncomposed (follows.justified_iff.mp justified seen.1)

end SinkFile

end RecordSink
