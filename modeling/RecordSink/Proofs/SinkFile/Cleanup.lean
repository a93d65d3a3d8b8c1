import Mathlib.Data.List.Perm.Subperm
import RecordSink.Proofs.SinkFile.Created
import RecordSink.Proofs.SinkFile.Footprints

/-!
# Cleanup of a file

What a discard and a publish leave of the objects of a file, whatever the schedule has answered: no more than
they report as failures, unless an answer to a delete lied.
-/

namespace RecordSink

open Emulator Ordeal

variable {τ : Type} {places : List Place} {schedule : Schedule}

/-- What a step comes to from a store, it comes to from every history of the store. -/
theorem Ordeal.Passes.since {α : Type} {P : Moment → List Moment → Prop} {start : History}
    {step : StateM (Ordeal τ) α} {post : α → History → Prop}
    (passes : Passes P (fun history => history.store = start.store) step post) :
    Passes P (fun now => now = start) step post :=
  passes.mono (fun _ _ holds => holds) (fun _ same => congrArg History.store same) fun _ _ holds => holds

namespace SinkFile

variable {store : RemoteStore (Ordeal τ)} {client : Client (Ordeal τ)} {file after : SinkFile}
  {start : Emulator} {name : ObjectName}

/-! ## Removing -/

/-- What a removal of objects has done: each of them is in place, or it is gone and the store was asked to
delete it. Nothing else has changed. -/
structure Clears (places : List Place) (client : Client (Ordeal τ)) (names : List ObjectName)
    (start : Emulator) (history : History) : Prop where
  elsewhere : Elsewhere places (names.map client.place) start history.store
  removed : ∀ name ∈ names,
    history.store.objects.get? (client.place name) = start.objects.get? (client.place name) ∨
      history.store.objects.get? (client.place name) = none ∧ (Errand.delete name).Sent client history.moments

namespace Clears

variable {names rest : List ObjectName} {history later : History}

theorem survives (own : ∀ name ∈ names, client.place name ∈ places) :
    Survives places (Clears places client names start) := by
  intro history moment clears kept
  refine ⟨clears.elsewhere.keeps kept, ?_⟩
  intro name inside
  rw [History.next, kept.objects _ (own name inside)]
  exact (clears.removed name inside).imp id (And.imp_right fun sent => sent.mono (List.suffix_cons _ _))

/-- Only an object that was there is there afterwards. -/
theorem present (clears : Clears places client names start history) (own : client.place name ∈ places)
    (there : client.Present history.store name = true) : client.Present start name = true := by
  by_cases inside : name ∈ names
  · rcases clears.removed name inside with same | ⟨gone, -⟩
    · rw [Client.Present, same] at there
      exact there
    · rw [Client.Present, gone] at there
      cases there
  · rw [Client.Present, clears.elsewhere.objects _ own (Client.place_not_mem inside)] at there
    exact there

/-- One object is removed, and then the rest. -/
theorem cons (own : ∀ other ∈ name :: rest, client.place other ∈ places)
    (first : Clears places client [name] start history)
    (second : Clears places client rest history.store later) (within : history.moments <:+ later.moments) :
    Clears places client (name :: rest) start later := by
  constructor
  · exact (first.elsewhere.widen (List.cons_subset_cons _ (List.nil_subset _))).trans
      (second.elsewhere.widen (List.subset_cons_self _ _))
  intro other inside
  have before : history.store.objects.get? (client.place other) = start.objects.get? (client.place other) ∨
      history.store.objects.get? (client.place other) = none ∧
        (Errand.delete other).Sent client history.moments := by
    by_cases same : other ∈ [name]
    · exact first.removed other same
    · exact .inl (first.elsewhere.objects _ (own other inside) (Client.place_not_mem same))
  by_cases more : other ∈ rest
  · rcases second.removed other more with same | gone
    · rw [same]
      exact before.imp id (And.imp_right fun sent => sent.mono within)
    · exact .inr gone
  · rw [second.elsewhere.objects _ (own other inside) (Client.place_not_mem more)]
    exact before.imp id (And.imp_right fun sent => sent.mono within)

/-- No more objects are left than there are among those to be removed, where these were all that was
there. -/
theorem countP_le (clears : Clears places client rest start history) (distinct : names.Nodup)
    (own : ∀ name ∈ names, client.place name ∈ places)
    (counted : ∀ name ∈ names, client.Present start name = true → name ∈ rest) :
    names.countP (client.Present history.store) ≤ rest.countP (client.Present history.store) := by
  rw [List.countP_eq_length_filter, List.countP_eq_length_filter]
  refine (List.subperm_of_subset (distinct.filter _) ?_).length_le
  intro name inside
  rw [List.mem_filter] at inside ⊢
  exact ⟨counted name inside.1 (clears.present (own name inside.1) inside.2), inside.2⟩

end Clears

/-- A removal of objects reports at least as many failures as are left of them, unless an answer lied. -/
theorem passes_removeAll_exposed (exposed : store.IsExposed places schedule) (start : Emulator)
    (left : List ObjectName) (own : ∀ name ∈ left, store.client.place name ∈ places) :
    Passes (fun moment _ => Errand.Among store.client (left.map .delete) moment)
      (fun history => history.store = start) (removeAll store left)
      fun failures history =>
        Clears places store.client left start history ∧
        (Honest schedule history.moments →
          left.countP (store.client.Present history.store) ≤ failures.length) := by
  induction left generalizing start with
  | nil =>
      refine .pure ?_
      rintro history rfl
      exact ⟨⟨.refl _, List.forall_mem_nil _⟩, fun _ => Nat.le_refl _⟩
  | cons name rest ih =>
      have single : ∀ other ∈ [name], store.client.place other ∈ places := by
        intro other inside
        rw [List.mem_singleton.mp inside]
        exact own name List.mem_cons_self
      have delete : Passes _ _ (store.deleteIfExists name) _ :=
        exposed.passes_deleteIfExists (I := Clears places store.client [name] start)
          (Clears.survives single) fun history moment value clears sent sets leaves => by
            refine ⟨clears.elsewhere.sets sets (List.mem_singleton_self _), ?_⟩
            intro other inside
            rw [List.mem_singleton.mp inside]
            exact .inr ⟨sets.object.trans leaves, moment, List.mem_cons_self, sent⟩
      rw [removeAll]
      refine .bind (delete.mono (fun _ _ sent => ⟨_, List.mem_cons_self, sent⟩) ?_ fun _ _ holds => holds) ?_
      · rintro history rfl
        exact ⟨.refl _, fun _ _ => .inl rfl⟩
      intro outcome
      refine .each ?_
      rintro middle ⟨clears, gone⟩
      have others := (ih middle.store fun other more => own other (List.mem_cons_of_mem _ more)).since
      refine .bind (others.along.mono (fun _ _ sent => sent.1.mono (List.subset_cons_self _ _))
        (fun _ same => same) fun _ _ holds => holds) ?_
      intro failures
      cases outcome with
      | ok _ =>
          refine .pure ?_
          rintro history ⟨⟨later, counted⟩, within⟩
          refine ⟨clears.cons own later within, fun honest => ?_⟩
          -- the removals after it bring nothing back
          have absent : ¬ store.client.Present history.store name = true := by
            intro there
            have before := later.present (own name List.mem_cons_self) there
            rw [Client.Present, gone _ rfl (honest.mono within)] at before
            cases before
          rw [List.countP_cons_of_neg absent]
          exact counted honest
      | error cause =>
          refine .pure ?_
          rintro history ⟨⟨later, counted⟩, within⟩
          refine ⟨clears.cons own later within, fun honest => ?_⟩
          calc
            (name :: rest).countP (store.client.Present history.store)
              ≤ rest.countP (store.client.Present history.store) + 1 := by
                rw [List.countP_cons]
                split <;> omega
            _ ≤ failures.length + 1 := Nat.succ_le_succ (counted honest)

/-- What a publish asks of the store once its object is there. -/
def cleanupErrands (names : FileNames) : List Errand := [.delete names.part, .delete names.inflight]

theorem publish_not_transient (houses : store.Houses places schedule file.names) :
    file.names.publish ∉ file.transientNames := by
  intro inside
  rcases mem_all_of_transient inside with same | same
  · exact houses.inflight_ne_publish same.symm
  · exact houses.part_ne_publish same.symm

/-- A file that has tried no publish does not count its publish object among those it may have left. -/
theorem publish_not_possible (houses : store.Houses places schedule file.names)
    (untried : file.publishAttempted ≠ true) : file.names.publish ∉ file.possibleNames := by
  intro inside
  rcases List.mem_append.mp inside with transient | tried
  · exact publish_not_transient houses transient
  · rw [if_neg untried] at tried
    cases tried

/-- The removal of the objects that a published file needs no longer reports at least as many failures as
are left of them. -/
theorem passes_cleanup_exposed (houses : store.Houses places schedule file.names) (start : Emulator) :
    Passes (fun moment _ => Errand.Among store.client (cleanupErrands file.names) moment)
      (fun history => history.store = start) (removeAll store file.transientNames)
      fun failures history =>
        Elsewhere places (file.transientNames.map store.client.place) start history.store ∧
        (Accounts store.client file start → Honest schedule history.moments →
          [file.names.inflight, file.names.part].countP (store.client.Present history.store) ≤
            failures.length) := by
  have own : ∀ name ∈ [file.names.inflight, file.names.part], store.client.place name ∈ places := by
    intro name inside
    rcases List.mem_pair.mp inside with rfl | rfl <;> exact houses.own _ (by simp)
  have removes : Passes _ _ (removeAll store file.transientNames) _ :=
    passes_removeAll_exposed houses.exposed start file.transientNames fun name inside =>
      own name (List.mem_pair.mpr (mem_all_of_transient inside))
  refine removes.mono ?_ (fun _ begins => begins) ?_
  · rintro moment _ ⟨errand, inside, sent⟩
    obtain ⟨name, transient, rfl⟩ := List.mem_map.mp inside
    refine ⟨_, ?_, sent⟩
    rcases mem_all_of_transient transient with rfl | rfl <;> simp [cleanupErrands]
  · rintro failures history ⟨clears, counted⟩
    refine ⟨clears.elsewhere, fun accounts honest => Nat.le_trans ?_ (counted honest)⟩
    refine clears.countP_le (by simpa using houses.inflight_ne_part) own ?_
    intro name inside there
    rw [List.mem_pair] at inside
    rw [mem_transientNames]
    have possible := mem_possibleNames.mp (accounts name (by rcases inside with rfl | rfl <;> simp) there)
    rcases possible with same | written | ⟨-, rfl⟩
    · exact .inl same
    · exact .inr written
    · rcases inside with same | same
      · exact absurd same.symm houses.inflight_ne_publish
      · exact absurd same.symm houses.part_ne_publish

/-- A publish that succeeds leaves the publish object, and of the others no more than it reports. -/
theorem passes_publish_exposed (houses : store.Houses places schedule file.names) :
    Passes (fun moment _ => Errand.Among store.client
        (publishErrands file.names ++ cleanupErrands file.names) moment)
      (fun history => history.store = start) (file.publish store)
      fun result history =>
        Leads places store.client file start result.2 history ∧
        ∀ publication, result.1 = .ok publication →
          store.client.Present history.store file.names.publish = true ∧
          (Accounts store.client file start → Honest schedule history.moments →
            [file.names.inflight, file.names.part].countP (store.client.Present history.store) ≤
              publication.cleanupFailures.length) := by
  have tried : Advances places store.client file start { file with publishAttempted := true } start :=
    .of_flags rfl (fun written => written) (fun _ => rfl) (.refl start)
  rw [publish]
  split
  · refine .pure ?_
    rintro history rfl
    exact ⟨⟨.refl _ _, .inr rfl⟩, by simp⟩
  have composed : Passes _ (fun history => history.store = start)
      (composePublish store { file with publishAttempted := true }) _ :=
    passes_composePublish_exposed houses rfl
  refine .bind (composed.mono (fun _ _ sent => sent.mono (List.subset_append_left _ _))
    (fun _ begins => begins) fun _ _ holds => holds) ?_
  rintro ⟨result, after⟩
  cases result with
  | error cause =>
      refine .pure ?_
      rintro history ⟨⟨advances, publish⟩, -⟩
      have whole := tried.trans advances
      exact ⟨⟨⟨whole.names, whole.wider, whole.elsewhere⟩, publish⟩, by simp⟩
  | ok object =>
      refine .each ?_
      rintro middle ⟨⟨advances, publish⟩, there⟩
      have whole := tried.trans advances
      have named : after.names = file.names := whole.names
      have own := houses.own
      rw [← named] at houses
      have cleanup := (passes_cleanup_exposed houses middle.store).since
      refine .bind (cleanup.along.mono ?_ (fun _ same => same) fun _ _ holds => holds) ?_
      · intro moment past sent
        rw [named] at sent
        exact sent.1.mono (List.subset_append_right _ _)
      · intro failures
        refine .pure ?_
        rintro history ⟨⟨elsewhere, counted⟩, within⟩
        have untouched := elsewhere.objects _ (houses.own after.names.publish (by simp))
          (Client.place_not_mem (publish_not_transient houses))
        rw [named] at untouched counted
        constructor
        · refine ⟨?_, publish.imp (fun sent => sent.mono within) fun same => untouched.trans same⟩
          exact ⟨whole.names, whole.wider, whole.elsewhere.trans (elsewhere.widen (List.map_subset _
            (List.subset_append_left _ _)))⟩
        · rintro publication ⟨⟩
          refine ⟨?_, fun accounts => counted (accounts.advance own whole)⟩
          rw [Client.Present, untouched]
          exact there _ rfl

/-- A discard that succeeds leaves no more of the objects of the file than it reports. -/
theorem passes_discard_exposed (houses : store.Houses places schedule file.names) :
    Passes (fun moment _ => Errand.Among store.client (file.possibleNames.map .delete) moment)
      (fun history => history.store = start) (file.discard store)
      fun result history =>
        Advances places store.client file start result.2 history.store ∧
        Clears places store.client file.possibleNames start history ∧
        ∀ left, result.1 = .ok left → Accounts store.client file start → Honest schedule history.moments →
          file.names.all.countP (store.client.Present history.store) ≤ left := by
  rw [discard]
  split
  · refine .pure ?_
    rintro history rfl
    exact ⟨.refl _ _, ⟨.refl _, fun _ _ => .inl rfl⟩, by simp⟩
  have own : ∀ name ∈ file.possibleNames, store.client.place name ∈ places :=
    fun name inside => houses.own name (mem_all_of_possible inside)
  refine .bind (passes_removeAll_exposed houses.exposed start file.possibleNames own) ?_
  intro failures
  refine .pure ?_
  rintro history ⟨clears, counted⟩
  refine ⟨⟨rfl, fun _ inside => inside, clears.elsewhere⟩, clears, ?_⟩
  rintro left ⟨⟩ accounts honest
  have distinct : file.names.all.Nodup := by
    simp [FileNames.all, houses.inflight_ne_part, houses.inflight_ne_publish, houses.part_ne_publish]
  exact Nat.le_trans (clears.countP_le distinct houses.own accounts) (counted honest)

/-! ## Runs -/

/-- A call changes only objects that the file counts among its possible ones afterwards. -/
theorem passes_perform_exposed (houses : store.Houses places schedule file.names) (call : Call) :
    Passes (fun _ _ => True) (fun history => history.store = start) (file.perform store call)
      fun result history => Advances places store.client file start result.2 history.store := by
  cases call with
  | append record =>
      refine .pure ?_
      rintro history rfl
      show Advances _ _ _ _ (file.append record).2 _
      rw [append]
      repeat' split
      all_goals exact ⟨rfl, fun _ inside => inside, .refl _⟩
  | sync =>
      refine .bind ((passes_sync_exposed houses).mono (fun _ _ _ => trivial) (fun _ begins => begins)
        fun _ _ holds => holds) ?_
      exact fun _ => .pure fun _ holds => holds
  | publish =>
      refine .bind ((passes_publish_exposed houses).mono (fun _ _ _ => trivial)
        (fun _ begins => begins) fun _ _ holds => holds) ?_
      exact fun _ => .pure fun _ holds => holds.1.advances
  | discard =>
      refine .bind ((passes_discard_exposed houses).mono (fun _ _ _ => trivial)
        (fun _ begins => begins) fun _ _ holds => holds) ?_
      exact fun _ => .pure fun _ holds => holds.1

/-- Calls change only objects that the file counts among its possible ones afterwards. -/
theorem passes_run_exposed (start : Emulator) (houses : store.Houses places schedule file.names)
    (calls : List Call) (ledger : Ledger) :
    Passes (fun _ _ => True) (fun history => history.store = start) (run store calls file ledger)
      fun result history => Advances places store.client file start result.1 history.store := by
  induction calls generalizing file start ledger with
  | nil =>
      refine .pure ?_
      rintro history rfl
      exact .refl _ _
  | cons call rest ih =>
      rw [run]
      refine .bind (passes_perform_exposed houses call) ?_
      rintro ⟨succeeded, after⟩
      refine .each ?_
      intro middle advances
      have named : after.names = file.names := advances.names
      rw [← named] at houses
      exact (ih middle.store houses (ledger.note call succeeded)).since.mono (fun _ _ _ => trivial)
        (fun _ same => same) fun _ _ later => advances.trans later

/-! ## Created files -/

/-- A file to be created in a store on trial, which leaves its objects to it and answers as a schedule
says. -/
structure Exposed (schedule : Schedule) (store : RemoteStore (Ordeal τ)) (names : FileNames) : Prop where
  exposed : store.IsExposed (names.all.map store.client.place) schedule
  named : ∃ working publish name, FileNames.ofDirectories working publish name = .ok names

theorem Exposed.houses {names : FileNames} (exposed : Exposed schedule store names) :
    store.Houses (names.all.map store.client.place) schedule names := by
  obtain ⟨working, publish, name, made⟩ := exposed.named
  have apart := FileNames.isFor_of_ofDirectories made
  exact ⟨exposed.exposed, fun name inside => List.mem_map_of_mem inside, apart.inflight_ne_part,
    apart.working_ne_publish.1, apart.working_ne_publish.2⟩

/-- A new file may have left only its inflight object, and the creation has changed no other. -/
theorem passes_create_exposed {names : FileNames} (houses : store.Houses places schedule names)
    (name : String) (capacity : Nat) (marker : Marker) :
    Passes (fun moment _ => Errand.Among store.client [.upload names.inflight, .delete names.inflight] moment)
      (fun history => history.store = start) (create store name names capacity marker)
      fun result history =>
        Elsewhere places [store.client.place names.inflight] start history.store ∧
        ∀ file, result = .ok file → file.names = names ∧ file.possibleNames = [names.inflight] := by
  rw [create]
  split
  · refine .pure ?_
    rintro history rfl
    exact ⟨.refl _, by simp⟩
  next header encoder _ =>
    have upload : Passes _ _ (store.upload names.inflight header) _ := houses.exposed.passes_upload
      (I := fun history => Elsewhere places [store.client.place names.inflight] start history.store)
      (fun _ _ elsewhere kept => elsewhere.keeps kept)
      (fun _ _ _ elsewhere _ sets _ => elsewhere.sets sets (List.mem_singleton_self _))
    refine .bind (upload.mono (fun _ _ sent => ⟨_, by simp, sent⟩) ?_ fun _ _ holds => holds.1) ?_
    · rintro history rfl
      exact .refl _
    intro outcome
    cases outcome with
    | ok inflight => exact .pure fun _ holds => ⟨holds, by rintro file ⟨⟩; exact ⟨rfl, rfl⟩⟩
    | error cause =>
        have delete : Passes _ _ (store.deleteIfExists names.inflight) _ := houses.exposed.passes_deleteIfExists
          (I := fun history => Elsewhere places [store.client.place names.inflight] start history.store)
          (fun _ _ elsewhere kept => elsewhere.keeps kept)
          (fun _ _ _ elsewhere _ sets _ => elsewhere.sets sets (List.mem_singleton_self _))
        refine .bind (delete.mono (fun _ _ sent => ⟨_, by simp, sent⟩) (fun _ holds => holds)
          fun _ _ holds => holds.1) ?_
        exact fun _ => .pure fun _ holds => ⟨holds, by simp⟩

variable {names : FileNames} {marker : Marker} {ledger : Ledger} {world later : Ordeal τ}
  {calls : List Call} {rest : τ} {title : String} {capacity : Nat}

/-- A discard that succeeds leaves no more of the objects of the file than the number that it gives. A publish
that succeeds leaves the publish object, and of the two others no more than it reports failures. This is
so after any calls and for any answers but those that lie about a delete, where the part and the publish
object did not exist before the file was created. -/
theorem cleanup_accounted (exposed : Exposed schedule store names)
    (vacant : ∀ name ∈ [names.part, names.publish], start.objects.get? (store.client.place name) = none)
    (created : create store title names capacity marker { rest, history := .fresh start } = (.ok file, world))
    (ran : run store calls file .empty world = ((after, ledger), later)) :
    (∀ left final last, after.discard store later = ((.ok left, final), last) →
      Honest schedule last.history.moments →
        names.all.countP (store.client.Present last.history.store) ≤ left) ∧
    (∀ publication final last, after.publish store later = ((.ok publication, final), last) →
      store.client.Present last.history.store names.publish = true ∧
        (Honest schedule last.history.moments →
          [names.inflight, names.part].countP (store.client.Present last.history.store) ≤
            publication.cleanupFailures.length)) := by
  have houses := exposed.houses
  obtain ⟨-, elsewhere, opened⟩ := passes_create_exposed houses title capacity marker
    ⟨rest, .fresh start⟩ (rfl : (History.fresh start).store = start)
  rw [created] at elsewhere opened
  obtain ⟨rfl, possible⟩ := opened file rfl
  have begun : Accounts store.client file world.history.store := by
    intro name inside present
    rw [possible, List.mem_singleton]
    by_contra other
    have apart : name ∉ [file.names.inflight] := by simpa using other
    have same := elsewhere.objects _ (houses.own name inside) (Client.place_not_mem apart)
    have absent : start.objects.get? (store.client.place name) = none := vacant name (by
      simpa [FileNames.all, other] using inside)
    rw [Client.Present, same] at present
    exact absurd (present.symm.trans (congrArg Option.isSome absent)) (by decide)
  obtain ⟨-, advances⟩ := passes_run_exposed _ houses calls .empty world rfl
  rw [ran] at advances
  have accounts := begun.advance houses.own advances
  rw [← advances.names] at houses ⊢
  constructor
  · intro left final last discarded honest
    obtain ⟨-, -, -, counted⟩ := passes_discard_exposed houses later rfl
    rw [discarded] at counted
    exact counted left rfl accounts honest
  · intro publication final last published
    obtain ⟨-, -, counted⟩ := passes_publish_exposed houses later rfl
    rw [published] at counted
    exact (counted publication rfl).imp id fun bounded => bounded accounts

namespace Trial

theorem isExposed (schedule : Schedule) (alone : ∀ number, (schedule number).deeds = [])
    (places : List Place) : (storeOf schedule).IsExposed places schedule := by
  have client := placed.tried.client
  have addressed := client.addressed
  refine ⟨⟨⟨addressed.base, addressed.web, addressed.bucket⟩, rfl, ?_, client.credentials⟩, _, rfl⟩
  intro number deed inside
  rw [alone number] at inside
  cases inside

theorem exposed (schedule : Schedule) (alone : ∀ number, (schedule number).deeds = []) :
    Exposed schedule (storeOf schedule) Trial.names :=
  ⟨isExposed schedule alone _, placed.named⟩

/-- The part is stored, but its upload fails, and so does its removal. The inflight object is removed,
but the first response is lost. -/
def strain : Schedule := fun number =>
  { deeds := []
    fault :=
      if number = 1 ∨ number = 5 then some .lose
      else if 2 ≤ number ∧ number ≤ 4 then some (.refuse 503 "busy")
      else none }

theorem honest_strain (moments : List Moment) : Honest strain moments := by
  intro moment past _ _ _ _ status message refuses
  dsimp only [strain] at refuses
  split at refuses
  · cases refuses
  · split at refuses <;> cases refuses
    decide

def strained : Except SinkError SinkFile × Ordeal Unit :=
  create (storeOf strain) "a" Trial.names 1 Trial.marker
    { rest := (), history := .fresh (.withBucket "logs") }

theorem strains : strained.1.toOption.isSome = true := by
  decide +kernel

/-- The file after its sync has failed. -/
def torn : (SinkFile × Ledger) × Ordeal Unit :=
  run (storeOf strain) [.append [1, 2, 3], .sync] (strained.1.toOption.get strains) .empty strained.2

theorem discards : (torn.1.1.discard (storeOf strain) torn.2).1.1 = .ok 1 := by
  decide +kernel

end Trial

/-- A part that was stored by a lost upload and could not be removed is counted, and a published object is
there although a response was lost. -/
theorem cleanup_accounted_trial :
    Trial.names.all.countP ((Trial.storeOf Trial.strain).client.Present
      (Trial.torn.1.1.discard (Trial.storeOf Trial.strain) Trial.torn.2).2.history.store) ≤ 1 ∧
    Trial.store.client.Present ((Trial.session [.append [1, 2, 3]]).1.1.publish Trial.store
      (Trial.session [.append [1, 2, 3]]).2).2.history.store Trial.names.publish = true := by
  have torn := cleanup_accounted (Trial.exposed Trial.strain fun _ => rfl) (by decide +kernel)
    (eq_mk_of_fst (Except.eq_ok_of_isSome Trial.strains))
    (eq_mk_of_fst_fst (rfl : Trial.torn.1.1 = Trial.torn.1.1))
  have whole := cleanup_accounted (Trial.exposed Trial.schedule fun _ => rfl) (by decide +kernel)
    (eq_mk_of_fst (Except.eq_ok_of_isSome Trial.creates)) (Trial.ran [.append [1, 2, 3]])
  constructor
  · exact torn.1 _ _ _ (eq_mk_of_fst_fst Trial.discards) (Trial.honest_strain _)
  · exact (whole.2 _ _ _ (eq_mk_of_fst_fst (Except.eq_ok_of_isSome Trial.published))).1

end SinkFile

end RecordSink
