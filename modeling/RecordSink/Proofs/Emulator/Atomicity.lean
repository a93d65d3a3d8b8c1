import RecordSink.Proofs.Ordeal.Effects

/-!
# Atomic requests

What a request does to an emulated store, by its answer alone. A request that is not answered with success does
nothing to the objects, one that succeeds does what its route says and nothing else, and one whose response
is lost has done what it would have done with an answer.
-/

namespace RecordSink.Emulator

variable {places : List Place} {target : Place} {data body : Bytes} {contentType : String} {route : Route}
  {before after reached applied : Emulator}

/-! ## What requests do -/

/-- The objects and the next generation are what they were, and no operation was applied. -/
structure Untouched (before after : Emulator) : Prop where
  objects : after.objects = before.objects
  nextGeneration : after.nextGeneration = before.nextGeneration
  uploads : after.stats.uploads = before.stats.uploads
  composes : after.stats.composes = before.stats.composes
  deletes : after.stats.deletes = before.stats.deletes

/-- One object is written, at the next generation. All other objects stay as they are. -/
structure Stores (target : Place) (data : Bytes) (contentType : String) (before after : Emulator) : Prop where
  object : after.objects.get? target = some { data, contentType, generation := before.nextGeneration }
  others : ∀ place, place ≠ target → after.objects.get? place = before.objects.get? place
  nextGeneration : after.nextGeneration = before.nextGeneration + 1

/-- One object was there and is there no longer. All other objects stay as they are. -/
structure Drops (target : Place) (before after : Emulator) : Prop where
  found : (before.objects.get? target).isSome
  object : after.objects.get? target = none
  others : ∀ place, place ≠ target → after.objects.get? place = before.objects.get? place
  nextGeneration : after.nextGeneration = before.nextGeneration

/-- An object is written to what some objects of its bucket held before, one behind the other. -/
def Joins (bucket name : String) (generation : Option String) (body : Bytes) (before after : Emulator) :
    Prop :=
  ∃ (request : ComposeRequest) (pieces : List Bytes), ComposeRequest.read? body = some request ∧
    request.sources ≠ [] ∧
    pieces.map some = request.sources.map (fun source => before.object? ⟨bucket, source⟩) ∧
    (∀ asked, generation = some asked → asked = Numeral.decimal (before.generationAt ⟨bucket, name⟩)) ∧
    Stores ⟨bucket, name⟩ pieces.flatten request.contentType before after

/-- What a request does that succeeds. Without a name an upload cannot succeed, and neither can a request for
nothing known. -/
def Fulfills (body : Bytes) (before after : Emulator) : Route → Prop
  | .upload _ none => False
  | .upload bucket (some name) =>
      Stores ⟨bucket, name⟩ body defaultType before after ∧
        after.stats.uploads = before.stats.uploads + 1
  | .compose bucket name generation =>
      Joins bucket name generation body before after ∧
        after.stats.composes = before.stats.composes + 1
  | .delete bucket name =>
      Drops ⟨bucket, name⟩ before after ∧ after.stats.deletes = before.stats.deletes + 1
  | .getObject _ _ => Untouched before after
  | .getBucket _ => Untouched before after
  | .unknown => False

/-! ## Comparing stores -/

theorem Untouched.refl (store : Emulator) : Untouched store store := ⟨rfl, rfl, rfl, rfl, rfl⟩

theorem Untouched.trans (first : Untouched before reached) (second : Untouched reached after) :
    Untouched before after :=
  ⟨second.objects.trans first.objects, second.nextGeneration.trans first.nextGeneration,
    second.uploads.trans first.uploads, second.composes.trans first.composes,
    second.deletes.trans first.deletes⟩

theorem Untouched.stores (start : Untouched before reached) (writes : Stores target data contentType reached applied)
    (final : Untouched applied after) : Stores target data contentType before after := by
  constructor
  · rw [final.objects, writes.object, start.nextGeneration]
  · intro place other
    rw [final.objects, writes.others place other, start.objects]
  · rw [final.nextGeneration, writes.nextGeneration, start.nextGeneration]

theorem Untouched.drops (start : Untouched before reached) (removes : Drops target reached applied)
    (final : Untouched applied after) : Drops target before after := by
  constructor
  · rw [← start.objects]
    exact removes.found
  · rw [final.objects, removes.object]
  · intro place other
    rw [final.objects, removes.others place other, start.objects]
  · rw [final.nextGeneration, removes.nextGeneration, start.nextGeneration]

/-- What is done between two stores is done between any that hold the same. -/
theorem Untouched.fulfills (start : Untouched before reached) (does : Fulfills body reached applied route)
    (final : Untouched applied after) : Fulfills body before after route := by
  cases route with
  | upload bucket name =>
      cases name with
      | none => exact does
      | some name =>
          obtain ⟨writes, counts⟩ := does
          exact ⟨start.stores writes final, by rw [final.uploads, counts, start.uploads]⟩
  | compose bucket name generation =>
      obtain ⟨⟨request, pieces, read, filled, each, met, writes⟩, counts⟩ := does
      have object : ∀ place, before.object? place = reached.object? place := fun place => by
        rw [object?, object?, start.objects]
      have generationAt : before.generationAt ⟨bucket, name⟩ = reached.generationAt ⟨bucket, name⟩ := by
        rw [Emulator.generationAt, Emulator.generationAt, start.objects]
      refine ⟨⟨request, pieces, read, filled, ?_, ?_, start.stores writes final⟩,
        by rw [final.composes, counts, start.composes]⟩
      · simp only [object]
        exact each
      · rw [generationAt]
        exact met
  | delete bucket name =>
      obtain ⟨removes, counts⟩ := does
      exact ⟨start.drops removes final, by rw [final.deletes, counts, start.deletes]⟩
  | getObject bucket name => exact (start.trans does).trans final
  | getBucket bucket => exact (start.trans does).trans final
  | unknown => exact does

/-! ## Applying requests -/

/-- A write sets its object, also where counters of the store have changed. -/
theorem stores_write (target : Place) (data : Bytes) (contentType : String)
    (objects : reached.objects = before.objects) (generations : reached.nextGeneration = before.nextGeneration) :
    Stores target data contentType before (reached.write target data contentType) := by
  constructor
  · rw [write, Objects.get?_insert, if_pos rfl, generations]
  · intro place other
    rw [write, Objects.get?_insert, if_neg other, objects]
  · rw [write, generations]

/-- Objects whose bytes are gathered are there. -/
theorem map_some_of_gather {store : Emulator} {pieces : List Bytes}
    (gathered : store.gather places = .ok pieces) : pieces.map some = places.map store.object? := by
  induction places generalizing pieces with
  | nil =>
      cases gathered
      rfl
  | cons place rest ih =>
      rw [gather] at gathered
      cases found : store.objects.get? place with
      | none =>
          rw [found] at gathered
          cases gathered
      | some object =>
          rw [found] at gathered
          cases others : store.gather rest with
          | error missing =>
              rw [others] at gathered
              cases gathered
          | ok later =>
              rw [others] at gathered
              cases gathered
              have held : store.object? place = some object.data := by
                rw [object?, found]
                rfl
              rw [List.map_cons, List.map_cons, held, ih others]

/-- A request that is applied is answered without success and leaves the store as it is, or it does what its
route says. A compose collects its sources before it writes anything. -/
theorem apply_atomic (route : Route) (body : Bytes) (store : Emulator) :
    (store.apply route body).1.status ≠ 200 ∧ (store.apply route body).2 = store ∨
      (store.apply route body).1.status = 200 ∧ Fulfills body store (store.apply route body).2 route := by
  have refused : ∀ status message, status ≠ 200 → (refusal status message).status ≠ 200 :=
    fun _ _ other => other
  cases route with
  | upload bucket name =>
      dsimp only [apply, applyUpload]
      split
      · exact .inl ⟨refused 400 _ (by decide), rfl⟩
      split
      · exact .inl ⟨refused 404 _ (by decide), rfl⟩
      · exact .inr ⟨rfl, stores_write _ _ _ rfl rfl, rfl⟩
  | compose bucket name generation =>
      dsimp only [apply, applyCompose]
      split
      · exact .inl ⟨refused 404 _ (by decide), rfl⟩
      split
      · exact .inl ⟨refused 412 _ (by decide), rfl⟩
      next met =>
        split
        · exact .inl ⟨refused 400 _ (by decide), rfl⟩
        next request read =>
          split
          · exact .inl ⟨refused 400 _ (by decide), rfl⟩
          next filled =>
            split
            · exact .inl ⟨refused 404 _ (by decide), rfl⟩
            next pieces gathered =>
              refine .inr ⟨rfl, ⟨request, pieces, read, filled, ?_, ?_, ?_⟩, rfl⟩
              · rw [map_some_of_gather gathered, List.map_map]
                rfl
              · rintro asked rfl
                simpa using met
              · exact stores_write _ _ _ rfl rfl
  | delete bucket name =>
      dsimp only [apply, applyDelete]
      split
      · exact .inl ⟨refused 404 _ (by decide), rfl⟩
      next object found =>
        refine .inr ⟨rfl, ⟨Option.isSome_of_eq_some found, ?_, ?_, rfl⟩, rfl⟩
        · rw [Objects.get?_erase, if_pos rfl]
        · intro place other
          rw [Objects.get?_erase, if_neg other]
  | getObject bucket name =>
      dsimp only [apply]
      split
      · exact .inl ⟨refused 404 _ (by decide), rfl⟩
      · exact .inr ⟨rfl, .refl store⟩
  | getBucket bucket =>
      dsimp only [apply, applyGetBucket]
      split
      · exact .inl ⟨refused 404 _ (by decide), rfl⟩
      · exact .inr ⟨rfl, rfl, rfl, rfl, rfl, rfl⟩
  | unknown => exact .inl ⟨refused 400 _ (by decide), rfl⟩

/-- A write has the same answer and the same effect in stores that hold the same. -/
theorem stored_congr {first second : Emulator} (alike : Alike first second) (place : Place) (data : Bytes)
    (contentType : String) :
    (second.stored place data contentType).1 = (first.stored place data contentType).1 ∧
      Alike (first.stored place data contentType).2 (second.stored place data contentType).2 := by
  dsimp only [stored, write]
  constructor
  · rw [alike.nextGeneration]
  · constructor
    · dsimp only
      rw [alike.objects, alike.nextGeneration]
    · dsimp only
      rw [alike.nextGeneration]
    · exact alike.buckets

/-- A request has the same answer and the same effect in stores that hold the same. -/
theorem apply_congr {first second : Emulator} (alike : Alike first second) (route : Route) (body : Bytes) :
    (second.apply route body).1 = (first.apply route body).1 ∧
      Alike (first.apply route body).2 (second.apply route body).2 := by
  cases route with
  | upload bucket name =>
      dsimp only [apply, applyUpload]
      rw [alike.buckets]
      split
      · exact ⟨rfl, alike⟩
      split
      · exact ⟨rfl, alike⟩
      · apply stored_congr
        exact ⟨alike.objects, alike.nextGeneration, rfl⟩
  | compose bucket name generation =>
      have held : second.generationAt ⟨bucket, name⟩ = first.generationAt ⟨bucket, name⟩ := by
        rw [generationAt, generationAt, alike.objects]
      have gathers : ∀ places, second.gather places = first.gather places := fun places =>
        alike.keeps.gather (fun _ inside => inside)
      dsimp only [apply, applyCompose]
      rw [alike.buckets, held]
      simp only [gathers]
      split
      · exact ⟨rfl, alike⟩
      split
      · exact ⟨rfl, alike⟩
      split
      · exact ⟨rfl, alike⟩
      split
      · exact ⟨rfl, alike⟩
      split
      · exact ⟨rfl, alike⟩
      · apply stored_congr
        exact ⟨alike.objects, alike.nextGeneration, rfl⟩
  | delete bucket name =>
      dsimp only [apply, applyDelete]
      rw [alike.objects]
      split
      · exact ⟨rfl, alike⟩
      · exact ⟨rfl, rfl, alike.nextGeneration, alike.buckets⟩
  | getObject bucket name =>
      dsimp only [apply]
      rw [alike.objects]
      split
      · exact ⟨rfl, alike⟩
      · exact ⟨rfl, alike⟩
  | getBucket bucket =>
      dsimp only [apply, applyGetBucket]
      rw [alike.buckets]
      split
      · exact ⟨rfl, alike⟩
      · exact ⟨rfl, alike.objects, alike.nextGeneration, rfl⟩
  | unknown => exact ⟨rfl, alike⟩

/-! ## Requests -/

/-- The fault that a request meets, where it is acceptable and asks for something known. -/
def fault? (request : Http.Request) (store : Emulator) : Option Fault :=
  if store.isAuthorized request then
    (Route.ofRequest request.method request.url).operation?.bind fun operation => (store.nextFault operation).1
  else none

/-- What comes of a request that meets no fault. -/
def undisturbed (request : Http.Request) (store : Emulator) : Http.Outcome × Emulator :=
  store.exchangeWith (fun _ store => (none, store)) request

theorem untouched_counted (status : Nat) (store : Emulator) : Untouched store (store.counted status) := by
  rw [counted]
  split <;> exact ⟨rfl, rfl, rfl, rfl, rfl⟩

/-- Drawing a fault uses up the script or the random source and counts the fault. -/
theorem nextFault_untouched (operation : Operation) (store : Emulator) :
    Untouched store (store.nextFault operation).2 ∧ Alike store (store.nextFault operation).2 := by
  have counts : ∀ (stats : Stats) (fault : Option Fault), (stats.withFault fault).uploads = stats.uploads ∧
      (stats.withFault fault).composes = stats.composes ∧ (stats.withFault fault).deletes = stats.deletes := by
    intro stats fault
    unfold Stats.withFault
    split <;> exact ⟨rfl, rfl, rfl⟩
  rw [nextFault]
  split
  · exact ⟨⟨rfl, rfl, rfl, rfl, rfl⟩, rfl, rfl, rfl⟩
  split
  · exact ⟨.refl store, .refl store⟩
  · obtain ⟨uploads, composes, deletes⟩ := counts store.stats (store.rates.faultOf store.random.unit.1)
    exact ⟨⟨rfl, rfl, uploads, composes, deletes⟩, rfl, rfl, rfl⟩

/-- A request that is not acceptable or asks for nothing known is refused before it meets a fault. Any other one
is settled with the fault that it meets, in a store that has only recorded it. -/
theorem exchange_cases (request : Http.Request) (store : Emulator) :
    (store.fault? request = none ∧ Untouched store (store.exchange request).2 ∧
        ∃ status message, status ≠ 200 ∧ (store.exchange request).1 = .ok (refusal status message)) ∨
      ∃ reached answered, Untouched store reached ∧ Alike answered reached ∧
        store.exchange request = reached.settle (store.fault? request)
          (Route.ofRequest request.method request.url) (request.body.getD []) ∧
        store.undisturbed request = answered.settle none
          (Route.ofRequest request.method request.url) (request.body.getD []) := by
  have recorded : ∀ route, (store.record request route).isAuthorized request = store.isAuthorized request :=
    fun _ => rfl
  rw [fault?, exchange, undisturbed]
  dsimp only [exchangeWith]
  rw [recorded]
  cases authorized : store.isAuthorized request with
  | false => exact .inl ⟨rfl, ⟨rfl, rfl, rfl, rfl, rfl⟩, 401, _, by decide, rfl⟩
  | true =>
      cases known : (Route.ofRequest request.method request.url).operation? with
      | none => exact .inl ⟨rfl, ⟨rfl, rfl, rfl, rfl, rfl⟩, 400, _, by decide, rfl⟩
      | some operation =>
          right
          let noted := store.record request (Route.ofRequest request.method request.url)
          have same : Untouched store noted := ⟨rfl, rfl, rfl, rfl, rfl⟩
          have drawn := nextFault_untouched operation noted
          have met : (store.nextFault operation).1 = (noted.nextFault operation).1 := by
            rw [nextFault, nextFault]
            dsimp only [noted, record]
            split
            · rfl
            split
            · rfl
            · rfl
          refine ⟨(noted.nextFault operation).2, noted, same.trans drawn.1, drawn.2, ?_, rfl⟩
          dsimp only [Option.bind_some]
          rw [if_neg (by decide), if_pos rfl, met]

/-- What the answer to a request tells about it: with success it did what its route says, else nothing. -/
def AnsweredBy (response : Http.Response) (route : Route) (body : Bytes) (before after : Emulator) : Prop :=
  if response.status = 200 then Fulfills body before after route else Untouched before after

/-- A request that is applied and counted followed its answer. -/
theorem apply_answeredBy (start : Untouched before reached) (route : Route) (body : Bytes) (status : Nat) :
    AnsweredBy (reached.apply route body).1 route body before ((reached.apply route body).2.counted status) := by
  have final := untouched_counted status (reached.apply route body).2
  rw [AnsweredBy]
  obtain ⟨failed, same⟩ | ⟨succeeded, does⟩ := apply_atomic route body reached
  · rw [if_neg failed]
    rw [same] at final ⊢
    exact start.trans final
  · rw [if_pos succeeded]
    exact start.fulfills does final

theorem AnsweredBy.trans {response : Http.Response} (follows : AnsweredBy response route body before reached)
    (final : Untouched reached after) : AnsweredBy response route body before after := by
  by_cases succeeded : response.status = 200
  · rw [AnsweredBy, if_pos succeeded] at follows ⊢
    exact (Untouched.refl before).fulfills follows final
  · rw [AnsweredBy, if_neg succeeded] at follows ⊢
    exact follows.trans final

theorem AnsweredBy.cases {response : Http.Response} (follows : AnsweredBy response route body before after) :
    Untouched before after ∨ Fulfills body before after route := by
  rw [AnsweredBy] at follows
  by_cases succeeded : response.status = 200
  · rw [if_pos succeeded] at follows
    exact .inr follows
  · rw [if_neg succeeded] at follows
    exact .inl follows

/-- A request that meets no fault has an answer that it follows. -/
theorem exchange_of_no_fault {request : Http.Request} {store : Emulator} (none : store.fault? request = none) :
    ∃ response, (store.exchange request).1 = .ok response ∧
      AnsweredBy response (Route.ofRequest request.method request.url) (request.body.getD []) store
        (store.exchange request).2 := by
  obtain ⟨-, same, status, message, failed, answered⟩ | ⟨reached, _, start, _, settled, _⟩ :=
    exchange_cases request store
  · refine ⟨refusal status message, answered, ?_⟩
    have unsuccessful : (refusal status message).status ≠ 200 := failed
    rw [AnsweredBy, if_neg unsuccessful]
    exact same
  · rw [settled, none]
    exact ⟨_, rfl, apply_answeredBy start _ _ _⟩

/-- A request that is refused on purpose does nothing. -/
theorem exchange_of_refusal {request : Http.Request} {store : Emulator} {status : Nat} {message : String}
    (refuse : store.fault? request = some (.refuse status message)) :
    (store.exchange request).1 = .ok (refusal status message) ∧ Untouched store (store.exchange request).2 := by
  obtain ⟨none, _⟩ | ⟨reached, _, start, _, settled, _⟩ := exchange_cases request store
  · rw [none] at refuse
    cases refuse
  · rw [settled, refuse]
    exact ⟨rfl, start⟩

/-- A request whose response is lost has done what it would have done with an answer. -/
theorem exchange_of_loss {request : Http.Request} {store : Emulator} (lose : store.fault? request = some .lose) :
    (store.exchange request).1 = .error (.timeout "response lost") ∧
      (store.exchange request).2.objects = (store.undisturbed request).2.objects ∧
      (store.exchange request).2.nextGeneration = (store.undisturbed request).2.nextGeneration ∧
      ∃ response, (store.undisturbed request).1 = .ok response ∧
        AnsweredBy response (Route.ofRequest request.method request.url) (request.body.getD []) store
          (store.exchange request).2 := by
  obtain ⟨none, _⟩ | ⟨reached, answered, start, alike, settled, undisturbed⟩ := exchange_cases request store
  · rw [none] at lose
    cases lose
  · generalize Route.ofRequest request.method request.url = route at settled undisturbed ⊢
    generalize request.body.getD [] = body at settled undisturbed ⊢
    obtain ⟨response, effect⟩ := apply_congr alike route body
    have lost := untouched_counted (reached.apply route body).1.status (reached.apply route body).2
    have given := untouched_counted (answered.apply route body).1.status (answered.apply route body).2
    rw [settled, undisturbed, lose]
    refine ⟨rfl, ?_, ?_, (reached.apply route body).1, congrArg Except.ok response.symm, ?_⟩
    · calc _ = (reached.apply route body).2.objects := lost.objects
        _ = (answered.apply route body).2.objects := effect.objects
        _ = _ := given.objects.symm
    · calc _ = (reached.apply route body).2.nextGeneration := lost.nextGeneration
        _ = (answered.apply route body).2.nextGeneration := effect.nextGeneration
        _ = _ := given.nextGeneration.symm
    · apply (apply_answeredBy start route body (reached.apply route body).1.status).trans
      exact ⟨rfl, rfl, rfl, rfl, rfl⟩

/-- Whatever its answer, a request does nothing or what its route says. -/
theorem exchange_fulfills (request : Http.Request) (store : Emulator) :
    Untouched store (store.exchange request).2 ∨
      Fulfills (request.body.getD []) store (store.exchange request).2
        (Route.ofRequest request.method request.url) := by
  cases met : store.fault? request with
  | none =>
      obtain ⟨_, -, follows⟩ := exchange_of_no_fault met
      exact follows.cases
  | some fault =>
      cases fault with
      | refuse status message => exact .inl (exchange_of_refusal met).2
      | lose =>
          obtain ⟨-, -, -, _, -, follows⟩ := exchange_of_loss met
          exact follows.cases

/-- Requests are atomic, and a lost response is that of an applied request. Whatever store a request is sent to:
where it is answered without success, the objects and the next generation are as before. Where it is answered with
success, and that not on purpose, it did what its route says: an upload or a compose wrote its one object, a compose
what its sources were before it, a delete removed its one object, and other requests did nothing. Where it is not
answered, its response was lost, and the objects and the next generation are those that the same request leaves
where no fault meets it. -/
theorem exchange_atomic (store : Emulator) (request : Http.Request) :
    let after := (store.exchange request).2
    (∀ response, (store.exchange request).1 = .ok response →
      (response.status ≠ 200 → Untouched store after) ∧
      (∀ status message, store.fault? request = some (.refuse status message) →
        response = refusal status message ∧ Untouched store after) ∧
      (store.fault? request = none → response.status = 200 →
        Fulfills (request.body.getD []) store after (Route.ofRequest request.method request.url))) ∧
    (∀ cause, (store.exchange request).1 = .error cause →
      cause = .timeout "response lost" ∧ store.fault? request = some .lose ∧
      after.objects = (store.undisturbed request).2.objects ∧
      after.nextGeneration = (store.undisturbed request).2.nextGeneration) := by
  intro after
  cases met : store.fault? request with
  | none =>
      obtain ⟨response, answered, follows⟩ := exchange_of_no_fault met
      constructor
      · intro other same
        cases answered.symm.trans same
        refine ⟨fun failed => ?_, fun _ _ refuse => (nomatch refuse), fun _ succeeded => ?_⟩
        · rwa [AnsweredBy, if_neg failed] at follows
        · rwa [AnsweredBy, if_pos succeeded] at follows
      · intro cause lost
        cases answered.symm.trans lost
  | some fault =>
      cases fault with
      | refuse status message =>
          obtain ⟨answered, same⟩ := exchange_of_refusal met
          constructor
          · intro response given
            cases answered.symm.trans given
            refine ⟨fun _ => same, ?_, fun none => (nomatch none)⟩
            intro _ _ refuse
            cases refuse
            exact ⟨rfl, same⟩
          · intro cause lost
            cases answered.symm.trans lost
      | lose =>
          obtain ⟨unanswered, objects, generations, -⟩ := exchange_of_loss met
          constructor
          · intro response given
            cases unanswered.symm.trans given
          · intro cause lost
            cases unanswered.symm.trans lost
            exact ⟨rfl, rfl, objects, generations⟩

namespace Trial

def url (path : String) : Url :=
  { scheme := "http", username := "", password := "", host := some "h", port := none, dotted := false
    path := .rooted path, query := none, fragment := none }

/-- A compose of two objects onto the first of them. -/
def appending : Http.Request :=
  { method := .post, url := url "/storage/v1/b/logs/o/a/compose", headers := []
    body := some (ComposeRequest.toJson { contentType := "t", sources := ["a", "b"] }).render }

/-- A store with two objects. The response to the next compose will be lost. -/
def losing : Emulator :=
  (((withBucket "logs").put ⟨"logs", "a"⟩ [1]).put ⟨"logs", "b"⟩ [2]).loseNext .compose 1

end Trial

/-- A compose onto its own source is applied though its response is lost, and a request for a missing bucket does
nothing. -/
theorem exchange_atomic_trial :
    (Trial.losing.exchange Trial.appending).1 = .error (.timeout "response lost") ∧
      (Trial.losing.exchange Trial.appending).2.objects = (Trial.losing.undisturbed Trial.appending).2.objects ∧
      (Trial.losing.undisturbed Trial.appending).2.object? ⟨"logs", "a"⟩ = some [1, 2] ∧
      Untouched Trial.losing
        (Trial.losing.exchange (.plain .get (Trial.url "/storage/v1/b/missing"))).2 := by
  have unanswered : (Trial.losing.exchange Trial.appending).1.toOption = none := by decide +kernel
  have missing : (Trial.losing.exchange (.plain .get (Trial.url "/storage/v1/b/missing"))).1.toOption.map
      (·.status) = some 404 := by decide +kernel
  obtain ⟨-, lost⟩ := exchange_atomic Trial.losing Trial.appending
  obtain ⟨given, -⟩ := exchange_atomic Trial.losing (.plain .get (Trial.url "/storage/v1/b/missing"))
  have applied : (Trial.losing.undisturbed Trial.appending).2.object? ⟨"logs", "a"⟩ = some [1, 2] := by
    decide +kernel
  cases outcome : (Trial.losing.exchange Trial.appending).1 with
  | ok response =>
      rw [outcome] at unanswered
      cases unanswered
  | error cause =>
      obtain ⟨rfl, -, objects, -⟩ := lost cause outcome
      cases answered : (Trial.losing.exchange (.plain .get (Trial.url "/storage/v1/b/missing"))).1 with
      | error cause =>
          rw [answered] at missing
          cases missing
      | ok response =>
          rw [answered] at missing
          have status : response.status = 404 := Option.some.inj missing
          obtain ⟨failed, -⟩ := given response answered
          apply And.intro rfl
          exact ⟨objects, applied, failed (by rw [status]; decide)⟩

end RecordSink.Emulator
