import RecordSink.Proofs.Emulator.Atomicity

/-!
# Generations

The generations of an emulated store over a whole run of requests and direct writes. Each write has the next
number, so that no generation comes back, and a precondition that asks for a generation can hold only once.
-/

namespace RecordSink.Emulator

/-! ## Runs -/

/-- What is done with a store: a request is sent to it, an object is stored directly, or what the next requests
meet is changed. -/
inductive Act where
  | send (request : Http.Request)
  | put (place : Place) (data : Bytes)
  | createBucket (bucket : String)
  | requireToken (token : String)
  | plan (operation : Operation) (fault : Fault) (times : Nat)
  | setRates (rates : FaultRates)

namespace Act

/-- The store after an act. -/
def run (store : Emulator) : Act → Emulator
  | .send request => (store.exchange request).2
  | .put place data => store.put place data
  | .createBucket bucket => store.createBucket bucket
  | .requireToken token => store.requireToken token
  | .plan operation fault times => store.plan operation fault times
  | .setRates rates => { store with rates }

/-- The route of an act that is a request. -/
def route? : Act → Option Route
  | .send request => some (Route.ofRequest request.method request.url)
  | _ => none

end Act

/-- An act with the stores before and after it. -/
structure Step where
  before : Emulator
  act : Act
  after : Emulator

/-- The steps of acts one after the other. -/
def trail : List Act → Emulator → List Step
  | [], _ => []
  | act :: rest, store => ⟨store, act, act.run store⟩ :: trail rest (act.run store)

/-- The store after acts one after the other. -/
def runAll (acts : List Act) (store : Emulator) : Emulator := acts.foldl Act.run store

namespace Step

/-- An upload was applied in the step. -/
def uploaded (step : Step) : Bool := step.before.stats.uploads < step.after.stats.uploads

/-- A compose was applied in the step. -/
def composed (step : Step) : Bool := step.before.stats.composes < step.after.stats.composes

/-- The place that a request for a route wrote in the step, where it was applied. -/
def writtenBy? (step : Step) : Route → Option Place
  | .upload bucket (some name) => if step.uploaded then some ⟨bucket, name⟩ else none
  | .compose bucket name _ => if step.composed then some ⟨bucket, name⟩ else none
  | _ => none

/-- The place that is written in the step: that of a direct write, or the one of an upload or a compose that was
applied. -/
def written? (step : Step) : Option Place :=
  match step.act with
  | .put place _ => some place
  | act => act.route?.bind step.writtenBy?

/-- The generation that a write gives its object. -/
def generation? (step : Step) : Option Nat := step.written?.map step.after.generationAt

/-- A request for a route is a compose onto a place that asks for a generation there, and it was applied. -/
def composesBy (place : Place) (generation : Nat) (step : Step) : Route → Bool
  | .compose bucket name (some asked) =>
      ⟨bucket, name⟩ = place && asked = Numeral.decimal generation && step.composed
  | _ => false

/-- In the step a compose onto a place was applied that asked for a generation there. -/
def composesAt (place : Place) (generation : Nat) (step : Step) : Bool :=
  step.act.route?.any (step.composesBy place generation)

end Step

/-- The generations that the writes of a run give their objects, in order. -/
def generations (acts : List Act) (store : Emulator) : List Nat := (trail acts store).filterMap Step.generation?

variable {store before after : Emulator} {act : Act} {acts : List Act} {place : Place} {generation : Nat}
  {data : Bytes} {contentType : String}

/-! ## One step -/

/-- Objects may go, all others stay, and the next generation does too. -/
structure Thins (before after : Emulator) : Prop where
  objects : ∀ place object, after.objects.get? place = some object → before.objects.get? place = some object
  nextGeneration : after.nextGeneration = before.nextGeneration

theorem Untouched.thins (untouched : Untouched before after) : Thins before after := by
  constructor
  · intro place object found
    rwa [untouched.objects] at found
  · exact untouched.nextGeneration

theorem Drops.thins (removes : Drops place before after) : Thins before after := by
  constructor
  · intro other object found
    by_cases same : other = place
    · rw [same, removes.object] at found
      cases found
    · rwa [removes.others other same] at found
  · exact removes.nextGeneration

/-- A step writes one object at the next generation, or it writes nothing and may remove an object. -/
theorem step_cases (act : Act) (store : Emulator) :
    (∃ place data contentType, (Step.mk store act (act.run store)).written? = some place ∧
        Stores place data contentType store (act.run store)) ∨
      (Step.mk store act (act.run store)).written? = none ∧ Thins store (act.run store) := by
  cases act with
  | send request =>
      have told : (Step.mk store (.send request) (Act.run store (.send request))).written? =
          (Step.mk store (.send request) (store.exchange request).2).writtenBy?
            (Route.ofRequest request.method request.url) := rfl
      rw [told, Act.run]
      have effect := exchange_fulfills request store
      generalize Route.ofRequest request.method request.url = route at effect ⊢
      obtain untouched | does := effect
      · right
        apply And.intro _ untouched.thins
        cases route with
        | upload bucket name =>
            cases name with
            | none => rfl
            | some name => simp [Step.writtenBy?, Step.uploaded, untouched.uploads]
        | compose bucket name asked => simp [Step.writtenBy?, Step.composed, untouched.composes]
        | delete bucket name => rfl
        | getObject bucket name => rfl
        | getBucket bucket => rfl
        | unknown => rfl
      · cases route with
        | upload bucket name =>
            cases name with
            | none => cases does
            | some name =>
                obtain ⟨writes, counts⟩ := does
                exact .inl ⟨_, _, _, by simp [Step.writtenBy?, Step.uploaded, counts], writes⟩
        | compose bucket name asked =>
            obtain ⟨⟨_, _, _, _, _, _, writes⟩, counts⟩ := does
            exact .inl ⟨_, _, _, by simp [Step.writtenBy?, Step.composed, counts], writes⟩
        | delete bucket name => exact .inr ⟨rfl, does.1.thins⟩
        | getObject bucket name => exact .inr ⟨rfl, does.thins⟩
        | getBucket bucket => exact .inr ⟨rfl, does.thins⟩
        | unknown => cases does
  | put place data => exact .inl ⟨place, data, defaultType, rfl, stores_write _ _ _ rfl rfl⟩
  | createBucket bucket =>
      refine .inr ⟨rfl, ?_⟩
      dsimp only [Act.run, Emulator.createBucket]
      split
      · exact (Untouched.refl store).thins
      · exact ⟨fun _ _ found => found, rfl⟩
  | requireToken token => exact .inr ⟨rfl, fun _ _ found => found, rfl⟩
  | plan operation fault times => exact .inr ⟨rfl, fun _ _ found => found, rfl⟩
  | setRates rates => exact .inr ⟨rfl, fun _ _ found => found, rfl⟩

theorem Stores.generationAt (writes : Stores place data contentType before after) :
    after.generationAt place = before.nextGeneration := by
  rw [Emulator.generationAt, writes.object]

/-- A compose that is applied onto a place where it asked for a generation found that generation there, and wrote
the place. -/
theorem generationAt_of_composesAt
    (composes : (Step.mk store act (act.run store)).composesAt place generation = true) :
    store.generationAt place = generation ∧ (act.run store).generationAt place = store.nextGeneration := by
  cases act with
  | send request =>
      have told : (Step.mk store (.send request) (store.exchange request).2).composesBy place generation
          (Route.ofRequest request.method request.url) = true := composes
      rw [Act.run]
      have effect := exchange_fulfills request store
      generalize Route.ofRequest request.method request.url = route at effect told
      rw [Step.composesBy.eq_def] at told
      split at told
      next bucket name asked =>
        rw [Bool.and_eq_true, Bool.and_eq_true, decide_eq_true_eq, decide_eq_true_eq] at told
        obtain ⟨⟨rfl, rfl⟩, applied⟩ := told
        obtain untouched | ⟨⟨_, _, _, _, _, met, writes⟩, -⟩ := effect
        · simp [Step.composed, untouched.composes] at applied
        · exact ⟨(Numeral.decimal_injective (met _ rfl)).symm, writes.generationAt⟩
      next => cases told
  | put _ _ => cases composes
  | createBucket _ => cases composes
  | requireToken _ => cases composes
  | plan _ _ _ => cases composes
  | setRates _ => cases composes

theorem nextGeneration_le_run (act : Act) (store : Emulator) :
    store.nextGeneration ≤ (act.run store).nextGeneration := by
  obtain ⟨_, _, _, -, writes⟩ | ⟨-, thins⟩ := step_cases act store
  · rw [writes.nextGeneration]
    exact Nat.le_succ _
  · exact Nat.le_of_eq thins.nextGeneration.symm

/-! ## Runs of steps -/

/-- Each object has a generation of its own, and all are below the next one. -/
structure Numbered (store : Emulator) : Prop where
  positive : 1 ≤ store.nextGeneration
  bounds : ∀ place object, store.objects.get? place = some object →
    1 ≤ object.generation ∧ object.generation < store.nextGeneration
  apart : ∀ place object other another, store.objects.get? place = some object →
    store.objects.get? other = some another → object.generation = another.generation → place = other

/-- A generation that a place does not have and cannot have again. -/
structure Past (place : Place) (generation : Nat) (store : Emulator) : Prop where
  positive : 1 ≤ generation
  below : generation < store.nextGeneration
  elsewhere : store.generationAt place ≠ generation

/-- Before any write there are no objects, and the next generation is the first. -/
structure IsNew (store : Emulator) : Prop where
  objects : store.objects = .empty
  nextGeneration : store.nextGeneration = 1

theorem IsNew.numbered (new : store.IsNew) : store.Numbered := by
  have missing : ∀ {place object}, store.objects.get? place ≠ some object := by
    intro place object found
    rw [new.objects] at found
    cases found
  constructor
  · exact Nat.le_of_eq new.nextGeneration.symm
  · intro place object found
    exact absurd found missing
  · intro place object other another found
    exact absurd found missing

theorem Numbered.stores (numbered : before.Numbered) (writes : Stores place data contentType before after) :
    after.Numbered := by
  have bounds : ∀ other object, after.objects.get? other = some object →
      other = place ∧ object.generation = before.nextGeneration ∨
        other ≠ place ∧ before.objects.get? other = some object := by
    intro other object found
    by_cases same : other = place
    · rw [same, writes.object] at found
      cases found
      exact .inl ⟨same, rfl⟩
    · rw [writes.others other same] at found
      exact .inr ⟨same, found⟩
  constructor
  · rw [writes.nextGeneration]
    exact Nat.le_add_left 1 _
  · intro other object found
    rw [writes.nextGeneration]
    obtain ⟨-, new⟩ | ⟨-, old⟩ := bounds other object found
    · rw [new]
      exact ⟨numbered.positive, Nat.lt_succ_self _⟩
    · obtain ⟨positive, below⟩ := numbered.bounds other object old
      exact ⟨positive, Nat.lt_succ_of_lt below⟩
  · intro first object second another found foundToo same
    obtain ⟨rfl, new⟩ | ⟨-, old⟩ := bounds first object found
    · obtain ⟨rfl, -⟩ | ⟨-, oldToo⟩ := bounds second another foundToo
      · rfl
      · have below := (numbered.bounds second another oldToo).2
        omega
    · obtain ⟨rfl, newToo⟩ | ⟨-, oldToo⟩ := bounds second another foundToo
      · have below := (numbered.bounds first object old).2
        omega
      · exact numbered.apart first object second another old oldToo same

theorem Numbered.thins (numbered : before.Numbered) (thins : Thins before after) : after.Numbered := by
  constructor
  · rw [thins.nextGeneration]
    exact numbered.positive
  · intro place object found
    rw [thins.nextGeneration]
    exact numbered.bounds place object (thins.objects place object found)
  · intro first object second another found foundToo same
    exact numbered.apart first object second another (thins.objects first object found)
      (thins.objects second another foundToo) same

theorem Numbered.run (numbered : store.Numbered) (act : Act) : (act.run store).Numbered := by
  obtain ⟨_, _, _, -, writes⟩ | ⟨-, thins⟩ := step_cases act store
  · exact numbered.stores writes
  · exact numbered.thins thins

theorem Numbered.runAll (numbered : store.Numbered) (acts : List Act) : (store.runAll acts).Numbered := by
  induction acts generalizing store with
  | nil => exact numbered
  | cons act rest ih => exact ih (numbered.run act)

/-- A generation that is past stays past: a write gives a later one, and a place without an object has none. -/
theorem Past.run (past : Past place generation store) (act : Act) : Past place generation (act.run store) := by
  obtain ⟨target, _, _, -, writes⟩ | ⟨-, thins⟩ := step_cases act store
  · constructor
    · exact past.positive
    · rw [writes.nextGeneration]
      exact Nat.lt_succ_of_lt past.below
    · by_cases same : place = target
      · rw [same, writes.generationAt]
        exact Nat.ne_of_gt past.below
      · rw [Emulator.generationAt, writes.others place same]
        exact past.elsewhere
  · constructor
    · exact past.positive
    · rw [thins.nextGeneration]
      exact past.below
    · rw [Emulator.generationAt]
      cases found : (act.run store).objects.get? place with
      | none => exact Nat.ne_of_lt past.positive
      | some object =>
          have held := thins.objects place object found
          have elsewhere := past.elsewhere
          rwa [Emulator.generationAt, held] at elsewhere

/-- Once a generation is past, no compose that asks for it is applied. -/
theorem Past.countP_composesAt (past : Past place generation store) (acts : List Act) :
    (trail acts store).countP (Step.composesAt place generation) = 0 := by
  induction acts generalizing store with
  | nil => rfl
  | cons act rest ih =>
      rw [trail, List.countP_cons, ih (past.run act)]
      by_cases composes : (Step.mk store act (act.run store)).composesAt place generation = true
      · exact absurd (generationAt_of_composesAt composes).1 past.elsewhere
      · rw [if_neg composes]

/-- A compose that is applied makes the generation that it asked for past. -/
theorem Numbered.past (numbered : store.Numbered) (positive : 1 ≤ generation)
    (composes : (Step.mk store act (act.run store)).composesAt place generation = true) :
    Past place generation (act.run store) := by
  obtain ⟨asked, written⟩ := generationAt_of_composesAt composes
  have below : generation < store.nextGeneration := by
    rw [Emulator.generationAt] at asked
    split at asked
    · omega
    next object found =>
      rw [← asked]
      exact (numbered.bounds place object found).2
  constructor
  · exact positive
  · exact Nat.lt_of_lt_of_le below (nextGeneration_le_run act store)
  · rw [written]
    exact Nat.ne_of_gt below

/-- Of the composes onto a place that ask for one generation, at most one is applied. -/
theorem Numbered.countP_composesAt_le (numbered : store.Numbered) (positive : 1 ≤ generation) (acts : List Act) :
    (trail acts store).countP (Step.composesAt place generation) ≤ 1 := by
  induction acts generalizing store with
  | nil => exact Nat.zero_le 1
  | cons act rest ih =>
      rw [trail, List.countP_cons]
      by_cases composes : (Step.mk store act (act.run store)).composesAt place generation = true
      · have past := numbered.past positive composes
        apply Nat.le_of_eq
        rw [past.countP_composesAt rest, if_pos composes]
      · rw [if_neg composes]
        exact ih (numbered.run act)

/-- The writes of a run have the generations from the next one on, without a gap. -/
theorem generations_eq (acts : List Act) (store : Emulator) :
    generations acts store = List.range' store.nextGeneration (generations acts store).length ∧
      (store.runAll acts).nextGeneration = store.nextGeneration + (generations acts store).length := by
  induction acts generalizing store with
  | nil => exact ⟨rfl, rfl⟩
  | cons act rest ih =>
      obtain ⟨numbers, final⟩ := ih (act.run store)
      have ran : store.runAll (act :: rest) = (act.run store).runAll rest := rfl
      obtain ⟨place, _, _, written, made⟩ | ⟨written, thins⟩ := step_cases act store
      · have first : (Step.mk store act (act.run store)).generation? = some store.nextGeneration := by
          rw [Step.generation?, written, Option.map_some, made.generationAt]
        have all : generations (act :: rest) store = store.nextGeneration :: generations rest (act.run store) := by
          rw [generations, trail, List.filterMap_cons, first]
          rfl
        rw [made.nextGeneration] at numbers final
        rw [all, List.length_cons, List.range'_succ, ← numbers, ran, final]
        exact ⟨rfl, by omega⟩
      · have none : (Step.mk store act (act.run store)).generation? = none := by
          rw [Step.generation?, written, Option.map_none]
        have all : generations (act :: rest) store = generations rest (act.run store) := by
          rw [generations, trail, List.filterMap_cons, none]
          rfl
        rw [thins.nextGeneration] at numbers final
        rw [all, ran]
        exact ⟨numbers, final⟩

/-- The object at a place was there at first, or a write of the run left it there. -/
theorem get?_runAll {object : StoredObject} (acts : List Act) (store : Emulator)
    (found : (store.runAll acts).objects.get? place = some object) :
    store.objects.get? place = some object ∨
      ∃ step ∈ trail acts store, step.written? = some place ∧ step.after.objects.get? place = some object := by
  induction acts generalizing store with
  | nil => exact .inl found
  | cons act rest ih =>
      obtain held | ⟨step, among, written, left⟩ := ih (act.run store) found
      · obtain ⟨target, _, _, written, made⟩ | ⟨-, thins⟩ := step_cases act store
        · by_cases same : place = target
          · right
            refine ⟨⟨store, act, act.run store⟩, List.mem_cons_self, ?_, held⟩
            rw [same]
            exact written
          · left
            rwa [made.others place same] at held
        · exact .inl (thins.objects place object held)
      · exact .inr ⟨step, List.mem_cons_of_mem _ among, written, left⟩

/-- Generations never come back. Over any run of a new store, each write gives its object a generation greater than
all before, and the objects that are left have different generations, at least one and below the next. While there
are fewer than `2 ^ 64 - 1` writes, all of them are numbers of 64 bits. So a precondition can hold only once: of
the composes onto a place that ask for one generation, at most one is applied in the run. -/
theorem generations_never_repeat (start : Emulator) (new : start.IsNew) (acts : List Act) :
    let final := start.runAll acts
    (generations acts start).Pairwise (· < ·) ∧
    (∀ generation ∈ generations acts start, 1 ≤ generation ∧ generation < final.nextGeneration) ∧
    final.nextGeneration = 1 + (generations acts start).length ∧
    ((generations acts start).length < Nat.pow 2 64 - 1 → final.nextGeneration < Nat.pow 2 64) ∧
    (∀ place object, final.objects.get? place = some object →
      (∃ step ∈ trail acts start, step.written? = some place ∧ step.generation? = some object.generation) ∧
      1 ≤ object.generation ∧ object.generation < final.nextGeneration) ∧
    (∀ place object other another, final.objects.get? place = some object →
      final.objects.get? other = some another → place ≠ other → object.generation ≠ another.generation) ∧
    (∀ place generation, 1 ≤ generation →
      (trail acts start).countP (Step.composesAt place generation) ≤ 1) := by
  intro final
  have numbered : final.Numbered := new.numbered.runAll acts
  obtain ⟨numbers, next⟩ := generations_eq acts start
  rw [new.nextGeneration] at numbers next
  refine ⟨?_, ?_, next, fun few => by rw [next]; omega, ?_, ?_, ?_⟩
  · rw [numbers]
    exact List.pairwise_lt_range'
  · intro generation among
    rw [numbers, List.mem_range'_1] at among
    exact ⟨among.1, next ▸ among.2⟩
  · intro place object found
    apply And.intro _ (numbered.bounds place object found)
    obtain held | ⟨step, among, written, left⟩ := get?_runAll acts start found
    · rw [new.objects] at held
      cases held
    · refine ⟨step, among, written, ?_⟩
      rw [Step.generation?, written, Option.map_some, generationAt, left]
  · intro place object other another found foundToo different same
    exact different (numbered.apart place object other another found foundToo same)
  · intro place generation positive
    exact new.numbered.countP_composesAt_le positive acts

namespace Trial

/-- A compose onto an object with the first generation. -/
def guarded : Http.Request :=
  { appending with url := { appending.url with query := some "ifGenerationMatch=1" } }

/-- The same compose is sent twice, and once more after its object was removed and stored again. All responses
are lost. -/
def repeating : List Act :=
  [.put ⟨"logs", "a"⟩ [1], .put ⟨"logs", "b"⟩ [2], .plan .compose .lose 3, .plan .delete .lose 1, .send guarded,
    .send guarded, .send (.plain .delete (url "/storage/v1/b/logs/o/a")), .put ⟨"logs", "a"⟩ [3], .send guarded]

end Trial

/-- Of three composes with the same precondition, the first is applied. -/
theorem generations_never_repeat_trial :
    (withBucket "logs").IsNew ∧ generations Trial.repeating (withBucket "logs") = [1, 2, 3, 4] ∧
      ((withBucket "logs").runAll Trial.repeating).nextGeneration = 5 ∧
      (trail Trial.repeating (withBucket "logs")).countP (Step.composesAt ⟨"logs", "a"⟩ 1) = 1 := by
  have new : (withBucket "logs").IsNew := ⟨rfl, rfl⟩
  have four : generations Trial.repeating (withBucket "logs") = [1, 2, 3, 4] := by decide +kernel
  have applied : 0 < (trail Trial.repeating (withBucket "logs")).countP (Step.composesAt ⟨"logs", "a"⟩ 1) := by
    decide +kernel
  obtain ⟨-, -, next, -, -, -, once⟩ := generations_never_repeat (withBucket "logs") new Trial.repeating
  rw [four] at next
  exact ⟨new, four, next, Nat.le_antisymm (once ⟨"logs", "a"⟩ 1 (Nat.le_refl 1)) applied⟩

end RecordSink.Emulator
