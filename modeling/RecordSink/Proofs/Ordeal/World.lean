import RecordSink.Emulator
import RecordSink.Retry

/-!
# Ordeals

An emulated store on trial: before every request other clients write and remove objects, and the
request itself is refused, applied with its response lost, or applied and answered. A schedule says
which of it happens when, and the history keeps every request that has passed.
-/

namespace RecordSink

open Emulator

namespace Ordeal

/-- What another client does. -/
inductive Deed where
  | write (place : Place) (data : Bytes) (contentType : String)
  | remove (place : Place)

/-- The place whose object another client changes. -/
def Deed.place : Deed → Place
  | .write place _ _ => place
  | .remove place => place

/-- The store after another client did something. -/
def Deed.run (store : Emulator) : Deed → Emulator
  | .write place data contentType => store.write place data contentType
  | .remove place => { store with objects := store.objects.erase place }

/-- What happens around one request. -/
structure Turn where
  /-- What other clients do before it. -/
  deeds : List Deed
  fault : Option Fault

/-- A turn without other clients and without a fault. -/
def Turn.calm : Turn := { deeds := [], fault := none }

/-- What happens around the requests, by their numbers. -/
abbrev Schedule := Nat → Turn

/-- A turn leaves some places to their owner, and refuses with no status of success. -/
structure Turn.Spares (places : List Place) (turn : Turn) : Prop where
  deeds : ∀ deed ∈ turn.deeds, deed.place ∉ places
  refusals : ∀ status message, turn.fault = some (.refuse status message) →
    Http.isSuccess status = false

/-- Every turn leaves some places to their owner. -/
def Schedule.Spares (places : List Place) (schedule : Schedule) : Prop :=
  ∀ number, (schedule number).Spares places

/-- Every turn leaves some places to their owner, and refuses in any way. -/
def Schedule.Lends (places : List Place) (schedule : Schedule) : Prop :=
  ∀ number, ∀ deed ∈ (schedule number).deeds, deed.place ∉ places

theorem Schedule.Spares.lends {places : List Place} {schedule : Schedule} (spares : schedule.Spares places) :
    schedule.Lends places :=
  fun number => (spares number).deeds

theorem Turn.calm_spares (places : List Place) : calm.Spares places :=
  ⟨fun _ none => (nomatch none), fun _ _ none => (nomatch none)⟩

/-- A request that has passed. -/
structure Moment where
  request : Http.Request
  outcome : Http.Outcome
  /-- The store right after the request. -/
  store : Emulator

/-- What the request asked the store for. -/
def Moment.route (moment : Moment) : Route :=
  Route.ofRequest moment.request.method moment.request.url

/-- What a store has been through. -/
structure History where
  store : Emulator
  /-- The requests that have passed, the last one first. -/
  moments : List Moment

/-- A store that has been through nothing. -/
def History.fresh (store : Emulator) : History := { store, moments := [] }

/-- The history with one more moment. -/
def History.next (history : History) (moment : Moment) : History :=
  { store := moment.store, moments := moment :: history.moments }

/-- What comes of a request that is sent to a store. -/
def Turn.moment (turn : Turn) (request : Http.Request) (store : Emulator) : Moment :=
  let reached := turn.deeds.foldl Deed.run store
  let (outcome, store) := reached.exchangeWith (fun _ store => (turn.fault, store)) request
  { request, outcome, store }

end Ordeal

/-- A world with a store on trial. -/
structure Ordeal (τ : Type) where
  /-- The rest of the world: what clocks and sources of credentials live on. -/
  rest : τ
  history : Ordeal.History

namespace Ordeal

variable {τ α β : Type}

/-- A step in the rest of the world. -/
def aside (step : StateM τ α) : StateM (Ordeal τ) α := fun world =>
  let (value, rest) := step world.rest
  (value, { world with rest })

/-- The link to the store on trial. -/
def link (schedule : Schedule) : Link (Ordeal τ) where
  exchange request world :=
    let moment := (schedule world.history.moments.length).moment request world.history.store
    (moment.outcome, { world with history := world.history.next moment })

/-- A clock in the rest of the world. -/
def clock (clock : Clock τ) : Clock (Ordeal τ) where
  now := aside clock.now
  wait span := aside (clock.wait span)
  delay policy attempt := aside (clock.delay policy attempt)

/-- A source of credentials in the rest of the world. -/
def credentials (source : CredentialSource τ) : CredentialSource (Ordeal τ) where
  obtain := aside source.obtain

/-! ## Moments along the way -/

/-- Every moment from one point of a history to another has a property of the moment and of those
before it. -/
inductive Through (P : Moment → List Moment → Prop) (start : List Moment) : List Moment → Prop
  | done : Through P start start
  | next {moment : Moment} {past : List Moment} (before : Through P start past)
      (holds : P moment past) : Through P start (moment :: past)

namespace Through

variable {P Q : Moment → List Moment → Prop} {start middle final : List Moment}

theorem mono (weaker : ∀ moment past, P moment past → Q moment past) (through : Through P start final) :
    Through Q start final := by
  induction through with
  | done => exact .done
  | next _ holds ih => exact .next ih (weaker _ _ holds)

theorem trans (first : Through P start middle) (second : Through P middle final) :
    Through P start final := by
  induction second with
  | done => exact first
  | next _ holds ih => exact .next ih holds

theorem isSuffix (through : Through P start final) : start <:+ final := by
  induction through with
  | done => exact List.suffix_rfl
  | next _ _ ih => exact ih.trans (List.suffix_cons _ _)

theorem along (through : Through P start final) :
    Through (fun moment past => P moment past ∧ start <:+ past) start final := by
  induction through with
  | done => exact .done
  | next before holds ih => exact .next ih ⟨holds, before.isSuffix⟩

/-- The moments along the way stand in front of those before. -/
theorem exists_append (through : Through P start final) :
    ∃ passed, final = passed ++ start ∧
      ∀ later moment earlier, passed = later ++ moment :: earlier → P moment (earlier ++ start) := by
  induction through with
  | done => exact ⟨[], rfl, fun later moment earlier none => by simp at none⟩
  | @next moment past _ holds ih =>
      obtain ⟨passed, rfl, each⟩ := ih
      refine ⟨moment :: passed, rfl, ?_⟩
      intro later other earlier split
      cases later with
      | nil =>
          rw [List.nil_append] at split
          cases split
          exact holds
      | cons _ later =>
          rw [List.cons_append] at split
          cases split
          exact each later other earlier rfl

/-- The moment next to those before is one along the way. -/
theorem first (through : Through P start final) {moment : Moment}
    (inside : moment :: start <:+ final) : P moment start := by
  obtain ⟨passed, whole, each⟩ := through.exists_append
  obtain ⟨newer, split⟩ := inside
  have joined : (newer ++ [moment]) ++ start = passed ++ start := by
    calc
      (newer ++ [moment]) ++ start = newer ++ moment :: start := List.append_assoc ..
      _ = final := split
      _ = passed ++ start := whole
  exact each newer moment [] (List.append_cancel_right joined).symm

end Through

/-- From histories with one property a step passes moments with a property and ends with a value
and a history with another. -/
def Passes (P : Moment → List Moment → Prop) (pre : History → Prop) (step : StateM (Ordeal τ) α)
    (post : α → History → Prop) : Prop :=
  ∀ world : Ordeal τ, pre world.history →
    Through P world.history.moments (step world).2.history.moments ∧
      post (step world).1 (step world).2.history

namespace Passes

variable {P Q : Moment → List Moment → Prop} {pre : History → Prop} {post : α → History → Prop}

theorem pure {value : α} (holds : ∀ history, pre history → post value history) :
    Passes P pre (Pure.pure value : StateM (Ordeal τ) α) post :=
  fun world start => ⟨.done, holds world.history start⟩

theorem bind {step : StateM (Ordeal τ) α} {next : α → StateM (Ordeal τ) β}
    {middle : α → History → Prop} {final : β → History → Prop} (first : Passes P pre step middle)
    (second : ∀ value, Passes P (middle value) (next value) final) :
    Passes P pre (step >>= next) final := by
  intro world start
  obtain ⟨through, reached⟩ := first world start
  obtain ⟨onwards, ended⟩ := second _ (step world).2 reached
  exact ⟨through.trans onwards, ended⟩

theorem mono {step : StateM (Ordeal τ) α} {stronger : History → Prop} {weaker : α → History → Prop}
    (passes : Passes P pre step post) (moments : ∀ moment past, P moment past → Q moment past)
    (before : ∀ history, stronger history → pre history)
    (after : ∀ value history, post value history → weaker value history) :
    Passes Q stronger step weaker := by
  intro world start
  obtain ⟨through, ended⟩ := passes world (before world.history start)
  exact ⟨through.mono moments, after _ _ ended⟩

/-- It is enough to look at each history by itself. -/
theorem each {step : StateM (Ordeal τ) α}
    (single : ∀ history, pre history → Passes P (fun now => now = history) step post) :
    Passes P pre step post :=
  fun world start => single world.history start world rfl

/-- What holds at every moment of a step is known at its end. -/
theorem remember {step : StateM (Ordeal τ) α} {start : History}
    (passes : Passes P (fun now => now = start) step post) :
    Passes P (fun now => now = start) step
      fun value history => post value history ∧ Through P start.moments history.moments := by
  rintro world rfl
  obtain ⟨through, ended⟩ := passes world rfl
  exact ⟨through, ended, through⟩

/-- The moments of a step stand in front of those before it. -/
theorem along {step : StateM (Ordeal τ) α} {start : History}
    (passes : Passes P (fun now => now = start) step post) :
    Passes (fun moment past => P moment past ∧ start.moments <:+ past) (fun now => now = start) step
      fun value history => post value history ∧ start.moments <:+ history.moments := by
  rintro world rfl
  obtain ⟨through, ended⟩ := passes world rfl
  exact ⟨through.along, ended, through.isSuffix⟩

/-- A step in the rest of the world passes nothing. -/
theorem aside {step : StateM τ α} (holds : ∀ value history, pre history → post value history) :
    Passes P pre (Ordeal.aside step) post :=
  fun _ start => ⟨.done, holds _ _ start⟩

end Passes

/-- A step only adds moments. -/
def Grows (step : StateM (Ordeal τ) α) : Prop :=
  ∀ world : Ordeal τ, world.history.moments <:+ (step world).2.history.moments

theorem Grows.pure {value : α} : Grows (Pure.pure value : StateM (Ordeal τ) α) :=
  fun _ => List.suffix_rfl

theorem Grows.bind {step : StateM (Ordeal τ) α} {next : α → StateM (Ordeal τ) β} (first : Grows step)
    (second : ∀ value, Grows (next value)) : Grows (step >>= next) :=
  fun world => (first world).trans (second _ _)

theorem Passes.grows {P : Moment → List Moment → Prop} {step : StateM (Ordeal τ) α}
    {post : α → History → Prop} (passes : Passes P (fun _ => True) step post) : Grows step :=
  fun world => (passes world trivial).1.isSuffix

/-- A step that only adds moments keeps what later moments cannot change. -/
theorem Grows.passes {step : StateM (Ordeal τ) α} (grows : Grows step) {I : History → Prop}
    (stable : ∀ before after, before.moments <:+ after.moments → I before → I after) :
    Passes (fun _ _ => True) I step fun _ history => I history := by
  intro world holds
  refine ⟨?_, stable _ _ (grows world) holds⟩
  obtain ⟨passed, same⟩ := grows world
  rw [← same]
  clear same
  induction passed with
  | nil => exact .done
  | cons moment passed ih => exact .next ih trivial

end Ordeal

end RecordSink
