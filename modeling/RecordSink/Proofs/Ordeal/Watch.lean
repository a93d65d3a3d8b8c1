import RecordSink.Proofs.Ordeal.World
import RecordSink.RemoteStore

/-!
# Watched runs

A watch beside an ordeal counts the faults that each run of attempts meets. It needs nothing but what
passes by: a run looks at its clock when it starts, and once more after each delay that it asks for, and
every request begins with a credential. The rules here are for steps of which something is known only
where no run has met more faults than a limit allows.
-/

namespace RecordSink

open Emulator Ordeal

/-- The rest of a world with a count of the faults that each run met. -/
structure Watch (τ : Type) where
  rest : τ
  /-- Requests so far. -/
  asked : Nat
  /-- The current run has asked for a delay and has not looked at the clock since. -/
  resuming : Bool
  /-- The faults of each run so far, the last run first. -/
  runs : List Nat

namespace Watch

variable {τ α β : Type} {schedule : Schedule}

/-- A watch before the first run. -/
def start (rest : τ) : Watch τ := { rest, asked := 0, resuming := false, runs := [] }

/-- No run met more faults than a limit. -/
def Within (limit : Nat) (watch : Watch τ) : Prop := ∀ met ∈ watch.runs, met ≤ limit

instance (limit : Nat) (watch : Watch τ) : Decidable (watch.Within limit) :=
  inferInstanceAs (Decidable (∀ met ∈ watch.runs, met ≤ limit))

/-- The counts after the current run met a fault. -/
def hit : List Nat → List Nat
  | [] => [1]
  | met :: earlier => (met + 1) :: earlier

/-- The counts after a run started. -/
def started (watch : Watch τ) : Watch τ :=
  if watch.resuming then { watch with resuming := false } else { watch with runs := 0 :: watch.runs }

/-- The counts after a request was sent. -/
def noted (schedule : Schedule) (watch : Watch τ) : Watch τ :=
  { watch with
    asked := watch.asked + 1
    runs := if (schedule watch.asked).fault.isSome then hit watch.runs else watch.runs }

/-- A step in the rest of a watched world. -/
def beside (step : StateM τ α) : StateM (Watch τ) α := fun watch =>
  let (value, rest) := step watch.rest
  (value, { watch with rest })

/-- A clock that tells the watch when a run starts. -/
def clock (clock : Clock τ) : Clock (Watch τ) where
  now watch := beside clock.now watch.started
  wait span := beside (clock.wait span)
  delay policy attempt watch := beside (clock.delay policy attempt) { watch with resuming := true }

/-- A source of credentials that tells the watch of each request and of its fault. -/
def credentials (schedule : Schedule) (source : CredentialSource τ) : CredentialSource (Watch τ) where
  obtain watch := beside source.obtain (watch.noted schedule)

/-! ## Faults are never forgotten -/

/-- From one watch to a later one no fault is forgotten, and none is added where the schedule has
none. -/
structure Onward (schedule : Schedule) (before after : Watch τ) : Prop where
  kept : ∀ limit, after.Within limit → before.Within limit
  quiet : (∀ number, (schedule number).fault = none) → before.Within 0 → after.Within 0

theorem Onward.refl (watch : Watch τ) : Onward schedule watch watch :=
  ⟨fun _ within => within, fun _ within => within⟩

theorem Onward.trans {first second third : Watch τ} (one : Onward schedule first second)
    (other : Onward schedule second third) : Onward schedule first third :=
  ⟨fun limit within => one.kept limit (other.kept limit within),
    fun faultless within => other.quiet faultless (one.quiet faultless within)⟩

/-- A watch with the same counts is as good. -/
theorem Onward.of_runs {before after : Watch τ} (same : after.runs = before.runs) :
    Onward schedule before after := by
  constructor
  · intro limit within
    rw [Within, ← same]
    exact within
  · intro _ within
    rw [Within, same]
    exact within

/-- A limit that holds after another fault held before it. -/
theorem within_of_hit {limit : Nat} {runs : List Nat} (within : ∀ met ∈ hit runs, met ≤ limit) :
    ∀ met ∈ runs, met ≤ limit := by
  intro met inside
  cases runs with
  | nil => cases inside
  | cons current earlier =>
      rcases List.mem_cons.mp inside with rfl | older
      · exact Nat.le_of_succ_le (within (met + 1) (List.mem_cons_self ..))
      · exact within met (List.mem_cons_of_mem _ older)

theorem onward_beside (step : StateM τ α) (watch : Watch τ) :
    Onward schedule watch (beside step watch).2 := .of_runs rfl

theorem onward_started (watch : Watch τ) : Onward schedule watch watch.started := by
  rw [started]
  split
  · exact .of_runs rfl
  · constructor <;> simp [Within]

theorem onward_noted (watch : Watch τ) : Onward schedule watch (watch.noted schedule) := by
  rw [noted]
  split
  · next faulty =>
    refine ⟨fun limit within => within_of_hit within, ?_⟩
    intro faultless
    rw [faultless] at faulty
    cases faulty
  · exact .of_runs rfl

end Watch

/-! ## Steps -/

namespace Ordeal

variable {τ α β : Type} {schedule : Schedule} {limit : Nat}

/-- A step forgets no fault. -/
def Minds (schedule : Schedule) (step : StateM (Ordeal (Watch τ)) α) : Prop :=
  ∀ world, Watch.Onward schedule world.rest (step world).2.rest

namespace Minds

theorem pure {value : α} : Minds schedule (Pure.pure value : StateM (Ordeal (Watch τ)) α) :=
  fun world => .refl world.rest

theorem bind {step : StateM (Ordeal (Watch τ)) α} {next : α → StateM (Ordeal (Watch τ)) β}
    (first : Minds schedule step) (second : ∀ value, Minds schedule (next value)) :
    Minds schedule (step >>= next) :=
  fun world => (first world).trans (second _ _)

theorem aside {step : StateM (Watch τ) α} (onward : ∀ watch, Watch.Onward schedule watch (step watch).2) :
    Minds schedule (Ordeal.aside step) :=
  fun world => onward world.rest

/-- The link changes only the history. -/
theorem link (request : Http.Request) :
    Minds schedule ((Ordeal.link schedule : Link (Ordeal (Watch τ))).exchange request) :=
  fun world => .refl world.rest

theorem ite {condition : Prop} [Decidable condition] {step other : StateM (Ordeal (Watch τ)) α}
    (first : Minds schedule step) (second : Minds schedule other) :
    Minds schedule (if condition then step else other) := by
  split
  · exact first
  · exact second

end Minds

/-- From worlds with one property a step that forgets no fault comes to a value and a world with
another one, unless a run has met more faults than the limit allows. -/
structure Endures (schedule : Schedule) (limit : Nat) (pre : Ordeal (Watch τ) → Prop)
    (step : StateM (Ordeal (Watch τ)) α) (post : α → Ordeal (Watch τ) → Prop) : Prop where
  minds : Minds schedule step
  reaches : ∀ world, pre world → (step world).2.rest.Within limit → post (step world).1 (step world).2

namespace Endures

variable {pre : Ordeal (Watch τ) → Prop} {post : α → Ordeal (Watch τ) → Prop}
  {step : StateM (Ordeal (Watch τ)) α}

theorem pure {value : α} (holds : ∀ world, pre world → post value world) :
    Endures schedule limit pre (Pure.pure value : StateM (Ordeal (Watch τ)) α) post :=
  ⟨.pure, fun world start _ => holds world start⟩

theorem bind {next : α → StateM (Ordeal (Watch τ)) β} {middle : α → Ordeal (Watch τ) → Prop}
    {final : β → Ordeal (Watch τ) → Prop} (first : Endures schedule limit pre step middle)
    (second : ∀ value, Endures schedule limit (middle value) (next value) final) :
    Endures schedule limit pre (step >>= next) final := by
  refine ⟨first.minds.bind fun value => (second value).minds, ?_⟩
  intro world start within
  -- a fault of the first step still counts after the second one
  have earlier := ((second _).minds (step world).2).kept limit within
  exact (second _).reaches _ (first.reaches world start earlier) within

/-- A step that succeeds for sure is followed by one for each of the values that it can have. -/
theorem bind_of {γ : Type} {next : α → StateM (Ordeal (Watch τ)) β} {form : γ → α}
    {known : γ → Prop} {middle : γ → Ordeal (Watch τ) → Prop} {final : β → Ordeal (Watch τ) → Prop}
    (first : Endures schedule limit pre step fun result world =>
      ∃ value, result = form value ∧ known value ∧ middle value world)
    (minds : ∀ result, Minds schedule (next result))
    (second : ∀ value, known value → Endures schedule limit (middle value) (next (form value)) final) :
    Endures schedule limit pre (step >>= next) final := by
  refine first.bind fun result => ⟨minds result, ?_⟩
  rintro world ⟨value, rfl, holds, reached⟩ within
  exact (second value holds).reaches world reached within

theorem mono {stronger : Ordeal (Watch τ) → Prop} {weaker : α → Ordeal (Watch τ) → Prop}
    (endures : Endures schedule limit pre step post) (before : ∀ world, stronger world → pre world)
    (after : ∀ value world, post value world → weaker value world) :
    Endures schedule limit stronger step weaker :=
  ⟨endures.minds, fun world start within => after _ _ (endures.reaches world (before world start) within)⟩

end Endures

end Ordeal

end RecordSink
