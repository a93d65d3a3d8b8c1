import RecordSink.Proofs.Ordeal.Sites

/-!
# Runs of attempts

Where each attempt of a run fails only by a fault, and the run meets fewer faults than it has attempts,
one of its attempts succeeds.
-/

namespace RecordSink

open Emulator Ordeal

variable {τ α β : Type} {site : Site τ} {schedule : Schedule}

/-! ## Faults are not forgotten -/

namespace Ordeal.Minds

theorem now (clock : Clock τ) : Minds schedule (Ordeal.clock (Watch.clock clock)).now :=
  .aside fun watch => (Watch.onward_started watch).trans (Watch.onward_beside clock.now _)

theorem wait (clock : Clock τ) (span : Duration) :
    Minds schedule ((Ordeal.clock (Watch.clock clock)).wait span) :=
  .aside fun watch => Watch.onward_beside (clock.wait span) watch

theorem delay (clock : Clock τ) (policy : RetryPolicy) (attempt : Nat) :
    Minds schedule ((Ordeal.clock (Watch.clock clock)).delay policy attempt) :=
  .aside fun _ => .of_runs rfl

variable {call : Nat → StateM (Ordeal (Watch τ)) (Except RemoteError α)}

theorem attempts (calls : ∀ number, Minds schedule (call number)) (clock : Clock τ)
    (policy : RetryPolicy) (started : Duration) (left number : Nat) :
    Minds schedule
      (Retry.attempts (Ordeal.clock (Watch.clock clock)) policy started call left number) := by
  induction left generalizing number with
  | zero => exact (calls number).bind fun _ => .pure
  | succ left ih =>
      rw [Retry.attempts]
      refine (calls number).bind ?_
      intro result
      cases result with
      | ok value => exact .pure
      | error cause =>
          refine .ite .pure ((delay clock policy number).bind fun span => (now clock).bind fun time => ?_)
          exact .ite .pure ((wait clock span).bind fun _ => ih (number + 1))

theorem run (calls : ∀ number, Minds schedule (call number)) (clock : Clock τ) (policy : RetryPolicy)
    (operation : Operation) (object : String) :
    Minds schedule (Retry.run (Ordeal.clock (Watch.clock clock)) policy operation object call) := by
  refine (now clock).bind fun started => (attempts calls clock policy started _ 1).bind ?_
  rintro ⟨result, number⟩
  cases result <;> exact .pure

end Ordeal.Minds

/-! ## Attempts -/

namespace Site

/-- A call succeeded: its value and the world after it have a property. -/
abbrev Succeeds {ε : Type} (post : α → Ordeal (Watch τ) → Prop) (result : Except ε α)
    (world : Ordeal (Watch τ)) : Prop :=
  ∃ value, result = .ok value ∧ post value world

section

variable {pre struck : Ordeal (Watch τ) → Prop}
  {clear : Except RemoteError β → Ordeal (Watch τ) → Prop}

/-- Without a request no fault is met. -/
theorem Tries.pure {result : Except RemoteError β} (holds : ∀ world, pre world → clear result world) :
    Tries pre (Pure.pure result) clear struck :=
  fun world start => .inl ⟨rfl, holds world start⟩

theorem Tries.mono {step : StateM (Ordeal (Watch τ)) (Except RemoteError β)}
    {stronger weaker : Ordeal (Watch τ) → Prop} (tries : Tries pre step clear struck)
    (before : ∀ world, stronger world → pre world) (after : ∀ world, struck world → weaker world) :
    Tries stronger step clear weaker :=
  fun world start => (tries world (before world start)).imp id fun ⟨runs, failed, reached⟩ =>
    ⟨runs, failed, after _ reached⟩

/-- An attempt goes on where its first part met no fault, and it hands on a failure by a fault. -/
theorem Tries.bind {step : StateM (Ordeal (Watch τ)) (Except RemoteError α)}
    {next : Except RemoteError α → StateM (Ordeal (Watch τ)) (Except RemoteError β)}
    {middle : Except RemoteError α → Ordeal (Watch τ) → Prop} (first : Tries pre step middle struck)
    (handed : ∀ cause, cause.Passes → next (.error cause) = Pure.pure (.error cause))
    (second : ∀ result, Tries (middle result) (next result) clear struck) :
    Tries pre (step >>= next) clear struck := by
  intro world start
  rcases first world start with ⟨runs, reached⟩ | ⟨runs, ⟨cause, failed, passes⟩, reached⟩
  · have onwards := second (step world).1 (step world).2 reached
    rw [runs] at onwards
    exact onwards
  · right
    have ended : (step >>= next) world = (.error cause, (step world).2) := by
      calc
        (step >>= next) world = next (step world).1 (step world).2 := rfl
        _ = (.error cause, (step world).2) := by
          rw [failed, handed cause passes]
          rfl
    rw [ended]
    exact ⟨runs, ⟨cause, rfl, passes⟩, reached⟩

end

variable {call : Nat → StateM (Ordeal (Watch τ)) (Except RemoteError α)} {J : Nat → Emulator → Prop}
  {post : α → Ordeal (Watch τ) → Prop}

/-- An attempt that succeeds is the last one. -/
theorem attempts_of_ok {left number : Nat} {world after : Ordeal (Watch τ)} {value : α}
    (done : call number world = (.ok value, after)) (started : Duration) :
    Retry.attempts (site.store schedule).clock site.policy started call left number world =
      ((.ok value, number), after) := by
  cases left with
  | zero =>
      simp only [Retry.attempts, bind, StateT.bind, done]
      rfl
  | succ left =>
      simp only [Retry.attempts, bind, StateT.bind, done]
      rfl

/-- After an attempt that may be repeated the next one begins. -/
theorem attempts_of_error (unlimited : site.policy.totalDuration = none) (left : Nat) {number : Nat}
    {world after : Ordeal (Watch τ)} {cause : RemoteError} (failed : call number world = (.error cause, after))
    (retriable : cause.retriable = true) (started : Duration) :
    ∃ rest, Retry.attempts (site.store schedule).clock site.policy started call (left + 1) number world =
      Retry.attempts (site.store schedule).clock site.policy started call left (number + 1)
        { after with rest := { after.rest with rest, resuming := false } } := by
  have patient : ∀ elapsed delay, site.policy.isOverdue elapsed delay = false := by
    intro elapsed delay
    rw [RetryPolicy.isOverdue, unlimited]
  refine ⟨?rest, ?same⟩
  case same =>
    rw [Retry.attempts]
    simp only [bind, StateT.bind, failed, retriable, Bool.not_true, Bool.false_eq_true, ↓reduceIte, patient]
    rfl

/-- With as many attempts left as faults may still come, one of the attempts succeeds. -/
theorem reaches_attempts (unlimited : site.policy.totalDuration = none)
    (attempt : ∀ number, 1 ≤ number →
      Tries (site.At (J number)) (call number) (Succeeds post) (site.At (J (number + 1))))
    (started : Duration) {left number met : Nat} {earlier : List Nat} (first : 1 ≤ number)
    (budget : met + left = site.most) {world : Ordeal (Watch τ)} (ready : site.At (J number) world)
    (runs : world.rest.runs = met :: earlier)
    (within : (Retry.attempts (site.store schedule).clock site.policy started call left number
      world).2.rest.Within site.most) :
    ∃ value final number', Retry.attempts (site.store schedule).clock site.policy started call left number
      world = ((.ok value, number'), final) ∧ post value final := by
  -- each fault takes one of the attempts that are left, so that the budget stays the same
  induction left generalizing number met world with
  | zero =>
      rcases attempt number first world ready with ⟨-, value, done, reached⟩ | ⟨struck, -, -⟩
      · exact ⟨value, _, number, attempts_of_ok (Prod.ext done rfl) started, reached⟩
      · -- the last attempt met one fault more than the limit allows
        have last : (Retry.attempts (site.store schedule).clock site.policy started call 0 number
            world).2 = (call number world).2 := rfl
        rw [runs] at struck
        rw [last] at within
        have exceeded := within (met + 1) (by rw [struck]; exact List.mem_cons_self ..)
        omega
  | succ left ih =>
      rcases attempt number first world ready with
        ⟨-, value, done, reached⟩ | ⟨struck, ⟨cause, failed, passes⟩, again⟩
      · exact ⟨value, _, number, attempts_of_ok (Prod.ext done rfl) started, reached⟩
      · obtain ⟨rest, onwards⟩ := attempts_of_error unlimited left
          (show call number world = (.error cause, _) from Prod.ext failed rfl) passes.retriable started
        rw [onwards] at within ⊢
        rw [runs] at struck
        obtain ⟨⟨asked, -, admitted⟩, holds⟩ := again
        exact ih (by omega) (by omega) ⟨⟨asked, rfl, admitted⟩, holds⟩ struck within

/-- A run is over with its attempts. -/
theorem run_snd (operation : Operation) (object : String) (world : Ordeal (Watch τ)) :
    let clock := (site.store schedule).clock
    (Retry.run clock site.policy operation object call world).2 =
      (Retry.attempts clock site.policy (clock.now world).1 call site.most 1 (clock.now world).2).2 := by
  rcases looked : (site.store schedule).clock.now world with ⟨started, begun⟩
  rcases ended : Retry.attempts (site.store schedule).clock site.policy started call
    (site.policy.maxAttempts - 1) 1 begun with ⟨⟨result, number⟩, final⟩
  simp only [Retry.run, most, bind, StateT.bind, looked, ended]
  cases result <;> rfl

/-- A run gives the value of an attempt that succeeds. -/
theorem run_of_ok {operation : Operation} {object : String} {world final : Ordeal (Watch τ)} {value : α}
    {number : Nat}
    (ended : Retry.attempts (site.store schedule).clock site.policy
      ((site.store schedule).clock.now world).1 call site.most 1
      ((site.store schedule).clock.now world).2 = ((.ok value, number), final)) :
    Retry.run (site.store schedule).clock site.policy operation object call world =
      (.ok value, final) := by
  rcases looked : (site.store schedule).clock.now world with ⟨started, begun⟩
  rw [looked, most] at ended
  simp only [Retry.run, bind, StateT.bind, looked, ended]
  rfl

/-- A run of attempts, each of which fails only by a fault, succeeds. -/
theorem endures_run (unlimited : site.policy.totalDuration = none)
    (minds : ∀ number, Minds schedule (call number))
    (attempt : ∀ number, 1 ≤ number →
      Tries (site.At (J number)) (call number) (Succeeds post) (site.At (J (number + 1))))
    (operation : Operation) (object : String) :
    Endures schedule site.most (site.At (J 1))
      (Retry.run (site.store schedule).clock site.policy operation object call)
      (Succeeds post) := by
  refine ⟨.run minds site.clock site.policy operation object, ?_⟩
  rintro world ⟨⟨asked, resumed, admitted⟩, holds⟩ within
  -- the look at the clock starts the count of the run
  have started : ((site.store schedule).clock.now world).2.rest.runs = 0 :: world.rest.runs ∧
      site.At (J 1) ((site.store schedule).clock.now world).2 := by
    simp only [store, Ordeal.clock, aside, Watch.clock, Watch.started, resumed, Bool.false_eq_true,
      ↓reduceIte, Watch.beside]
    exact ⟨rfl, ⟨asked, rfl, admitted⟩, holds⟩
  rw [run_snd] at within
  obtain ⟨value, final, number, ended, reached⟩ := reaches_attempts unlimited attempt
    ((site.store schedule).clock.now world).1 (Nat.le_refl 1) (Nat.zero_add site.most) started.2
    started.1 within
  rw [run_of_ok ended]
  exact ⟨value, rfl, reached⟩

/-- A call that is as good to repeat after its effect as before succeeds. -/
theorem endures_repeated {I I' : Emulator → Prop}
    {call : StateM (Ordeal (Watch τ)) (Except RemoteError α)}
    (unlimited : site.policy.totalDuration = none) (minds : Minds schedule call)
    (attempt : Tries (site.At fun store => I store ∨ I' store) call (Succeeds post)
      (site.At fun store => (I store ∨ I' store) ∨ I' store))
    (operation : Operation) (object : String) :
    Endures schedule site.most (site.At I)
      (Retry.run (site.store schedule).clock site.policy operation object fun _ => call)
      (Succeeds post) := by
  have again : Tries (site.At fun store => I store ∨ I' store) call (Succeeds post)
      (site.At fun store => I store ∨ I' store) :=
    attempt.mono (fun _ start => start) fun world reached => ⟨reached.1, reached.2.elim id .inr⟩
  refine (endures_run (J := fun _ store => I store ∨ I' store) unlimited (fun _ => minds)
    (fun _ _ => again) operation object).mono ?_ fun _ _ ended => ended
  exact fun world start => ⟨start.1, .inl start.2⟩

end Site

/-- What holds from all stores with a property holds from one of them. -/
theorem Ordeal.Endures.starting {limit : Nat} {I : Emulator → Prop} {step : StateM (Ordeal (Watch τ)) β}
    {ended : β → Ordeal (Watch τ) → Prop} {start : Emulator}
    (endures : Endures schedule limit (site.At I) step ended) (holds : I start) :
    Endures schedule limit (site.At fun now => now = start) step ended := by
  refine endures.mono ?_ fun _ _ reached => reached
  rintro world ⟨steady, rfl⟩
  exact ⟨steady, holds⟩

end RecordSink
