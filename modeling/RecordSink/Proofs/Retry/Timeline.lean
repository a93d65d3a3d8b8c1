import RecordSink.Retry

/-!
# When attempts are made

A call whose outcomes are given in advance, with how long each takes and the delay behind it, on a clock that
moves only while a call or a wait lasts. Main statement: how many calls a run makes, when it makes them and what
comes of them.
-/

namespace RecordSink.Retry

variable {α : Type}

/-- What is given in advance, by the number of the call, from one on. -/
structure Script (α : Type) where
  outcome : Nat → Except RemoteError α
  /-- How long the call takes. -/
  takes : Nat → Duration
  /-- The delay behind the call, if it is repeated. -/
  delay : Nat → Duration

/-- A call that was made. -/
structure Attempt where
  began : Duration
  ended : Duration

/-- A clock, and the calls that were made so far, the first one first. -/
structure Timeline where
  now : Duration
  made : List Attempt

/-- What a run that begins at a moment owes: the calls that it makes, and its result. -/
structure Contract (policy : RetryPolicy) (operation : Operation) (object : String) (script : Script α)
    (begin : Duration) (result : Except SinkError α) (made : List Attempt) : Prop where
  /-- There is a call. -/
  once : 1 ≤ made.length
  /-- There are no more calls than are allowed. -/
  bounded : made.length ≤ max 1 policy.maxAttempts
  /-- All calls but the last one failed in a way that may pass. -/
  passing : ∀ number, 1 ≤ number → number < made.length →
    ∃ cause, script.outcome number = .error cause ∧ cause.retriable = true
  /-- The result is what came of the last call. -/
  result : result = match script.outcome made.length with
    | .ok value => .ok value
    | .error cause => .error (.remote operation object made.length cause)
  /-- With calls to spare, a failure that may pass ends the run only where the next call would begin after the
  time allowed. -/
  patient : ∀ cause last, script.outcome made.length = .error cause → cause.retriable = true →
    made.length < policy.maxAttempts → made.getLast? = some last →
    ∃ limit, policy.totalDuration = some limit ∧ limit < last.ended - begin + script.delay made.length
  /-- The first call begins at once. -/
  prompt : ∃ first, made.head? = some first ∧ first.began = begin
  /-- Each call takes its time. -/
  lasting : ∀ index attempt, made[index]? = some attempt →
    attempt.ended = attempt.began + script.takes (index + 1)
  /-- The next call begins where the delay ends. -/
  waiting : ∀ index attempt next, made[index]? = some attempt → made[index + 1]? = some next →
    next.began = attempt.ended + script.delay (index + 1)
  /-- No further call begins after the time allowed. -/
  timely : ∀ limit, policy.totalDuration = some limit →
    ∀ attempt ∈ made.tail, attempt.began ≤ begin + limit

namespace Script

variable (script : Script α) (policy : RetryPolicy) (begin : Duration)

/-- Makes the next call. -/
def call : StateM Timeline (Except RemoteError α) := fun timeline =>
  let number := timeline.made.length + 1
  let ended := timeline.now + script.takes number
  (script.outcome number, { now := ended, made := timeline.made ++ [{ began := timeline.now, ended }] })

/-- A clock that moves while someone waits. -/
def clock : Clock Timeline where
  now := fun timeline => (timeline.now, timeline)
  wait span := fun timeline => ((), { timeline with now := timeline.now + span })
  delay _ number := fun timeline => (script.delay number, timeline)

@[simp]
theorem clock_now (timeline : Timeline) : script.clock.now timeline = (timeline.now, timeline) := rfl

@[simp]
theorem clock_delay (number : Nat) (timeline : Timeline) :
    script.clock.delay policy number timeline = (script.delay number, timeline) := rfl

/-! ## Moments -/

/-- When a call begins, with a number of calls and delays before it. -/
def began : Nat → Duration
  | 0 => begin
  | before + 1 => began before + script.takes (before + 1) + script.delay (before + 1)

/-- When a call ends, with a number of calls and delays before it. -/
def ended (before : Nat) : Duration := script.began begin before + script.takes (before + 1)

theorem began_succ (before : Nat) :
    script.began begin (before + 1) = script.ended begin before + script.delay (before + 1) := rfl

/-- Time does not go back. -/
theorem begin_le_ended (before : Nat) : begin ≤ script.ended begin before := by
  show begin.nanos ≤ (script.ended begin before).nanos
  induction before with
  | zero => exact Nat.le_add_right _ _
  | succ before ih =>
      rw [ended, began_succ, Duration.nanos_add, Duration.nanos_add]
      omega

/-- A call with a number of calls and delays before it. -/
def attempt (before : Nat) : Attempt :=
  { began := script.began begin before, ended := script.ended begin before }

/-- The first calls. -/
def made (count : Nat) : List Attempt := (List.range count).map (script.attempt begin)

@[simp]
theorem length_made (count : Nat) : (script.made begin count).length = count := by
  rw [made, List.length_map, List.length_range]

theorem made_succ (count : Nat) :
    script.made begin (count + 1) = script.made begin count ++ [script.attempt begin count] := by
  rw [made, List.range_succ, List.map_append, List.map_singleton, made]

theorem getElem?_made {count index : Nat} {attempt : Attempt}
    (found : (script.made begin count)[index]? = some attempt) : attempt = script.attempt begin index := by
  have inside : index < count := by
    simpa using (List.getElem?_eq_some_iff.mp found).1
  simpa [made, inside] using found.symm

/-- Further calls are those behind another one. -/
theorem mem_tail_made {count : Nat} {attempt : Attempt}
    (inside : attempt ∈ (script.made begin (count + 1)).tail) :
    ∃ before, before < count ∧ script.attempt begin (before + 1) = attempt := by
  rw [made, List.range_succ_eq_map, List.map_cons, List.tail_cons, List.map_map] at inside
  obtain ⟨before, among, same⟩ := List.mem_map.mp inside
  exact ⟨before, List.mem_range.mp among, same⟩

/-- The clock at the beginning of a call. -/
def reached (before : Nat) : Timeline :=
  { now := script.began begin before, made := script.made begin before }

/-- The clock at the end of a call. -/
def done (before : Nat) : Timeline :=
  { now := script.ended begin before, made := script.made begin (before + 1) }

theorem call_reached (before : Nat) :
    script.call (script.reached begin before) = (script.outcome (before + 1), script.done begin before) := by
  simp only [call, reached, length_made, done, made_succ, attempt, ended]

/-! ## Attempts -/

/-- A call is followed by another one, if one more is allowed: it failed in a way that may pass, and the delay
ends within the time allowed. -/
def Repeats (before : Nat) : Prop :=
  ∃ cause, script.outcome (before + 1) = .error cause ∧ cause.retriable = true ∧
    policy.isOverdue (script.ended begin before - begin) (script.delay (before + 1)) = false

/-- What an attempt leads to while another one is allowed. -/
theorem attempts_succ (left before : Nat) :
    attempts script.clock policy begin (fun _ => script.call) (left + 1) (before + 1)
        (script.reached begin before) =
      match script.outcome (before + 1) with
      | .ok value => ((.ok value, before + 1), script.done begin before)
      | .error cause =>
          if cause.retriable = true ∧
              policy.isOverdue (script.ended begin before - begin) (script.delay (before + 1)) = false then
            attempts script.clock policy begin (fun _ => script.call) left (before + 2)
              (script.reached begin (before + 1))
          else ((.error cause, before + 1), script.done begin before) := by
  simp only [attempts, bind, StateT.bind, script.call_reached begin before]
  cases script.outcome (before + 1) with
  | ok value => rfl
  | error cause =>
      obtain ⟨retriable, failure⟩ := cause
      cases retriable with
      | false => rfl
      | true =>
          have now : (script.done begin before).now = script.ended begin before := rfl
          simp only [Bool.not_true, Bool.false_eq_true, ↓reduceIte, StateT.bind, bind, clock_delay, clock_now, now]
          cases policy.isOverdue (script.ended begin before - begin) (script.delay (before + 1)) <;> rfl

/-- A call that is repeated is followed by the next one. -/
theorem attempts_of_repeats {before : Nat} (repeats : script.Repeats policy begin before) (left : Nat) :
    attempts script.clock policy begin (fun _ => script.call) (left + 1) (before + 1)
        (script.reached begin before) =
      attempts script.clock policy begin (fun _ => script.call) left (before + 2)
        (script.reached begin (before + 1)) := by
  obtain ⟨cause, failed, retriable, timely⟩ := repeats
  rw [attempts_succ, failed]
  exact if_pos ⟨retriable, timely⟩

/-- A call that is not repeated ends the attempts. -/
theorem attempts_of_not_repeats {before : Nat} (ends : ¬ script.Repeats policy begin before) (left : Nat) :
    attempts script.clock policy begin (fun _ => script.call) (left + 1) (before + 1)
        (script.reached begin before) =
      ((script.outcome (before + 1), before + 1), script.done begin before) := by
  rw [attempts_succ]
  cases came : script.outcome (before + 1) with
  | ok value => rfl
  | error cause => exact if_neg fun both => ends ⟨cause, came, both⟩

/-- Calls are repeated up to the first that may not be, or as long as another one is allowed. -/
theorem attempts_eq (left before : Nat) :
    ∃ last, before ≤ last ∧ last ≤ before + left ∧
      attempts script.clock policy begin (fun _ => script.call) left (before + 1)
          (script.reached begin before) =
        ((script.outcome (last + 1), last + 1), script.done begin last) ∧
      (∀ other, before ≤ other → other < last → script.Repeats policy begin other) ∧
      (last < before + left → ¬ script.Repeats policy begin last) := by
  -- each attempt that is repeated moves one from those left to those before
  induction left generalizing before with
  | zero =>
      refine ⟨before, Nat.le_refl _, Nat.le_refl _, ?_, ?_, fun less => absurd less (Nat.lt_irrefl _)⟩
      · simp only [attempts, bind, StateT.bind, script.call_reached begin before]
        rfl
      · exact fun other later earlier => absurd later (Nat.not_le.mpr earlier)
  | succ left ih =>
      by_cases repeats : script.Repeats policy begin before
      · obtain ⟨last, after, within, ran, all, ends⟩ := ih (before + 1)
        refine ⟨last, by omega, by omega, ?_, ?_, fun less => ends (by omega)⟩
        · rw [attempts_of_repeats script policy begin repeats, ran]
        · intro other later earlier
          rcases Nat.lt_or_eq_of_le later with behind | rfl
          · exact all other behind earlier
          · exact repeats
      · refine ⟨before, Nat.le_refl _, Nat.le_add_right _ _, ?_, ?_, fun _ => repeats⟩
        · exact script.attempts_of_not_repeats policy begin repeats left
        · exact fun other later earlier => absurd later (Nat.not_le.mpr earlier)

/-- A failure that may pass is not followed by another call only where the time allowed would be over. -/
theorem overdue_of_not_repeats {script : Script α} {policy : RetryPolicy} {begin : Duration} {before : Nat}
    {cause : RemoteError} (ends : ¬ script.Repeats policy begin before)
    (failed : script.outcome (before + 1) = .error cause) (retriable : cause.retriable = true) :
    ∃ limit, policy.totalDuration = some limit ∧
      limit < script.ended begin before - begin + script.delay (before + 1) := by
  cases limited : policy.totalDuration with
  | none => exact absurd ⟨cause, failed, retriable, by rw [RetryPolicy.isOverdue, limited]⟩ ends
  | some limit =>
      refine ⟨limit, rfl, Classical.not_not.mp fun early => ends ⟨cause, failed, retriable, ?_⟩⟩
      rw [RetryPolicy.isOverdue, limited]
      exact decide_eq_false early

/-- A call behind one that is repeated begins within the time allowed. -/
theorem Repeats.timely {script : Script α} {policy : RetryPolicy} {begin : Duration} {before : Nat}
    (repeats : script.Repeats policy begin before) {limit : Duration}
    (limited : policy.totalDuration = some limit) :
    script.began begin (before + 1) ≤ begin + limit := by
  obtain ⟨-, -, -, early⟩ := repeats
  have past : begin.nanos ≤ (script.ended begin before).nanos := script.begin_le_ended begin before
  simp only [RetryPolicy.isOverdue, limited, decide_eq_false_iff_not] at early
  have room : (script.ended begin before - begin + script.delay (before + 1)).nanos ≤ limit.nanos :=
    Nat.not_lt.mp early
  show (script.ended begin before + script.delay (before + 1)).nanos ≤ (begin + limit).nanos
  simp only [Duration.nanos_add, Duration.nanos_sub] at room ⊢
  omega

/-- A run makes the calls up to the first that is not repeated, if another one is allowed. -/
theorem run_eq (operation : Operation) (object : String) :
    ∃ last ≤ policy.maxAttempts - 1,
      run script.clock policy operation object (fun _ => script.call) { now := begin, made := [] } =
        (match script.outcome (last + 1) with
          | .ok value => .ok value
          | .error cause => .error (.remote operation object (last + 1) cause), script.done begin last) ∧
      (∀ before < last, script.Repeats policy begin before) ∧
      (last < policy.maxAttempts - 1 → ¬ script.Repeats policy begin last) := by
  obtain ⟨last, -, within, attempted, all, ends⟩ := script.attempts_eq policy begin (policy.maxAttempts - 1) 0
  rw [Nat.zero_add] at within attempted ends
  refine ⟨last, within, ?_, fun before => all before (Nat.zero_le _), ends⟩
  have begun : script.reached begin 0 = { now := begin, made := [] } := rfl
  rw [begun] at attempted
  simp only [run, bind, StateT.bind, clock_now, attempted]
  cases script.outcome (last + 1) <;> rfl

end Script

/-- A run keeps its contract. -/
theorem run_contract (policy : RetryPolicy) (operation : Operation) (object : String) (script : Script α)
    (begin : Duration) :
    let ran := run script.clock policy operation object (fun _ => script.call) { now := begin, made := [] }
    Contract policy operation object script begin ran.1 ran.2.made := by
  obtain ⟨last, within, ran, all, ends⟩ := script.run_eq policy begin operation object
  rw [ran]
  show Contract policy operation object script begin _ (script.made begin (last + 1))
  have length : (script.made begin (last + 1)).length = last + 1 := script.length_made begin (last + 1)
  constructor
  case once =>
    rw [length]
    exact Nat.le_add_left 1 last
  case bounded =>
    rw [length]
    omega
  case passing =>
    intro number positive earlier
    rw [length] at earlier
    obtain ⟨cause, failed, retriable, -⟩ := all (number - 1) (by omega)
    rw [Nat.sub_add_cancel positive] at failed
    exact ⟨cause, failed, retriable⟩
  case result => rw [length]
  case patient =>
    intro cause final failed retriable spare found
    rw [length] at failed spare ⊢
    obtain rfl : script.attempt begin last = final := by simpa [script.made_succ] using found
    exact Script.overdue_of_not_repeats (ends (by omega)) failed retriable
  case prompt => exact ⟨script.attempt begin 0, by simp [Script.made, List.range_succ_eq_map], rfl⟩
  case lasting =>
    intro index attempt found
    rw [script.getElem?_made begin found]
    rfl
  case waiting =>
    intro index attempt next found later
    rw [script.getElem?_made begin found, script.getElem?_made begin later]
    rfl
  case timely =>
    intro limit limited attempt inside
    obtain ⟨before, earlier, rfl⟩ := script.mem_tail_made begin inside
    exact (all before earlier).timely limited

end RecordSink.Retry
