import RecordSink.Proofs.Simulation.Operations

/-!
# Silent simulations

A simulation on trial never raises an alarm: whatever operations its workload generates, whatever faults are
injected, and however often it is run and checked.
-/

namespace RecordSink

/-! ## Draws -/

namespace Random

theorem uniformIn_lt {range : Nat} (positive : 0 < range) (zone tries : Nat) (source : Random) :
    (uniformIn range zone tries source).1 < range := by
  induction tries generalizing source with
  | zero => exact positive
  | succ tries ih =>
      rw [uniformIn]
      dsimp only
      split
      · refine Nat.div_lt_of_lt_mul ?_
        exact Nat.mul_lt_mul_of_pos_right source.wide.1.toNat_lt positive
      · exact ih _

/-- A number that is drawn up to a bound is not greater. -/
theorem upTo_le (source : Random) (bound : Nat) : (source.upTo bound).1 ≤ bound :=
  Nat.lt_succ_iff.mp (uniformIn_lt (Nat.succ_pos bound) _ _ source)

/-- As many bytes are drawn as are asked for. -/
theorem length_bytes (source : Random) (count : Nat) : (source.bytes count).1.length = count := by
  induction source, count using bytes.induct with
  | case1 source =>
      rw [bytes]
      rfl
  | case6 source rest word next drawn more final further ih =>
      rw [further] at ih
      rw [bytes, drawn]
      dsimp only
      rw [further]
      dsimp only at ih ⊢
      rw [List.length_append, Bytes.length_ofNatLE, ih]
      omega
  | _ =>
      rw [bytes]
      simp [Bytes.length_ofNatLE]

end Random

/-- A listed name has an object. -/
theorem Emulator.Objects.isSome_of_mem_names {objects : Objects} {bucket text : String}
    (inside : text ∈ objects.names bucket) : (objects.get? ⟨bucket, text⟩).isSome = true := by
  rw [names, List.mem_mergeSort] at inside
  obtain ⟨⟨place, object⟩, among, rfl⟩ := List.mem_map.mp inside
  obtain ⟨listed, here⟩ := List.mem_filter.mp among
  have bucketed : place.bucket = bucket := of_decide_eq_true here
  subst bucketed
  rw [get?, Option.isSome_iff_ne_none]
  intro none
  have other := List.lookup_eq_none_iff.mp none (place, object) listed
  simp at other

namespace Simulation

open Emulator Ordeal RecordSink.Stream

section

variable {τ : Type} {schedule : Schedule} {harness : Harness (Ordeal τ)} {progress further : Progress}
  {history begun : History} {world origin : Ordeal τ} {name text : String} {number : Nat} {step : Step}

/-! ## Checks -/

/-- A check says nothing about an object that is explained. -/
theorem Explains.checkObject_eq (explains : Explains none progress (Progress.fileName number) text) :
    harness.checkObject progress text = progress := by
  obtain ⟨listed, reason⟩ := explains
  have isLeaked : progress.HasLeaked (Progress.fileName number) →
      progress.leaked.any (·.1 == Progress.fileName number) = true := by
    rintro ⟨entry, inside, same⟩
    exact List.any_eq_true.mpr ⟨entry, inside, beq_iff_eq.mpr same⟩
  rcases List.mem_cons.mp listed with rfl | working
  · have found : Harness.after? (harness.settings.config.publishDir ++ "/")
        (publishText (Progress.fileName number)) = some (Progress.fileName number) :=
      Harness.after?_append _ _
    rw [Harness.checkObject]
    dsimp only
    rw [found]
    refine if_pos ?_
    rw [Bool.or_eq_true]
    rcases reason with none | leaked | ⟨-, entry, inside, same⟩
    · cases none
    · exact .inr (isLeaked leaked)
    · exact .inl (List.any_eq_true.mpr ⟨entry, inside, beq_iff_eq.mpr same⟩)
  · have leaked : progress.HasLeaked (Progress.fileName number) := by
      rcases reason with none | leaked | ⟨rfl, -⟩
      · cases none
      · exact leaked
      · exact absurd working (publishText_not_mem_workingTexts _ _)
    obtain ⟨rest, rfl, base⟩ : ∃ rest, text = "inflight/" ++ rest ∧
        Harness.without ObjectName.partSuffix rest = Progress.fileName number := by
      simp only [workingTexts, List.mem_cons, List.not_mem_nil, or_false] at working
      rcases working with rfl | rfl
      · exact ⟨_, rfl, Progress.without_fileName number⟩
      · exact ⟨_, rfl, Harness.without_append _ _⟩
    have other : Harness.after? (harness.settings.config.publishDir ++ "/") ("inflight/" ++ rest) = none :=
      Harness.after?_published rest
    have found : Harness.after? (harness.settings.config.workingDir ++ "/") ("inflight/" ++ rest) = some rest :=
      Harness.after?_append _ _
    rw [Harness.checkObject]
    dsimp only
    rw [other, found]
    dsimp only
    rw [base]
    exact if_pos (isLeaked leaked)

/-- Nothing changes where no member changes anything. -/
theorem foldl_eq {α β : Type} {step : α → β → α} {start : α} {members : List β}
    (fixed : ∀ member ∈ members, step start member = start) : members.foldl step start = start := by
  induction members with
  | nil => rfl
  | cons member rest ih =>
      obtain ⟨first, others⟩ := List.forall_mem_cons.mp fixed
      rw [List.foldl_cons, first, ih others]

/-- The first half of a check: the open file is discarded. -/
def settle (harness : Harness (Ordeal τ)) (progress : Progress) : StateM (Ordeal τ) Progress :=
  match progress.current with
  | none => return progress
  | some shadow => do
      let (_, progress) ← harness.discardShadow shadow { progress with current := none }
      return progress

/-- The second half of a check: the store is compared with the progress. -/
def survey (harness : Harness (Ordeal τ)) (progress : Progress) (world : Ordeal τ) : Progress :=
  let published := progress.published.mergeSort fun first second => decide (first.1 ≤ second.1)
  let matched := published.foldl
    (fun progress (name, records) =>
      harness.expect (harness.settings.config.publishDir ++ "/" ++ name) records progress world)
    progress
  ((harness.emulator world).objects.names Settings.bucket).foldl harness.checkObject matched

theorem checkInvariants_eq (harness : Harness (Ordeal τ)) (progress : Progress) :
    harness.checkInvariants progress = do
      let settled ← settle harness progress
      let world ← get
      let surveyed := survey harness settled world
      return { surveyed with report := { surveyed.report with store := (harness.emulator world).stats } } := by
  rw [Harness.checkInvariants, settle]
  cases progress.current <;> rfl

/-- Where no file is open, the store is as it should be. -/
theorem OnTrial.survey_eq (trial : OnTrial schedule harness)
    (keeps : Keeps none progress world.history.store) : survey harness progress world = progress := by
  have matched : (progress.published.mergeSort fun first second => decide (first.1 ≤ second.1)).foldl
      (fun progress (name, records) =>
        harness.expect (harness.settings.config.publishDir ++ "/" ++ name) records progress world) progress =
      progress := by
    refine foldl_eq fun entry inside => trial.expect_eq ?_ progress
    exact (keeps.published entry (List.mem_mergeSort.mp inside)).2.2
  rw [survey, matched]
  refine foldl_eq fun text inside => ?_
  rw [trial.emulator] at inside
  obtain ⟨number, -, explains⟩ := keeps.explained text (Objects.isSome_of_mem_names inside)
  exact explains.checkObject_eq

/-- A check raises no alarm and leaves no file open. -/
theorem OnTrial.passes_check (trial : OnTrial schedule harness) (stays : Stays harness progress begun) :
    Passes (fun _ _ => True) (fun now => now = begun) (harness.checkInvariants progress)
      fun result history => Stays harness result history ∧ result.current = none := by
  have settling : Passes (fun _ _ => True) (fun now => now = begun) (settle harness progress)
      fun result history => Stays harness result history ∧ result.current = none := by
    rw [settle]
    cases current : progress.current with
    | none =>
        refine .pure ?_
        rintro history rfl
        exact ⟨stays, current⟩
    | some shadow => exact .bind (trial.passes_discard stays current) fun _ => .pure fun _ holds => holds
  rw [checkInvariants_eq]
  refine .bind settling fun settled => .bind passes_get fun world => .pure ?_
  rintro history ⟨⟨stayed, idle⟩, rfl⟩
  have keeps := stayed.keeps
  rw [idle] at keeps
  dsimp only
  rw [trial.survey_eq keeps]
  exact ⟨stayed.onwards rfl rfl rfl rfl rfl, idle⟩

/-! ## Workloads -/

/-- The operations that a workload can generate, and the progress after they were generated: without an open
file the creation of the next one, else any other, with any record up to the greatest size. -/
inductive Offers (settings : Settings) (progress : Progress) : Step → Progress → Prop
  | create (idle : progress.current = none) :
      Offers settings progress (.create (Progress.fileName (progress.files + 1)))
        { progress with files := progress.files + 1 }
  | append (busy : progress.current ≠ none) (random : Random) (record : Bytes)
      (short : record.length ≤ settings.maxRecordSize) :
      Offers settings progress (.append record) { progress with random }
  | sync (busy : progress.current ≠ none) (random : Random) :
      Offers settings progress .sync { progress with random }
  | publish (busy : progress.current ≠ none) (random : Random) :
      Offers settings progress .publish { progress with random }
  | discard (busy : progress.current ≠ none) (random : Random) :
      Offers settings progress .discard { progress with random }

/-- What is generated next is offered. -/
theorem offers_next (settings : Settings) (small : settings.maxRecordSize < lengthBound)
    (progress : Progress) :
    Offers settings progress (progress.next settings).1 (progress.next settings).2 := by
  rw [Progress.next]
  split
  · next idle => exact .create idle
  · next shadow current =>
      have busy : progress.current ≠ none := by simp [current]
      dsimp only
      split
      · exact .publish busy _
      split
      · exact .discard busy _
      split
      · exact .sync busy _
      have within := progress.random.unit.2.upTo_le settings.maxRecordSize
      have room : ¬ Progress.tooLarge ≤ (progress.random.unit.2.upTo settings.maxRecordSize).1 := by
        have bound : lengthBound ≤ Progress.tooLarge := by decide
        omega
      rw [if_neg room]
      refine .append busy _ _ ?_
      rw [Random.length_bytes]
      exact within

/-- What is offered changes nothing but which file and which numbers come next. -/
theorem Offers.stays (offered : Offers harness.settings progress step further)
    (stays : Stays harness progress history) : Stays harness further history := by
  cases offered with
  | create idle =>
      have keeps := stays.keeps
      rw [idle] at keeps
      exact .of_idle (keeps.onwards rfl (Nat.le_succ _) (fun _ leaked => leaked) rfl) idle
  | append => exact stays.onwards rfl rfl rfl rfl rfl
  | sync => exact stays.onwards rfl rfl rfl rfl rfl
  | publish => exact stays.onwards rfl rfl rfl rfl rfl
  | discard => exact stays.onwards rfl rfl rfl rfl rfl

/-- An operation that is offered raises no alarm. -/
theorem OnTrial.passes_perform (trial : OnTrial schedule harness)
    (small : harness.settings.maxRecordSize < lengthBound) (stays : Stays harness progress begun)
    (fits : progress.Fits) (offered : Offers harness.settings progress step further) :
    Passes (fun _ _ => True) (fun now => now = begun) (harness.perform step further)
      fun result history => Stays harness result history := by
  have ready := offered.stays stays
  suffices executed : Passes (fun _ _ => True) (fun now => now = begun) (harness.execute step further)
      fun result history => Stays harness result.2 history by
    rw [Harness.perform]
    refine .bind executed ?_
    rintro ⟨success, progress⟩
    refine .pure fun history stays => ?_
    refine stays.onwards ?_ rfl rfl rfl rfl
    cases success <;> rfl
  cases offered with
  | create idle =>
      have keeps := stays.keeps
      rw [idle] at keeps
      have next := Nat.lt_succ_self progress.files
      have kept : Keeps (some (Progress.fileName (progress.files + 1)))
          { progress with files := progress.files + 1 } begun.store :=
        (keeps.enter next).onwards rfl (Nat.le_succ _) (fun _ leaked => leaked) rfl
      have entered : ({ progress with files := progress.files + 1 } : Progress).current = none := idle
      have created := trial.passes_create entered kept fun text listed => keeps.vacant next listed
      exact created
  | append busy random record short =>
      show Passes _ _ (pure (harness.append record { progress with random })) _
      refine .pure ?_
      rintro history rfl
      exact ready.append (Nat.lt_of_le_of_lt short small)
  | sync busy random => exact trial.passes_sync ready fits
  | publish busy random => exact trial.passes_publish ready fits
  | discard busy random =>
      obtain ⟨shadow, current⟩ := Option.ne_none_iff_exists'.mp busy
      rw [Harness.execute, Harness.discard, current]
      exact (trial.passes_discard ready current).mono (fun _ _ _ => trivial) (fun _ begins => begins)
        fun _ _ holds => holds.1

/-- A run makes its first operation, and goes on from there. -/
theorem Harness.run_succ {W : Type} (harness : Harness W) (operations : Nat) (progress : Progress) (world : W) :
    harness.run (operations + 1) progress world =
      if (progress.next harness.settings).2.report.exhausted then ((progress.next harness.settings).2, world)
      else harness.run operations
        (harness.perform (progress.next harness.settings).1 (progress.next harness.settings).2 world).1
        (harness.perform (progress.next harness.settings).1 (progress.next harness.settings).2 world).2 := by
  rw [Harness.run]
  dsimp only
  split <;> rfl

/-- A run raises no alarm. -/
theorem OnTrial.stays_run (trial : OnTrial schedule harness)
    (small : harness.settings.maxRecordSize < lengthBound) (operations : Nat)
    (stays : Stays harness progress world.history)
    (fits : ∀ earlier < operations, (harness.run earlier progress world).1.Fits) :
    Stays harness (harness.run operations progress world).1 (harness.run operations progress world).2.history := by
  induction operations generalizing progress world with
  | zero => exact stays
  | succ operations ih =>
      have offered := offers_next harness.settings small progress
      have ready := offered.stays stays
      by_cases exhausted : (progress.next harness.settings).2.report.exhausted = true
      · rw [harness.run_succ, if_pos exhausted]
        exact ready
      · have performed := (trial.passes_perform small stays (fits 0 (Nat.succ_pos _)) offered world rfl).2
        rw [harness.run_succ, if_neg exhausted]
        refine ih performed fun earlier less => ?_
        have later := fits (earlier + 1) (Nat.succ_lt_succ less)
        rw [harness.run_succ, if_neg exhausted] at later
        exact later

/-! ## Simulations -/

/-- How far a simulation can come from its beginning, by operations that are offered, runs and checks, as long as
no stream grows too long for its size to be written. -/
inductive Reached {W : Type} (harness : Harness W) (origin : W) : Progress → W → Prop
  | begin : Reached harness origin harness.settings.begin origin
  | perform {progress next : Progress} {step : Step} {world : W} (reached : Reached harness origin progress world)
      (fits : progress.Fits) (offered : Offers harness.settings progress step next) :
      Reached harness origin (harness.perform step next world).1 (harness.perform step next world).2
  | run {progress : Progress} {world : W} (reached : Reached harness origin progress world) (operations : Nat)
      (fits : ∀ earlier < operations, (harness.run earlier progress world).1.Fits) :
      Reached harness origin (harness.run operations progress world).1 (harness.run operations progress world).2
  | check {progress : Progress} {world : W} (reached : Reached harness origin progress world) :
      Reached harness origin (harness.checkInvariants progress world).1 (harness.checkInvariants progress world).2

/-- All is as it should be: no alarm was raised, the published objects and the inflight object of the open file
decode to their records, the open file takes records exactly where its shadow has room, and every object
is explained by a file. -/
structure Sound (harness : Harness (Ordeal τ)) (progress : Progress) (world : Ordeal τ) : Prop where
  silent : progress.report.violations = []
  published : ∀ entry ∈ progress.published,
    Holds ⟨Settings.bucket, publishText entry.1⟩ entry.2 world.history.store
  synced : ∀ shadow ∈ progress.current,
    Holds ⟨Settings.bucket, shadow.file.names.inflight.text⟩ shadow.synced world.history.store
  appends : ∀ shadow ∈ progress.current, ∀ record : Bytes, record.length < lengthBound →
    (shadow.file.append record).1 =
      if shadow.buffered.length < harness.settings.capacity then .ok ()
      else .error (.capacityExceeded harness.settings.capacity)
  explained : ∀ text, (world.history.store.objects.get? ⟨Settings.bucket, text⟩).isSome = true →
    ∃ name, Explains (progress.current.map (·.file.name)) progress name text

theorem Stays.sound (stays : Stays harness progress world.history) (trial : OnTrial schedule harness) :
    Sound harness progress world := by
  refine ⟨stays.keeps.silent, fun entry inside => (stays.keeps.published entry inside).2.2, ?_, ?_, ?_⟩
  · intro shadow current
    have holds := (stays.mirrors shadow current).holds
    rw [Client.place, trial.bucket] at holds
    exact holds
  · intro shadow current record short
    have mirrors := stays.mirrors shadow current
    rw [← mirrors.waiting, ← mirrors.capacity]
    split
    · next room => rw [SinkFile.append_progress mirrors.isOpen short room]
    · next full => rw [SinkFile.append_of_full mirrors.isOpen short (Nat.not_lt.mp full)]
  · intro text there
    obtain ⟨number, -, explains⟩ := stays.keeps.explained text there
    exact ⟨_, explains⟩

/-- Nothing is in the store of a simulation at its beginning. -/
theorem stays_begin (settings : Settings) (harness : Harness (Ordeal τ)) :
    Stays harness settings.begin (.fresh settings.store) := by
  refine .of_idle ⟨rfl, ?_, ?_⟩ rfl
  · intro text there
    cases there
  · intro entry none
    cases none

theorem Reached.stays {settings : Settings} (trial : OnTrial schedule harness) (named : harness.settings = settings)
    (small : settings.maxRecordSize < lengthBound) (begun : origin.history = .fresh settings.store)
    (reached : Reached harness origin progress world) : Stays harness progress world.history := by
  subst named
  induction reached with
  | begin =>
      rw [begun]
      exact stays_begin _ harness
  | perform reached fits offered ih => exact (trial.passes_perform small ih fits offered _ rfl).2
  | run reached operations fits ih => exact trial.stays_run small operations ih fits
  | check reached ih => exact (trial.passes_check ih _ rfl).2.1

/-- A simulation never raises an alarm: with room for a record and at least one attempt, its harness is there, and
all is as it should be wherever it comes to. A check leaves no file open, so that every object is then
explained by a file that was published or may have left it behind. -/
theorem sound_of_reached {settings : Settings} (capacity : 1 ≤ settings.capacity)
    (attempts : 1 ≤ settings.maxAttempts) (small : settings.maxRecordSize < lengthBound) (schedule : Schedule)
    (injects : Injects schedule) (clock : Clock τ) (markers : Nat → Marker) (rest : τ) :
    ∃ harness, settings.onTrial schedule clock markers = .ok harness ∧
      ∀ progress world, Reached harness { rest, history := .fresh settings.store } progress world →
        Sound harness progress world ∧ (harness.checkInvariants progress world).1.current = none := by
  obtain ⟨harness, made, named, trial⟩ := settings.exists_onTrial capacity attempts injects clock markers
  refine ⟨harness, made, fun progress world reached => ?_⟩
  have stays := reached.stays trial named small rfl
  exact ⟨stays.sound trial, (trial.passes_check stays world rfl).2.2⟩

end

namespace Trial

def settings : Settings := { Settings.calm 0 with capacity := 1 }

/-- The response to the second request is lost, and the third request is refused. -/
def schedule : Schedule := fun number =>
  { deeds := []
    fault := if number = 1 then some .lose else if number = 2 then some (.refuse 503 "busy") else none }

theorem injects : Injects schedule := by
  refine ⟨fun _ => rfl, fun number => ?_⟩
  dsimp only [schedule]
  split
  · trivial
  split
  · exact .inr rfl
  · trivial

/-- Each file has a marker of its own. -/
def markers (number : Nat) : Marker := ⟨Bytes.ofNatLE 16 number, Bytes.length_ofNatLE 16 number⟩

theorem connects : (settings.onTrial schedule SinkFile.Trial.clock markers).toOption.isSome = true := by
  decide +kernel

def harness : Harness (Ordeal Unit) :=
  (settings.onTrial schedule SinkFile.Trial.clock markers).toOption.get connects

def origin : Ordeal Unit := { rest := (), history := .fresh settings.store }

def created : Progress × Ordeal Unit :=
  let begun := harness.settings.begin
  harness.perform (.create (Progress.fileName (begun.files + 1))) { begun with files := begun.files + 1 } origin

def appended : Progress × Ordeal Unit := harness.perform (.append [1, 2, 3]) created.1 created.2

def published : Progress × Ordeal Unit := harness.perform .publish appended.1 appended.2

/-- A second file is created. -/
def reopened : Progress × Ordeal Unit :=
  let next := { published.1 with files := published.1.files + 1 }
  harness.perform (.create (Progress.fileName next.files)) next published.2

def refilled : Progress × Ordeal Unit := harness.perform (.append [4]) reopened.1 reopened.2

def synced : Progress × Ordeal Unit := harness.perform .sync refilled.1 refilled.2

def checked : Progress × Ordeal Unit := harness.checkInvariants synced.1 synced.2

/-- The first file stays open until it is published, and the second one from then on. It is one evaluation, since
each operation needs the ones before it. -/
theorem proceeds : (created.1.current.isSome = true ∧ created.1.Fits) ∧
    (appended.1.current.isSome = true ∧ appended.1.Fits) ∧
    (published.1.current.isNone = true ∧ published.1.Fits) ∧
    (reopened.1.current.isSome = true ∧ reopened.1.Fits) ∧
    (refilled.1.current.isSome = true ∧ refilled.1.Fits) ∧
    ("file-00001.rec", [[1, 2, 3]]) ∈ synced.1.published ∧
    synced.1.current.map (fun shadow => (shadow.file.names.inflight.text, shadow.synced)) =
      some ("inflight/file-00002.rec", [[4]]) := by
  decide +kernel

theorem reaches : Reached harness origin synced.1 synced.2 := by
  obtain ⟨⟨opened, first⟩, ⟨stillOpen, second⟩, ⟨closed, third⟩, ⟨openAgain, fourth⟩, ⟨filled, fifth⟩, -⟩ :=
    proceeds
  have begun : Reached harness origin harness.settings.begin origin := .begin
  have created : Reached harness origin created.1 created.2 :=
    begun.perform (fun _ none => nomatch none) (.create rfl)
  have appended : Reached harness origin appended.1 appended.2 :=
    created.perform first (.append (Option.ne_none_iff_isSome.mpr opened) _ _ (by decide +kernel))
  have published : Reached harness origin published.1 published.2 :=
    appended.perform second (.publish (Option.ne_none_iff_isSome.mpr stillOpen) _)
  have reopened : Reached harness origin reopened.1 reopened.2 :=
    published.perform third (.create (Option.isNone_iff_eq_none.mp closed))
  have refilled : Reached harness origin refilled.1 refilled.2 :=
    reopened.perform fourth (.append (Option.ne_none_iff_isSome.mpr openAgain) _ _ (by decide +kernel))
  exact refilled.perform fifth (.sync (Option.ne_none_iff_isSome.mpr filled) _)

end Trial

/-- Two files with different markers: although a response was lost and a request refused, the record of the
published one and the synced record of the open one are read back, and a check is silent. -/
theorem sound_of_reached_trial :
    Trial.markers 1 ≠ Trial.markers 2 ∧
      Holds ⟨Settings.bucket, "published/file-00001.rec"⟩ [[1, 2, 3]] Trial.synced.2.history.store ∧
      Holds ⟨Settings.bucket, "inflight/file-00002.rec"⟩ [[4]] Trial.synced.2.history.store ∧
      Trial.checked.1.report.violations = [] := by
  have capacity : 1 ≤ Trial.settings.capacity := by decide
  have attempts : 1 ≤ Trial.settings.maxAttempts := by decide
  have small : Trial.settings.maxRecordSize < lengthBound := by decide
  obtain ⟨harness, made, sound⟩ := sound_of_reached capacity attempts small Trial.schedule Trial.injects
    SinkFile.Trial.clock Trial.markers ()
  cases made.symm.trans (Except.eq_ok_of_isSome Trial.connects)
  obtain ⟨-, -, -, -, -, listed, busy⟩ := Trial.proceeds
  obtain ⟨shadow, current, known⟩ := Option.map_eq_some_iff.mp busy
  obtain ⟨named, records⟩ := Prod.mk.inj known
  have all := (sound _ _ Trial.reaches).1
  have inflight := all.synced shadow current
  rw [named, records] at inflight
  exact ⟨by decide, all.published _ listed, inflight, (sound _ _ Trial.reaches.check).1.silent⟩

end Simulation

end RecordSink
