import RecordSink.Proofs.Simulation.Names
import RecordSink.Proofs.SinkFile.Deletions

/-!
# Simulations on trial

A simulation whose store is on trial: any faults that an emulated store injects come at any requests. What a
file of it does to the store is confined to the objects of the file.
-/

namespace RecordSink

open Emulator Ordeal

variable {τ : Type}

/-- What a step comes to in each of several ways, it comes to in all of them. -/
theorem Ordeal.Passes.all {α ι : Type} [Nonempty ι] {P : Moment → List Moment → Prop} {pre : History → Prop}
    {step : StateM (Ordeal τ) α} {post : ι → α → History → Prop}
    (each : ∀ index, Passes P pre step (post index)) :
    Passes P pre step fun value history => ∀ index, post index value history :=
  fun world begins =>
    ⟨(each (Classical.arbitrary ι) world begins).1, fun index => (each index world begins).2⟩

namespace Simulation

/-! ## Faults -/

/-- What an emulated store injects: a refusal as forbidden or unavailable, a lost response, or nothing. -/
def IsInjected : Option Fault → Prop
  | some (.refuse status _) => status = 403 ∨ status = 503
  | some .lose => True
  | none => True

/-- A schedule of injected faults, without other clients. -/
structure Injects (schedule : Schedule) : Prop where
  alone : ∀ number, (schedule number).deeds = []
  fault : ∀ number, IsInjected (schedule number).fault

/-- No injected fault lies about a delete. -/
theorem Injects.honest {schedule : Schedule} (injects : Injects schedule) (moments : List Moment) :
    Honest schedule moments := by
  intro moment past _ _ _ _ status message refuses
  have injected := injects.fault past.length
  rw [refuses] at injected
  rcases injected with rfl | rfl <;> decide

/-! ## Harnesses -/

/-- The harness of a simulation on trial, if the settings make a valid configuration. -/
def Settings.onTrial (settings : Settings) (schedule : Schedule) (clock : Clock τ)
    (markers : Nat → Marker) : Except ConfigError (Harness (Ordeal τ)) := do
  let credentials : CredentialSource τ := .fixed (.bearer Settings.token)
  let sink ← Sink.connect settings.config (Ordeal.link schedule) (Ordeal.credentials credentials)
    (Ordeal.clock clock)
  return { settings, sink, markers, emulator := (·.history.store) }

/-- Settings with room for a record and at least one attempt make a valid configuration, as those of a calm
simulation do. -/
theorem Settings.validate_config {settings : Settings} (capacity : 1 ≤ settings.capacity)
    (attempts : 1 ≤ settings.maxAttempts) : settings.config.validate = .ok () := by
  have records : settings.config.recordsPerSync ≠ 0 := Nat.ne_of_gt capacity
  have tries : settings.config.retry.maxAttempts ≠ 0 := Nat.ne_of_gt attempts
  have known : (Settings.calm 0).config.validate = .ok () := by
    decide +kernel
  have calmRecords : (Settings.calm 0).config.recordsPerSync ≠ 0 := by decide
  have calmTries : (Settings.calm 0).config.retry.maxAttempts ≠ 0 := by decide
  rw [Config.validate, RetrySettings.validate, if_neg calmRecords, if_neg calmTries] at known
  rw [Config.validate, RetrySettings.validate, if_neg records, if_neg tries]
  exact known

/-- The client of the sink under test. -/
abbrev Harness.client {W : Type} (harness : Harness W) : Client W := harness.sink.store.client

/-- A harness has its store on trial, and its sink is the one of its settings. -/
structure OnTrial (schedule : Schedule) (harness : Harness (Ordeal τ)) : Prop where
  injects : Injects schedule
  addressed : harness.client.IsAddressed
  link : harness.client.link = Ordeal.link schedule
  credentials : ∃ source, harness.client.credentials = Ordeal.credentials source
  clock : ∃ clock, harness.sink.store.clock = Ordeal.clock clock
  bucket : harness.client.bucket = Settings.bucket
  config : harness.sink.config = harness.settings.config
  emulator : ∀ world, harness.emulator world = world.history.store

theorem Settings.exists_onTrial {settings : Settings} (capacity : 1 ≤ settings.capacity)
    (attempts : 1 ≤ settings.maxAttempts) {schedule : Schedule} (injects : Injects schedule)
    (clock : Clock τ) (markers : Nat → Marker) :
    ∃ harness, settings.onTrial schedule clock markers = .ok harness ∧ harness.settings = settings ∧
      OnTrial schedule harness := by
  obtain ⟨endpoint, connected, addressed⟩ := Sink.connect_of_validate
    (settings.validate_config capacity attempts) (Ordeal.link schedule)
    (Ordeal.credentials (.fixed (.bearer Settings.token))) (Ordeal.clock clock)
  refine ⟨_, by rw [onTrial, connected]; rfl, rfl, ?_⟩
  exact ⟨injects, addressed, rfl, ⟨_, rfl⟩, ⟨_, rfl⟩, rfl, rfl, fun _ => rfl⟩

variable {schedule : Schedule} {harness : Harness (Ordeal τ)} {names : FileNames} {name : String}
  {start now : Emulator}

/-- The objects of a file and one more object, of any file. -/
def watched (harness : Harness (Ordeal τ)) (names : FileNames) (text : String) : List Place :=
  names.all.map harness.client.place ++ [⟨Settings.bucket, text⟩]

/-- Besides its own objects, any object can be watched while a file of the simulation is used. -/
theorem OnTrial.houses (trial : OnTrial schedule harness) (gives : harness.settings.Gives name names)
    (text : String) : harness.sink.store.Houses (watched harness names text) schedule names := by
  have apart := FileNames.isFor_of_ofDirectories gives
  refine ⟨⟨⟨trial.addressed, trial.link, ?_, trial.credentials⟩, trial.clock⟩, ?_, apart.inflight_ne_part,
    apart.working_ne_publish.1, apart.working_ne_publish.2⟩
  · intro number deed inside
    rw [trial.injects.alone number] at inside
    cases inside
  · exact fun object inside => List.mem_append_left _ (List.mem_map_of_mem inside)

/-- Between two moments only objects of a file have changed. -/
def Confined (name : String) (start now : Emulator) : Prop :=
  ∀ text ∉ objectTexts name,
    now.objects.get? ⟨Settings.bucket, text⟩ = start.objects.get? ⟨Settings.bucket, text⟩

theorem Confined.refl (name : String) (store : Emulator) : Confined name store store := fun _ _ => rfl

/-- What leaves alone any object that is watched, but for some of a file, is confined to the file. -/
theorem Confined.of_elsewhere (gives : harness.settings.Gives name names) {targets : List ObjectName}
    (own : ∀ target ∈ targets, target ∈ names.all)
    (elsewhere : ∀ text, Elsewhere (watched harness names text) (targets.map harness.client.place) start now) :
    Confined name start now := by
  intro text other
  refine (elsewhere text).objects _ (by simp [watched]) ?_
  intro inside
  obtain ⟨target, among, same⟩ := List.mem_map.mp inside
  have named : target.text = text := congrArg Place.name same
  exact other (gives.mem_objectTexts_iff.mpr (named ▸ List.mem_map_of_mem (own target among)))

end Simulation

end RecordSink
