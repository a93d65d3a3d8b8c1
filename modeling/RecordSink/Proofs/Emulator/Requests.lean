import RecordSink.Emulator
import RecordSink.Proofs.Json.RoundTrip

/-!
# Effects of applied requests

What applying a request can do to a store: count it, write one object, or remove one; and what it does
where nothing stands in its way.
-/

namespace RecordSink.Emulator

/-- A request that is applied leaves a store as it is but for its counters, or it writes an object or
removes one besides. -/
theorem apply_cases (route : Route) (body : Bytes) (store : Emulator) :
    ∃ stats, (store.apply route body).2 = { store with stats } ∨
      (∃ place data contentType,
        (store.apply route body).2 = { store with stats }.write place data contentType) ∨
      ∃ place, (store.apply route body).2 = { store with stats, objects := store.objects.erase place } := by
  have same : ∃ stats, store = { store with stats } ∨
      (∃ place data contentType, store = { store with stats }.write place data contentType) ∨
      ∃ place, store = { store with stats, objects := store.objects.erase place } :=
    ⟨store.stats, .inl rfl⟩
  cases route with
  | upload bucket name =>
      dsimp only [apply, applyUpload]
      split
      · exact same
      split
      · exact same
      · exact ⟨_, .inr (.inl ⟨_, _, _, rfl⟩)⟩
  | compose bucket name generation =>
      dsimp only [apply, applyCompose]
      split
      · exact same
      split
      · exact same
      split
      · exact same
      split
      · exact same
      split
      · exact same
      · exact ⟨_, .inr (.inl ⟨_, _, _, rfl⟩)⟩
  | delete bucket name =>
      dsimp only [apply, applyDelete]
      split
      · exact same
      · exact ⟨_, .inr (.inr ⟨_, rfl⟩)⟩
  | getObject bucket name =>
      dsimp only [apply]
      split <;> exact same
  | getBucket bucket =>
      dsimp only [apply, applyGetBucket]
      split
      · exact same
      · exact ⟨_, .inl rfl⟩
  | unknown => exact same

variable {store : Emulator} {bucket name : String}

/-- An upload into a bucket that exists writes its body. -/
theorem apply_upload (known : bucket ∈ store.buckets) (body : Bytes) :
    store.apply (.upload bucket (some name)) body = stored ⟨bucket, name⟩ body defaultType
      { store with stats := { store.stats with uploads := store.stats.uploads + 1 } } := by
  dsimp only [apply, applyUpload]
  rw [if_neg (not_not_intro known)]

/-- A compose that asks for the current generation, or for none, is not refused for it. -/
theorem not_any_of_met {generation : Option String}
    (met : ∀ asked, generation = some asked →
      asked = Numeral.decimal (store.generationAt ⟨bucket, name⟩)) :
    ¬ generation.any (· != Numeral.decimal (store.generationAt ⟨bucket, name⟩)) = true := by
  cases generation with
  | none => exact Bool.false_ne_true
  | some asked => simp [← met asked rfl]

/-- A compose of objects that exist, at the generation that it asks for, writes their concatenation. -/
theorem apply_compose (known : bucket ∈ store.buckets) {generation : Option String}
    (met : ∀ asked, generation = some asked →
      asked = Numeral.decimal (store.generationAt ⟨bucket, name⟩))
    {sources : List String} (filled : sources ≠ []) {pieces : List Bytes}
    (gathered : store.gather (sources.map fun source => ⟨bucket, source⟩) = .ok pieces)
    (contentType : String) :
    store.apply (.compose bucket name generation) (ComposeRequest.mk contentType sources).toJson.render =
      stored ⟨bucket, name⟩ pieces.flatten contentType
        { store with stats := { store.stats with composes := store.stats.composes + 1 } } := by
  dsimp only [apply, applyCompose]
  rw [if_neg (not_not_intro known), if_neg (not_any_of_met met), ComposeRequest.read?_render]
  dsimp only
  rw [if_neg filled, gathered]

/-- A compose with a source that does not exist is refused for it. -/
theorem apply_compose_missing (known : bucket ∈ store.buckets) {generation : Option String}
    (met : ∀ asked, generation = some asked →
      asked = Numeral.decimal (store.generationAt ⟨bucket, name⟩))
    {sources : List String} (filled : sources ≠ []) {missing : Place}
    (failed : store.gather (sources.map fun source => ⟨bucket, source⟩) = .error missing)
    (contentType : String) :
    store.apply (.compose bucket name generation) (ComposeRequest.mk contentType sources).toJson.render =
      (noObject missing, store) := by
  dsimp only [apply, applyCompose]
  rw [if_neg (not_not_intro known), if_neg (not_any_of_met met), ComposeRequest.read?_render]
  dsimp only
  rw [if_neg filled, failed]

end RecordSink.Emulator
