import RecordSink.Proofs.Json.RoundTrip
import RecordSink.Proofs.Ordeal.World

/-!
# Effects of requests

What a request can do to the objects at some places, whatever other clients and faults do. It
leaves them all alone, or it changes the one object that it names.
-/

namespace RecordSink

open Emulator Ordeal

namespace Emulator

/-! ## Comparing stores -/

/-- Two stores hold the same objects; their counters and records may differ. -/
structure Alike (before after : Emulator) : Prop where
  objects : after.objects = before.objects
  nextGeneration : after.nextGeneration = before.nextGeneration
  buckets : after.buckets = before.buckets

/-- The objects at some places stay as they are. -/
structure Keeps (places : List Place) (before after : Emulator) : Prop where
  objects : ∀ place ∈ places, after.objects.get? place = before.objects.get? place
  generations : before.nextGeneration ≤ after.nextGeneration

/-- Of the objects at some places, the one at a target becomes the given one or is removed. A new
object has a generation of its own. -/
structure Sets (places : List Place) (target : Place) (value : Option StoredObject)
    (before after : Emulator) : Prop where
  object : after.objects.get? target = value
  others : ∀ place ∈ places, place ≠ target → after.objects.get? place = before.objects.get? place
  generations : before.nextGeneration ≤ after.nextGeneration
  fresh : ∀ object, value = some object →
    before.nextGeneration ≤ object.generation ∧ object.generation < after.nextGeneration

variable {places targets more : List Place} {target : Place} {value : Option StoredObject}
  {first second third start middle now : Emulator}

theorem Alike.refl (store : Emulator) : Alike store store := ⟨rfl, rfl, rfl⟩

theorem Alike.trans (one : Alike first second) (other : Alike second third) : Alike first third :=
  ⟨other.objects.trans one.objects, other.nextGeneration.trans one.nextGeneration,
    other.buckets.trans one.buckets⟩

theorem Alike.keeps (alike : Alike first second) : Keeps places first second :=
  ⟨fun _ _ => by rw [alike.objects], Nat.le_of_eq alike.nextGeneration.symm⟩

theorem Keeps.refl (store : Emulator) : Keeps places store store := (Alike.refl store).keeps

theorem Keeps.trans (one : Keeps places first second) (other : Keeps places second third) :
    Keeps places first third :=
  ⟨fun place own => (other.objects place own).trans (one.objects place own),
    Nat.le_trans one.generations other.generations⟩

theorem Keeps.sets (one : Keeps places first second) (other : Sets places target value second third) :
    Sets places target value first third := by
  refine ⟨other.object, ?_, Nat.le_trans one.generations other.generations, ?_⟩
  · intro place own apart
    exact (other.others place own apart).trans (one.objects place own)
  · intro object new
    obtain ⟨above, below⟩ := other.fresh object new
    exact ⟨Nat.le_trans one.generations above, below⟩

theorem Sets.alike (one : Sets places target value first second) (other : Alike second third) :
    Sets places target value first third := by
  refine ⟨by rw [other.objects, one.object], ?_, ?_, ?_⟩
  · intro place own apart
    rw [other.objects, one.others place own apart]
  · rw [other.nextGeneration]
    exact one.generations
  · intro object new
    rw [other.nextGeneration]
    exact one.fresh object new

theorem Keeps.gather (kept : Keeps places first second) {sources : List Place}
    (own : ∀ source ∈ sources, source ∈ places) : second.gather sources = first.gather sources := by
  induction sources with
  | nil => rfl
  | cons source rest ih =>
      rw [Emulator.gather, Emulator.gather, kept.objects source (own source (by simp)),
        ih fun other inside => own other (by simp [inside])]

theorem Keeps.generationAt (kept : Keeps places first second) (own : target ∈ places) :
    second.generationAt target = first.generationAt target := by
  rw [Emulator.generationAt, Emulator.generationAt, kept.objects target own]

/-- A write sets its place to an object with the next generation. -/
theorem sets_write (store : Emulator) (target : Place) (data : Bytes) (contentType : String) :
    Sets places target (some ⟨data, contentType, store.nextGeneration⟩) store
      (store.write target data contentType) := by
  refine ⟨?_, ?_, Nat.le_succ _, ?_⟩
  · rw [write, Objects.get?_insert, if_pos rfl]
  · intro place _ apart
    rw [write, Objects.get?_insert, if_neg apart]
  · intro object new
    cases new
    exact ⟨Nat.le_refl _, Nat.lt_succ_self _⟩

/-! ## Places left alone -/

/-- Of some places, all but the targets hold what they held at the start. -/
structure Elsewhere (places targets : List Place) (start now : Emulator) : Prop where
  objects : ∀ place ∈ places, place ∉ targets → now.objects.get? place = start.objects.get? place
  generations : start.nextGeneration ≤ now.nextGeneration

namespace Elsewhere

theorem refl (store : Emulator) : Elsewhere places targets store store :=
  ⟨fun _ _ _ => rfl, Nat.le_refl _⟩

theorem widen (elsewhere : Elsewhere places targets start now) (within : targets ⊆ more) :
    Elsewhere places more start now :=
  ⟨fun place own other => elsewhere.objects place own fun inside => other (within inside),
    elsewhere.generations⟩

theorem trans (first : Elsewhere places targets start middle)
    (second : Elsewhere places targets middle now) : Elsewhere places targets start now :=
  ⟨fun place own other => (second.objects place own other).trans (first.objects place own other),
    Nat.le_trans first.generations second.generations⟩

theorem keeps (elsewhere : Elsewhere places targets start middle) (kept : Keeps places middle now) :
    Elsewhere places targets start now :=
  ⟨fun place own other => (kept.objects place own).trans (elsewhere.objects place own other),
    Nat.le_trans elsewhere.generations kept.generations⟩

theorem sets (elsewhere : Elsewhere places targets start middle) {target : Place}
    {value : Option StoredObject} (changed : Sets places target value middle now)
    (inside : target ∈ targets) : Elsewhere places targets start now := by
  refine ⟨?_, Nat.le_trans elsewhere.generations changed.generations⟩
  intro place own other
  have apart : place ≠ target := by
    rintro rfl
    exact other inside
  exact (changed.others place own apart).trans (elsewhere.objects place own other)

end Elsewhere

/-! ## Other clients -/

/-- Another client leaves the places alone that are not its own. -/
theorem keeps_deed {deed : Deed} (spared : deed.place ∉ places) (store : Emulator) :
    Keeps places store (deed.run store) := by
  have apart : ∀ place ∈ places, place ≠ deed.place := by
    rintro place own rfl
    exact spared own
  cases deed with
  | write target data contentType =>
      refine ⟨?_, Nat.le_succ _⟩
      intro place own
      exact (sets_write store target data contentType).others place own (apart place own)
  | remove target =>
      refine ⟨?_, Nat.le_refl _⟩
      intro place own
      have distinct : place ≠ target := apart place own
      rw [Deed.run, Objects.get?_erase, if_neg distinct]

theorem keeps_deeds {deeds : List Deed} (spared : ∀ deed ∈ deeds, deed.place ∉ places)
    (store : Emulator) : Keeps places store (deeds.foldl Deed.run store) := by
  induction deeds generalizing store with
  | nil => exact .refl store
  | cons deed rest ih =>
      exact (keeps_deed (spared deed (by simp)) store).trans
        (ih (fun other inside => spared other (by simp [inside])) _)

/-! ## One exchange -/

theorem alike_counted (status : Nat) (store : Emulator) : Alike store (store.counted status) := by
  rw [counted]
  split <;> exact ⟨rfl, rfl, rfl⟩

/-- A request is refused without an effect, by the store or by the fault that it meets, or it is applied
and its response may be lost. -/
theorem exchangeWith_answers (fault : Option Fault) (request : Http.Request) (store : Emulator) :
    let result := store.exchangeWith (fun _ store => (fault, store)) request
    (Alike store result.2 ∧ ∃ status message, result.1 = .ok (refusal status message) ∧
        (status = 400 ∨ status = 401 ∨ fault = some (.refuse status message) ∧
          (Route.ofRequest request.method request.url).operation?.isSome)) ∨
      ∃ reached response applied, Alike store reached ∧
        reached.apply (Route.ofRequest request.method request.url) (request.body.getD []) =
          (response, applied) ∧
        Alike applied result.2 ∧ (result.1 = .ok response ∨ ∃ cause, result.1 = .error cause) := by
  dsimp only [exchangeWith]
  split
  · exact .inl ⟨⟨rfl, rfl, rfl⟩, 401, _, rfl, .inr (.inl rfl)⟩
  split
  · exact .inl ⟨⟨rfl, rfl, rfl⟩, 400, _, rfl, .inl rfl⟩
  next operation known =>
    rw [settle.eq_def]
    split
    · next status message =>
      exact .inl ⟨⟨rfl, rfl, rfl⟩, status, message, rfl, .inr (.inr ⟨rfl, by rw [known]; rfl⟩)⟩
    · right
      rcases applied : apply (Route.ofRequest request.method request.url) (request.body.getD [])
        (store.record request (Route.ofRequest request.method request.url)) with ⟨response, after⟩
      refine ⟨store.record request _, response, after, ⟨rfl, rfl, rfl⟩, applied, ?_, .inr ⟨_, rfl⟩⟩
      exact (alike_counted response.status after).trans ⟨rfl, rfl, rfl⟩
    · right
      rcases applied : apply (Route.ofRequest request.method request.url) (request.body.getD [])
        (store.record request (Route.ofRequest request.method request.url)) with ⟨response, after⟩
      exact ⟨store.record request _, response, after, ⟨rfl, rfl, rfl⟩, applied,
        alike_counted response.status after, .inl rfl⟩

/-! ## Applying requests -/

theorem isSuccess_answer (resource : Json) : (answer resource).isSuccess = true := rfl

/-- An upload is refused, or it sets its place to the body. -/
theorem applyUpload_cases {bucket name : String} {body : Bytes} {store after : Emulator}
    {response : Http.Response} (applied : store.applyUpload bucket (some name) body = (response, after)) :
    (Keeps places store after ∧ response.isSuccess = false) ∨
      ∃ object : StoredObject, object.data = body ∧
        Sets places ⟨bucket, name⟩ (some object) store after ∧
        response = answer (object.metadata ⟨bucket, name⟩).toJson := by
  dsimp only [applyUpload] at applied
  split at applied
  · cases applied
    exact .inl ⟨.refl store, rfl⟩
  · cases applied
    have alike : Alike store { store with
      stats := { store.stats with uploads := store.stats.uploads + 1 } } := ⟨rfl, rfl, rfl⟩
    exact .inr ⟨_, rfl, alike.keeps.sets (sets_write _ ⟨bucket, name⟩ body defaultType), rfl⟩

/-- A compose is refused, or it finds the object at the generation that it asks for, if it asks for
one, and sets its place to the concatenation of its sources. -/
theorem applyCompose_cases {bucket name : String} {generation : Option String}
    {request : ComposeRequest} {store after : Emulator} {response : Http.Response}
    (applied : store.applyCompose bucket name generation request.toJson.render = (response, after)) :
    (Keeps places store after ∧ response.isSuccess = false) ∨
      ∃ pieces, ∃ object : StoredObject, object.data = pieces.flatten ∧
        store.gather (request.sources.map fun source => ⟨bucket, source⟩) = .ok pieces ∧
        (∀ asked, generation = some asked →
          asked = Numeral.decimal (store.generationAt ⟨bucket, name⟩)) ∧
        Sets places ⟨bucket, name⟩ (some object) store after ∧
        response = answer (object.metadata ⟨bucket, name⟩).toJson := by
  rw [applyCompose, ComposeRequest.read?_render] at applied
  dsimp only at applied
  split at applied
  · cases applied
    exact .inl ⟨.refl store, rfl⟩
  split at applied
  · cases applied
    exact .inl ⟨.refl store, rfl⟩
  next met =>
    split at applied
    · cases applied
      exact .inl ⟨.refl store, rfl⟩
    split at applied
    · cases applied
      exact .inl ⟨.refl store, rfl⟩
    next pieces gathered =>
      right
      cases applied
      have alike : Alike store { store with
        stats := { store.stats with composes := store.stats.composes + 1 } } := ⟨rfl, rfl, rfl⟩
      refine ⟨pieces, _, rfl, gathered, ?_,
        alike.keeps.sets (sets_write _ ⟨bucket, name⟩ pieces.flatten request.contentType), rfl⟩
      rintro asked rfl
      simpa using met

/-- A delete finds no object, or it removes the one at its place. -/
theorem applyDelete_cases {target : Place} {store after : Emulator} {response : Http.Response}
    (applied : store.applyDelete target = (response, after)) :
    (Keeps places store after ∧ response.isSuccess = false ∧ store.objects.get? target = none) ∨
      (Sets places target none store after ∧ response.isSuccess = true) := by
  rw [applyDelete] at applied
  split at applied
  · next missing =>
      cases applied
      exact .inl ⟨.refl store, rfl, missing⟩
  · cases applied
    right
    refine ⟨⟨?_, ?_, Nat.le_refl _, fun object none => nomatch none⟩, rfl⟩
    · rw [Objects.get?_erase, if_pos rfl]
    · intro place _ apart
      rw [Objects.get?_erase, if_neg apart]

end Emulator

end RecordSink
