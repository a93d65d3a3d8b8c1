import RecordSink.Proofs.Emulator.Requests
import RecordSink.Proofs.Ordeal.Replacement

/-!
# Composes applied once

A guarded compose changes its object at most once, whatever its requests are refused with and whichever of
their responses are lost, and where it reports success the concatenation is in place. The changes of the
object are counted along the history, so that an attempt that is applied a second time would show.
-/

namespace RecordSink

open Emulator Ordeal

namespace Emulator

/-! ## Stores that arise -/

/-- The stores that the interface can lead to: an empty one, with whatever is set up besides its objects,
and after any deeds and requests. -/
inductive Arises : Emulator → Prop
  | empty : Arises .empty
  | setUp {store after : Emulator} (before : Arises store) (objects : after.objects = store.objects)
      (nextGeneration : after.nextGeneration = store.nextGeneration) : Arises after
  | deed {store : Emulator} (before : Arises store) (deed : Deed) : Arises (deed.run store)
  | exchange {store : Emulator} (before : Arises store) (request : Http.Request) :
      Arises (store.exchange request).2

/-- Every object was written before: it has a generation that is no longer given. -/
def IsDated (store : Emulator) : Prop :=
  ∀ place object, store.objects.get? place = some object → object.generation < store.nextGeneration

variable {store after : Emulator}

theorem IsDated.congr (dated : store.IsDated) (objects : after.objects = store.objects)
    (nextGeneration : after.nextGeneration = store.nextGeneration) : after.IsDated := by
  intro place object found
  rw [objects] at found
  rw [nextGeneration]
  exact dated place object found

theorem IsDated.alike (dated : store.IsDated) (alike : Alike store after) : after.IsDated :=
  dated.congr alike.objects alike.nextGeneration

theorem IsDated.write (dated : store.IsDated) (place : Place) (data : Bytes) (contentType : String) :
    (store.write place data contentType).IsDated := by
  intro other object found
  rw [Emulator.write, Objects.get?_insert] at found
  rw [Emulator.write]
  split at found
  · cases found
    exact Nat.lt_succ_self _
  · exact Nat.lt_succ_of_lt (dated other object found)

theorem IsDated.erase (dated : store.IsDated) (place : Place) :
    { store with objects := store.objects.erase place }.IsDated := by
  intro other object found
  rw [Objects.get?_erase] at found
  split at found
  · cases found
  · exact dated other object found

theorem IsDated.deed (dated : store.IsDated) (deed : Deed) : (deed.run store).IsDated := by
  cases deed with
  | write place data contentType => exact dated.write place data contentType
  | remove place => exact dated.erase place

theorem IsDated.apply (dated : store.IsDated) (route : Route) (body : Bytes) :
    (store.apply route body).2.IsDated := by
  obtain ⟨stats, same | ⟨place, data, contentType, same⟩ | ⟨place, same⟩⟩ := apply_cases route body store
  · rw [same]
    exact dated.congr rfl rfl
  · rw [same]
    exact IsDated.write (dated.congr rfl rfl) place data contentType
  · rw [same]
    exact (dated.erase place).congr rfl rfl

theorem IsDated.settle (dated : store.IsDated) (fault : Option Fault) (route : Route) (body : Bytes) :
    (store.settle fault route body).2.IsDated := by
  have applied := (dated.apply route body).alike (alike_counted (store.apply route body).1.status _)
  rw [settle.eq_def]
  split
  · exact dated
  · exact applied.congr rfl rfl
  · exact applied

theorem alike_nextFault (operation : Operation) (store : Emulator) :
    Alike store (store.nextFault operation).2 := by
  rw [nextFault]
  split
  · exact ⟨rfl, rfl, rfl⟩
  split
  · exact .refl store
  · exact ⟨rfl, rfl, rfl⟩

theorem IsDated.exchange (dated : store.IsDated) (request : Http.Request) :
    (store.exchange request).2.IsDated := by
  dsimp only [Emulator.exchange, exchangeWith]
  split
  · exact dated.congr rfl rfl
  split
  · exact dated.congr rfl rfl
  · have recorded : (store.record request (Route.ofRequest request.method request.url)).IsDated :=
      dated.congr rfl rfl
    exact (recorded.alike (alike_nextFault _ _)).settle _ _ _

end Emulator

namespace Ordeal

/-! ## Changes of an object -/

/-- The store after some moments, the last one first. -/
def reached (start : Emulator) : List Moment → Emulator
  | [] => start
  | moment :: _ => moment.store

/-- How often the object at a place changed during some moments, the last one first. A write always counts:
it gives the object a generation that no object had. -/
def changes (place : Place) (start : Emulator) : List Moment → Nat
  | [] => 0
  | moment :: past =>
      changes place start past +
        if moment.store.objects.get? place = (reached start past).objects.get? place then 0 else 1

variable {τ : Type} {places : List Place} {place : Place} {start : Emulator} {history : History}
  {moment : Moment}

/-- A request without an effect on an object does not count as a change. -/
theorem changes_of_keeps (along : history.store = reached start history.moments)
    (kept : Keeps places history.store moment.store) (own : place ∈ places) :
    changes place start (moment :: history.moments) = changes place start history.moments := by
  rw [changes, ← along, if_pos (kept.objects place own), Nat.add_zero]

end Ordeal

namespace RemoteStore

variable {τ : Type} {places : List Place} {store : RemoteStore (Ordeal τ)} {name : ObjectName}
  {sources : List ObjectName} {old : StoredObject} {data : Bytes} {start : Emulator}

/-- A replacement along a history from its start: the old object is in place and has not changed, or the
new one is, after one change. -/
structure Counted (store : RemoteStore (Ordeal τ)) (name : ObjectName) (sources : List ObjectName)
    (old : StoredObject) (data : Bytes) (start : Emulator) (history : History) : Prop where
  along : history.store = reached start history.moments
  phases :
    (history.store.objects.get? (store.client.place name) = some old ∧
        old.generation < history.store.nextGeneration ∧
        Gathers (sources.map store.client.place) data history.store ∧
        changes (store.client.place name) start history.moments = 0) ∨
      ∃ new, history.store.objects.get? (store.client.place name) = some new ∧ new.data = data ∧
        old.generation < new.generation ∧
        store.client.asked (some (Numeral.decimal old.generation)) =
          some (Numeral.decimal old.generation) ∧
        changes (store.client.place name) start history.moments = 1

theorem Counted.replaces {history : History} (counted : Counted store name sources old data start history) :
    Replaces (store.client.place name) (sources.map store.client.place) old data
      (store.client.asked (some (Numeral.decimal old.generation))) history.store := by
  rcases counted.phases with ⟨inPlace, -, gathers, -⟩ | ⟨new, inPlace, whole, later, asking, -⟩
  · exact .inl ⟨inPlace, gathers⟩
  · exact .inr ⟨new, inPlace, whole, later, asking⟩

theorem Counted.survives (own : store.client.place name ∈ places)
    (ownSources : ∀ source ∈ sources, store.client.place source ∈ places) :
    Survives places (Counted store name sources old data start) := by
  intro history moment counted kept
  have same := kept.objects _ own
  refine ⟨rfl, ?_⟩
  rw [History.next, changes_of_keeps counted.along kept own]
  rcases counted.phases with ⟨inPlace, older, gathers, none⟩ | ⟨new, inPlace, rest⟩
  · exact .inl ⟨same.trans inPlace, Nat.lt_of_lt_of_le older kept.generations,
      gathers.keeps kept (by simpa using ownSources), none⟩
  · exact .inr ⟨new, same.trans inPlace, rest⟩

/-- The one replacement is one change. -/
theorem Counted.replaced {history : History} {moment : Moment} {object : StoredObject}
    (counted : Counted store name sources old data start history)
    (inPlace : history.store.objects.get? (store.client.place name) = some old)
    (whole : object.data = data)
    (asking : store.client.asked (some (Numeral.decimal old.generation)) =
      some (Numeral.decimal old.generation))
    (sets : Sets places (store.client.place name) (some object) history.store moment.store) :
    Counted store name sources old data start (history.next moment) := by
  rcases counted.phases with ⟨-, older, -, none⟩ | ⟨new, newInPlace, -, later, -⟩
  · have later : old.generation < object.generation :=
      Nat.lt_of_lt_of_le older (sets.fresh object rfl).1
    have changed : moment.store.objects.get? (store.client.place name) ≠
        (reached start history.moments).objects.get? (store.client.place name) := by
      rw [← counted.along, sets.object, inPlace]
      rintro ⟨⟩
      exact Nat.lt_irrefl _ later
    refine ⟨rfl, .inr ⟨object, sets.object, whole, later, asking, ?_⟩⟩
    rw [History.next, changes, none, if_neg changed]
  · cases newInPlace.symm.trans inPlace
    exact absurd later (Nat.lt_irrefl _)

end RemoteStore

/-! ## A trial -/

namespace RemoteStore.Trial

/-- The response of the first request is lost. -/
def schedule : Schedule := fun number =>
  { deeds := [], fault := if number = 0 then some .lose else none }

def endpoint : Url :=
  { scheme := "http", username := "", password := "", host := some "h", port := none
    dotted := false, path := .rooted "/", query := none, fragment := none }

/-- A clock that stands still. -/
def clock : Clock Unit :=
  { now := pure ⟨0⟩, wait := fun _ => pure (), delay := fun _ _ => pure ⟨0⟩ }

/-- A store that makes two attempts at each request. -/
def store : RemoteStore (Ordeal Unit) :=
  { client := {
      link := Ordeal.link schedule, credentials := Ordeal.credentials (.fixed (.bearer "t"))
      endpoint, bucket := "logs" }
    clock := Ordeal.clock clock, policy := .immediate 2 }

def first : ObjectName := ⟨"a", rfl⟩

def second : ObjectName := ⟨"b", rfl⟩

/-- A store with two objects. -/
def start : Emulator :=
  ((Emulator.withBucket "logs").put (store.client.place first) [1]).put (store.client.place second) [2]

def old : StoredObject := { data := [1], contentType := defaultType, generation := 1 }

def pieces : List Bytes := [[1], [2]]

theorem arises : start.Arises := by
  have bucket : (Emulator.withBucket "logs").Arises := .setUp .empty rfl rfl
  exact (bucket.deed (.write _ [1] defaultType)).deed (.write _ [2] defaultType)

theorem lent : store.IsLent ([first, second].map store.client.place) := by
  have addressed : store.client.IsAddressed := ⟨rfl, by decide, Url.isSegment_of_check (by decide)⟩
  exact ⟨⟨addressed, ⟨schedule, fun _ _ none => (nomatch none), rfl⟩, ⟨_, rfl⟩⟩, ⟨_, rfl⟩⟩

/-- The second object is appended to the first one. -/
def appending : Except SinkError ObjectMetadata × Ordeal Unit :=
  store.composeReplacing first [first, second] (some (Numeral.decimal old.generation))
    (sumOver List.length pieces) { rest := (), history := .fresh start }

theorem succeeds : appending.1.toOption.isSome = true := by
  decide +kernel

end RemoteStore.Trial

end RecordSink
