import RecordSink.Proofs.Ordeal.Endurance

/-!
# Shelves

The bytes that a store holds at some places, without what it knows of their writing, and what the effects
of requests do to them.
-/

namespace RecordSink

open Emulator Ordeal

variable {places : List Place}

namespace Emulator

/-- The bytes of objects by their places. -/
abbrev Shelf := Place → Option Bytes

namespace Shelf

/-- The shelf with the bytes at a place replaced or added. -/
def put (place : Place) (data : Bytes) (shelf : Shelf) : Shelf :=
  fun other => if other = place then some data else shelf other

/-- The shelf without what is at some places. -/
def without (gone : List Place) (shelf : Shelf) : Shelf :=
  fun place => if place ∈ gone then none else shelf place

variable {place other : Place} {data : Bytes} {shelf : Shelf}

@[simp]
theorem put_self : shelf.put place data place = some data := if_pos rfl

theorem put_other (apart : other ≠ place) : shelf.put place data other = shelf other := if_neg apart

@[simp]
theorem put_put : (shelf.put place data).put place data = shelf.put place data := by
  funext other
  simp only [put]
  split <;> rfl

theorem without_cons (place : Place) (rest : List Place) (shelf : Shelf) :
    (shelf.without [place]).without rest = shelf.without (place :: rest) := by
  funext other
  by_cases here : other = place
  · simp [without, here]
  · simp [without, here]

@[simp]
theorem without_self : (shelf.without [place]).without [place] = shelf.without [place] := by
  funext other
  by_cases here : other = place
  · simp [without, here]
  · simp [without, here]

@[simp]
theorem without_nil : shelf.without [] = shelf := by
  funext place
  simp [without]

end Shelf

/-- A store holds the bytes of a shelf at some places. -/
def Shows (places : List Place) (shelf : Shelf) (store : Emulator) : Prop :=
  ∀ place ∈ places, store.object? place = shelf place

variable {shelf : Shelf} {place target : Place} {data rest : Bytes} {before after now : Emulator}

theorem lasting_shows (places : List Place) (shelf : Shelf) : Site.Lasting places (Shows places shelf) := by
  intro before after shows kept place own
  rw [object?, kept.objects place own]
  exact shows place own

/-- Writing records puts their bytes on the shelf. -/
theorem Shows.put (shows : Shows places shelf before) {object : StoredObject}
    (records : object.Records data) (sets : Sets places target (some object) before after) :
    Shows places (shelf.put target data) after := by
  intro place own
  by_cases here : place = target
  · rw [here, object?, sets.object, Shelf.put_self, Option.map_some, records.data]
  · rw [object?, sets.others place own here, Shelf.put_other here]
    exact shows place own

/-- A removal takes bytes off the shelf. -/
theorem Shows.removed (shows : Shows places shelf before) (sets : Sets places target none before after) :
    Shows places (shelf.without [target]) after := by
  intro place own
  by_cases here : place = target
  · simp [object?, sets.object, Shelf.without, here]
  · have same : after.object? place = before.object? place := by
      rw [object?, object?, sets.others place own here]
    simpa [Shelf.without, here] using same.trans (shows place own)

/-- Writing the same records again changes nothing on the shelf. -/
theorem Shows.put_again
    (shows : Shows places shelf before ∨ Shows places (shelf.put target data) before)
    {object : StoredObject} (records : object.Records data)
    (sets : Sets places target (some object) before after) :
    Shows places (shelf.put target data) after := by
  rcases shows with shows | shows
  · exact shows.put records sets
  · rw [← Shelf.put_put]
    exact shows.put records sets

/-- Removing an object again changes nothing on the shelf. -/
theorem Shows.removed_again
    (shows : Shows places shelf before ∨ Shows places (shelf.without [target]) before)
    (sets : Sets places target none before after) : Shows places (shelf.without [target]) after := by
  rcases shows with shows | shows
  · exact shows.removed sets
  · rw [← Shelf.without_self]
    exact shows.removed sets

/-- Where there is no object, there is nothing to take off. -/
theorem Shows.missing (shows : Shows places shelf now) (gone : now.objects.get? target = none) :
    Shows places (shelf.without [target]) now := by
  intro place own
  by_cases here : place = target
  · simp [object?, gone, Shelf.without, here]
  · simpa [Shelf.without, here] using shows place own

theorem gathers_nil (store : Emulator) : Gathers [] [] store := ⟨[], rfl, rfl⟩

/-- Objects are gathered one by one. -/
theorem Gathers.cons {sources : List Place} (gathers : Gathers sources rest now)
    (stored : now.object? place = some data) : Gathers (place :: sources) (data ++ rest) now := by
  obtain ⟨pieces, gathered, rfl⟩ := gathers
  obtain ⟨object, found, rfl⟩ := Option.map_eq_some_iff.mp stored
  refine ⟨object.data :: pieces, ?_, rfl⟩
  rw [gather, found, gathered]
  rfl

end Emulator

end RecordSink
