import RecordSink.Proofs.Ordeal.Calls

/-!
# Replacements at most once

A compose onto one of its own sources asks for the generation of the object that it replaces. However
many of its attempts are applied without an answer, the object is replaced at most once: the new object
has a later generation, which no attempt asks for.
-/

namespace RecordSink

open Emulator Ordeal

variable {τ : Type} {places targets : List Place} {start middle now : Emulator}

namespace Emulator

/-- The objects at some places have some bytes in all. -/
def Gathers (sources : List Place) (data : Bytes) (store : Emulator) : Prop :=
  ∃ pieces, store.gather sources = .ok pieces ∧ pieces.flatten = data

theorem Gathers.keeps {sources : List Place} {data : Bytes} (gathers : Gathers sources data middle)
    (kept : Keeps places middle now) (own : ∀ source ∈ sources, source ∈ places) :
    Gathers sources data now := by
  obtain ⟨pieces, gathered, whole⟩ := gathers
  exact ⟨pieces, (kept.gather own).trans gathered, whole⟩

/-- What is gathered stays the same where none of it is changed. -/
theorem Gathers.sets {sources : List Place} {data : Bytes} {target : Place}
    {value : Option StoredObject} (gathers : Gathers sources data middle)
    (changed : Sets places target value middle now) (own : ∀ source ∈ sources, source ∈ places)
    (apart : target ∉ sources) : Gathers sources data now := by
  have kept : Keeps sources middle now := by
    refine ⟨?_, changed.generations⟩
    intro source inside
    apply changed.others source (own source inside)
    rintro rfl
    exact apart inside
  exact gathers.keeps kept fun _ inside => inside

/-- A replacement under way: the old object is in place, with all sources of the new one, or the new one
is, and then the old generation was asked for. -/
def Replaces (target : Place) (sources : List Place) (old : StoredObject) (data : Bytes)
    (asked : Option String) (store : Emulator) : Prop :=
  (store.objects.get? target = some old ∧ Gathers sources data store) ∨
    ∃ new, store.objects.get? target = some new ∧ new.data = data ∧
      old.generation < new.generation ∧ asked = some (Numeral.decimal old.generation)

/-- The store tells the size of an object that fits into its memory. -/
theorem StoredObject.sizeBytes?_metadata {object : StoredObject} (place : Place)
    (small : object.data.length < Nat.pow 2 64) :
    (object.metadata place).sizeBytes? = some object.data.length :=
  Numeral.readCounter?_decimal small

end Emulator

namespace RemoteStore

variable {store : RemoteStore (Ordeal τ)} {name : ObjectName} {sources : List ObjectName}
  {old : StoredObject} {data : Bytes}

/-- What holds while an object is replaced: nothing beyond some targets changes, and the object in place
has a generation that is no longer given. -/
structure Replacing (places targets : List Place) (store : RemoteStore (Ordeal τ)) (name : ObjectName)
    (sources : List ObjectName) (old : StoredObject) (data : Bytes) (start : Emulator)
    (history : History) : Prop where
  elsewhere : Elsewhere places targets start history.store
  replaces : Replaces (store.client.place name) (sources.map store.client.place) old data
    (store.client.asked (some (Numeral.decimal old.generation))) history.store
  older : ∀ object, history.store.objects.get? (store.client.place name) = some object →
    object.generation < history.store.nextGeneration

/-- The answer to a replacement is about the new object. -/
def Replaced (store : RemoteStore (Ordeal τ)) (name : ObjectName) (data : Bytes)
    (answer : ObjectMetadata) (history : History) : Prop :=
  ∃ new, history.store.objects.get? (store.client.place name) = some new ∧ new.data = data ∧
    answer = new.metadata (store.client.place name)

theorem Replacing.survives (own : store.client.place name ∈ places)
    (ownSources : ∀ source ∈ sources, store.client.place source ∈ places) :
    Survives places (Replacing places targets store name sources old data start) := by
  intro history moment replacing kept
  have same := kept.objects _ own
  refine ⟨replacing.elsewhere.keeps kept, ?_, ?_⟩
  · rcases replacing.replaces with ⟨inPlace, gathers⟩ | ⟨new, inPlace, rest⟩
    · exact .inl ⟨same.trans inPlace, gathers.keeps kept (by simpa using ownSources)⟩
    · exact .inr ⟨new, same.trans inPlace, rest⟩
  · intro object inPlace
    have older := replacing.older object (same.symm.trans inPlace)
    exact Nat.lt_of_lt_of_le older kept.generations

/-- A compose that asks for the generation of the object in place keeps an invariant that the one
replacement of this object keeps: once it is replaced, no attempt is applied. The answer is about the new
object, also where it was looked up, provided that the old one is not taken for it. -/
theorem passes_guarded (lent : store.IsLent places) (own : store.client.place name ∈ places)
    (ownSources : ∀ source ∈ sources, store.client.place source ∈ places) {I : History → Prop}
    (quiet : Survives places I)
    (replaces : ∀ history, I history →
      Replaces (store.client.place name) (sources.map store.client.place) old data
        (store.client.asked (some (Numeral.decimal old.generation))) history.store)
    (replaced : ∀ history moment object, I history →
      history.store.objects.get? (store.client.place name) = some old → object.data = data →
      store.client.asked (some (Numeral.decimal old.generation)) =
        some (Numeral.decimal old.generation) →
      Sets places (store.client.place name) (some object) history.store moment.store →
      I (history.next moment))
    (recognized : old.data.length = data.length → old.data = data) :
    Passes
      (Asking I
        [.compose store.client.bucket name.text
            (store.client.asked (some (Numeral.decimal old.generation))),
          .getObject store.client.bucket name.text, .unknown])
      I (store.composeReplacing name sources (some (Numeral.decimal old.generation)) data.length)
      (Settled I (Replaced store name data)) := by
  apply passes_composeReplacing lent own ownSources quiet
  · intro history moment object pieces holds gathered whole met sets
    obtain ⟨asked, asking, generation⟩ := met
    rcases replaces history holds with ⟨inPlace, pieces', gathered', whole'⟩ | ⟨new, inPlace, -, later, other⟩
    · have inOld : asked = Numeral.decimal old.generation := by
        rw [generation, generationAt, inPlace]
      have same : object.data = data := by
        have equal := gathered.symm.trans gathered'
        cases equal
        exact whole.trans whole'
      exact ⟨replaced history moment object holds inPlace same (asking.trans (congrArg some inOld)) sets,
        object, sets.object, same, rfl⟩
    · -- the new generation is not the one that every attempt asks for
      have inNew : asked = Numeral.decimal new.generation := by
        rw [generation, generationAt, inPlace]
      have inOld : asked = Numeral.decimal old.generation := Option.some.inj (asking.symm.trans other)
      have same := Numeral.decimal_injective (inNew.symm.trans inOld)
      omega
  · intro history object holds inPlace size
    have sizes : object.data.length = data.length := Numeral.eq_of_readCounter?_decimal size
    rcases replaces history holds with ⟨oldInPlace, -⟩ | ⟨new, newInPlace, written, -⟩
    · cases oldInPlace.symm.trans inPlace
      exact ⟨old, oldInPlace, recognized sizes, rfl⟩
    · cases newInPlace.symm.trans inPlace
      exact ⟨object, newInPlace, written, rfl⟩

/-- A compose onto a source replaces the object at most once, and its answer is about the new one. An
answer that was looked up is, too: where nothing is added, the old object is as good as the new. -/
theorem passes_replacement (lent : store.IsLent places) (targets : List Place) (start : Emulator)
    (own : store.client.place name ∈ places) (inside : store.client.place name ∈ targets)
    (ownSources : ∀ source ∈ sources, store.client.place source ∈ places) {added : Bytes}
    (appended : data = old.data ++ added) :
    Passes
      (Asking (Replacing places targets store name sources old data start)
        [.compose store.client.bucket name.text
            (store.client.asked (some (Numeral.decimal old.generation))),
          .getObject store.client.bucket name.text, .unknown])
      (Replacing places targets store name sources old data start)
      (store.composeReplacing name sources (some (Numeral.decimal old.generation)) data.length)
      (Settled (Replacing places targets store name sources old data start) (Replaced store name data)) := by
  apply passes_guarded lent own ownSources (.survives own ownSources)
    fun history replacing => replacing.replaces
  · intro history moment object replacing inPlace same asking sets
    obtain ⟨above, below⟩ := sets.fresh object rfl
    have older := replacing.older old inPlace
    refine ⟨replacing.elsewhere.sets sets inside, ?_, ?_⟩
    · exact .inr ⟨object, sets.object, same, Nat.lt_of_lt_of_le older above, asking⟩
    · intro found inPlace
      cases sets.object.symm.trans inPlace
      exact below
  · intro sizes
    have nothing : added = [] := by
      rw [appended, List.length_append] at sizes
      exact List.eq_nil_of_length_eq_zero (by omega)
    rw [appended, nothing, List.append_nil]

end RemoteStore

end RecordSink
