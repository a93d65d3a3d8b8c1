import RecordSink.Resource

/-!
# Stored objects

The objects of an emulated store by bucket and name. A write gives its object a generation that
no object had before.
-/

namespace RecordSink.Emulator

/-- An object in the store. -/
structure StoredObject where
  data : Bytes
  contentType : String
  generation : Nat
  deriving DecidableEq, Repr, Inhabited

/-- A place in the store: a bucket and an object name. -/
structure Place where
  bucket : String
  name : String
  deriving DecidableEq, Repr

/-- Objects at different places. -/
structure Objects where
  entries : List (Place × StoredObject)
  deriving DecidableEq, Repr

namespace Objects

/-- No objects. -/
def empty : Objects := ⟨[]⟩

/-- The object at a place. -/
def get? (objects : Objects) (place : Place) : Option StoredObject := objects.entries.lookup place

/-- The objects without the one at a place. -/
def erase (objects : Objects) (place : Place) : Objects :=
  ⟨objects.entries.filter fun entry => entry.1 ≠ place⟩

/-- The objects with the one at a place replaced or added. -/
def insert (objects : Objects) (place : Place) (object : StoredObject) : Objects :=
  ⟨(place, object) :: (objects.erase place).entries⟩

@[simp]
theorem get?_empty (place : Place) : empty.get? place = none := rfl

theorem get?_erase (objects : Objects) (place other : Place) :
    (objects.erase place).get? other = if other = place then none else objects.get? other := by
  simp only [get?, erase]
  induction objects.entries with
  | nil => simp
  | cons entry rest ih =>
      obtain ⟨own, object⟩ := entry
      simp only [List.filter_cons]
      by_cases kept : own = place
      · subst kept
        simp only [ne_eq, not_true_eq_false, decide_false, Bool.false_eq_true, ↓reduceIte, ih,
          List.lookup_cons]
        by_cases same : other = own
        · simp [same]
        · simp [same, beq_eq_false_iff_ne.mpr same]
      · simp only [ne_eq, kept, not_false_eq_true, decide_true, ↓reduceIte, List.lookup_cons, ih]
        by_cases same : other = own
        · subst same
          simp [kept]
        · simp [beq_eq_false_iff_ne.mpr same]

theorem get?_insert (objects : Objects) (place other : Place) (object : StoredObject) :
    (objects.insert place object).get? other = if other = place then some object else objects.get? other := by
  by_cases same : other = place
  · subst same
    simp [get?, insert]
  · have rest := get?_erase objects place other
    simp only [get?, same, ↓reduceIte] at rest
    simp [get?, insert, same, beq_eq_false_iff_ne.mpr same, List.lookup_cons, rest]

/-- The names of the objects in a bucket, in order. -/
def names (objects : Objects) (bucket : String) : List String :=
  ((objects.entries.filter fun entry => entry.1.bucket = bucket).map (·.1.name)).mergeSort
    fun first second => decide (first ≤ second)

end Objects

/-- What a store says about an object at a place. -/
def StoredObject.metadata (object : StoredObject) (place : Place) : ObjectMetadata :=
  { name := place.name, bucket := place.bucket, size := Numeral.decimal object.data.length
    contentType := some object.contentType, generation := some (Numeral.decimal object.generation) }

end RecordSink.Emulator
