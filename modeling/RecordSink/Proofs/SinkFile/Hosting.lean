import RecordSink.Proofs.Ordeal.Replacement
import RecordSink.Proofs.Sink.Connected
import RecordSink.Proofs.SinkFile.Encoding

/-!
# Hosted files

A store on trial hosts a file where it leaves the three objects of the file to it. What an operation
does to them is told relative to the store at its start: which places it leaves alone, and what the
objects at the others become.
-/

namespace RecordSink

open Emulator Ordeal RecordSink.Stream

variable {τ : Type} {places targets more : List Place} {start middle now : Emulator}

/-! ## Objects -/

namespace Emulator

/-- The object at a place decodes to some records. -/
def Holds (place : Place) (records : List Bytes) (store : Emulator) : Prop :=
  ∃ object, store.objects.get? place = some object ∧ Decodes object.data records

/-- The object at a place is the one from the start, or it decodes to some records. -/
def Becomes (place : Place) (records : List Bytes) (start now : Emulator) : Prop :=
  now.objects.get? place = start.objects.get? place ∨ Holds place records now

end Emulator

/-! ## Files -/

namespace RemoteStore

/-- A store on trial that leaves the three objects of a file to it; they lie apart. It may refuse requests in
any way. -/
structure Hosts (places : List Place) (store : RemoteStore (Ordeal τ)) (names : FileNames) : Prop where
  lent : store.IsLent places
  own : ∀ name ∈ names.all, store.client.place name ∈ places
  inflight_ne_part : names.inflight ≠ names.part
  inflight_ne_publish : names.inflight ≠ names.publish
  part_ne_publish : names.part ≠ names.publish

end RemoteStore

theorem Client.place_injective {W : Type} {client : Client W} {first second : ObjectName}
    (same : client.place first = client.place second) : first = second := by
  rw [Client.place, Client.place, Place.mk.injEq] at same
  exact ObjectName.text_injective same.2

theorem Client.place_not_mem {W : Type} {client : Client W} {name : ObjectName}
    {others : List ObjectName} (apart : name ∉ others) : client.place name ∉ others.map client.place := by
  intro inside
  obtain ⟨other, among, same⟩ := List.mem_map.mp inside
  exact apart (Client.place_injective same ▸ among)

/-- An object of a file stays as it is where only others change. -/
theorem RemoteStore.Hosts.untouched {store : RemoteStore (Ordeal τ)} {names : FileNames}
    (hosts : store.Hosts places names) (changed : List ObjectName)
    (elsewhere : Elsewhere places (changed.map store.client.place) start now) {name : ObjectName}
    (own : name ∈ names.all) (apart : name ∉ changed) :
    now.objects.get? (store.client.place name) = start.objects.get? (store.client.place name) :=
  elsewhere.objects _ (hosts.own name own) (Client.place_not_mem apart)

namespace SinkFile

open RecordSink.Stream.Encoder

/-- The inflight object of a file is the stream of some runs, and the file knows its generation and
its size. -/
structure Knows (client : Client (Ordeal τ)) (marker : Marker) (past : List (List Bytes))
    (file : SinkFile) (store : Emulator) (object : StoredObject) : Prop where
  stored : store.objects.get? (client.place file.names.inflight) = some object
  data : object.data = written marker past
  older : object.generation < store.nextGeneration
  generation : file.generation = some (Numeral.decimal object.generation)
  size : file.inflightSize = object.data.length

/-- An open file stands where it has encoded some runs, all of them in the inflight object. -/
structure Stands (client : Client (Ordeal τ)) (marker : Marker) (past : List (List Bytes))
    (file : SinkFile) (store : Emulator) : Prop where
  isOpen : file.state = .open
  unattempted : file.publishAttempted = false
  encoder : HasWritten marker past file.encoder
  fits : ∀ run ∈ past, Fits run
  inflight : ∃ object, Knows client marker past file store object

/-- A file goes on with what it is called, what it has been through and what it knows. -/
structure Continues (file after : SinkFile) : Prop where
  names : after.names = file.names
  state : after.state = file.state
  attempted : after.publishAttempted = file.publishAttempted
  generation : after.generation = file.generation
  size : after.inflightSize = file.inflightSize

theorem Continues.refl (file : SinkFile) : Continues file file := ⟨rfl, rfl, rfl, rfl, rfl⟩

/-- What a compose can start from: the waiting records are encoded behind some runs, and the inflight
object and the part hold the whole stream. -/
structure Prepared (client : Client (Ordeal τ)) (marker : Marker) (runs : List (List Bytes))
    (file : SinkFile) (batch : Batch) (after : SinkFile) (store : Emulator) : Prop where
  continues : Continues file after
  encoder : HasWritten marker runs after.encoder
  fits : ∀ run ∈ runs, Fits run
  cleared : after.buffer = file.buffer.clear
  sources : batch.sources = [file.names.inflight] ∨
    batch.sources = [file.names.inflight, file.names.part]
  gathers : Gathers (batch.sources.map client.place) (written marker runs) store
  size : batch.size = (written marker runs).length

variable {store : RemoteStore (Ordeal τ)} {marker : Marker} {past : List (List Bytes)} {file : SinkFile}

/-- The sources of a compose are objects of the file. -/
theorem Prepared.mem_sources {client : Client (Ordeal τ)} {runs : List (List Bytes)} {batch : Batch}
    {after : SinkFile} (prepared : Prepared client marker runs file batch after start)
    {source : ObjectName} (inside : source ∈ batch.sources) :
    source = file.names.inflight ∨ source = file.names.part := by
  rcases prepared.sources with same | same
  · rw [same, List.mem_singleton] at inside
    exact .inl inside
  · rw [same] at inside
    simpa using inside

/-- The sources of a compose are left to the file. -/
theorem Prepared.own (hosts : store.Hosts places file.names) {runs : List (List Bytes)}
    {batch : Batch} {after : SinkFile}
    (prepared : Prepared store.client marker runs file batch after start) :
    ∀ source ∈ batch.sources, store.client.place source ∈ places := by
  intro source inside
  rcases prepared.mem_sources inside with rfl | rfl
  · exact hosts.own _ (by simp)
  · exact hosts.own _ (by simp)

/-- Without waiting records a compose starts from the inflight object alone. -/
theorem prepared_of_isEmpty (ready : HasWritten marker past file.encoder)
    (fits : ∀ run ∈ past, Fits run) {object : StoredObject}
    (knows : Knows store.client marker past file start object) (nothing : file.buffer.isEmpty) :
    Prepared store.client marker (past ++ runs file.buffer.records) file
      { sources := [file.names.inflight], size := file.inflightSize, records := 0 } file start := by
  have empty : file.buffer.records = [] := List.isEmpty_iff.mp nothing
  have same : past ++ runs file.buffer.records = past := by rw [empty, runs, List.append_nil]
  rw [same]
  refine ⟨.refl file, ready, fits, ?_, .inl rfl, ⟨[object.data], ?_, ?_⟩, ?_⟩
  · rw [RecordBuffer.clear, ← empty]
  · simp only [List.map_cons, List.map_nil, gather, knows.stored]
    rfl
  · rw [List.flatten_singleton, knows.data]
  · exact knows.size.trans (congrArg List.length knows.data)

/-- With its waiting records in the part, a compose starts from the inflight object and the part. -/
theorem prepared_of_part (hosts : store.Hosts places file.names) (fits : ∀ run ∈ past, Fits run)
    (short : ∀ run ∈ runs file.buffer.records, Fits run) {object part : StoredObject}
    (knows : Knows store.client marker past file start object)
    (small : (written marker (past ++ runs file.buffer.records)).length < Nat.pow 2 64)
    (elsewhere : Elsewhere places [store.client.place file.names.part] start now)
    (stored : now.objects.get? (store.client.place file.names.part) = some part)
    (data : part.data = blocksFrom marker past.length (summed .empty past) (runs file.buffer.records))
    {batch : Batch} {after : SinkFile} (continues : Continues file after)
    (encoder : HasWritten marker (past ++ runs file.buffer.records) after.encoder)
    (cleared : after.buffer = file.buffer.clear)
    (sources : batch.sources = [file.names.inflight, file.names.part])
    (size : batch.size = (file.inflightSize + part.data.length) % Nat.pow 2 64) :
    Prepared store.client marker (past ++ runs file.buffer.records) file batch after now := by
  have whole : object.data ++ part.data = written marker (past ++ runs file.buffer.records) := by
    rw [knows.data, data, written_append]
  refine ⟨continues, encoder, ?_, cleared, .inr sources, ⟨[object.data, part.data], ?_, ?_⟩, ?_⟩
  · intro run inside
    rcases List.mem_append.mp inside with old | new
    · exact fits run old
    · exact short run new
  · have inflight := hosts.untouched [file.names.part] elsewhere file.names.inflight_mem_all
      (by simpa using hosts.inflight_ne_part)
    rw [sources]
    simp only [List.map_cons, List.map_nil, gather, stored, inflight, knows.stored]
    rfl
  · rw [List.flatten_cons, List.flatten_singleton, whole]
  · calc
      batch.size = (file.inflightSize + part.data.length) % Nat.pow 2 64 := size
      _ = (object.data ++ part.data).length % Nat.pow 2 64 := by rw [knows.size, List.length_append]
      _ = (written marker (past ++ runs file.buffer.records)).length := by
        rw [whole, Nat.mod_eq_of_lt small]

/-- The upload of the waiting records touches no object but the part. -/
theorem passes_uploadPart (hosts : store.Hosts places file.names)
    (ready : HasWritten marker past file.encoder) (fits : ∀ run ∈ past, Fits run)
    {object : StoredObject} (knows : Knows store.client marker past file start object)
    (small : (written marker (past ++ runs file.buffer.records)).length < Nat.pow 2 64) :
    Passes
      (Asking (fun history => Elsewhere places [store.client.place file.names.part] start history.store)
        [.upload store.client.bucket (some file.names.part.text), .unknown])
      (fun history => history.store = start) (file.uploadPart store)
      fun result history =>
        Elsewhere places [store.client.place file.names.part] start history.store ∧
        Continues file result.2 ∧
        ∀ batch, result.1 = .ok batch →
          Prepared store.client marker (past ++ runs file.buffer.records) file batch result.2
            history.store := by
  rw [uploadPart]
  split
  · next nothing =>
      refine .pure ?_
      rintro history rfl
      refine ⟨.refl _, .refl file, ?_⟩
      rintro batch ⟨⟩
      exact prepared_of_isEmpty ready fits knows nothing
  by_cases short : ∀ run ∈ runs file.buffer.records, Fits run
  · obtain ⟨encoder, encoded, continued⟩ := encodeRecords_of_fits ready short
    rw [encoded]
    dsimp only
    have upload := RemoteStore.passes_upload hosts.lent
      (I := fun history =>
        Elsewhere places [store.client.place file.names.part] start history.store)
      (Q := fun _ history => ∃ part,
        history.store.objects.get? (store.client.place file.names.part) = some part ∧
          part.data = blocksFrom marker past.length (summed .empty past) (runs file.buffer.records))
      (fun _ _ elsewhere kept => elsewhere.keeps kept)
      (fun _ _ part elsewhere data sets =>
        ⟨elsewhere.sets sets (List.mem_singleton_self _), part, sets.object, data⟩)
    refine .bind (upload.mono (fun _ _ asked => asked) ?_ fun _ _ holds => holds) ?_
    · rintro history rfl
      exact .refl history.store
    intro result
    cases result with
    | error cause =>
        refine .pure fun history holds => ⟨holds.1, ⟨rfl, rfl, rfl, rfl, rfl⟩, ?_⟩
        intro batch none
        cases none
    | ok metadata =>
        refine .pure fun history holds => ⟨holds.1, ⟨rfl, rfl, rfl, rfl, rfl⟩, ?_⟩
        rintro batch ⟨⟩
        obtain ⟨part, stored, data⟩ := holds.2 metadata rfl
        exact prepared_of_part hosts fits short knows small holds.1 stored data
          ⟨rfl, rfl, rfl, rfl, rfl⟩ continued rfl rfl (by rw [data])
  · obtain ⟨cause, failed⟩ := encodeRecords_of_not_fits ready.detached short
    split
    · refine .pure ?_
      rintro history rfl
      refine ⟨.refl _, ⟨rfl, rfl, rfl, rfl, rfl⟩, ?_⟩
      intro batch none
      cases none
    · next encoded =>
        rw [encoded] at failed
        cases failed

end SinkFile

end RecordSink
