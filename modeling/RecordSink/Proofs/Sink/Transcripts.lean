import RecordSink.Sink

/-!
# Transcripts

A world that writes down what passes its borders: what a source of credentials hands out, which requests are
sent, and which waits there are. A sink over such a world does what it does over the plain one, and leaves a
transcript besides.
-/

namespace RecordSink

variable {W α β : Type}

/-! ## Worlds that are traced -/

/-- What is written down. -/
inductive Event where
  /-- A credential was asked for. -/
  | obtained (outcome : Except CredentialError Credential)
  /-- A request was handed to the link. -/
  | sent (request : Http.Request) (outcome : Http.Outcome)
  /-- Time was let pass. -/
  | waited (span : Duration)

/-- A world with what was written down of it, in order. -/
structure Traced (W : Type) where
  world : W
  events : List Event

namespace Traced

/-- A step that goes unnoticed. -/
def lift (step : StateM W α) : StateM (Traced W) α := fun traced =>
  ((step traced.world).1, { traced with world := (step traced.world).2 })

/-- A step that is written down with its value. -/
def noting (step : StateM W α) (note : α → Event) : StateM (Traced W) α := fun traced =>
  ((step traced.world).1,
    { world := (step traced.world).2, events := traced.events ++ [note (step traced.world).1] })

end Traced

/-- The link that writes down each request. -/
def Link.traced (link : Link W) : Link (Traced W) :=
  ⟨fun request => Traced.noting (link.exchange request) (.sent request)⟩

/-- The source that writes down what it hands out. -/
def CredentialSource.traced (source : CredentialSource W) : CredentialSource (Traced W) :=
  ⟨Traced.noting source.obtain .obtained⟩

/-- The clock that writes down the waits. -/
def Clock.traced (clock : Clock W) : Clock (Traced W) where
  now := Traced.lift clock.now
  wait span := Traced.noting (clock.wait span) fun _ => .waited span
  delay policy attempt := Traced.lift (clock.delay policy attempt)

def Client.traced (client : Client W) : Client (Traced W) :=
  { client with link := client.link.traced, credentials := client.credentials.traced }

def RemoteStore.traced (store : RemoteStore W) : RemoteStore (Traced W) :=
  { store with client := store.client.traced, clock := store.clock.traced }

def Sink.traced (sink : Sink W) : Sink (Traced W) :=
  { sink with credentials := sink.credentials.traced, store := sink.store.traced }

/-! ## Steps and their transcripts -/

/-- A step over a traced world does what it does over the plain one. What it writes down goes with its value. -/
def Reports (traced : StateM (Traced W) α) (plain : StateM W α) (post : α → List Event → Prop) : Prop :=
  ∀ world events, ∃ more,
    traced ⟨world, events⟩ = ((plain world).1, ⟨(plain world).2, events ++ more⟩) ∧ post (plain world).1 more

namespace Reports

variable {traced : StateM (Traced W) α} {plain : StateM W α} {post weaker : α → List Event → Prop}

theorem pure {value : α} (holds : post value []) :
    Reports (Pure.pure value : StateM (Traced W) α) (Pure.pure value : StateM W α) post := by
  intro world events
  refine ⟨[], ?_, holds⟩
  rw [List.append_nil]
  rfl

/-- A value after what was written down before. -/
theorem ends {value : α} {log : List Event} (holds : post value log) :
    Reports (Pure.pure value : StateM (Traced W) α) (Pure.pure value : StateM W α)
      fun result more => post result (log ++ more) := by
  apply pure
  rwa [List.append_nil]

theorem mono (reports : Reports traced plain post) (imp : ∀ value log, post value log → weaker value log) :
    Reports traced plain weaker := by
  intro world events
  obtain ⟨more, same, holds⟩ := reports world events
  exact ⟨more, same, imp _ _ holds⟩

/-- Steps in turn write down one after the other. -/
theorem bind {next : α → StateM (Traced W) β} {nextPlain : α → StateM W β} {final : β → List Event → Prop}
    (first : Reports traced plain post)
    (second : ∀ value log, post value log →
      Reports (next value) (nextPlain value) fun result more => final result (log ++ more)) :
    Reports (traced >>= next) (plain >>= nextPlain) final := by
  intro world events
  obtain ⟨log, same, holds⟩ := first world events
  obtain ⟨more, sameToo, holdsToo⟩ := second _ log holds (plain world).2 (events ++ log)
  refine ⟨log ++ more, ?_, holdsToo⟩
  calc (traced >>= next) ⟨world, events⟩
      = next (traced ⟨world, events⟩).1 (traced ⟨world, events⟩).2 := rfl
    _ = next (plain world).1 ⟨(plain world).2, events ++ log⟩ := by rw [same]
    _ = ((nextPlain (plain world).1 (plain world).2).1,
          ⟨(nextPlain (plain world).1 (plain world).2).2, events ++ log ++ more⟩) := sameToo
    _ = _ := by rw [List.append_assoc]; rfl

/-- What only passes on a value writes down nothing more. -/
theorem returns {give : α → β} {final : β → List Event → Prop} (first : Reports traced plain post)
    (holds : ∀ value log, post value log → final (give value) log) :
    Reports (traced >>= fun value => Pure.pure (give value)) (plain >>= fun value => Pure.pure (give value))
      final := by
  apply first.bind
  intro value log given
  exact ends (holds value log given)

/-- What goes unnoticed may be left out. -/
theorem silent {step : StateM W α} {next : α → StateM (Traced W) β} {nextPlain : α → StateM W β}
    {final : β → List Event → Prop} (second : ∀ value, Reports (next value) (nextPlain value) final) :
    Reports (Traced.lift step >>= next) (step >>= nextPlain) final := by
  intro world events
  exact second (step world).1 (step world).2 events

theorem noting (step : StateM W α) (note : α → Event) :
    Reports (Traced.noting step note) step fun value log => log = [note value] :=
  fun _ _ => ⟨_, rfl, rfl⟩

end Reports

end RecordSink
