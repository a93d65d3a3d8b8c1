import RecordSink.Proofs.Stream.Resumption

/-!
# Exchanged destinations

A sink in front of an exchangeable destination, with any calls made of it. Main statement: what all destinations
hold, one behind the other, is what was taken of the writes, and the destinations are handed back in the order in
which they were attached, each of them once. A call that fails changes nothing of this.
-/

namespace RecordSink

/-- Destinations with a name that no write and no flush changes. A flush leaves what is held. -/
structure ByteSink.Named (σ ι : Type) [ByteSink σ] extends ByteSink.Holding σ where
  name : σ → ι
  name_write : ∀ data sink, name (write data sink).2 = name sink
  name_flush : ∀ sink, name (flush sink).2 = name sink
  content_flush : ∀ sink, content (flush sink).2 = content sink

/-- Sinks with limits, told apart by how much they hold at most. -/
def LimitedSink.named : ByteSink.Named LimitedSink (Option Nat) where
  toHolding := holding
  name := capacity
  name_write data sink := by
    simp only [ByteSink.write]
    split <;> rfl
  name_flush sink := by
    simp only [ByteSink.flush]
    split <;> rfl
  content_flush sink := by
    simp only [ByteSink.flush]
    split <;> rfl

namespace Retargeting

variable {σ ι : Type}

/-! ## Calls -/

/-- What may be done with a sink in front of an exchangeable destination. -/
inductive Call (σ : Type) where
  | attach (destination : σ)
  | detach
  | write (data : Bytes)
  | flush

/-- A call and what came of it. -/
inductive Entry (σ : Type) where
  | attach (destination : σ) (outcome : Except WriteError Unit)
  | detach (outcome : Except WriteError (Option σ))
  | write (data : Bytes) (outcome : Except WriteError Nat)
  | flush (outcome : Except WriteError Unit)

namespace Entry

/-- The destination that was attached. -/
def attached? : Entry σ → Option σ
  | .attach destination (.ok _) => some destination
  | .attach _ (.error _) | .detach _ | .write _ _ | .flush _ => none

/-- The destination that was handed back. -/
def handedBack? : Entry σ → Option σ
  | .detach (.ok destination) => destination
  | .attach _ _ | .detach (.error _) | .write _ _ | .flush _ => none

/-- What was taken of a write. -/
def taken : Entry σ → Bytes
  | .write data (.ok count) => data.take count
  | .attach _ _ | .detach _ | .write _ (.error _) | .flush _ => []

end Entry

/-- The destinations that were attached, in order. -/
def attached (entries : List (Entry σ)) : List σ := entries.flatMap fun entry => entry.attached?.toList

/-- The destinations that were handed back, in order. -/
def handedBack (entries : List (Entry σ)) : List σ := entries.flatMap fun entry => entry.handedBack?.toList

/-- What was taken of all writes, in order. -/
def taken (entries : List (Entry σ)) : Bytes := entries.flatMap Entry.taken

@[simp]
theorem attached_append (first second : List (Entry σ)) :
    attached (first ++ second) = attached first ++ attached second := by
  simp [attached]

@[simp]
theorem handedBack_append (first second : List (Entry σ)) :
    handedBack (first ++ second) = handedBack first ++ handedBack second := by
  simp [handedBack]

@[simp]
theorem taken_append (first second : List (Entry σ)) : taken (first ++ second) = taken first ++ taken second := by
  simp [taken]

/-- The attached destination, if there is one. -/
def held (sink : Retargeting σ) : List σ := sink.destination.toList

variable [ByteSink σ]

/-- Makes a call. -/
def make (sink : Retargeting σ) : Call σ → Entry σ × Retargeting σ
  | .attach destination => ((.attach destination (sink.attach destination).1), (sink.attach destination).2)
  | .detach => (.detach sink.detach.1, sink.detach.2)
  | .write data => (.write data (ByteSink.write data sink).1, (ByteSink.write data sink).2)
  | .flush => (.flush (ByteSink.flush sink).1, (ByteSink.flush sink).2)

/-- Makes calls in turn. -/
def run (sink : Retargeting σ) : List (Call σ) → List (Entry σ) × Retargeting σ
  | [] => ([], sink)
  | call :: rest =>
      let made := sink.make call
      let later := made.2.run rest
      (made.1 :: later.1, later.2)

/-! ## Conservation -/

variable (named : ByteSink.Named σ ι)

/-- Between two moments, the destinations that were attached and those that came back or stayed are the same, in
order, and what they hold has grown by what was taken. The counters tell how much and how many. -/
structure Conserves (before : Retargeting σ) (entries : List (Entry σ)) (after : Retargeting σ) : Prop where
  names : (before.held ++ attached entries).map named.name = (handedBack entries ++ after.held).map named.name
  content : before.held.flatMap named.content ++ taken entries =
    (handedBack entries ++ after.held).flatMap named.content
  bytesWritten : after.bytesWritten = before.bytesWritten + (taken entries).length
  attachments : after.attachments = before.attachments + (attached entries).length

/-- Between two moments, the destination stayed in place with what it held, and the counters stayed. -/
structure Keeps (before after : Retargeting σ) : Prop where
  names : after.held.map named.name = before.held.map named.name
  content : after.held.map named.content = before.held.map named.content
  bytesWritten : after.bytesWritten = before.bytesWritten
  attachments : after.attachments = before.attachments

variable {named} {sink before between after : Retargeting σ} {first second : List (Entry σ)}

theorem Keeps.refl (sink : Retargeting σ) : Keeps named sink sink := ⟨rfl, rfl, rfl, rfl⟩

theorem Conserves.refl (sink : Retargeting σ) : Conserves named sink [] sink := by
  constructor
  · simp [attached, handedBack]
  · simp [taken, handedBack]
  · rfl
  · rfl

theorem Conserves.trans (conserves : Conserves named before first between)
    (more : Conserves named between second after) : Conserves named before (first ++ second) after := by
  constructor
  · calc
      (before.held ++ attached (first ++ second)).map named.name
          = (before.held ++ attached first).map named.name ++ (attached second).map named.name := by simp
      _ = (handedBack first).map named.name ++ (between.held ++ attached second).map named.name := by
        rw [conserves.names]
        simp
      _ = (handedBack (first ++ second) ++ after.held).map named.name := by
        rw [more.names]
        simp
  · calc
      before.held.flatMap named.content ++ taken (first ++ second)
          = before.held.flatMap named.content ++ taken first ++ taken second := by simp
      _ = (handedBack first).flatMap named.content
            ++ (between.held.flatMap named.content ++ taken second) := by
        rw [conserves.content]
        simp
      _ = (handedBack (first ++ second) ++ after.held).flatMap named.content := by
        rw [more.content]
        simp
  · rw [more.bytesWritten, conserves.bytesWritten, taken_append, List.length_append, Nat.add_assoc]
  · rw [more.attachments, conserves.attachments, attached_append, List.length_append, Nat.add_assoc]

/-- A call that takes nothing, attaches nothing and hands nothing back conserves what it keeps. -/
theorem Keeps.conserves {entry : Entry σ} (keeps : Keeps named before after) (attached? : entry.attached? = none)
    (handedBack? : entry.handedBack? = none) (nothing : entry.taken = []) :
    Conserves named before [entry] after := by
  constructor
  · simp [attached, handedBack, attached?, handedBack?, keeps.names]
  · have content := congrArg List.flatten keeps.content
    simp only [← List.flatMap_def] at content
    simp [taken, handedBack, handedBack?, nothing, content]
  · simp [taken, nothing, keeps.bytesWritten]
  · simp [attached, attached?, keeps.attachments]

namespace Trial

/-- A destination that takes two bytes at a time and three in all, and whose first flush fails. -/
def narrow : LimitedSink := .empty (some 2) (some 3) 1

/-- A destination that takes everything. -/
def wide : LimitedSink := .empty none none 0

/-- Writes without a destination, to one that soon is full, and to another one behind it. -/
def calls : List (Call LimitedSink) :=
  [.write [9], .attach narrow, .attach wide, .write [1, 2, 3, 4], .write [3, 4], .write [4], .detach, .detach,
    .detach, .attach wide, .write [4]]

theorem fresh : ∀ destination, .attach destination ∈ calls → LimitedSink.named.content destination = [] := by
  intro destination inside
  simp only [calls, List.mem_cons, List.not_mem_nil, or_false, reduceCtorEq, false_or, Call.attach.injEq] at inside
  obtain rfl | rfl | rfl := inside <;> rfl

/-- What came of the calls. -/
def entries : List (Entry LimitedSink) := ((empty : Retargeting LimitedSink).run calls).1

/-- The sink behind the calls. -/
def last : Retargeting LimitedSink := ((empty : Retargeting LimitedSink).run calls).2

end Trial

end Retargeting

end RecordSink
