import RecordSink.Proofs.Ordeal.Calm
import RecordSink.Proofs.SinkFile.SideBySide

/-!
# Intrusions

A publish of waiting records writes the part before anything else. Where the part of one file is the
inflight object of another, the publish of the one overwrites what the other stands on.
-/

namespace RecordSink.SinkFile

open Emulator Ordeal RecordSink.Stream

variable {τ : Type} {store : RemoteStore (Ordeal τ)} {credential : Credential} {world : Ordeal τ}

/-! ## Writing the part -/

theorem grows_removeAll (calm : store.IsCalm credential)
    (left : List ObjectName) : Grows (removeAll store left) := by
  induction left with
  | nil => exact .pure
  | cons name rest ih =>
      rw [removeAll]
      refine .bind calm.grows_deleteIfExists fun outcome => .bind ih fun failures => ?_
      cases outcome with
      | ok _ => exact .pure
      | error cause => exact .pure

/-- An object has been written in the first of some later moments. -/
def Written (place : Place) (start : History) (history : History) : Prop :=
  ∃ moment, moment :: start.moments <:+ history.moments ∧
    ∃ object, moment.store.objects.get? place = some object ∧
      object.generation = start.store.nextGeneration

theorem Written.stable {place : Place} {start before after : History}
    (later : before.moments <:+ after.moments) (written : Written place start before) :
    Written place start after := by
  obtain ⟨moment, inside, object⟩ := written
  exact ⟨moment, inside.trans later, object⟩

/-- A publish of waiting records writes the part first, over whatever stands there. -/
theorem passes_publish_part (calm : store.IsCalm credential) {file : SinkFile}
    {start : History} (admitted : store.client.IsAdmitted credential start.store)
    (isOpen : file.state = .open) (waiting : file.buffer.isEmpty = false) {body : Bytes}
    {encoder : Stream.Encoder (Retargeting Body)}
    (encoded : encodeRecords file.buffer.records file.encoder = (.ok body, encoder)) :
    Passes (fun _ _ => True) (fun history => history = start) (file.publish store)
      fun _ history => Written (store.client.place file.names.part) start history := by
  have stable : ∀ before after : History, before.moments <:+ after.moments →
      Written (store.client.place file.names.part) start before →
      Written (store.client.place file.names.part) start after := fun _ _ => Written.stable
  have upload : Passes (fun _ _ => True) (fun history => history = start)
      (store.upload file.names.part body)
      fun _ history => Written (store.client.place file.names.part) start history := by
    refine (calm.passes_upload admitted).mono (fun _ _ _ => trivial) (fun _ same => same) ?_
    rintro result history ⟨moment, same, object⟩
    exact ⟨moment, same ▸ List.suffix_rfl, object⟩
  have part : Passes (fun _ _ => True) (fun history => history = start)
      (uploadPart store { file with publishAttempted := true })
      fun _ history => Written (store.client.place file.names.part) start history := by
    rw [uploadPart, if_neg (by simp [waiting])]
    dsimp only
    rw [encoded]
    refine .bind upload ?_
    intro result
    cases result with
    | error cause => exact .pure fun _ holds => holds
    | ok answer => exact .pure fun _ holds => holds
  have compose : Passes (fun _ _ => True) (fun history => history = start)
      (composePublish store { file with publishAttempted := true })
      fun _ history => Written (store.client.place file.names.part) start history := by
    rw [composePublish]
    refine .bind part ?_
    rintro ⟨result, after⟩
    cases result with
    | error cause => exact .pure fun _ holds => holds
    | ok batch =>
        refine .bind ((calm.grows_compose _).passes stable) ?_
        intro answer
        cases answer with
        | error cause => exact .pure fun _ holds => holds
        | ok answer => exact .pure fun _ holds => holds
  rw [publish, if_neg (by simp [isOpen])]
  refine .bind compose ?_
  rintro ⟨result, after⟩
  cases result with
  | error cause => exact .pure fun _ holds => holds
  | ok answer =>
      refine .bind ((grows_removeAll calm _).passes stable) ?_
      intro failures
      exact .pure fun _ holds => holds

/-! ## Intruding -/

/-- A record without bytes has a block of its own. -/
theorem fits_nil : ∀ run ∈ runs [[]], Fits run := by
  intro run inside
  rw [show runs [[]] = [[[]]] by simp [runs, fitting], List.mem_singleton] at inside
  rw [inside]
  show payloadSize [[]] < lengthBound
  decide

/-- A record waits in a new file with room for one. -/
theorem append_nil {file : SinkFile} {capacity : Nat} (isOpen : file.state = .open)
    (empty : file.buffer = .empty capacity) (room : capacity ≠ 0) :
    file.append [] = (.ok (), { file with buffer := { records := [[]], capacity } }) := by
  have taken : file.buffer.push? [] = some { records := [[]], capacity } := by
    rw [empty, RecordBuffer.push?, if_neg]
    · rfl
    · simp [RecordBuffer.isFull, RecordBuffer.size, RecordBuffer.empty, room]
  rw [append, if_neg (by simp [isOpen]), if_neg (by decide), taken]

/-- A file whose part is the inflight object of the other one intrudes on it. -/
theorem not_independent_of_part_eq (calm : store.IsCalm credential)
    (files : Bool → SinkFile) (side : Bool) {capacity : Nat} {marker : Marker} {start : Emulator}
    (stands : Stands store.client marker [] (files side) start)
    (empty : (files side).buffer = .empty capacity) (room : capacity ≠ 0)
    (admitted : store.client.IsAdmitted credential world.history.store) {old : StoredObject}
    (stored : world.history.store.objects.get?
      (store.client.place (files !side).names.inflight) = some old)
    (older : old.generation < world.history.store.nextGeneration)
    (same : (files side).names.part = (files !side).names.inflight) :
    ¬ Independent store (fun side => (files side, .empty)) world := by
  intro independent
  let taken : SinkFile := { files side with buffer := { records := [[]], capacity } }
  let pair : Pair := fun side => (files side, .empty)
  have appended : (files side).perform store (.append []) world = ((true, taken), world) := by
    rw [perform, append_nil stands.isOpen empty room]
    rfl
  have interleaved : interleave store [(side, .append [])] pair world =
      (pair.set side (taken, Ledger.empty.note (.append []) true), world) := by
    rw [interleave]
    simp only [bind, StateT.bind, pair, appended]
    rfl
  have small : ∀ other, Addressable
      (pair.set side (taken, Ledger.empty.note (.append []) true) other).2.accepted := by
    intro other
    by_cases own : other = side
    · subst own
      rw [Pair.set_self]
      show Addressable [[]]
      decide
    · rw [Pair.set_other _ own]
      show Addressable []
      decide
  rcases performed : taken.publish store world with ⟨⟨result, final⟩, last⟩
  have published : taken.perform store .publish world = ((result.isOk, final), last) := by
    simp only [perform, bind, StateT.bind, performed]
    rfl
  obtain ⟨-, untouched⟩ := independent _ _ _ interleaved small side .publish _ _ _
    (by rw [Pair.set_self]; exact published)
  obtain ⟨encoder, encoded, -⟩ := encodeRecords_of_fits stands.encoder fits_nil
  have publish : Passes _ (fun now => now = world.history) (taken.publish store) _ :=
    passes_publish_part calm admitted stands.isOpen rfl encoded
  obtain ⟨-, moment, inside, object, written, fresh⟩ := publish world rfl
  rw [performed] at inside
  have kept := (untouched (.inl rfl)).first inside (files !side).names.inflight
    (by simp)
  rw [stored, ← same] at kept
  cases written.symm.trans kept
  exact Nat.ne_of_lt older fresh

end RecordSink.SinkFile
