import RecordSink.Proofs.SinkFile.Hosting

/-!
# Ledgers

The owner of a file calls it in any order and keeps a ledger of the answers. What the ledger says about
the objects of the file is stated here, between calls and at the moments of a call.
-/

namespace RecordSink

open Emulator Ordeal RecordSink.Stream

/-- The object that a route asks the store to write. -/
def Emulator.Route.writes? : Route → Option String
  | .upload _ name => name
  | .compose _ name _ => some name
  | _ => none

namespace SinkFile

/-! ## Calls and answers -/

/-- What the owner of a file asks of it. -/
inductive Call where
  | append (record : Bytes)
  | sync
  | publish
  | discard
  deriving DecidableEq, Repr

/-- Performs a call: whether it succeeded, and the file after it. -/
def perform {W : Type} (store : RemoteStore W) (file : SinkFile) : Call → StateM W (Bool × SinkFile)
  | .append record =>
      let (result, file) := file.append record
      return (result.isOk, file)
  | .sync => do
      let (result, file) ← file.sync store
      return (result.isOk, file)
  | .publish => do
      let (result, file) ← file.publish store
      return (result.isOk, file)
  | .discard => do
      let (result, file) ← file.discard store
      return (result.isOk, file)

/-- What the owner of a file knows from its calls and the answers to them. -/
structure Ledger where
  /-- The records whose append succeeded, in order. -/
  accepted : List Bytes
  /-- The records accepted before the last sync that succeeded. -/
  synced : List Bytes
  /-- A sync of the open file failed. -/
  torn : Bool
  /-- A publish of the open file was tried. -/
  tried : Bool
  /-- A discard succeeded. -/
  discarded : Bool
  deriving DecidableEq, Repr

namespace Ledger

/-- The ledger of a new file. -/
def empty : Ledger :=
  { accepted := [], synced := [], torn := false, tried := false, discarded := false }

/-- The file is still open. -/
def isOpen (ledger : Ledger) : Bool := !ledger.torn && !ledger.tried && !ledger.discarded

/-- The ledger after a call that succeeded or failed. -/
def note (ledger : Ledger) : Call → Bool → Ledger
  | .append record, true => { ledger with accepted := ledger.accepted ++ [record] }
  | .append _, false => ledger
  | .sync, true => { ledger with synced := ledger.accepted }
  | .sync, false => { ledger with torn := ledger.torn || ledger.isOpen }
  | .publish, _ => { ledger with tried := ledger.tried || ledger.isOpen }
  | .discard, true => { ledger with discarded := true }
  | .discard, false => ledger

/-- The ledger while a call is under way: it may turn out in any way. -/
def pending (ledger : Ledger) : Call → Ledger
  | .append _ => ledger
  | .sync => { ledger with torn := true }
  | .publish => { ledger with tried := true }
  | .discard => { ledger with discarded := true }

variable {ledger : Ledger}

@[simp]
theorem accepted_pending (ledger : Ledger) (call : Call) :
    (ledger.pending call).accepted = ledger.accepted := by
  cases call <;> rfl

@[simp]
theorem synced_pending (ledger : Ledger) (call : Call) :
    (ledger.pending call).synced = ledger.synced := by
  cases call <;> rfl

/-- A call that a file refuses leaves the ledger of a closed file as it is. -/
theorem note_refused (closed : ledger.isOpen = false) (call : Call) : ledger.note call false = ledger := by
  cases call <;> simp [note, closed]

theorem note_sync_failed (opened : ledger.isOpen = true) :
    ledger.note .sync false = ledger.pending .sync := by
  rw [note, pending, opened, Bool.or_true]

theorem note_publish (opened : ledger.isOpen = true) (succeeded : Bool) :
    ledger.note .publish succeeded = ledger.pending .publish := by
  rw [note, pending, opened, Bool.or_true]

/-- A call never takes a record back. -/
theorem accepted_note (ledger : Ledger) (call : Call) (succeeded : Bool) :
    ledger.accepted <+: (ledger.note call succeeded).accepted := by
  cases call <;> cases succeeded <;> first | exact List.prefix_rfl | exact List.prefix_append _ _

/-- The synced records stay the first of the accepted ones. -/
theorem synced_note (ledger : Ledger) (ordered : ledger.synced <+: ledger.accepted) (call : Call)
    (succeeded : Bool) : (ledger.note call succeeded).synced <+: (ledger.note call succeeded).accepted := by
  cases call with
  | append record =>
      cases succeeded with
      | true => exact ordered.trans (List.prefix_append _ _)
      | false => exact ordered
  | sync =>
      cases succeeded with
      | true => exact List.prefix_rfl
      | false => exact ordered
  | publish => exact ordered
  | discard => cases succeeded <;> exact ordered

end Ledger

/-- Performs calls in turn and notes the answers. -/
def run {W : Type} (store : RemoteStore W) : List Call → SinkFile → Ledger → StateM W (SinkFile × Ledger)
  | [], file, ledger => return (file, ledger)
  | call :: rest, file, ledger => do
      let (succeeded, file) ← file.perform store call
      run store rest file (ledger.note call succeeded)

/-! ## What the ledger says -/

variable {τ : Type} {places : List Place} {store : RemoteStore (Ordeal τ)} {client : Client (Ordeal τ)}
  {marker : Marker} {names : FileNames} {initial : Option StoredObject} {ledger : Ledger} {call : Call}
  {file : SinkFile} {start history : History}

/-- The store was asked to delete the inflight object. -/
def Removal (client : Client (Ordeal τ)) (names : FileNames) (moments : List Moment) : Prop :=
  ∃ moment ∈ moments, moment.route = .delete client.bucket names.inflight.text

theorem Removal.mono {before after : List Moment} (within : before <:+ after)
    (removal : Removal client names before) : Removal client names after := by
  obtain ⟨moment, inside, route⟩ := removal
  exact ⟨moment, within.subset inside, route⟩

/-- What a ledger says about the objects: until its removal the inflight object has the synced
records, and the publish object is the one from the start, or has all records, or is removed. -/
structure Tells (client : Client (Ordeal τ)) (names : FileNames) (initial : Option StoredObject)
    (ledger : Ledger) (history : History) : Prop where
  inflight : ¬ Removal client names history.moments →
    Holds (client.place names.inflight) ledger.synced history.store ∨
      ledger.torn = true ∧ Holds (client.place names.inflight) ledger.accepted history.store
  publish : history.store.objects.get? (client.place names.publish) = initial ∨
    ledger.tried = true ∧
      (Holds (client.place names.publish) ledger.accepted history.store ∨
        ledger.discarded = true ∧ history.store.objects.get? (client.place names.publish) = none)

/-- What a pending ledger says of the inflight object, in terms of the ledger from before the call. -/
theorem Tells.inflight_of_pending (tells : Tells client names initial (ledger.pending call) history)
    (standing : ¬ Removal client names history.moments) :
    Holds (client.place names.inflight) ledger.synced history.store ∨
      (ledger.torn = true ∨ call = .sync) ∧
        Holds (client.place names.inflight) ledger.accepted history.store := by
  have told := tells.inflight standing
  rw [Ledger.synced_pending, Ledger.accepted_pending] at told
  rcases told with synced | ⟨torn, all⟩
  · exact .inl synced
  · refine .inr ⟨?_, all⟩
    cases call with
    | sync => exact .inr rfl
    | _ => exact .inl torn

/-- What a pending ledger says of the publish object, in terms of the ledger from before the call. -/
theorem Tells.publish_of_pending (tells : Tells client names initial (ledger.pending call) history)
    (fresh : call = .publish → ledger.discarded = false) :
    history.store.objects.get? (client.place names.publish) = initial ∨
      ((ledger.tried = true ∨ call = .publish) ∧
        Holds (client.place names.publish) ledger.accepted history.store) ∨
      ledger.tried = true ∧ (ledger.discarded = true ∨ call = .discard) ∧
        history.store.objects.get? (client.place names.publish) = none := by
  rcases tells.publish with old | ⟨tried, all | ⟨discarded, gone⟩⟩
  · exact .inl old
  · rw [Ledger.accepted_pending] at all
    refine .inr (.inl ⟨?_, all⟩)
    cases call with
    | publish => exact .inr rfl
    | _ => exact .inl tried
  · right
    right
    cases call with
    | append record => exact ⟨tried, .inl discarded, gone⟩
    | sync => exact ⟨tried, .inl discarded, gone⟩
    | publish => cases (fresh rfl).symm.trans discarded
    | discard => exact ⟨tried, .inr rfl, gone⟩

/-- What the ledger says between two calls. -/
structure Upholds (client : Client (Ordeal τ)) (marker : Marker) (names : FileNames)
    (initial : Option StoredObject) (ledger : Ledger) (file : SinkFile) (history : History) : Prop where
  named : file.names = names
  standing : ledger.isOpen = true → ∃ batches : List (List Bytes),
    Stands client marker (batches.flatMap runs) file history.store ∧
      batches.flatten = ledger.synced ∧
      ledger.accepted = ledger.synced ++ file.buffer.records ∧
      history.store.objects.get? (client.place names.publish) = initial
  closed : ledger.isOpen = false → file.state ≠ .open
  attempted : file.publishAttempted = true → ledger.tried = true
  tells : Tells client names initial ledger history

/-- What the ledger from before a call says at a moment of the call. -/
structure During (places : List Place) (client : Client (Ordeal τ)) (names : FileNames)
    (initial : Option StoredObject) (ledger : Ledger) (call : Call) (start : Emulator)
    (moment : Moment) (past : List Moment) : Prop where
  elsewhere : Elsewhere places (names.all.map client.place) start moment.store
  tells : Tells client names initial (ledger.pending call)
    { store := moment.store, moments := moment :: past }
  quiet : call ≠ .publish → call ≠ .discard →
    moment.store.objects.get? (client.place names.publish) =
      start.objects.get? (client.place names.publish)
  writes : moment.route.writes? = some names.publish.text →
    call = .publish ∧ ∃ generation, moment.route = .compose client.bucket names.publish.text generation

end SinkFile

end RecordSink
