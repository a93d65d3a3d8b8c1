import RecordSink.Proofs.SinkFile.Runs

/-!
# Files side by side

Two files over one store, called in any order. Files that share no object do not notice each other: what
each ledger says stays true through the calls of both.
-/

namespace RecordSink.SinkFile

open Emulator Ordeal RecordSink.Stream

variable {τ : Type} {places : List Place} {store : RemoteStore (Ordeal τ)}

/-! ## Two files -/

/-- Two files with their ledgers, by side. -/
abbrev Pair := Bool → SinkFile × Ledger

/-- The pair with one of its files replaced. -/
def Pair.set (pair : Pair) (side : Bool) (value : SinkFile × Ledger) : Pair :=
  fun other => if other = side then value else pair other

theorem Pair.set_self (pair : Pair) (side : Bool) (value : SinkFile × Ledger) :
    pair.set side value side = value := if_pos rfl

theorem Pair.set_other (pair : Pair) {side other : Bool} (apart : other ≠ side)
    (value : SinkFile × Ledger) : pair.set side value other = pair other := if_neg apart

/-- Performs calls to two files in turn and notes the answers. -/
def interleave {W : Type} (store : RemoteStore W) : List (Bool × Call) → Pair → StateM W Pair
  | [], pair => return pair
  | (side, call) :: rest, pair => do
      let (succeeded, file) ← (pair side).1.perform store call
      interleave store rest (pair.set side (file, (pair side).2.note call succeeded))

/-- Two files are independent: whatever is called next, a publish that succeeds leaves the file's own
accepted records, and neither a publish nor a discard touches an object of the other file. -/
def Independent (store : RemoteStore (Ordeal τ)) (pair : Pair) (world : Ordeal τ) : Prop :=
  ∀ steps next later,
    interleave store steps pair world = (next, later) →
    (∀ side, Addressable (next side).2.accepted) →
    ∀ side call succeeded after last,
      (next side).1.perform store call later = ((succeeded, after), last) →
        (call = .publish → succeeded = true →
          Holds (store.client.place (pair side).1.names.publish) (next side).2.accepted
            last.history.store) ∧
        (call = .publish ∨ call = .discard →
          Through
            (fun moment _ => ∀ name ∈ (pair !side).1.names.all,
              moment.store.objects.get? (store.client.place name) =
                later.history.store.objects.get? (store.client.place name))
            later.history.moments last.history.moments)

/-- The records of both ledgers are never fewer after calls. -/
theorem accepted_interleave {W : Type} (store : RemoteStore W) (steps : List (Bool × Call)) (pair : Pair)
    (world : W) (other : Bool) :
    (pair other).2.accepted <+: ((interleave store steps pair world).1 other).2.accepted := by
  induction steps generalizing pair world with
  | nil => exact List.prefix_rfl
  | cons step rest ih =>
      obtain ⟨side, call⟩ := step
      refine List.IsPrefix.trans ?_ (ih _ _)
      by_cases same : other = side
      · subst same
        rw [Pair.set_self]
        exact (pair other).2.accepted_note call _
      · rewrite [Pair.set_other _ same]
        exact List.prefix_rfl

/-- The ledgers of both files say what there is. -/
def UpholdsBoth (client : Client (Ordeal τ)) (names : Bool → FileNames) (pair : Pair)
    (history : History) : Prop :=
  ∀ side, ∃ marker initial,
    Upholds client marker (names side) initial (pair side).2 (pair side).1 history

/-- A store on trial hosts both files, which share no object. -/
structure HostsBoth (places : List Place) (store : RemoteStore (Ordeal τ)) (names : Bool → FileNames) :
    Prop where
  hosts : ∀ side, store.Hosts places (names side)
  apart : ∀ side, ∀ name ∈ (names !side).all,
    store.client.place name ∉ (names side).all.map store.client.place

variable {names : Bool → FileNames} {pair : Pair} {world : Ordeal τ}

/-- A call to one file keeps what both ledgers say. -/
theorem UpholdsBoth.perform (both : HostsBoth places store names)
    (upholds : UpholdsBoth store.client names pair world.history) (side : Bool)
    (call : Call) (small : Addressable (pair side).2.accepted) :
    UpholdsBoth store.client names
      (pair.set side (((pair side).1.perform store call world).1.2,
        (pair side).2.note call ((pair side).1.perform store call world).1.1))
      ((pair side).1.perform store call world).2.history := by
  obtain ⟨marker, initial, own⟩ := upholds side
  obtain ⟨through, kept, elsewhere⟩ := passes_perform (both.hosts side) call own small world rfl
  intro other
  by_cases same : other = side
  · subst same
    rw [Pair.set_self]
    exact ⟨marker, initial, kept⟩
  · rw [Pair.set_other _ same]
    have opposite : other = !side := by cases other <;> cases side <;> trivial
    obtain ⟨marker, initial, beside⟩ := upholds other
    refine ⟨marker, initial, beside.frame (both.hosts other) elsewhere ?_ through.isSuffix⟩
    rw [opposite]
    exact both.apart side

/-- Calls to both files in any order keep what both ledgers say. -/
theorem UpholdsBoth.interleave (both : HostsBoth places store names)
    (steps : List (Bool × Call))
    (upholds : UpholdsBoth store.client names pair world.history)
    (small : ∀ side,
      Addressable ((SinkFile.interleave store steps pair world).1 side).2.accepted) :
    UpholdsBoth store.client names (SinkFile.interleave store steps pair world).1
      (SinkFile.interleave store steps pair world).2.history := by
  induction steps generalizing pair world with
  | nil => exact upholds
  | cons step rest ih =>
      obtain ⟨side, call⟩ := step
      have grown := accepted_interleave store ((side, call) :: rest) pair world side
      have fits := (small side).of_isPrefix grown
      exact ih (upholds.perform both side call fits) small

/-- A publish that succeeds gives a publication. -/
theorem publish_of_perform {W : Type} {store : RemoteStore W} {file after : SinkFile} {world last : W}
    (performed : file.perform store .publish world = ((true, after), last)) :
    ∃ publication, file.publish store world = ((.ok publication, after), last) := by
  rcases published : file.publish store world with ⟨⟨result, final⟩, ended⟩
  have same : file.perform store .publish world = ((result.isOk, final), ended) := by
    simp only [perform, bind, StateT.bind, published]
    rfl
  cases result with
  | ok publication =>
      cases same.symm.trans performed
      exact ⟨publication, rfl⟩
  | error cause => cases same.symm.trans performed

/-- Files that share no object are independent. -/
theorem independent_of_apart (both : HostsBoth places store names)
    (upholds : (∀ side, Addressable (pair side).2.accepted) →
      UpholdsBoth store.client names pair world.history) : Independent store pair world := by
  intro steps next later interleaved small side call succeeded after last performed
  have started : ∀ side, Addressable (pair side).2.accepted := by
    intro side
    have grown := accepted_interleave store steps pair world side
    rw [interleaved] at grown
    exact (small side).of_isPrefix grown
  have named : ∀ side, (pair side).1.names = names side := by
    intro side
    obtain ⟨marker, initial, own⟩ := upholds started side
    exact own.named
  have kept := (upholds started).interleave both steps (by rw [interleaved]; exact small)
  rw [interleaved] at kept
  obtain ⟨marker, initial, own⟩ := kept side
  constructor
  · rintro rfl rfl
    obtain ⟨publication, published⟩ := publish_of_perform performed
    rw [named]
    exact own.published (both.hosts side) (small side) published
  · intro _
    obtain ⟨through, -⟩ := passes_perform (both.hosts side) call own (small side) later rfl
    rw [performed] at through
    refine through.mono ?_
    intro moment past during name inside
    rw [named] at inside
    exact during.elsewhere.objects _ ((both.hosts !side).own name inside) (both.apart side name inside)

end RecordSink.SinkFile
