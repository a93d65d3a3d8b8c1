import RecordSink.Proofs.Simulation.Trials

/-!
# Shadows

What a simulation on trial knows between its operations: each object in the store belongs to a file that is in
use, was published or may have left it behind, published objects have their records, and the open file is as
its shadow says.
-/

namespace RecordSink.Simulation

open Emulator Ordeal RecordSink.Stream

variable {τ : Type}

/-! ## Objects and files -/

/-- A file may have left objects behind. -/
def Progress.HasLeaked (progress : Progress) (name : String) : Prop :=
  ∃ entry ∈ progress.leaked, entry.1 = name

/-- A file was published. -/
def Progress.HasPublished (progress : Progress) (name : String) : Prop :=
  ∃ entry ∈ progress.published, entry.1 = name

/-- An object is explained by a file: the file is in use or may have left it behind, or it is what the file has
published. -/
structure Explains (busy : Option String) (progress : Progress) (name text : String) : Prop where
  listed : text ∈ objectTexts name
  reason : busy = some name ∨ progress.HasLeaked name ∨ text = publishText name ∧ progress.HasPublished name

/-- What a simulation knows of the store while a file is in use, or none. -/
structure Keeps (busy : Option String) (progress : Progress) (store : Emulator) : Prop where
  silent : progress.report.violations = []
  explained : ∀ text, (store.objects.get? ⟨Settings.bucket, text⟩).isSome = true →
    ∃ number ≤ progress.files, Explains busy progress (Progress.fileName number) text
  published : ∀ entry ∈ progress.published, busy ≠ some entry.1 ∧
    (∃ number ≤ progress.files, entry.1 = Progress.fileName number) ∧
    Holds ⟨Settings.bucket, publishText entry.1⟩ entry.2 store

variable {busy : Option String} {progress further : Progress} {store start now : Emulator} {name text : String}
  {number : Nat}

theorem Progress.HasLeaked.leak (leaked : progress.HasLeaked name) (other : String) (count : Nat) :
    (progress.leak other count).HasLeaked name := by
  obtain ⟨entry, inside, rfl⟩ := leaked
  by_cases same : entry.1 = other
  · exact ⟨(other, count), List.mem_cons_self, same.symm⟩
  · exact ⟨entry, List.mem_cons_of_mem _ (List.mem_filter.mpr ⟨inside, by simpa using same⟩), rfl⟩

theorem Progress.hasLeaked_leak (progress : Progress) (name : String) (count : Nat) :
    (progress.leak name count).HasLeaked name :=
  ⟨(name, count), List.mem_cons_self, rfl⟩

namespace Keeps

/-- Progress with nothing new about the store. -/
theorem onwards (kept : Keeps busy progress store)
    (silent : further.report.violations = progress.report.violations) (files : progress.files ≤ further.files)
    (leaked : ∀ name, progress.HasLeaked name → further.HasLeaked name)
    (published : further.published = progress.published) : Keeps busy further store := by
  refine ⟨silent.trans kept.silent, ?_, ?_⟩
  · intro text there
    obtain ⟨number, within, listed, reason⟩ := kept.explained text there
    refine ⟨number, Nat.le_trans within files, listed, ?_⟩
    rw [Progress.HasPublished, published]
    exact reason.imp id (.imp (leaked _) id)
  · rw [published]
    intro entry inside
    obtain ⟨other, ⟨number, within, same⟩, holds⟩ := kept.published entry inside
    exact ⟨other, ⟨number, Nat.le_trans within files, same⟩, holds⟩

/-- Progress with nothing but other counters or another open file. -/
theorem alike (kept : Keeps busy progress store)
    (silent : further.report.violations = progress.report.violations) (files : further.files = progress.files)
    (leaked : further.leaked = progress.leaked) (published : further.published = progress.published) :
    Keeps busy further store := by
  refine kept.onwards silent (Nat.le_of_eq files.symm) ?_ published
  intro name
  rw [Progress.HasLeaked, Progress.HasLeaked, leaked]
  exact id

/-- One more file may have left objects behind. -/
theorem leak (kept : Keeps busy progress store) (name : String) (count : Nat) :
    Keeps busy (progress.leak name count) store :=
  kept.onwards rfl (Nat.le_refl _) (fun _ leaked => leaked.leak _ _) rfl

/-- Nothing is there yet of the next file. -/
theorem vacant (kept : Keeps none progress store) (next : progress.files < number)
    (listed : text ∈ objectTexts (Progress.fileName number)) :
    store.objects.get? ⟨Settings.bucket, text⟩ = none := by
  rw [← Option.not_isSome_iff_eq_none]
  intro there
  obtain ⟨other, within, explains⟩ := kept.explained text there
  have same := eq_of_mem_objectTexts listed explains.listed
  omega

/-- The next file is in use. -/
theorem enter (kept : Keeps none progress store) (next : progress.files < number) :
    Keeps (some (Progress.fileName number)) progress store := by
  refine ⟨kept.silent, ?_, ?_⟩
  · intro text there
    obtain ⟨other, within, listed, reason⟩ := kept.explained text there
    exact ⟨other, within, listed, .inr (reason.resolve_left (by simp))⟩
  · intro entry inside
    obtain ⟨-, ⟨other, within, same⟩, holds⟩ := kept.published entry inside
    refine ⟨?_, ⟨other, within, same⟩, holds⟩
    rw [same, Ne, Option.some.injEq]
    intro equal
    have numbers := Progress.fileName_injective equal
    omega

/-- What is confined to the file in use leaves the rest as it is. -/
theorem frame (kept : Keeps (some (Progress.fileName number)) progress start)
    (within : number ≤ progress.files) (confined : Confined (Progress.fileName number) start now) :
    Keeps (some (Progress.fileName number)) progress now := by
  refine ⟨kept.silent, ?_, ?_⟩
  · intro text there
    by_cases own : text ∈ objectTexts (Progress.fileName number)
    · exact ⟨number, within, own, .inl rfl⟩
    · rw [confined text own] at there
      exact kept.explained text there
  · intro entry inside
    obtain ⟨other, numbered, holds⟩ := kept.published entry inside
    have apart : publishText entry.1 ∉ objectTexts (Progress.fileName number) := fun own =>
      other (congrArg some (eq_of_publishText_mem own)).symm
    refine ⟨other, numbered, ?_⟩
    rw [Holds, confined _ apart]
    exact holds

/-- A file is no longer in use that may have left objects behind, or has left none. -/
theorem leave (kept : Keeps (some name) progress store)
    (left : progress.HasLeaked name ∨
      ∀ text ∈ objectTexts name, store.objects.get? ⟨Settings.bucket, text⟩ = none) :
    Keeps none progress store := by
  refine ⟨kept.silent, ?_, fun entry inside => ⟨by simp, (kept.published entry inside).2⟩⟩
  intro text there
  obtain ⟨number, within, listed, reason⟩ := kept.explained text there
  refine ⟨number, within, listed, .inr ?_⟩
  rcases reason with same | reason
  · cases same
    rcases left with leaked | gone
    · exact .inl leaked
    · rw [gone text listed] at there
      cases there
  · exact reason

/-- A file has been published that may have left other objects behind, or has left none. -/
theorem publish (kept : Keeps (some (Progress.fileName number)) progress store)
    (within : number ≤ progress.files) {records : List Bytes}
    (holds : Holds ⟨Settings.bucket, publishText (Progress.fileName number)⟩ records store)
    (left : progress.HasLeaked (Progress.fileName number) ∨
      ∀ text ∈ workingTexts (Progress.fileName number),
        store.objects.get? ⟨Settings.bucket, text⟩ = none) :
    Keeps none { progress with
      published := (Progress.fileName number, records) ::
        progress.published.filter (·.1 != Progress.fileName number) } store := by
  refine ⟨kept.silent, ?_, ?_⟩
  · intro text there
    obtain ⟨other, numbered, listed, reason⟩ := kept.explained text there
    refine ⟨other, numbered, listed, .inr ?_⟩
    by_cases same : other = number
    · subst same
      rcases left with leaked | gone
      · exact .inl leaked
      rcases List.mem_cons.mp listed with rfl | working
      · exact .inr ⟨rfl, _, List.mem_cons_self, rfl⟩
      · rw [gone text working] at there
        cases there
    · have different : Progress.fileName other ≠ Progress.fileName number :=
        fun equal => same (Progress.fileName_injective equal)
      rcases reason with equal | leaked | ⟨target, entry, inside, title⟩
      · exact absurd (Option.some.inj equal).symm different
      · exact .inl leaked
      · refine .inr ⟨target, entry, List.mem_cons_of_mem _ (List.mem_filter.mpr ⟨inside, ?_⟩), title⟩
        rw [title]
        simpa using different
  · intro entry inside
    refine ⟨by simp, ?_⟩
    rcases List.mem_cons.mp inside with rfl | before
    · exact ⟨⟨number, within, rfl⟩, holds⟩
    · exact (kept.published entry (List.mem_of_mem_filter before)).2

end Keeps

/-! ## Files and shadows -/

/-- A file of a simulation has its name and accounts for its objects. -/
structure Owns (harness : Harness (Ordeal τ)) (name : String) (file : SinkFile) (store : Emulator) : Prop where
  title : file.name = name
  gives : harness.settings.Gives name file.names
  accounts : SinkFile.Accounts harness.client file store

/-- What the owner of a shadowed file knows. -/
def Shadow.ledger (shadow : Shadow) : SinkFile.Ledger :=
  { accepted := shadow.synced ++ shadow.buffered, synced := shadow.synced, torn := false, tried := false
    discarded := false }

/-- The open file with a number has the marker of this number, and is as its shadow says. -/
structure Mirrors (harness : Harness (Ordeal τ)) (number : Nat) (shadow : Shadow) (history : History) :
    Prop where
  owns : Owns harness (Progress.fileName number) shadow.file history.store
  upholds : SinkFile.Upholds harness.client (harness.markers number) shadow.file.names none shadow.ledger
    shadow.file history
  capacity : shadow.file.buffer.capacity = harness.settings.capacity

/-- What a simulation on trial knows between two operations. -/
structure Stays (harness : Harness (Ordeal τ)) (progress : Progress) (history : History) : Prop where
  keeps : Keeps (progress.current.map (·.file.name)) progress history.store
  mirrors : ∀ shadow, progress.current = some shadow →
    Mirrors harness progress.files shadow history

/-- The stream of the open file is not too long for its size to be written. -/
def Progress.Fits (progress : Progress) : Prop :=
  ∀ shadow ∈ progress.current, Addressable (shadow.synced ++ shadow.buffered)

instance : Decidable progress.Fits := inferInstanceAs (Decidable (∀ shadow ∈ progress.current, _))

variable {schedule : Schedule} {harness : Harness (Ordeal τ)} {shadow : Shadow} {file after : SinkFile}
  {history begun : History}

namespace Mirrors

theorem standing (mirrors : Mirrors harness number shadow history) :
    ∃ batches : List (List Bytes),
      SinkFile.Stands harness.client (harness.markers number) (batches.flatMap runs) shadow.file history.store ∧
        batches.flatten = shadow.synced ∧
        shadow.synced ++ shadow.buffered = shadow.synced ++ shadow.file.buffer.records ∧
        history.store.objects.get? (harness.client.place shadow.file.names.publish) = none :=
  mirrors.upholds.standing rfl

theorem isOpen (mirrors : Mirrors harness number shadow history) : shadow.file.state = .open := by
  obtain ⟨batches, stands, -⟩ := mirrors.standing
  exact stands.isOpen

/-- The waiting records are those of the shadow. -/
theorem waiting (mirrors : Mirrors harness number shadow history) :
    shadow.file.buffer.records = shadow.buffered := by
  obtain ⟨batches, -, -, whole, -⟩ := mirrors.standing
  exact (List.append_cancel_left whole).symm

/-- The inflight object has the synced records of the shadow. -/
theorem holds (mirrors : Mirrors harness number shadow history) :
    Holds (harness.client.place shadow.file.names.inflight) shadow.synced history.store := by
  obtain ⟨batches, stands, flat, -⟩ := mirrors.standing
  have all := stands.holds
  rw [flatten_flatMap_runs, flat] at all
  exact all

end Mirrors

/-- The file goes on accounting for its objects. -/
theorem Owns.advance (owns : Owns harness name file start) (trial : OnTrial schedule harness)
    (title : after.name = file.name)
    (advances : ∀ text,
      SinkFile.Advances (watched harness file.names text) harness.client file start after now) :
    Owns harness name after now ∧ Confined name start now := by
  have advance := advances ""
  constructor
  · refine ⟨title.trans owns.title, advance.names ▸ owns.gives, ?_⟩
    exact owns.accounts.advance (trial.houses owns.gives "").own advance
  · refine Confined.of_elsewhere owns.gives ?_ fun text => (advances text).elsewhere
    intro target inside
    rw [← advance.names]
    exact SinkFile.mem_all_of_possible inside

/-- An object is found where its name is present. -/
theorem OnTrial.isSome_object? (trial : OnTrial schedule harness) (object : ObjectName) (world : Ordeal τ) :
    (harness.object? object.text world).isSome =
      harness.client.Present world.history.store object := by
  rw [Harness.object?, trial.emulator, Emulator.object?, Option.isSome_map, Client.Present, Client.place,
    trial.bucket]

theorem OnTrial.remaining (trial : OnTrial schedule harness) (names : List ObjectName) (world : Ordeal τ) :
    harness.remaining names world = names.countP (harness.client.Present world.history.store) := by
  rw [Harness.remaining, List.countP_eq_length_filter]
  congr 2
  funext object
  exact trial.isSome_object? object world

/-- An object that decodes to the expected records raises no alarm. -/
theorem OnTrial.expect_eq (trial : OnTrial schedule harness) {records : List Bytes} {world : Ordeal τ}
    (holds : Holds ⟨Settings.bucket, text⟩ records world.history.store) (progress : Progress) :
    harness.expect text records progress world = progress := by
  obtain ⟨object, stored, decodes⟩ := holds
  have found : harness.object? text world = some object.data := by
    rw [Harness.object?, trial.emulator, Emulator.object?, stored]
    rfl
  rw [Decodes] at decodes
  rw [Harness.expect, found]
  dsimp only
  cases decoded : Stream.decode object.data with
  | error cause =>
      rw [decoded] at decodes
      cases decodes
  | ok stream =>
      rw [decoded] at decodes
      exact if_pos (Except.ok.inj decodes)

/-- Where no more objects are counted than are reported, a file that reports none has left none. -/
theorem OnTrial.gone_of_countP (trial : OnTrial schedule harness) {objects : List ObjectName}
    (none : objects.countP (harness.client.Present store) = 0) :
    ∀ text ∈ objects.map (·.text), store.objects.get? ⟨Settings.bucket, text⟩ = Option.none := by
  intro text inside
  obtain ⟨object, among, rfl⟩ := List.mem_map.mp inside
  have absent := List.countP_eq_zero.mp none object among
  rw [Client.Present, Client.place, trial.bucket, Option.not_isSome_iff_eq_none] at absent
  exact absent

/-- The inflight object of an open file is as expected. -/
theorem Mirrors.expect_eq (mirrors : Mirrors harness number shadow history) (trial : OnTrial schedule harness)
    {world : Ordeal τ} (same : world.history = history) (progress : Progress) :
    harness.expect shadow.file.names.inflight.text shadow.synced progress world = progress := by
  have holds := mirrors.holds
  rw [Client.place, trial.bucket, ← same] at holds
  exact trial.expect_eq holds progress

/-! ## Progress -/

/-- A simulation that has no open file. -/
theorem Stays.of_idle (kept : Keeps none progress history.store) (idle : progress.current = none) :
    Stays harness progress history := by
  refine ⟨?_, by simp [idle]⟩
  rw [idle]
  exact kept

/-- Progress with nothing new about the store or the open file. -/
theorem Stays.onwards (stays : Stays harness progress history)
    (silent : further.report.violations = progress.report.violations)
    (current : further.current = progress.current)
    (files : further.files = progress.files) (leaked : further.leaked = progress.leaked)
    (published : further.published = progress.published) : Stays harness further history := by
  refine ⟨?_, ?_⟩
  · rw [current]
    exact stays.keeps.alike silent files leaked published
  · rw [current, files]
    exact stays.mirrors

/-- The open file is in use. -/
theorem Stays.keeps_busy (stays : Stays harness progress history) (current : progress.current = some shadow) :
    Keeps (some (Progress.fileName progress.files)) progress history.store := by
  have keeps := stays.keeps
  rw [current] at keeps
  rw [← (stays.mirrors shadow current).owns.title]
  exact keeps

/-- A shadow takes the record that its file takes. -/
theorem Mirrors.append (mirrors : Mirrors harness number shadow history) {record : Bytes} {buffer : RecordBuffer}
    (taken : shadow.file.append record = (.ok (), { shadow.file with buffer }))
    (room : buffer.capacity = shadow.file.buffer.capacity) :
    Mirrors harness number
      { file := { shadow.file with buffer }, synced := shadow.synced, buffered := shadow.buffered ++ [record] }
      history := by
  have upholds := mirrors.upholds.append record
  have grown : shadow.ledger.note (.append record) (Except.ok () : Except SinkError Unit).isOk =
      { shadow.ledger with accepted := shadow.synced ++ (shadow.buffered ++ [record]) } := by
    rw [← List.append_assoc]
    rfl
  rw [taken, grown] at upholds
  exact ⟨⟨mirrors.owns.title, mirrors.owns.gives, mirrors.owns.accounts⟩, upholds,
    room.trans mirrors.capacity⟩

/-- A shadow takes all its records as synced where its file does. -/
theorem Mirrors.sync (owns : Owns harness (Progress.fileName number) after history.store)
    (upholds : SinkFile.Upholds harness.client (harness.markers number) after.names none
      (shadow.ledger.note .sync true) after history)
    (room : after.buffer.capacity = harness.settings.capacity) :
    Mirrors harness number { file := after, synced := shadow.synced ++ shadow.buffered, buffered := [] }
      history := by
  refine ⟨owns, ?_, room⟩
  rw [Shadow.ledger, List.append_nil]
  exact upholds

end RecordSink.Simulation
