import RecordSink.Proofs.Simulation.Shadows
import RecordSink.Proofs.SinkFile.Progress

/-!
# Operations of a simulation

Each operation of a simulation on trial keeps what the simulation knows, and raises no alarm. A file that
fails is discarded, and counted as one that may have left objects behind where its discard says so.
-/

namespace RecordSink.Simulation

open Emulator Ordeal RecordSink.Stream

variable {τ : Type} {schedule : Schedule} {harness : Harness (Ordeal τ)} {progress further : Progress}
  {shadow : Shadow} {file after : SinkFile} {history begun : History} {store start now : Emulator}
  {name text : String}

/-! ## Discarding -/

/-- The world can be looked at. -/
theorem passes_get {P : Moment → List Moment → Prop} {pre : History → Prop} :
    Passes P pre (get : StateM (Ordeal τ) (Ordeal τ))
      fun world history => pre history ∧ world.history = history :=
  fun _ begins => ⟨.done, begins, rfl⟩

/-- The discard of an unfinished file raises no alarm, and the file is no longer in use. -/
theorem OnTrial.passes_discardShadow (trial : OnTrial schedule harness)
    (owns : Owns harness (Progress.fileName progress.files) shadow.file begun.store)
    (unfinished : ¬ (shadow.file.state ≠ .open ∧ shadow.file.state ≠ .failed))
    (kept : Keeps (some (Progress.fileName progress.files)) progress begun.store) :
    Passes (fun _ _ => True) (fun now => now = begun)
      (harness.discardShadow shadow { progress with current := none })
      fun result history => Stays harness result.2 history ∧ result.2.current = none := by
  have discarded : Passes _ (fun now => now = begun) (shadow.file.discard harness.sink.store) _ :=
    (Passes.all fun text => (SinkFile.passes_discard_exposed (trial.houses owns.gives text)).since).yields
      (SinkFile.discard_yields harness.sink.store unfinished)
  rw [Harness.discardShadow]
  refine .bind (discarded.mono (fun _ _ _ => trivial) (fun _ begins => begins) fun _ _ holds => holds) ?_
  rintro ⟨result, after⟩
  cases result with
  | error cause =>
      refine .each fun history holds => ?_
      obtain ⟨left, none⟩ := holds.2.1
      cases none
  | ok leftover =>
      refine .bind passes_get fun world => .pure ?_
      rintro history ⟨⟨each, -⟩, rfl⟩
      have confined : Confined (Progress.fileName progress.files) begun.store world.history.store :=
        .of_elsewhere owns.gives (fun _ inside => SinkFile.mem_all_of_possible inside)
          fun text => (each text).2.1.elsewhere
      have framed := kept.frame (Nat.le_refl _) confined
      have bounded : shadow.file.names.all.countP (harness.client.Present world.history.store) ≤
          leftover :=
        (each "").2.2 leftover rfl owns.accounts (trial.injects.honest _)
      have quiet : ¬ leftover < harness.remaining
          [shadow.file.names.inflight, shadow.file.names.part, shadow.file.names.publish] world := by
        rw [trial.remaining]
        exact Nat.not_lt.mpr bounded
      have noted : Keeps (some (Progress.fileName progress.files))
          { progress with
            current := none
            report := { progress.report with discards := progress.report.discards + 1 } }
          world.history.store :=
        framed.alike rfl rfl rfl rfl
      dsimp only
      rw [if_neg quiet]
      by_cases some : 0 < leftover
      · rw [if_pos some, owns.title]
        have leaked := noted.leak (Progress.fileName progress.files) leftover
        exact ⟨.of_idle (leaked.leave (.inl (Progress.hasLeaked_leak _ _ _))) rfl, rfl⟩
      · rw [if_neg some]
        refine ⟨.of_idle (noted.leave (.inr ?_)) rfl, rfl⟩
        intro text listed
        refine trial.gone_of_countP (Nat.eq_zero_of_le_zero (Nat.le_trans bounded (Nat.not_lt.mp some))) text ?_
        exact owns.gives.mem_objectTexts_iff.mp listed

/-- A discard of the open file. -/
theorem OnTrial.passes_discard (trial : OnTrial schedule harness) (stays : Stays harness progress begun)
    (current : progress.current = some shadow) :
    Passes (fun _ _ => True) (fun now => now = begun)
      (harness.discardShadow shadow { progress with current := none })
      fun result history => Stays harness result.2 history ∧ result.2.current = none := by
  have mirrors := stays.mirrors shadow current
  exact trial.passes_discardShadow mirrors.owns (fun other => other.1 mirrors.isOpen)
    (stays.keeps_busy current)

/-! ## Creating -/

/-- A new file in a place without objects accounts for its own. -/
theorem accounts_of_vacant {client : Client (Ordeal τ)} {places : List Place}
    (own : ∀ object ∈ file.names.all, client.place object ∈ places)
    (elsewhere : Elsewhere places ([file.names.inflight].map client.place) start now)
    (vacant : ∀ object ∈ file.names.all, start.objects.get? (client.place object) = none) :
    SinkFile.Accounts client file now := by
  intro object inside present
  refine SinkFile.mem_possibleNames.mpr (.inl ?_)
  by_contra other
  have same := elsewhere.objects _ (own object inside) (Client.place_not_mem (by simpa using other))
  rw [Client.Present, same, vacant object inside] at present
  cases present

/-- A new file raises no alarm, and where it could not be created it is counted as one that may have left
objects behind. -/
theorem OnTrial.passes_create (trial : OnTrial schedule harness) (idle : progress.current = none)
    (kept : Keeps (some (Progress.fileName progress.files)) progress begun.store)
    (vacant : ∀ text ∈ objectTexts (Progress.fileName progress.files),
      begun.store.objects.get? ⟨Settings.bucket, text⟩ = none) :
    Passes (fun _ _ => True) (fun now => now = begun)
      (harness.create (Progress.fileName progress.files) progress)
      fun result history => Stays harness result.2 history := by
  have failed : ∀ history : History,
      Confined (Progress.fileName progress.files) begun.store history.store →
      Stays harness (progress.leak (Progress.fileName progress.files) 1) history := by
    intro history confined
    have noted := (kept.frame (Nat.le_refl _) confined).leak (Progress.fileName progress.files) 1
    exact .of_idle (noted.leave (.inl (Progress.hasLeaked_leak _ _ _))) idle
  rw [Harness.create, Sink.createFile, trial.config]
  cases gives : FileNames.ofDirectories harness.settings.config.workingDir
      harness.settings.config.publishDir (Progress.fileName progress.files) with
  | error cause =>
      show Passes _ _ (pure (false, progress.leak (Progress.fileName progress.files) 1)) _
      refine .pure ?_
      rintro history rfl
      exact failed _ (.refl _ _)
  | ok names =>
      have own := (trial.houses gives "").own
      have creating : Passes _ (fun now => now = begun)
          (SinkFile.create harness.sink.store (Progress.fileName progress.files) names
            harness.sink.recordsPerSync (harness.markers progress.files)) _ :=
        ((Passes.all fun text => (SinkFile.passes_create_exposed (trial.houses gives text) _ _ _).since).and
          (SinkFile.passes_create (trial.houses gives "").hosts _ _ _)).yields
            (SinkFile.create_progress harness.sink.store _ names _ (harness.markers progress.files))
      refine .bind (creating.mono (fun _ _ _ => trivial) (fun _ same => same) fun _ _ holds => holds) ?_
      intro result
      refine .each ?_
      rintro history ⟨⟨each, -, opened⟩, titled⟩
      have inflight : ∀ target ∈ [names.inflight], target ∈ names.all := by simp
      have confined : Confined (Progress.fileName progress.files) begun.store history.store :=
        .of_elsewhere gives inflight fun text => (each text).1
      cases result with
      | error cause =>
          refine .pure ?_
          rintro now rfl
          exact failed _ confined
      | ok file =>
          refine .pure ?_
          rintro now rfl
          obtain ⟨stands, rfl, empty, -⟩ := opened file rfl
          have title := (titled file rfl).1
          have absent : ∀ object ∈ file.names.all,
              begun.store.objects.get? (harness.client.place object) = none := by
            intro object inside
            rw [Client.place, trial.bucket]
            exact vacant _ ((Settings.Gives.mem_objectTexts_iff gives).mpr (List.mem_map_of_mem inside))
          have elsewhere := (each "").1
          have apart : file.names.publish ∉ [file.names.inflight] := by
            simpa using (trial.houses gives "").inflight_ne_publish.symm
          have publish := elsewhere.objects _ (own file.names.publish (by simp)) (Client.place_not_mem apart)
          constructor
          · show Keeps (some file.name) _ _
            rw [title]
            exact (kept.frame (Nat.le_refl _) confined).alike rfl rfl rfl rfl
          · rintro shadow ⟨⟩
            refine ⟨⟨title, gives, accounts_of_vacant own elsewhere absent⟩, ?_, ?_⟩
            · refine stands.upholds (by rw [empty]; rfl) ?_
              rw [publish]
              exact absent _ (by simp)
            · show file.buffer.capacity = harness.settings.capacity
              rw [empty, Sink.recordsPerSync, trial.config]
              rfl

/-! ## Appending -/

/-- A file takes a record exactly where its shadow has room for it, so that no append raises an alarm. -/
theorem Stays.append (stays : Stays harness progress history) {record : Bytes}
    (short : record.length < Stream.lengthBound) :
    Stays harness (harness.append record progress).2 history := by
  rw [Harness.append]
  cases current : progress.current with
  | none => exact stays
  | some shadow =>
      have mirrors := stays.mirrors shadow current
      have waiting := mirrors.waiting
      have capacity := mirrors.capacity
      have keeps := stays.keeps
      rw [current] at keeps
      dsimp only
      by_cases room : shadow.buffered.length < harness.settings.capacity
      · have taken := SinkFile.append_progress mirrors.isOpen short (by rw [waiting, capacity]; exact room)
        rw [taken]
        dsimp only
        rw [if_neg (Nat.not_le.mpr room)]
        refine ⟨keeps.alike rfl rfl rfl rfl, ?_⟩
        rintro other ⟨⟩
        exact mirrors.append taken rfl
      · have full : harness.settings.capacity ≤ shadow.buffered.length := Nat.not_lt.mp room
        have refused := SinkFile.append_of_full mirrors.isOpen short (by rw [waiting, capacity]; exact full)
        have same : ¬ shadow.file.buffer.size ≠ shadow.buffered.length := by
          rw [RecordBuffer.size, waiting]
          exact not_not_intro rfl
        rw [refused]
        dsimp only
        rw [if_pos full, if_neg same]
        exact stays.onwards rfl current.symm rfl rfl rfl

/-! ## Syncing -/

/-- A sync that succeeds leaves the records of the shadow in the inflight object, and the file that fails is
discarded. -/
theorem OnTrial.passes_sync (trial : OnTrial schedule harness) (stays : Stays harness progress begun)
    (fits : progress.Fits) :
    Passes (fun _ _ => True) (fun now => now = begun) (harness.sync progress)
      fun result history => Stays harness result.2 history := by
  rw [Harness.sync]
  cases current : progress.current with
  | none =>
      refine .pure ?_
      rintro history rfl
      exact stays
  | some shadow =>
      have mirrors := stays.mirrors shadow current
      have kept := stays.keeps_busy current
      have owns := mirrors.owns
      have upheld : Passes _ (fun now => now = begun) (shadow.file.sync harness.sink.store)
          fun result history =>
            SinkFile.Upholds harness.client (harness.markers progress.files) shadow.file.names none
              (shadow.ledger.note .sync result.1.isOk) result.2 history :=
        fun world begins =>
          (SinkFile.passes_perform (trial.houses owns.gives "").hosts .sync mirrors.upholds (fits shadow current)
            world begins).imp id And.left
      have syncing : Passes _ (fun now => now = begun) (shadow.file.sync harness.sink.store) _ :=
        ((Passes.all fun text => (SinkFile.passes_sync_exposed (trial.houses owns.gives text)).since).and
          upheld).yields (SinkFile.sync_progress harness.sink.store mirrors.isOpen)
          |>.yields (SinkFile.sync_keeps harness.sink.store shadow.file)
      refine .bind (syncing.mono (fun _ _ _ => trivial) (fun _ begins => begins) fun _ _ holds => holds) ?_
      rintro ⟨result, file⟩
      refine .each ?_
      rintro middle ⟨⟨⟨advances, upholds⟩, progressed⟩, title, -⟩
      obtain ⟨owned, confined⟩ := owns.advance trial title advances
      have framed := kept.frame (Nat.le_refl _) confined
      cases result with
      | error cause =>
          have failed : file.state = .failed := by
            rcases progressed with ⟨none, -⟩ | ⟨_, -, -, failed⟩
            · cases none
            · exact failed
          dsimp only
          rw [if_neg (not_not_intro failed)]
          have unfinished : ¬ (file.state ≠ .open ∧ file.state ≠ .failed) := fun other => other.2 failed
          exact .bind (trial.passes_discardShadow owned unfinished framed)
            fun _ => .pure fun _ holds => holds.1
      | ok _ =>
          have cleared : file.buffer = shadow.file.buffer.clear := by
            rcases progressed with ⟨-, -, cleared, -⟩ | ⟨_, none, -⟩
            · exact cleared
            · cases none
          have named : file.names = shadow.file.names := (advances "").names
          have further : Mirrors harness progress.files
              { file := file, synced := shadow.synced ++ shadow.buffered, buffered := [] } middle :=
            .sync owned (named ▸ upholds) (by rw [cleared]; exact mirrors.capacity)
          refine .bind passes_get fun world => .pure ?_
          rintro history ⟨rfl, same⟩
          dsimp only
          have quiet := fun progress => further.expect_eq trial same progress
          dsimp only at quiet
          rw [quiet]
          refine ⟨?_, ?_⟩
          · show Keeps (some file.name) _ _
            rw [owned.title]
            exact framed.alike rfl rfl rfl rfl
          · rintro other ⟨⟩
            exact further

/-! ## Publishing -/

/-- A publish that succeeds leaves the records of the shadow in the publish object, and no more of the others
than it reports; the file that fails is discarded. -/
theorem OnTrial.passes_publish (trial : OnTrial schedule harness) (stays : Stays harness progress begun)
    (fits : progress.Fits) :
    Passes (fun _ _ => True) (fun now => now = begun) (harness.publish progress)
      fun result history => Stays harness result.2 history := by
  rw [Harness.publish]
  cases current : progress.current with
  | none =>
      refine .pure ?_
      rintro history rfl
      exact stays
  | some shadow =>
      have mirrors := stays.mirrors shadow current
      have kept := stays.keeps_busy current
      have owns := mirrors.owns
      have houses := trial.houses owns.gives
      obtain ⟨batches, stands, flat, whole, -⟩ := mirrors.upholds.standing rfl
      have contents := SinkFile.passes_publish (houses "").hosts stands
        (SinkFile.length_due_lt flat whole (fits shadow current))
      rw [SinkFile.held_eq flat whole] at contents
      have publishing : Passes _ (fun now => now = begun) (shadow.file.publish harness.sink.store) _ :=
        ((Passes.all fun text => (SinkFile.passes_publish_exposed (houses text)).since).and contents.since).yields
          (SinkFile.publish_progress harness.sink.store mirrors.isOpen)
      refine .bind (publishing.mono (fun _ _ _ => trivial) (fun _ begins => begins) fun _ _ holds => holds) ?_
      rintro ⟨result, file⟩
      refine .each ?_
      rintro middle ⟨⟨each, -, -, -, published, -⟩, title, outcome⟩
      obtain ⟨owned, confined⟩ := owns.advance trial title fun text => (each text).1.advances
      have framed := kept.frame (Nat.le_refl _) confined
      cases result with
      | error cause =>
          have failed : file.state = .failed := by
            rcases outcome with ⟨⟨_, succeeded⟩, -⟩ | ⟨_, -, -, state⟩
            · cases succeeded
            · exact state
          have unfinished : ¬ (file.state ≠ .open ∧ file.state ≠ .failed) := fun other => other.2 failed
          exact .bind (trial.passes_discardShadow owned unfinished framed)
            fun _ => .pure fun _ holds => holds.1
      | ok publication =>
          have named : file.names = shadow.file.names := (each "").1.advances.names
          have holds : Holds ⟨Settings.bucket, publishText (Progress.fileName progress.files)⟩
              (shadow.synced ++ shadow.buffered) middle.store := by
            have all := (published publication rfl).2
            rw [Client.place, trial.bucket, owns.gives.texts.2] at all
            exact all
          have bounded : [shadow.file.names.inflight, shadow.file.names.part].countP
              (harness.client.Present middle.store) ≤ publication.cleanupFailures.length :=
            ((each "").2 publication rfl).2 owns.accounts (trial.injects.honest _)
          refine .bind passes_get fun world => .pure ?_
          rintro history ⟨rfl, rfl⟩
          have quiet : ¬ publication.cleanupFailures.length <
              harness.remaining [file.names.inflight, file.names.part] world := by
            rw [trial.remaining, named]
            exact Nat.not_lt.mpr bounded
          have expected : file.names.publish.text = publishText (Progress.fileName progress.files) :=
            owned.gives.texts.2
          dsimp only
          rw [expected, trial.expect_eq holds, if_neg quiet, owned.title]
          have noted : Keeps (some (Progress.fileName progress.files))
              { progress with
                current := none
                report := { progress.report with publishes := progress.report.publishes + 1 } }
              world.history.store :=
            framed.alike rfl rfl rfl rfl
          by_cases clean : publication.isClean = true
          · rw [if_pos clean]
            refine .of_idle (noted.publish (Nat.le_refl _) holds (.inr ?_)) rfl
            rw [← owns.gives.texts.1]
            rw [Publication.isClean, List.isEmpty_iff] at clean
            rw [clean] at bounded
            exact trial.gone_of_countP (Nat.eq_zero_of_le_zero bounded)
          · rw [if_neg clean]
            have leaked := noted.leak (Progress.fileName progress.files) publication.cleanupFailures.length
            exact .of_idle (leaked.publish (Nat.le_refl _) holds (.inl (Progress.hasLeaked_leak _ _ _))) rfl

end RecordSink.Simulation
