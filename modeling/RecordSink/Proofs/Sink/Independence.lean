import RecordSink.Proofs.SinkFile.Created
import RecordSink.Proofs.SinkFile.Intrusion

/-!
# Independent files

Two files of one sink over a calm store leave each other alone exactly where neither is named as the part
of the other.
-/

namespace RecordSink

open Emulator Ordeal RecordSink.Stream SinkFile

variable {τ : Type} {places : List Place} {store : RemoteStore (Ordeal τ)} {credential : Credential}

namespace SinkFile

/-! ## Created files -/

/-- A file that has just been created over a calm store, which hosts it. -/
structure Opened (places : List Place) (store : RemoteStore (Ordeal τ)) (credential : Credential)
    (marker : Marker) (capacity : Nat) (names : FileNames) (file : SinkFile)
    (before after : History) : Prop where
  hosts : store.Hosts places names
  stands : Stands store.client marker [] file after.store
  named : file.names = names
  empty : file.buffer = .empty capacity
  elsewhere : Elsewhere places [store.client.place names.inflight] before.store after.store
  later : before.moments <:+ after.moments
  admitted : store.client.IsAdmitted credential after.store

theorem opened_of_create (calm : store.IsCalm credential) {names : FileNames}
    (hosts : store.Hosts places names) {name : String} {capacity : Nat} {marker : Marker}
    {before after : Ordeal τ} {file : SinkFile}
    (created : create store name names capacity marker before = (.ok file, after)) :
    Opened places store credential marker capacity names file before.history after.history := by
  obtain ⟨through, elsewhere, known⟩ := passes_create hosts name capacity marker before rfl
  rw [created] at through elsewhere known
  obtain ⟨stands, named, empty, -⟩ := known file rfl
  refine ⟨hosts, stands, named, empty, elsewhere, through.isSuffix, ?_⟩
  obtain ⟨encoder, encoded, -⟩ := encodeHeader_eq marker
  rw [create, encoded] at created
  rcases uploaded : store.upload names.inflight (written marker []) before with ⟨result, middle⟩
  simp only [bind, StateT.bind, uploaded] at created
  cases result with
  | ok object =>
      cases created
      exact calm.isAdmitted_of_upload uploaded
  | error cause => cases congrArg Prod.fst created

namespace Opened

variable {marker other : Marker} {capacity room : Nat} {own others : FileNames}
  {file beside : SinkFile} {before middle : History} {world : Ordeal τ}

/-- A new file stands while another one is created whose inflight object is not its own. -/
theorem stands_beside (opened : Opened places store credential marker capacity own file before middle)
    (openedBeside : Opened places store credential other room others beside middle world.history)
    (apart : own.inflight ≠ others.inflight) :
    Stands store.client marker [] file world.history.store := by
  refine opened.stands.frame (openedBeside.elsewhere.objects _ ?_ ?_) openedBeside.elsewhere.generations
  · rw [opened.named]
    exact opened.hosts.own _ own.inflight_mem_all
  · rw [opened.named, List.mem_singleton]
    exact fun same => apart (Client.place_injective same)

/-- New files are not independent where the part of one is the inflight object of the other. -/
theorem not_independent (calm : store.IsCalm credential)
    (opened : Opened places store credential marker capacity own file before middle)
    (openedBeside : Opened places store credential other room others beside middle world.history)
    (least : capacity ≠ 0) (leastBeside : room ≠ 0)
    (meet : own.part = others.inflight ∨ others.part = own.inflight) :
    ¬ Independent store (fun side => (bif side then beside else file, .empty)) world := by
  rcases meet with meet | meet
  · obtain ⟨object, knows⟩ := openedBeside.stands.inflight
    refine not_independent_of_part_eq calm (fun side => bif side then beside else file) false
      opened.stands opened.empty least openedBeside.admitted knows.stored knows.older ?_
    show file.names.part = beside.names.inflight
    rw [opened.named, openedBeside.named, meet]
  · have apart : own.inflight ≠ others.inflight := by
      intro same
      exact openedBeside.hosts.inflight_ne_part (same.symm.trans meet.symm)
    obtain ⟨object, knows⟩ := (opened.stands_beside openedBeside apart).inflight
    refine not_independent_of_part_eq calm (fun side => bif side then beside else file) true
      openedBeside.stands openedBeside.empty leastBeside openedBeside.admitted knows.stored
      knows.older ?_
    show beside.names.part = file.names.inflight
    rw [opened.named, openedBeside.named, meet]

/-- A new file is independent of what was called before and shares no object. -/
theorem independent (opened : Opened places store credential marker capacity own file before middle)
    {start later : Ordeal τ} (started : start.history = middle) {calls : List Call} {after : SinkFile}
    {ledger : Ledger} (ran : run store calls file .empty start = ((after, ledger), later))
    (openedBeside : Opened places store credential other room others beside later.history world.history)
    (apart : ∀ object ∈ own.all, object ∉ others.all) :
    Independent store (fun side => bif side then (beside, .empty) else (after, ledger)) world := by
  have both : HostsBoth places store (fun side => bif side then others else own) := by
    constructor
    · intro side
      cases side with
      | false => exact opened.hosts
      | true => exact openedBeside.hosts
    · intro side name inside shared
      obtain ⟨object, inOther, equal⟩ := List.mem_map.mp shared
      have same := Client.place_injective equal
      subst same
      cases side with
      | false => exact apart object inOther inside
      | true => exact apart object inside inOther
  apply independent_of_apart both
  intro small side
  cases side with
  | true =>
      have upholds := openedBeside.stands.upholds (by rw [openedBeside.empty]; rfl) rfl
      rw [openedBeside.named] at upholds
      exact ⟨other, _, upholds⟩
  | false =>
      subst started
      have upholds := opened.stands.upholds (by rw [opened.empty]; rfl) rfl
      rw [opened.named] at upholds
      have kept := upholds_run opened.hosts calls upholds (by rw [ran]; exact small false)
      rw [ran] at kept
      refine ⟨marker, _, kept.frame opened.hosts openedBeside.elsewhere ?_ openedBeside.later⟩
      intro name inside shared
      have same := Client.place_injective (List.mem_singleton.mp shared)
      exact apart name inside (by simp [same, FileNames.all])

end Opened

end SinkFile

namespace FileNames

variable {working publish first second : String} {own others : FileNames}

/-- Where one of two files is named as the part of the other, its inflight object is the other's part. -/
theorem IsFor.meet_of_entangled (made : own.IsFor working publish first)
    (beside : others.IsFor working publish second) (entangled : Entangled first second) :
    own.part = others.inflight ∨ others.part = own.inflight := by
  rcases entangled with same | same
  · left
    apply ObjectName.text_injective
    rw [made.part, beside.inflight, same]
  · right
    apply ObjectName.text_injective
    rw [beside.part, made.inflight, same]

end FileNames

namespace Sink

/-! ## Files of one sink -/

/-- A sink with a valid configuration over a calm store, with any clock. -/
structure IsCalm (credential : Credential) (sink : Sink (Ordeal τ)) : Prop where
  valid : sink.config.IsValid
  store : sink.store.IsCalm credential

/-- A sink that is connected to a calm store is calm. -/
theorem isCalm_of_connect {config : Config} {clock : Clock τ} {sink : Sink (Ordeal τ)}
    (connected : connect config (Ordeal.link calm) (Ordeal.credentials (.fixed credential))
      (Ordeal.clock clock) = .ok sink) : sink.IsCalm credential := by
  obtain ⟨valid, endpoint, rfl, addressed⟩ := connect_eq_ok connected
  exact ⟨valid, ⟨addressed, rfl, rfl⟩, clock, rfl⟩

/-- What is known of a file that a sink creates over a calm store. -/
theorem opened_of_createFile {sink : Sink (Ordeal τ)} (calm : sink.IsCalm credential) {name : String}
    {marker : Marker} {before world : Ordeal τ} {file : SinkFile}
    (created : sink.createFile name marker sink.recordsPerSync before = (.ok file, world)) :
    ∃ names : FileNames, names.IsFor sink.config.workingDir sink.config.publishDir name ∧
      ∀ places, (∀ object ∈ names.all, sink.store.client.place object ∈ places) →
        Opened places sink.store credential marker sink.recordsPerSync names file
          before.history world.history := by
  obtain ⟨names, made, creates⟩ := createFile_eq_ok created
  have isFor := FileNames.isFor_of_ofDirectories made
  refine ⟨names, isFor, fun places within => opened_of_create calm.store ?_ creates⟩
  exact ⟨(calm.store.isTried _).lent, within, isFor.inflight_ne_part, isFor.working_ne_publish.1,
    isFor.working_ne_publish.2⟩

/-- A file stays independent of a second one of the sink, whatever was called on the first before the
second is created. -/
def StaysIndependent (sink : Sink (Ordeal τ)) (file : SinkFile) (second : String) (marker : Marker)
    (world : Ordeal τ) : Prop :=
  ∀ calls after ledger later beside last,
    run sink.store calls file .empty world = ((after, ledger), later) →
    sink.createFile second marker sink.recordsPerSync later = (.ok beside, last) →
    Independent sink.store (fun side => bif side then (beside, .empty) else (after, ledger)) last

/-- Two files that a sink can create over a calm store are independent exactly where neither is named as
the part of the other. -/
theorem independent_iff {sink : Sink (Ordeal τ)} (calm : sink.IsCalm credential)
    {first second : String} (different : first ≠ second) {marker other : Marker}
    {before middle world : Ordeal τ} {file beside : SinkFile}
    (created : sink.createFile first marker sink.recordsPerSync before = (.ok file, middle))
    (createdBeside : sink.createFile second other sink.recordsPerSync middle = (.ok beside, world)) :
    sink.StaysIndependent file second other middle ↔ ¬ FileNames.Entangled first second := by
  have room : sink.recordsPerSync ≠ 0 := calm.valid.records
  obtain ⟨own, made, opens⟩ := opened_of_createFile calm created
  constructor
  · intro independent entangled
    obtain ⟨others, madeBeside, opensBeside⟩ := opened_of_createFile calm createdBeside
    let places := (own.all ++ others.all).map sink.store.client.place
    have opened := opens places fun _ inside => List.mem_map_of_mem (List.mem_append_left _ inside)
    have openedBeside := opensBeside places fun _ inside =>
      List.mem_map_of_mem (List.mem_append_right _ inside)
    have meet := made.meet_of_entangled madeBeside entangled
    apply opened.not_independent calm.store openedBeside room room meet
    have started := independent [] file .empty middle beside world rfl createdBeside
    refine cast (congrArg (fun pair => Independent sink.store pair world) ?_) started
    funext side
    cases side <;> rfl
  · intro untangled calls after ledger later joined last ran createdLater
    obtain ⟨others, madeBeside, opensBeside⟩ := opened_of_createFile calm createdLater
    let places := (own.all ++ others.all).map sink.store.client.place
    have opened := opens places fun _ inside => List.mem_map_of_mem (List.mem_append_left _ inside)
    have openedBeside := opensBeside places fun _ inside =>
      List.mem_map_of_mem (List.mem_append_right _ inside)
    have apart := made.apart madeBeside calm.valid.directories different untangled
    exact opened.independent rfl ran openedBeside apart

/-! ## A trial -/

namespace Trial

theorem parses : (Url.parse? "http://h").toOption.isSome = true := by
  decide +kernel

def endpoint : Url := (Url.parse? "http://h").toOption.get parses

/-- A sink over a calm store. -/
def sink : Sink (Ordeal Unit) :=
  { config := { Config.standard "logs" "in" "out" with endpoint := "http://h" }
    credentials := Ordeal.credentials (.fixed (.bearer "t"))
    store := {
      client := {
        link := Ordeal.link calm, credentials := Ordeal.credentials (.fixed (.bearer "t"))
        endpoint, bucket := "logs" }
      clock := Ordeal.clock SinkFile.Trial.clock, policy := .single } }

theorem isCalm : sink.IsCalm (.bearer "t") := by
  have base : endpoint.isBase = true := by decide +kernel
  have web : Url.isFile endpoint.scheme = false := by decide +kernel
  exact ⟨⟨Url.isSegment_of_check (by decide), by decide, by decide, endpoint,
    Except.eq_ok_of_isSome parses, base, web⟩,
    ⟨⟨base, web, Url.isSegment_of_check (by decide)⟩, rfl, rfl⟩, _, rfl⟩

/-- The creation of a file. -/
def creation : Except SinkError SinkFile × Ordeal Unit :=
  sink.createFile "a" SinkFile.Trial.marker sink.recordsPerSync
    { rest := (), history := .fresh (.withBucket "logs") }

theorem creates : creation.1.toOption.isSome = true := by
  decide +kernel

def file : SinkFile := creation.1.toOption.get creates

/-- The creation of another file beside it. -/
def creationBeside (name : String) : Except SinkError SinkFile × Ordeal Unit :=
  sink.createFile name SinkFile.Trial.marker sink.recordsPerSync creation.2

theorem createsBeside : (creationBeside "b").1.toOption.isSome = true := by
  decide +kernel

theorem createsPart : (creationBeside "a.part").1.toOption.isSome = true := by
  decide +kernel

/-- The file "a.part" beside "a". -/
def part : SinkFile := (creationBeside "a.part").1.toOption.get createsPart

/-- Both files get a record, and "a" is synced. -/
def synced : Pair × Ordeal Unit :=
  interleave sink.store [(true, .append [120]), (false, .append [121]), (false, .sync)]
    (fun side => bif side then (part, .empty) else (file, .empty)) (creationBeside "a.part").2

/-- Then "a.part" is published. -/
def published : (Bool × SinkFile) × Ordeal Unit :=
  (synced.1 true).1.perform sink.store .publish synced.2

/-- The publish succeeds, and what it leaves is no stream. -/
theorem undecodable :
    Addressable (synced.1 false).2.accepted ∧ Addressable (synced.1 true).2.accepted ∧
      published.1.1 = true ∧
      ((published.2.history.store.objects.get? (sink.store.client.place part.names.publish)).all
        fun object => (decode object.data).toOption.isNone) = true := by
  decide +kernel

end Trial

/-- The file "a" stays independent of "b". -/
theorem independent_iff_trial :
    Trial.sink.StaysIndependent Trial.file "b" SinkFile.Trial.marker Trial.creation.2 := by
  have created : Trial.sink.createFile "a" SinkFile.Trial.marker Trial.sink.recordsPerSync
      { rest := (), history := .fresh (.withBucket "logs") } = (.ok Trial.file, Trial.creation.2) :=
    eq_mk_of_fst (Except.eq_ok_of_isSome Trial.creates)
  have createdBeside : Trial.sink.createFile "b" SinkFile.Trial.marker Trial.sink.recordsPerSync
      Trial.creation.2 = (.ok _, (Trial.creationBeside "b").2) :=
    eq_mk_of_fst (Except.eq_ok_of_isSome Trial.createsBeside)
  apply (independent_iff Trial.isCalm (by decide) created createdBeside).mpr
  rintro (same | same)
  · exact absurd same (by decide)
  · exact absurd same (by decide)

/-- The files "a" and "a.part" are both created, and they are not independent: after a sync of the one, a
publish of the other succeeds with an object that cannot be read back. -/
theorem not_independent_part :
    Trial.creation.1 = .ok Trial.file ∧ (Trial.creationBeside "a.part").1 = .ok Trial.part ∧
      ¬ Trial.sink.StaysIndependent Trial.file "a.part" SinkFile.Trial.marker Trial.creation.2 := by
  have createsPart := Except.eq_ok_of_isSome Trial.createsPart
  refine ⟨Except.eq_ok_of_isSome Trial.creates, createsPart, ?_⟩
  intro stays
  have independent := stays [] Trial.file .empty Trial.creation.2 Trial.part
    (Trial.creationBeside "a.part").2 rfl (eq_mk_of_fst createsPart)
  obtain ⟨small, smallPart, succeeded, unread⟩ := Trial.undecodable
  have both : ∀ side, Addressable (Trial.synced.1 side).2.accepted := by
    intro side
    cases side with
    | false => exact small
    | true => exact smallPart
  have interleaved : Trial.synced = (Trial.synced.1, Trial.synced.2) := (Prod.eta _).symm
  have performed : Trial.published = ((true, Trial.published.1.2), Trial.published.2) :=
    eq_mk_of_fst_fst succeeded
  obtain ⟨decodes, -⟩ := independent _ _ _ interleaved both true .publish _ _ _ performed
  obtain ⟨object, stored, decodes⟩ := decodes rfl rfl
  dsimp only [cond_true] at stored
  rw [stored, Option.all_some] at unread
  rw [Decodes] at decodes
  cases read : decode object.data with
  | ok content => rw [read] at unread; cases unread
  | error cause => rw [read] at decodes; cases decodes

end Sink

end RecordSink
