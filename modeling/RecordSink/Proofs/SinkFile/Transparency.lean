import RecordSink.Proofs.Ordeal.Calm
import RecordSink.Proofs.SinkFile.Created
import RecordSink.Proofs.SinkFile.Reliable
import RecordSink.Proofs.Stream.Splitting

/-!
# Transparent retries

A file is opened and called over a store on trial, and everything that its owner can see is written down:
the answers, the file, and the bytes of the objects after each call. While no run of attempts meets more
faults than it has attempts to spare, all of this is as it would be without any fault, but for
generations.
-/

namespace RecordSink

open Emulator Ordeal RecordSink.Stream

variable {τ : Type}

namespace SinkFile

/-! ## Sessions -/

/-- The objects at some places. -/
abbrev Objects := List (Place × Option Bytes)

/-- What is seen of one call: the file before and after it, the answer, and the objects after it. -/
structure Sight where
  before : SinkFile
  call : Call
  reply : Reply
  after : SinkFile
  objects : Objects

/-- What is seen of a file that is opened and called. -/
structure Session where
  opening : Except SinkError SinkFile
  /-- The objects after the opening. -/
  objects : Objects
  sights : List Sight

/-- A sight, but for generations. -/
def Sight.ungenerated (sight : Sight) : Sight :=
  { sight with
    before := sight.before.ungenerated
    reply := sight.reply.ungenerated
    after := sight.after.ungenerated }

/-- A session, but for generations. -/
def Session.ungenerated (session : Session) : Session :=
  { session with
    opening := session.opening.map SinkFile.ungenerated
    sights := session.sights.map Sight.ungenerated }

/-- Looks at the objects at some places. -/
def look (places : List Place) : StateM (Ordeal τ) Objects := fun world =>
  (places.map fun place => (place, world.history.store.object? place), world)

/-- Makes calls in turn and writes down what is seen of each. -/
def play (places : List Place) (store : RemoteStore (Ordeal τ)) :
    List Call → SinkFile → StateM (Ordeal τ) (List Sight)
  | [], _ => return []
  | call :: rest, file => do
      let (reply, after) ← file.ask store call
      let objects ← look places
      let sights ← play places store rest after
      return { before := file, call, reply, after, objects } :: sights

/-- Goes on with calls where the opening succeeded. -/
def follow (places : List Place) (store : RemoteStore (Ordeal τ)) (calls : List Call) :
    Except SinkError SinkFile → StateM (Ordeal τ) Session
  | .error cause => do
      let objects ← look places
      return { opening := .error cause, objects, sights := [] }
  | .ok file => do
      let objects ← look places
      let sights ← play places store calls file
      return { opening := .ok file, objects, sights }

/-- Opens a file and makes calls in turn. -/
def session (places : List Place) (store : RemoteStore (Ordeal τ)) (name : String) (names : FileNames)
    (capacity : Nat) (marker : Marker) (calls : List Call) : StateM (Ordeal τ) Session := do
  let opening ← create store name names capacity marker
  follow places store calls opening

/-- The ledger after what was seen. -/
def noted (ledger : Ledger) (sights : List Sight) : Ledger :=
  sights.foldl (fun ledger sight => ledger.note sight.call sight.reply.isOk) ledger

/-- The records whose append succeeded, in order. -/
def Session.accepted (session : Session) : List Bytes := (noted .empty session.sights).accepted

theorem accepted_noted (ledger : Ledger) (sights : List Sight) :
    ledger.accepted <+: (noted ledger sights).accepted := by
  induction sights generalizing ledger with
  | nil => exact List.prefix_rfl
  | cons sight rest ih => exact (ledger.accepted_note sight.call sight.reply.isOk).trans (ih _)

/-! ## Smooth sessions -/

/-- Every waiting record fits a block. -/
def Encodable (file : SinkFile) : Prop :=
  ∀ record ∈ file.buffer.records, frameSize record < lengthBound

/-- A call that the state of the file permits succeeds, and leaves nothing behind. Only records that no
block can hold keep a sync and a publish from it. -/
structure Sight.Smooth (sight : Sight) : Prop where
  sync : sight.call = .sync → sight.before.state = .open →
    sight.reply = .synced (.ok ()) ∨
      ¬ sight.before.Encodable ∧ ∃ cause, sight.reply = .synced (.error (.encoding cause))
  publish : sight.call = .publish → sight.before.state = .open →
    (∃ publication, sight.reply = .published (.ok publication) ∧ publication.isClean = true) ∨
      ¬ sight.before.Encodable ∧ ∃ cause, sight.reply = .published (.error (.encoding cause))
  discard : sight.call = .discard → sight.before.state = .open ∨ sight.before.state = .failed →
    sight.reply = .discarded (.ok 0)

/-- The file is opened, and every call goes well that can. -/
structure Session.Smooth (session : Session) : Prop where
  opens : ∃ file, session.opening = .ok file
  calls : ∀ sight ∈ session.sights, sight.Smooth

/-! ## One call -/

section

variable {places : List Place} {site : Site τ} {schedule other : Schedule} {marker : Marker}
  {names : FileNames} {ledger : Ledger} {shelf : Shelf} {file : SinkFile} {world : Ordeal (Watch τ)}

theorem eq_synced {reply : Reply} {result : Except SinkError Unit}
    (same : reply.ungenerated = .synced result) : reply = .synced result := by
  cases reply <;> first | exact same | cases same

theorem eq_discarded {reply : Reply} {result : Except SinkError Nat}
    (same : reply.ungenerated = .discarded result) : reply = .discarded result := by
  cases reply <;> first | exact same | cases same

theorem eq_published {reply : Reply} {result : Except SinkError Publication}
    (same : reply.ungenerated = .published result) :
    ∃ given, reply = .published given ∧ given.map Publication.ungenerated = result := by
  cases reply with
  | published given => exact ⟨given, rfl, Reply.published.inj same⟩
  | _ => cases same

/-- Records that fit blocks are encoded. -/
theorem staged_of_encodable {past : List (List Bytes)} (ready : Encoder.HasWritten marker past file.encoder)
    (encodable : file.Encodable) : ∃ body, file.staged.1 = .ok body := by
  obtain ⟨encoder, encoded, -⟩ := encodeRecords_of_fits ready (fits_of_mem_runs encodable)
  rw [staged, encoded]
  split
  · exact ⟨_, rfl⟩
  · exact ⟨_, rfl⟩

/-- A sync of an open file with a record that fits no block is refused by the encoder. -/
theorem ask_sync_of_not_encodable {W : Type} (store : RemoteStore W) (isOpen : file.state = .open)
    (detached : file.encoder.out.destination = none) (long : ¬ file.Encodable) (world : W) :
    ∃ cause, (file.ask store .sync world).1.1 = .synced (.error (.encoding cause)) := by
  have waiting : file.buffer.isEmpty = false := by
    rw [Bool.eq_false_iff]
    intro empty
    apply long
    rw [Encodable, List.isEmpty_iff.mp empty]
    simp
  obtain ⟨cause, failed⟩ := encodeRecords_of_not_fits detached (mt fits_runs_iff.mp long)
  rcases stopped : encodeRecords file.buffer.records file.encoder with ⟨result, encoder⟩
  obtain rfl : result = .error cause := by
    rw [stopped] at failed
    exact failed
  refine ⟨cause, ?_⟩
  rw [ask, sync_stopped store isOpen waiting stopped]
  rfl

/-- A call that comes to its outcome goes well if it can. -/
theorem smooth_of_reply {place : ObjectName → Place} {call : Call} {reply : Reply} {after : SinkFile}
    {objects : Objects} (same : reply.ungenerated = (Outcome.call place file shelf call).reply)
    (staging : file.state = .open → file.Encodable → ∃ body, file.staged.1 = .ok body) :
    Sight.Smooth { before := file, call, reply, after, objects } := by
  constructor
  · rintro rfl (isOpen : file.state = .open)
    rw [Outcome.call, Outcome.sync, if_neg (by simp [isOpen])] at same
    rcases staged : file.staged with ⟨cause | body, final⟩
    · rw [staged] at same staging
      refine .inr ⟨?_, cause, eq_synced same⟩
      intro encodable
      obtain ⟨body, none⟩ := staging isOpen encodable
      cases none
    · rw [staged] at same
      exact .inl (eq_synced same)
  · rintro rfl (isOpen : file.state = .open)
    rw [Outcome.call, Outcome.publish, if_neg (by simp [isOpen]), staged_attempted] at same
    rcases staged : file.staged with ⟨cause | body, final⟩
    · rw [staged] at same staging
      obtain ⟨given, rfl, gave⟩ := eq_published same
      refine .inr ⟨?_, cause, ?_⟩
      · intro encodable
        obtain ⟨body, none⟩ := staging isOpen encodable
        cases none
      · cases given with
        | ok publication => cases gave
        | error other =>
            cases gave
            rfl
    · rw [staged] at same
      obtain ⟨given, rfl, gave⟩ := eq_published same
      cases given with
      | error other => cases gave
      | ok publication =>
          refine .inl ⟨publication, rfl, ?_⟩
          have failures := congrArg Publication.cleanupFailures (Except.ok.inj gave)
          rw [Publication.isClean, show publication.cleanupFailures = [] from failures]
          rfl
  · rintro rfl (permitted : file.state = .open ∨ file.state = .failed)
    have allowed : ¬ (file.state ≠ .open ∧ file.state ≠ .failed) := by
      rintro ⟨closed, sound⟩
      exact permitted.elim closed sound
    rw [Outcome.call, Outcome.discard, if_neg allowed] at same
    exact eq_discarded same

/-- A file under way: the store holds the bytes of a shelf, and the ledger says what there is. -/
structure Going (places : List Place) (site : Site τ) (schedule : Schedule) (marker : Marker)
    (names : FileNames) (ledger : Ledger) (shelf : Shelf) (file : SinkFile) (world : Ordeal (Watch τ)) :
    Prop where
  shows : site.At (Shows places shelf) world
  upholds : ∃ initial, Upholds (site.store schedule).client marker names initial ledger file world.history

/-- An open file under way stands behind some runs. -/
theorem Going.stands (going : Going places site schedule marker names ledger shelf file world)
    (small : Addressable ledger.accepted) (isOpen : file.state = .open) :
    ∃ past, Stands (site.store schedule).client marker past file world.history.store ∧
      (due marker past file).length < Nat.pow 2 64 := by
  obtain ⟨initial, upholds⟩ := going.upholds
  obtain ⟨batches, stands, flat, whole, -⟩ := upholds.standing (upholds.isOpen isOpen)
  exact ⟨_, stands, length_due_lt flat whole small⟩

/-- Every call comes to its outcome, and the file goes on. -/
theorem Going.ask (fit : site.Fit places schedule) (hosts : (site.store schedule).Hosts places names)
    (going : Going places site schedule marker names ledger shelf file world)
    (small : Addressable ledger.accepted) (call : Call)
    (within : (file.ask (site.store schedule) call world).2.rest.Within site.most) :
    let asked := file.ask (site.store schedule) call world
    let outcome := Outcome.call (site.store schedule).client.place file shelf call
    Outcome.of asked.1.1 asked.1.2 outcome.shelf = outcome ∧
      Going places site schedule marker names (ledger.note call asked.1.1.isOk) outcome.shelf asked.1.2
        asked.2 := by
  obtain ⟨initial, upholds⟩ := going.upholds
  have hosting : (site.store schedule).Hosts places file.names := by
    rw [upholds.named]
    exact hosts
  have ready : file.state = .open → ∃ data number,
      Ready places (site.store schedule).client file shelf data number world.history.store := by
    intro isOpen
    obtain ⟨past, stands, short⟩ := going.stands small isOpen
    exact stands.ready (hosting.own _ file.names.inflight_mem_all) short going.shows.2
  have reached := (endures_ask fit hosting going.shows.2 ready call).reaches world ⟨going.shows.1, rfl⟩
    within
  obtain ⟨-, kept, -⟩ := passes_perform hosts call upholds small world rfl
  rw [perform_eq] at kept
  exact ⟨reached.1, reached.2, initial, kept⟩

theorem minds_look (places : List Place) :
    Minds schedule (look places : StateM (Ordeal (Watch τ)) Objects) :=
  fun world => .refl world.rest

theorem minds_play (places : List Place) (site : Site τ) (schedule : Schedule) (calls : List Call)
    (file : SinkFile) : Minds schedule (play places (site.store schedule) calls file) := by
  induction calls generalizing file with
  | nil => exact .pure
  | cons call rest ih =>
      refine .bind (minds_ask site schedule file call) fun ⟨reply, after⟩ => ?_
      exact .bind (minds_look places) fun objects => .bind (ih after) fun sights => .pure

/-! ## Runs of calls -/

/-- What is seen of the first call, and then of the others. -/
theorem play_cons (store : RemoteStore (Ordeal τ)) (call : Call) (rest : List Call) (file : SinkFile)
    (world : Ordeal τ) :
    play places store (call :: rest) file world =
      let asked := file.ask store call world
      let played := play places store rest asked.1.2 asked.2
      ({ before := file, call, reply := asked.1.1, after := asked.1.2
         objects := (look places asked.2).1 } :: played.1, played.2) := rfl

/-- A record is taken, and then the file with this record is synced. -/
theorem sights_append_sync (places : List Place) (store : RemoteStore (Ordeal τ)) {after : SinkFile}
    {record : Bytes} (taken : file.append record = (.ok (), after)) (world : Ordeal τ) :
    ∃ taking syncing, (play places store [.append record, .sync] file world).1 = [taking, syncing] ∧
      (taking.call = .append record ∧ taking.reply = .appended (.ok ())) ∧
      syncing.call = .sync ∧ syncing.before = after ∧ syncing.reply = (after.ask store .sync world).1.1 := by
  have appended : file.ask store (.append record) world = ((.appended (.ok ()), after), world) := by
    rw [ask, taken]
    rfl
  rw [play_cons, appended]
  exact ⟨_, _, rfl, ⟨rfl, rfl⟩, rfl, rfl, rfl⟩

/-- The objects that are seen are those on the shelf. -/
theorem look_eq (shows : site.At (Shows places shelf) world) :
    (look places world).1 = places.map fun place => (place, shelf place) := by
  refine List.map_congr_left fun place own => ?_
  rw [shows.2 place own]

/-- Answers that are alike but for generations report the same success. -/
theorem isOk_of_ungenerated {reply reply' : Reply} (same : reply.ungenerated = reply'.ungenerated) :
    reply.isOk = reply'.isOk := by
  have sound : ∀ reply : Reply, reply.ungenerated.isOk = reply.isOk := by
    intro reply
    cases reply with
    | published result => cases result <;> rfl
    | _ => rfl
  rw [← sound reply, ← sound reply', same]

/-- Sights are alike where their files and their answers are. -/
theorem sight_eq {file' after after' : SinkFile} {call : Call} {reply reply' : Reply} {objects : Objects}
    (files : file.ungenerated = file'.ungenerated) (replies : reply.ungenerated = reply'.ungenerated)
    (afters : after.ungenerated = after'.ungenerated) :
    Sight.ungenerated { before := file, call, reply, after, objects } =
      Sight.ungenerated { before := file', call, reply := reply', after := after', objects } := by
  rw [Sight.ungenerated, Sight.ungenerated]
  dsimp only
  rw [files, replies, afters]

/-- Two files under way that are alike but for generations look alike through the same calls. -/
theorem play_agrees (fit : site.Fit places schedule) (fit' : site.Fit places other)
    (hosts : (site.store schedule).Hosts places names) (hosts' : (site.store other).Hosts places names)
    (calls : List Call) {file' : SinkFile} {world' : Ordeal (Watch τ)}
    (going : Going places site schedule marker names ledger shelf file world)
    (going' : Going places site other marker names ledger shelf file' world')
    (same : file.ungenerated = file'.ungenerated)
    (within : (play places (site.store schedule) calls file world).2.rest.Within site.most)
    (within' : (play places (site.store other) calls file' world').2.rest.Within site.most)
    (small : Addressable (noted ledger (play places (site.store schedule) calls file world).1).accepted) :
    (play places (site.store schedule) calls file world).1.map Sight.ungenerated =
        (play places (site.store other) calls file' world').1.map Sight.ungenerated ∧
      ∀ sight ∈ (play places (site.store schedule) calls file world).1, sight.Smooth := by
  induction calls generalizing ledger shelf file file' world world' with
  | nil => exact ⟨rfl, fun sight none => nomatch none⟩
  | cons call rest ih =>
      have now : Addressable ledger.accepted := small.of_isPrefix (accepted_noted ledger _)
      have first := (minds_play places site schedule rest (file.ask (site.store schedule) call world).1.2
        (file.ask (site.store schedule) call world).2).kept site.most within
      have first' := (minds_play places site other rest (file'.ask (site.store other) call world').1.2
        (file'.ask (site.store other) call world').2).kept site.most within'
      obtain ⟨comes, goes⟩ := going.ask fit hosts now call first
      obtain ⟨comes', goes'⟩ := going'.ask fit' hosts' now call first'
      -- both calls come to one outcome
      have outcome : Outcome.call (site.store other).client.place file' shelf call =
          Outcome.call (site.store schedule).client.place file shelf call := by
        calc
          Outcome.call (site.store other).client.place file' shelf call
              = Outcome.call (site.store schedule).client.place file' shelf call := rfl
          _ = Outcome.call (site.store schedule).client.place file'.ungenerated shelf call :=
            (Outcome.call_ungenerated _ file' shelf call).symm
          _ = Outcome.call (site.store schedule).client.place file.ungenerated shelf call := by rw [same]
          _ = Outcome.call (site.store schedule).client.place file shelf call :=
            Outcome.call_ungenerated _ file shelf call
      rw [outcome] at comes' goes'
      have replies := (congrArg Outcome.reply comes).trans (congrArg Outcome.reply comes').symm
      have files := (congrArg Outcome.file comes).trans (congrArg Outcome.file comes').symm
      rw [← isOk_of_ungenerated replies] at goes'
      obtain ⟨others, smooth⟩ := ih goes goes' files within within' small
      rw [play_cons, play_cons]
      constructor
      · dsimp only
        rw [List.map_cons, List.map_cons, others, look_eq goes.shows, look_eq goes'.shows]
        exact congrArg (· :: _) (sight_eq same replies files)
      · dsimp only
        rw [List.forall_mem_cons]
        refine ⟨smooth_of_reply (congrArg Outcome.reply comes) ?_, smooth⟩
        intro isOpen encodable
        obtain ⟨past, stands, -⟩ := going.stands now isOpen
        exact staged_of_encodable stands.encoder encodable

/-! ## Sessions -/

/-- A store on trial with a watch, before the first request. -/
def watched (rest : τ) (start : Emulator) : Ordeal (Watch τ) :=
  { rest := .start rest, history := .fresh start }

/-- A file to be opened at a site where nobody else writes its objects. -/
structure Undisturbed (places : List Place) (site : Site τ) (schedule : Schedule) (names : FileNames)
    (start : Emulator) : Prop where
  fit : site.Fit places schedule
  own : ∀ name ∈ names.all, (site.store schedule).client.place name ∈ places
  named : ∃ working publish name, FileNames.ofDirectories working publish name = .ok names
  admitted : site.Admitted start

variable {start : Emulator} {capacity : Nat} {name : String} {rest : τ}

theorem Undisturbed.hosts (undisturbed : Undisturbed places site schedule names start) :
    (site.store schedule).Hosts places names := by
  obtain ⟨working, publish, name, made⟩ := undisturbed.named
  have apart := FileNames.isFor_of_ofDirectories made
  exact ⟨undisturbed.fit.isTried.lent, undisturbed.own, apart.inflight_ne_part, apart.working_ne_publish.1,
    apart.working_ne_publish.2⟩

/-- Without faults and without other clients nothing disturbs a file. -/
theorem Undisturbed.calm (undisturbed : Undisturbed places site schedule names start) :
    Undisturbed places site calm names start := by
  obtain ⟨⟨-, addressed, reaches, unlimited⟩, own, named, admitted⟩ := undisturbed
  have allows : Ordeal.calm.Allows places :=
    ⟨fun _ _ none => (nomatch none), fun _ _ none => (nomatch none)⟩
  have addressed' : (site.store Ordeal.calm).client.IsAddressed :=
    ⟨addressed.base, addressed.web, addressed.bucket⟩
  have reaches' : (site.store Ordeal.calm).client.Reaches :=
    ⟨reaches.upload, reaches.compose, reaches.delete, reaches.object⟩
  exact ⟨⟨allows, addressed', reaches', unlimited⟩, own, named, admitted⟩

/-- The opening succeeds, and the file is under way. -/
theorem Undisturbed.opens (undisturbed : Undisturbed places site schedule names start)
    {header : Bytes} {encoder : Encoder (Retargeting Body)}
    (encoded : encodeHeader marker = .ok (header, encoder))
    (within : (create (site.store schedule) name names capacity marker
      (watched rest start)).2.rest.Within site.most) :
    let shelf : Shelf := fun place => start.object? place
    let inflight := (site.store schedule).client.place names.inflight
    let created := create (site.store schedule) name names capacity marker (watched rest start)
    ∃ file, created.1 = .ok file ∧
      file.ungenerated =
        (opened name names capacity encoder header.length (inflight.described header)).ungenerated ∧
      Going places site schedule marker names .empty (shelf.put inflight header) file created.2 := by
  have shows : site.At (Shows places fun place => start.object? place) (watched rest start) :=
    ⟨⟨rfl, rfl, undisturbed.admitted⟩, fun _ _ => rfl⟩
  obtain ⟨file, created, alike, reached⟩ :=
    (endures_create undisturbed.fit name names capacity encoded _).reaches _ shows within
  obtain ⟨-, -, upheld⟩ := passes_create undisturbed.hosts name capacity marker (watched rest start) rfl
  obtain ⟨stands, named, empty, -⟩ := upheld file created
  have upholds := stands.upholds (by rw [empty]; rfl) rfl
  rw [named] at upholds
  exact ⟨file, created, alike, reached, _, upholds⟩

theorem minds_follow (places : List Place) (site : Site τ) (schedule : Schedule) (calls : List Call)
    (opening : Except SinkError SinkFile) :
    Minds schedule (follow places (site.store schedule) calls opening) := by
  cases opening with
  | error cause => exact .bind (minds_look places) fun _ => .pure
  | ok file =>
      exact .bind (minds_look places) fun _ => .bind (minds_play places site schedule calls file) fun _ =>
        .pure

/-- Without any fault no run of attempts meets one. -/
theorem within_calm (places : List Place) (site : Site τ) (name : String) (names : FileNames) (capacity : Nat)
    (marker : Marker) (calls : List Call) (rest : τ) (start : Emulator) :
    (session places (site.store calm) name names capacity marker calls
      (watched rest start)).2.rest.Within site.most := by
  have onward := (minds_create site calm name names capacity marker).bind
    (minds_follow places site calm calls) (watched rest start)
  intro met inside
  have none := onward.quiet (fun _ => rfl) (fun _ nothing => nomatch nothing) met inside
  exact Nat.le_trans none (Nat.zero_le _)

/-- A session is an opening and what follows. -/
theorem session_eq (store : RemoteStore (Ordeal τ)) (calls : List Call) (world : Ordeal τ) :
    session places store name names capacity marker calls world =
      follow places store calls (create store name names capacity marker world).1
        (create store name names capacity marker world).2 := rfl

theorem follow_ok (store : RemoteStore (Ordeal τ)) (calls : List Call) (world : Ordeal τ) :
    (follow places store calls (.ok file) world).1 =
      { opening := .ok file, objects := (look places world).1
        sights := (play places store calls file world).1 } := rfl

theorem sights_follow_ok (store : RemoteStore (Ordeal τ)) (calls : List Call) (world : Ordeal τ) :
    (follow places store calls (.ok file) world).1.sights = (play places store calls file world).1 := rfl

/-- Retries are transparent. A file is opened and called over a store on trial, where every fault may
pass, nobody else writes its objects, and no run of attempts meets more faults than it has attempts to
spare. Then everything seen is as it is without any fault, but for generations, and every call that the state
permits succeeds, but for a sync or a publish of a record that no block can hold. -/
theorem retries_transparent (undisturbed : Undisturbed places site schedule names start) (rest : τ)
    (name : String) (capacity : Nat) (marker : Marker) (calls : List Call)
    (within : (session places (site.store schedule) name names capacity marker calls
      (watched rest start)).2.rest.Within site.most)
    (small : Addressable (session places (site.store schedule) name names capacity marker calls
      (watched rest start)).1.accepted) :
    let faulty := (session places (site.store schedule) name names capacity marker calls
      (watched rest start)).1
    let faultless := (session places (site.store calm) name names capacity marker calls
      (watched rest start)).1
    faulty.ungenerated = faultless.ungenerated ∧ faulty.Smooth := by
  obtain ⟨encoder, encoded, -⟩ := encodeHeader_eq marker
  have within' := within_calm places site name names capacity marker calls rest start
  rw [session_eq] at within within' small
  rw [session_eq, session_eq]
  obtain ⟨file, created, alike, going⟩ := undisturbed.opens encoded
    ((minds_follow places site schedule calls _ _).kept site.most within)
  obtain ⟨file', created', alike', going'⟩ := undisturbed.calm.opens encoded
    ((minds_follow places site calm calls _ _).kept site.most within')
  rw [created] at within small ⊢
  rw [created'] at within' ⊢
  obtain ⟨sights, smooth⟩ := play_agrees undisturbed.fit undisturbed.calm.fit undisturbed.hosts
    undisturbed.calm.hosts calls going going' (alike.trans alike'.symm) within within' small
  have files : file.ungenerated = file'.ungenerated := alike.trans alike'.symm
  have objects := (look_eq going.shows).trans (look_eq going'.shows).symm
  refine ⟨?_, ⟨file, rfl⟩, smooth⟩
  rw [follow_ok, follow_ok, Session.ungenerated, Session.ungenerated]
  dsimp only
  rw [objects, sights, Except.map, Except.map, files]

end

/-! ## A trial -/

namespace Trial

/-- A site that makes two attempts at each request. -/
def site : Site Unit :=
  { clock, source := .fixed (.bearer "t"), endpoint, bucket := "logs", policy := .immediate 2 }

/-- The first attempt of each run meets a fault. -/
def faults : Schedule := fun number =>
  { deeds := []
    fault :=
      if number ∈ [0, 4, 7, 9] then some .lose
      else if number ∈ [2, 11] then some (.refuse 503 "down")
      else none }

/-- A store with a bucket that needs a token. -/
def guarded : Emulator := (Emulator.withBucket "logs").requireToken "t"

def places : List Place := names.all.map (site.store faults).client.place

theorem undisturbed : Undisturbed places site faults names guarded := by
  have addressed : (site.store faults).client.IsAddressed :=
    ⟨rfl, by decide, Url.isSegment_of_check (by decide)⟩
  have allows : faults.Allows places := by
    refine ⟨fun _ _ none => (nomatch none), ?_⟩
    intro number fault met
    dsimp only [faults] at met
    split at met
    · cases met
      trivial
    · split at met
      · cases met
        rfl
      · cases met
  refine ⟨⟨allows, addressed, Client.reaches_of_bare addressed rfl rfl, rfl⟩, ?_, ?_, ?_, ?_⟩
  · exact fun name inside => List.mem_map_of_mem inside
  · exact ⟨_, _, _, Except.eq_ok_of_isSome named⟩
  · exact List.mem_cons_self ..
  · intro rest
    refine ⟨_, _, rfl, Credential.opens_bearer ?_⟩
    intro other needed
    exact (Option.some.inj needed).symm

/-- What is seen of a file that gets one record, is synced and is published. -/
def seen (schedule : Schedule) : Session × Ordeal (Watch Unit) :=
  SinkFile.session places (site.store schedule) "a" names 1 marker [.append [1, 2, 3], .sync, .publish]
    (watched () guarded)

theorem seen_faults : (seen faults).2.rest.runs = [1, 1, 1, 1, 1, 1] ∧
    (seen faults).1.accepted = [[1, 2, 3]] := by
  decide +kernel

end Trial

/-- A session in which every run of attempts meets a fault looks like one without any. -/
theorem retries_transparent_trial :
    (Trial.seen Trial.faults).2.rest.runs = [1, 1, 1, 1, 1, 1] ∧
      (Trial.seen Trial.faults).1.ungenerated = (Trial.seen calm).1.ungenerated ∧
      (Trial.seen Trial.faults).1.Smooth := by
  have within : (Trial.seen Trial.faults).2.rest.Within Trial.site.most := by
    rw [Watch.Within, Trial.seen_faults.1]
    decide
  have small : Addressable (Trial.seen Trial.faults).1.accepted := by
    rw [Trial.seen_faults.2]
    decide
  exact ⟨Trial.seen_faults.1,
    retries_transparent Trial.undisturbed () "a" 1 Trial.marker _ within small⟩

namespace Trial

/-- A record as long as its length field permits, but for three bytes. -/
def long : Bytes := List.replicate 4294967292 0

theorem length_long : long.length = 4294967292 := List.length_replicate

/-- A file with the long record in its buffer. -/
def laden (file : SinkFile) : SinkFile := { file with buffer := { records := [long], capacity := 1 } }

theorem append_long {file : SinkFile} (isOpen : file.state = .open) (fresh : file.buffer = .empty 1) :
    file.append long = (.ok (), laden file) := by
  have short : ¬ lengthBound ≤ long.length := by
    rw [length_long]
    decide
  rw [append, if_neg (not_not_intro isOpen), if_neg short, fresh]
  rfl

theorem not_encodable_laden (file : SinkFile) : ¬ (laden file).Encodable := by
  intro encodable
  have fits := encodable long (List.mem_singleton_self _)
  rw [frameSize, length_long] at fits
  exact absurd fits (by decide)

/-- The creation of a file with room for one record, where no request meets a fault. -/
def calmCreation : Except SinkError SinkFile × Ordeal (Watch Unit) :=
  create (site.store calm) "a" names 1 marker (watched () guarded)

theorem creates_calm : calmCreation.1.toOption.isSome = true := by
  decide +kernel

def calmFile : SinkFile := calmCreation.1.toOption.get creates_calm

theorem calmFile_fresh : calmFile.state = .open ∧ calmFile.buffer = .empty 1 ∧
    calmFile.encoder.out.destination.isNone = true := by
  decide +kernel

end Trial

/-- A record that no block can hold is taken, and the sync of the open file behind it fails, although no request
meets a fault. -/
theorem allowed_sync_fails :
    let session := session Trial.places (Trial.site.store calm) "a" Trial.names 1 Trial.marker
      [.append Trial.long, .sync] (watched () Trial.guarded)
    Undisturbed Trial.places Trial.site calm Trial.names Trial.guarded ∧
      session.2.rest.Within Trial.site.most ∧
      ∃ taking syncing, session.1.sights = [taking, syncing] ∧
        (taking.call = .append Trial.long ∧ taking.reply = .appended (.ok ())) ∧
        syncing.call = .sync ∧ syncing.before.state = .open ∧
        ∃ cause, syncing.reply = .synced (.error (.encoding cause)) := by
  refine ⟨Trial.undisturbed.calm, within_calm _ _ _ _ _ _ _ _ _, ?_⟩
  have created : (create (Trial.site.store calm) "a" Trial.names 1 Trial.marker
      (watched () Trial.guarded)).1 = .ok Trial.calmFile := Except.eq_ok_of_isSome Trial.creates_calm
  obtain ⟨opened, empty, detached⟩ := Trial.calmFile_fresh
  have isOpen : (Trial.laden Trial.calmFile).state = .open := opened
  rw [session_eq, created, sights_follow_ok]
  obtain ⟨taking, syncing, seen, taken, asked, before, reply⟩ := sights_append_sync Trial.places
    (Trial.site.store calm) (Trial.append_long opened empty)
    (create (Trial.site.store calm) "a" Trial.names 1 Trial.marker (watched () Trial.guarded)).2
  refine ⟨taking, syncing, seen, taken, asked, by rw [before]; exact isOpen, ?_⟩
  rw [reply]
  exact ask_sync_of_not_encodable _ isOpen (Option.isNone_iff_eq_none.mp detached)
    (Trial.not_encodable_laden _) _

end SinkFile

end RecordSink
