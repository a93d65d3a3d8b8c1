import RecordSink.Proofs.Client.Routes
import RecordSink.Proofs.Stream.Writing
import RecordSink.Sink

/-!
# Connected sinks

What the checks of a configuration and of names promise: a connected client reads its names back
from its URLs, and the names of a file lie apart from each other. Names of two files lie apart
unless one file is named as the part of the other.
-/

namespace RecordSink

open Url

/-! ## Checks -/

/-- Where two steps pass, both of them pass. -/
theorem Except.exists_of_bind_eq_ok {ε α β : Type} {first : Except ε α} {next : α → Except ε β}
    {value : β} (passed : first >>= next = .ok value) :
    ∃ middle, first = .ok middle ∧ next middle = .ok value := by
  cases first with
  | error cause => cases passed
  | ok middle => exact ⟨middle, rfl, passed⟩

/-- Where a check that may fail is passed, its condition does not hold. -/
theorem Except.of_ite_eq_ok {ε α β : Type} {condition : Prop} [Decidable condition] {cause : ε}
    {next : α → Except ε β} {rest : Except ε β} {value : β}
    (passed : (if condition then (.error cause : Except ε α) >>= next else rest) = .ok value) :
    ¬ condition ∧ rest = .ok value := by
  by_cases holds : condition
  · rw [if_pos holds] at passed
    cases passed
  · rw [if_neg holds] at passed
    exact ⟨holds, passed⟩

/-! ## Configurations -/

/-- What a valid configuration promises. -/
structure Config.IsValid (config : Config) : Prop where
  bucket : IsSegment config.bucket
  directories : config.workingDir ≠ config.publishDir
  records : config.recordsPerSync ≠ 0
  endpoint : ∃ url, Url.parse? config.endpoint = .ok url ∧ url.isBase ∧ isFile url.scheme = false

/-- A checked bucket name is one segment of a path. -/
theorem Config.isSegment_bucket {bucket : String} (passed : checkBucket bucket = .ok ()) :
    IsSegment bucket := by
  rw [checkBucket] at passed
  dsimp only [bucketSizes] at passed
  by_cases size : bucket.utf8ByteSize < 3 ∨ 222 < bucket.utf8ByteSize
  · rw [if_pos size] at passed
    cases passed
  rw [if_neg size] at passed
  by_cases form : (!bucket.toList.all isBucketChar || !bucket.toList.head?.any isBucketEdge
      || !bucket.toList.getLast?.any isBucketEdge) = true
  · rw [if_pos form] at passed
    cases passed
  have long : ∀ text : String, text.utf8ByteSize < 3 → bucket ≠ text := by
    rintro text short rfl
    exact size (.inl short)
  refine ⟨long "" (by decide), long "." (by decide), long ".." (by decide), ?_⟩
  simp only [Bool.or_eq_true, Bool.not_eq_true', not_or, Bool.not_eq_false] at form
  intro char inside
  have plain := List.all_eq_true.mp form.1.1 char inside
  rw [← Bool.not_eq_true]
  intro breaks
  simp only [isBreak, Bool.or_eq_true, beq_iff_eq] at breaks
  rcases breaks with (rfl | rfl) | rfl <;> exact absurd plain (by decide)

theorem Config.isValid_of_validate {config : Config} (passed : config.validate = .ok ()) :
    config.IsValid := by
  rw [validate] at passed
  obtain ⟨⟨⟩, bucket, passed⟩ := Except.exists_of_bind_eq_ok passed
  obtain ⟨⟨⟩, working, passed⟩ := Except.exists_of_bind_eq_ok passed
  obtain ⟨⟨⟩, publish, passed⟩ := Except.exists_of_bind_eq_ok passed
  obtain ⟨directories, passed⟩ := Except.of_ite_eq_ok passed
  obtain ⟨records, passed⟩ := Except.of_ite_eq_ok passed
  obtain ⟨⟨⟩, endpoint, passed⟩ := Except.exists_of_bind_eq_ok passed
  refine ⟨isSegment_bucket bucket, directories, records, ?_⟩
  rw [checkEndpoint] at endpoint
  cases parsed : Url.parse? config.endpoint with
  | error cause => rw [parsed] at endpoint; cases endpoint
  | ok url =>
      rw [parsed] at endpoint
      dsimp only at endpoint
      by_cases web : ((url.scheme == "http" || url.scheme == "https") && url.isBase) = true
      · simp only [Bool.and_eq_true, Bool.or_eq_true, beq_iff_eq] at web
        refine ⟨url, rfl, web.2, ?_⟩
        rcases web.1 with http | https
        · rw [http]
          decide
        · rw [https]
          decide
      · rw [if_neg web] at endpoint
        cases endpoint

namespace Sink

variable {W : Type}

/-- The sink of a valid configuration whose endpoint is known. -/
def behind (endpoint : Url) (config : Config) (link : Link W) (credentials : CredentialSource W)
    (clock : Clock W) : Sink W :=
  { config, credentials
    store := {
      client := { link, credentials, endpoint, bucket := config.bucket }
      clock, policy := .ofSettings config.retry } }

/-- A sink is connected where its configuration passes the checks: it stands behind an endpoint, and its client
reads its names back. -/
theorem connect_of_validate {config : Config} (passed : config.validate = .ok ()) (link : Link W)
    (credentials : CredentialSource W) (clock : Clock W) :
    ∃ endpoint, connect config link credentials clock = .ok (behind endpoint config link credentials clock) ∧
      (behind endpoint config link credentials clock).store.client.IsAddressed := by
  have valid := Config.isValid_of_validate passed
  obtain ⟨url, parsed, base, web⟩ := valid.endpoint
  have found : Client.endpoint? config.endpoint = .ok url := by
    rw [Client.endpoint?, parsed]
    exact if_pos base
  refine ⟨url, ?_, base, web, valid.bucket⟩
  rw [connect, passed, Client.connect, found]
  rfl

/-- A connected sink has a valid configuration and stands behind an endpoint, and its client reads its
names back. -/
theorem connect_eq_ok {config : Config} {link : Link W} {credentials : CredentialSource W}
    {clock : Clock W} {sink : Sink W} (connected : connect config link credentials clock = .ok sink) :
    config.IsValid ∧
      ∃ endpoint, sink = behind endpoint config link credentials clock ∧
        sink.store.client.IsAddressed := by
  have begun := connected
  rw [connect] at begun
  obtain ⟨⟨⟩, passed, -⟩ := Except.exists_of_bind_eq_ok begun
  obtain ⟨url, made, addressed⟩ := connect_of_validate passed link credentials clock
  cases made.symm.trans connected
  exact ⟨Config.isValid_of_validate passed, url, rfl, addressed⟩

/-- A created file has the names that its directories and its name make. -/
theorem createFile_eq_ok {sink : Sink W} {name : String} {marker : Marker} {capacity : Nat}
    {world after : W} {file : SinkFile}
    (created : sink.createFile name marker capacity world = (.ok file, after)) :
    ∃ names, FileNames.ofDirectories sink.config.workingDir sink.config.publishDir name = .ok names ∧
      SinkFile.create sink.store name names capacity marker world = (.ok file, after) := by
  rw [createFile] at created
  cases made : FileNames.ofDirectories sink.config.workingDir sink.config.publishDir name with
  | error cause =>
      rw [made] at created
      cases created
  | ok names =>
      rw [made] at created
      exact ⟨names, rfl, created⟩

end Sink

/-! ## Names -/

theorem ObjectName.text_of_ofText {text : String} {name : ObjectName} (made : ofText text = .ok name) :
    name.text = text := by
  rw [ofText] at made
  split at made
  · cases made
    rfl
  · cases made

/-- A name in a directory has the name of a file behind the last slash. -/
theorem ObjectName.text_of_join {directory text : String} {name : ObjectName}
    (made : join directory text = .ok name) :
    name.text = directory ++ "/" ++ text ∧ '/' ∉ text.toList := by
  rw [join] at made
  obtain ⟨⟨⟩, -, made⟩ := Except.exists_of_bind_eq_ok made
  obtain ⟨⟨⟩, checked, made⟩ := Except.exists_of_bind_eq_ok made
  refine ⟨text_of_ofText made, ?_⟩
  rw [checkFileName] at checked
  obtain ⟨-, checked⟩ := Except.of_ite_eq_ok checked
  obtain ⟨plain, -⟩ := Except.of_ite_eq_ok checked
  exact plain

/-- What stands before and behind the last slash is determined by the whole. -/
theorem append_slash_injective {first second before after : List Char} (plain : '/' ∉ before)
    (other : '/' ∉ after) (same : first ++ '/' :: before = second ++ '/' :: after) :
    first = second ∧ before = after := by
  have split : ∀ front back : List Char, '/' ∉ back →
      (front ++ '/' :: back).reverse.takeWhile (· != '/') = back.reverse := by
    intro front back free
    have passed : ∀ char ∈ back.reverse, (char != '/') = true := by
      intro char inside
      rw [bne_iff_ne]
      rintro rfl
      exact free (List.mem_reverse.mp inside)
    rw [List.reverse_append, List.reverse_cons, List.append_assoc, List.takeWhile_append_of_pos passed]
    simp
  have backs : before = after := by
    rw [← List.reverse_inj, ← split first before plain, same, split second after other]
  subst backs
  exact ⟨List.append_cancel_right same, rfl⟩

namespace FileNames

/-- The three names of a file. -/
def all (names : FileNames) : List ObjectName := [names.inflight, names.part, names.publish]

@[simp]
theorem inflight_mem_all (names : FileNames) : names.inflight ∈ names.all := by simp [all]

@[simp]
theorem part_mem_all (names : FileNames) : names.part ∈ names.all := by simp [all]

@[simp]
theorem publish_mem_all (names : FileNames) : names.publish ∈ names.all := by simp [all]

/-- How the names of a file are made of its directories and its name. -/
structure IsFor (working publish name : String) (names : FileNames) : Prop where
  inflight : names.inflight.text = working ++ "/" ++ name
  part : names.part.text = working ++ "/" ++ (name ++ ObjectName.partSuffix)
  publish : names.publish.text = publish ++ "/" ++ name
  /-- No slash stands in the name of a file. -/
  plain : '/' ∉ name.toList
  working_ne_publish : names.inflight ≠ names.publish ∧ names.part ≠ names.publish

theorem isFor_of_ofDirectories {working publish name : String} {names : FileNames}
    (made : ofDirectories working publish name = .ok names) : names.IsFor working publish name := by
  rw [ofDirectories] at made
  obtain ⟨inflight, inWorking, made⟩ := Except.exists_of_bind_eq_ok made
  obtain ⟨part, withPart, made⟩ := Except.exists_of_bind_eq_ok made
  obtain ⟨target, inPublish, made⟩ := Except.exists_of_bind_eq_ok made
  obtain ⟨apart, made⟩ := Except.of_ite_eq_ok made
  cases made
  have inflightText := ObjectName.text_of_join inWorking
  have publishText := ObjectName.text_of_join inPublish
  rw [ObjectName.withSuffix] at withPart
  refine ⟨inflightText.1, ?_, publishText.1, inflightText.2, ?_⟩
  · rw [ObjectName.text_of_ofText withPart, inflightText.1, String.append_assoc]
  · rw [not_or] at apart
    exact ⟨apart.2, apart.1⟩

variable {working publish name : String} {names : FileNames}

/-- The inflight object of a file is not its part. -/
theorem IsFor.inflight_ne_part (made : names.IsFor working publish name) : names.inflight ≠ names.part := by
  intro same
  have texts := congrArg ObjectName.text same
  rw [made.inflight, made.part] at texts
  have sizes := congrArg (fun text => text.toList.length) texts
  simp [ObjectName.partSuffix] at sizes

/-- An object of a file stands in a directory under the name of the file or of its part. -/
theorem IsFor.of_mem (made : names.IsFor working publish name) {object : ObjectName}
    (inside : object ∈ names.all) :
    ∃ directory base, object.text = directory ++ "/" ++ base ∧ '/' ∉ base.toList ∧
      (directory = working ∧ (base = name ∨ base = name ++ ObjectName.partSuffix) ∨
        directory = publish ∧ base = name) := by
  simp only [all, List.mem_cons, List.not_mem_nil, or_false] at inside
  rcases inside with rfl | rfl | rfl
  · exact ⟨working, name, made.inflight, made.plain, .inl ⟨rfl, .inl rfl⟩⟩
  · refine ⟨working, name ++ ObjectName.partSuffix, made.part, ?_, .inl ⟨rfl, .inr rfl⟩⟩
    simpa [ObjectName.partSuffix] using made.plain
  · exact ⟨publish, name, made.publish, made.plain, .inr ⟨rfl, rfl⟩⟩

/-- One of two files is named as the part of the other. -/
def Entangled (first second : String) : Prop :=
  second = first ++ ObjectName.partSuffix ∨ first = second ++ ObjectName.partSuffix

/-- Files with different names share no object unless one is named as the part of the other. -/
theorem IsFor.apart {first second : String} {own other : FileNames}
    (made : own.IsFor working publish first) (beside : other.IsFor working publish second)
    (directories : working ≠ publish) (different : first ≠ second)
    (untangled : ¬ Entangled first second) :
    ∀ object ∈ own.all, object ∉ other.all := by
  intro object inOwn inOther
  obtain ⟨directory, base, text, plain, place⟩ := made.of_mem inOwn
  obtain ⟨otherDirectory, otherBase, otherText, otherPlain, otherPlace⟩ := beside.of_mem inOther
  have chars := congrArg String.toList (text.symm.trans otherText)
  simp only [String.toList_append, List.append_assoc] at chars
  obtain ⟨sameDirectory, sameBase⟩ := append_slash_injective plain otherPlain chars
  have directoryEq := String.toList_inj.mp sameDirectory
  have baseEq := String.toList_inj.mp sameBase
  subst directoryEq baseEq
  rcases place with ⟨rfl, own⟩ | ⟨rfl, rfl⟩
  · rcases otherPlace with ⟨-, other⟩ | ⟨same, -⟩
    · rcases own with rfl | rfl
      · rcases other with same | same
        · exact different same
        · exact untangled (.inr same)
      · rcases other with same | same
        · exact untangled (.inl same.symm)
        · exact different (String.append_left_inj _ |>.mp same)
    · exact directories same
  · rcases otherPlace with ⟨same, -⟩ | ⟨-, same⟩
    · exact directories same.symm
    · exact different same

end FileNames

end RecordSink
