import RecordSink.Proofs.Sink.Connected

/-!
# Room for files

Which directories leave room for the names of a file. The rules for a directory are looser than those for the
names in it: they count neither the slash nor the name of a file nor the suffix of a part, and they know
nothing of the names that the store keeps for itself. Main statement: what a valid configuration lacks for
there to be a file.
-/

namespace RecordSink

/-! ## Checks -/

/-- A check passes where its condition does not hold and the rest passes. -/
theorem Except.ite_eq_ok_iff {ε α β : Type} {condition : Prop} [Decidable condition] {cause : ε}
    {next : α → Except ε β} {rest : Except ε β} {value : β} :
    (if condition then (.error cause : Except ε α) >>= next else rest) = .ok value ↔
      ¬ condition ∧ rest = .ok value := by
  constructor
  · exact of_ite_eq_ok
  · rintro ⟨other, passed⟩
    rw [if_neg other]
    exact passed

/-- Two checks pass where each of them does. -/
theorem Except.seq_eq_ok_iff {ε α : Type} {first : Except ε Unit} {rest : Except ε α} {value : α} :
    (first >>= fun _ => rest) = .ok value ↔ first = .ok () ∧ rest = .ok value := by
  cases first with
  | error cause => exact iff_of_false (nomatch ·) (nomatch ·.1)
  | ok passed => exact ⟨fun same => ⟨rfl, same⟩, fun same => same.2⟩

namespace ObjectName

variable {directory base name text : String}

theorem checkCharacters_eq_ok_iff :
    checkCharacters text = .ok () ↔ ∀ char ∈ text.toList, Text.isControl char = false := by
  have found : text.toList.find? Text.isControl = none ↔ ∀ char ∈ text.toList, Text.isControl char = false := by
    simp only [List.find?_eq_none, Bool.not_eq_true]
  rw [← found, checkCharacters]
  cases text.toList.find? Text.isControl with
  | none => exact iff_of_true rfl rfl
  | some char =>
      constructor
      · intro passed
        cases passed
      · intro none
        cases none

theorem checkCharacters_append {front back : String} (clean : checkCharacters front = .ok ())
    (cleanBack : checkCharacters back = .ok ()) : checkCharacters (front ++ back) = .ok () := by
  rw [checkCharacters_eq_ok_iff] at clean cleanBack ⊢
  intro char inside
  rw [String.toList_append, List.mem_append] at inside
  exact inside.elim (clean char) (cleanBack char)

theorem checkFileName_eq_ok_iff : checkFileName name = .ok () ↔
    name ≠ "" ∧ '/' ∉ name.toList ∧ ¬ isRelative name = true ∧ checkCharacters name = .ok () := by
  rw [checkFileName]
  refine Except.ite_eq_ok_iff.trans (and_congr .rfl ?_)
  exact Except.ite_eq_ok_iff.trans (and_congr .rfl Except.ite_eq_ok_iff)

theorem checkDirectory_eq_ok_iff : checkDirectory directory = .ok () ↔
    directory ≠ "" ∧
      ¬ (directory.toList.head? = some '/' ∨ directory.toList.getLast? = some '/') ∧
      checkSegments directory (segments directory) = .ok () ∧ checkCharacters directory = .ok () ∧
      directory.utf8ByteSize < maxSize := by
  rw [checkDirectory]
  refine Except.ite_eq_ok_iff.trans (and_congr .rfl ?_)
  refine Except.ite_eq_ok_iff.trans (and_congr .rfl ?_)
  refine Except.seq_eq_ok_iff.trans (and_congr .rfl ?_)
  refine Except.seq_eq_ok_iff.trans (and_congr .rfl ?_)
  split
  · next long => exact iff_of_false (nomatch ·) (Nat.not_lt.mpr long)
  · next short => exact iff_of_true rfl (Nat.not_le.mp short)

theorem check_eq_ok_iff : check text = .ok () ↔
    text ≠ "" ∧ text.utf8ByteSize ≤ maxSize ∧ ¬ isRelative text = true ∧
      ¬ storePrefix.toList <+: text.toList ∧ checkCharacters text = .ok () := by
  rw [check, ← Nat.not_lt, ← List.isPrefixOf_iff_prefix]
  refine Except.ite_eq_ok_iff.trans (and_congr .rfl ?_)
  refine Except.ite_eq_ok_iff.trans (and_congr .rfl ?_)
  exact Except.ite_eq_ok_iff.trans (and_congr .rfl Except.ite_eq_ok_iff)

/-! ## Names in a directory -/

/-- The store keeps all names in a directory for itself. -/
def Reserves (directory : String) : Prop := storePrefix.toList <+: (directory ++ "/").toList

instance (directory : String) : Decidable (Reserves directory) :=
  decidable_of_iff _ List.isPrefixOf_iff_prefix

/-- What the store keeps for itself ends at a slash, so only the directory of a name decides. -/
theorem isPrefix_join_iff (plain : '/' ∉ base.toList) :
    storePrefix.toList <+: (directory ++ "/" ++ base).toList ↔ Reserves directory := by
  rw [Reserves, String.toList_append]
  constructor
  · intro kept
    rcases List.prefix_or_prefix_of_prefix kept (List.prefix_append _ base.toList) with within | ⟨more, whole⟩
    · exact within
    · rw [← whole] at kept ⊢
      -- what the prefix has more than the directory stands in a name without a slash
      have inside : more <+: base.toList := (List.prefix_append_right_inj _).mp kept
      rcases List.eq_nil_or_concat more with rfl | ⟨front, last, rfl⟩
      · simp
      · rw [List.concat_eq_append] at whole inside
        have ends : last = '/' := by
          have lasts := congrArg List.getLast? whole
          rw [← List.append_assoc, List.getLast?_concat] at lasts
          exact Option.some.inj lasts
        rw [ends] at inside
        exact absurd (inside.subset (by simp)) plain
  · exact fun kept => kept.trans (List.prefix_append _ _)

/-- A name without a slash determines its directory. -/
theorem directory_eq_of_join_eq {other otherBase : String} (plain : '/' ∉ base.toList)
    (otherPlain : '/' ∉ otherBase.toList) (same : directory ++ "/" ++ base = other ++ "/" ++ otherBase) :
    directory = other := by
  have chars := congrArg String.toList same
  simp only [String.toList_append, List.append_assoc] at chars
  exact String.toList_inj.mp (append_slash_injective plain otherPlain chars).1

theorem not_isRelative_join : ¬ isRelative (directory ++ "/" ++ base) = true := by
  intro relative
  have slash : '/' ∈ (directory ++ "/" ++ base).toList := by simp
  simp only [isRelative, Bool.or_eq_true, beq_iff_eq] at relative
  rcases relative with same | same <;> rw [same] at slash <;> exact absurd slash (by decide)

/-- A name in a directory has room and is not kept by the store. -/
def Fits (directory base : String) : Prop :=
  directory.utf8ByteSize + 1 + base.utf8ByteSize ≤ maxSize ∧ ¬ Reserves directory

/-- A name in a directory passes where it fits. -/
theorem check_join_iff (clean : checkCharacters directory = .ok ()) (plain : '/' ∉ base.toList)
    (cleanBase : checkCharacters base = .ok ()) :
    check (directory ++ "/" ++ base) = .ok () ↔ Fits directory base := by
  have nonempty : directory ++ "/" ++ base ≠ "" := by
    intro empty
    have slash : '/' ∈ (directory ++ "/" ++ base).toList := by simp
    rw [empty] at slash
    cases slash
  have whole : checkCharacters (directory ++ "/" ++ base) = .ok () :=
    checkCharacters_append (checkCharacters_append clean rfl) cleanBase
  have size : (directory ++ "/" ++ base).utf8ByteSize = directory.utf8ByteSize + 1 + base.utf8ByteSize := by
    rw [String.utf8ByteSize_append, String.utf8ByteSize_append]
    rfl
  rw [check_eq_ok_iff, isPrefix_join_iff plain, size, Fits]
  simp [nonempty, not_isRelative_join, whole]

theorem exists_ofText_iff : (∃ name, ofText text = .ok name) ↔ check text = .ok () := by
  constructor
  · rintro ⟨name, made⟩
    rw [← text_of_ofText made]
    exact name.accepted
  · intro passed
    refine ⟨⟨text, passed⟩, ?_⟩
    rw [ofText]
    split
    · rfl
    · next failed => cases passed.symm.trans failed

/-- A file name has a name in a directory where both pass their checks and it fits. -/
theorem exists_join_iff : (∃ name, join directory base = .ok name) ↔
    checkDirectory directory = .ok () ∧ checkFileName base = .ok () ∧ Fits directory base := by
  have whole : ∀ {object : ObjectName}, join directory base = .ok object ↔
      checkDirectory directory = .ok () ∧ checkFileName base = .ok () ∧
        ofText (directory ++ "/" ++ base) = .ok object :=
    Except.seq_eq_ok_iff.trans (and_congr .rfl Except.seq_eq_ok_iff)
  simp only [whole, exists_and_left, exists_ofText_iff]
  refine and_congr_right fun valid => and_congr_right fun named => ?_
  obtain ⟨-, plain, -, cleanBase⟩ := checkFileName_eq_ok_iff.mp named
  obtain ⟨-, -, -, clean, -⟩ := checkDirectory_eq_ok_iff.mp valid
  exact check_join_iff clean plain cleanBase

end ObjectName

/-! ## Files -/

namespace FileNames

open ObjectName

variable {working publish name : String}

/-- The name of a part fits where a name with a suffix does. -/
theorem exists_part_iff (checked : checkDirectory working = .ok ()) (named : checkFileName name = .ok ())
    {inflight : ObjectName} (made : join working name = .ok inflight) :
    (∃ part, inflight.withSuffix partSuffix = .ok part) ↔ Fits working (name ++ partSuffix) := by
  obtain ⟨-, plain, -, cleanBase⟩ := checkFileName_eq_ok_iff.mp named
  obtain ⟨-, -, -, clean, -⟩ := checkDirectory_eq_ok_iff.mp checked
  have plainPart : '/' ∉ (name ++ partSuffix).toList := by simpa [partSuffix] using plain
  have cleanPart : checkCharacters (name ++ partSuffix) = .ok () := checkCharacters_append cleanBase rfl
  rw [withSuffix, exists_ofText_iff, (text_of_join made).1, String.append_assoc,
    check_join_iff clean plainPart cleanPart]

/-- In two directories that are different and pass the checks there are names for a file where its name passes
and the names of the part and of the publish object fit. -/
theorem exists_ofDirectories_iff (checkedWorking : checkDirectory working = .ok ())
    (checkedPublish : checkDirectory publish = .ok ()) (different : working ≠ publish) :
    (∃ names, ofDirectories working publish name = .ok names) ↔
      checkFileName name = .ok () ∧ Fits working (name ++ partSuffix) ∧ Fits publish name := by
  constructor
  · rintro ⟨names, made⟩
    rw [ofDirectories] at made
    obtain ⟨inflight, inWorking, made⟩ := Except.exists_of_bind_eq_ok made
    obtain ⟨part, withPart, made⟩ := Except.exists_of_bind_eq_ok made
    obtain ⟨target, inPublish, -⟩ := Except.exists_of_bind_eq_ok made
    obtain ⟨-, named, -⟩ := exists_join_iff.mp ⟨inflight, inWorking⟩
    obtain ⟨-, -, fits⟩ := exists_join_iff.mp ⟨target, inPublish⟩
    exact ⟨named, (exists_part_iff checkedWorking named inWorking).mp ⟨part, withPart⟩, fits⟩
  · rintro ⟨named, fitsPart, fitsPublish⟩
    have fits : Fits working name := by
      refine ⟨Nat.le_trans ?_ fitsPart.1, fitsPart.2⟩
      rw [String.utf8ByteSize_append]
      omega
    obtain ⟨inflight, inWorking⟩ := exists_join_iff.mpr ⟨checkedWorking, named, fits⟩
    obtain ⟨part, withPart⟩ := (exists_part_iff checkedWorking named inWorking).mpr fitsPart
    obtain ⟨target, inPublish⟩ := exists_join_iff.mpr ⟨checkedPublish, named, fitsPublish⟩
    have plain := (text_of_join inPublish).2
    have apart : ¬ (part = target ∨ inflight = target) := by
      rintro (same | same)
      · have texts := congrArg ObjectName.text same
        rw [text_of_ofText withPart, (text_of_join inWorking).1, (text_of_join inPublish).1,
          String.append_assoc] at texts
        exact different (directory_eq_of_join_eq (by simpa [partSuffix] using plain) plain texts)
      · have texts := congrArg ObjectName.text same
        rw [(text_of_join inWorking).1, (text_of_join inPublish).1] at texts
        exact different (directory_eq_of_join_eq plain plain texts)
    refine ⟨{ inflight, part, publish := target }, ?_⟩
    rw [ofDirectories, inWorking]
    dsimp only [bind, Except.bind]
    rw [withPart]
    dsimp only
    rw [inPublish]
    exact if_neg apart

end FileNames

/-! ## Configurations -/

/-- Two directories leave room for a file: behind the one there is room for a slash, a byte of a name and the
suffix of the part, behind the other for a slash and a byte of a name, and the store keeps neither for
itself. -/
structure HasRoom (working publish : String) : Prop where
  working_size : working.utf8ByteSize + 2 + ObjectName.partSuffix.utf8ByteSize ≤ ObjectName.maxSize
  publish_size : publish.utf8ByteSize + 2 ≤ ObjectName.maxSize
  working_free : ¬ ObjectName.Reserves working
  publish_free : ¬ ObjectName.Reserves publish

/-- Two directories leave room where some name of a file fits into both. -/
theorem hasRoom_iff {working publish : String} : HasRoom working publish ↔
    ∃ name, ObjectName.checkFileName name = .ok () ∧
      ObjectName.Fits working (name ++ ObjectName.partSuffix) ∧ ObjectName.Fits publish name := by
  constructor
  · intro room
    have part := room.working_size
    refine ⟨"a", rfl, ⟨?_, room.working_free⟩, ?_, room.publish_free⟩
    · rw [String.utf8ByteSize_append, (by decide : "a".utf8ByteSize = 1)]
      omega
    · rw [(by decide : "a".utf8ByteSize = 1)]
      exact room.publish_size
  · rintro ⟨name, named, ⟨part, working⟩, fits, publish⟩
    have nonempty : name.utf8ByteSize ≠ 0 := by
      rw [Ne, String.utf8ByteSize_eq_zero_iff]
      exact (ObjectName.checkFileName_eq_ok_iff.mp named).1
    rw [String.utf8ByteSize_append] at part
    exact ⟨by omega, by omega, working, publish⟩

/-- The directories of a valid configuration pass their checks and are different. -/
theorem Config.directories_of_validate {config : Config} (valid : config.validate = .ok ()) :
    ObjectName.checkDirectory config.workingDir = .ok () ∧
      ObjectName.checkDirectory config.publishDir = .ok () ∧ config.workingDir ≠ config.publishDir := by
  have passes : ∀ {field directory}, checkDirectory field directory = .ok () →
      ObjectName.checkDirectory directory = .ok () := by
    intro field directory passed
    rw [checkDirectory] at passed
    split at passed
    · next checked => exact checked
    · cases passed
  have different := (isValid_of_validate valid).directories
  rw [validate] at valid
  obtain ⟨⟨⟩, -, valid⟩ := Except.exists_of_bind_eq_ok valid
  obtain ⟨⟨⟩, working, valid⟩ := Except.exists_of_bind_eq_ok valid
  obtain ⟨⟨⟩, publish, -⟩ := Except.exists_of_bind_eq_ok valid
  exact ⟨passes working, passes publish, different⟩

/-- Under a valid configuration there is a name for which files can be created exactly where the directories
leave room for it. -/
theorem Config.exists_names_iff {config : Config} (valid : config.validate = .ok ()) :
    (∃ name names, FileNames.ofDirectories config.workingDir config.publishDir name = .ok names) ↔
      HasRoom config.workingDir config.publishDir := by
  obtain ⟨working, publish, different⟩ := directories_of_validate valid
  rw [hasRoom_iff]
  exact exists_congr fun name => FileNames.exists_ofDirectories_iff working publish different

/-- The verification of a sink accepts the directories of every valid configuration, but there is a name for
which files can be created only where the directories leave room for it, and otherwise every creation fails
because of the name, before a request is sent. -/
theorem room_for_files {W : Type} {config : Config} (valid : config.validate = .ok ()) :
    Sink.checkDirectories config = .ok () ∧
    ((∃ name names, FileNames.ofDirectories config.workingDir config.publishDir name = .ok names) ↔
      HasRoom config.workingDir config.publishDir) ∧
    (¬ HasRoom config.workingDir config.publishDir → ∀ sink : Sink W, sink.config = config →
      ∀ name marker capacity world, ∃ cause,
        sink.createFile name marker capacity world = (.error (.invalidName cause), world)) := by
  obtain ⟨working, publish, -⟩ := Config.directories_of_validate valid
  have room := Config.exists_names_iff valid
  refine ⟨?_, room, ?_⟩
  · rw [Sink.checkDirectories, Sink.checkDirectory, working, Sink.checkDirectory, publish]
    rfl
  · rintro none sink rfl name marker capacity world
    rw [Sink.createFile]
    cases made : FileNames.ofDirectories sink.config.workingDir sink.config.publishDir name with
    | error cause => exact ⟨cause, rfl⟩
    | ok names => exact absurd (room.mp ⟨name, names, made⟩) none

/-! ## Directories without room -/

/-- A configuration for a store at hand. -/
def Config.sample (working : String) : Config :=
  { standard "logs" working "out" with endpoint := "http://h" }

@[simp]
theorem Config.workingDir_sample (working : String) : (sample working).workingDir = working := rfl

/-- The working directory of the sample decides whether it is valid. -/
theorem Config.validate_sample {working : String} (checked : ObjectName.checkDirectory working = .ok ())
    (different : working ≠ "out") : (sample working).validate = .ok () := by
  have passes : (sample "in").validate.toOption.isSome = true := by decide +kernel
  have base : (sample "in").validate = .ok () := Except.eq_ok_of_isSome passes
  rw [validate] at base ⊢
  obtain ⟨bucket, base⟩ := Except.seq_eq_ok_iff.mp base
  obtain ⟨-, base⟩ := Except.seq_eq_ok_iff.mp base
  obtain ⟨publish, base⟩ := Except.seq_eq_ok_iff.mp base
  obtain ⟨-, base⟩ := Except.ite_eq_ok_iff.mp base
  have working : checkDirectory "working_dir" working = .ok () := by
    rw [checkDirectory, checked]
  refine Except.seq_eq_ok_iff.mpr ⟨bucket, Except.seq_eq_ok_iff.mpr ⟨working, ?_⟩⟩
  exact Except.seq_eq_ok_iff.mpr ⟨publish, Except.ite_eq_ok_iff.mpr ⟨different, base⟩⟩

/-- There is room in usual directories. -/
theorem room_for_files_trial :
    Sink.checkDirectories (Config.sample "in") = .ok () ∧
      ∃ name names, FileNames.ofDirectories "in" "out" name = .ok names := by
  have valid : (Config.sample "in").validate = .ok () := Config.validate_sample rfl (by decide)
  obtain ⟨checked, room, -⟩ := room_for_files (W := Unit) valid
  exact ⟨checked, room.mpr ⟨by decide, by decide, by decide, by decide⟩⟩

/-- A directory of one segment passes its check. -/
theorem ObjectName.checkDirectory_of_plain {directory : String} (nonempty : directory ≠ "")
    (plain : '/' ∉ directory.toList) (absolute : ¬ isRelative directory = true)
    (clean : checkCharacters directory = .ok ()) (short : directory.utf8ByteSize < maxSize) :
    checkDirectory directory = .ok () := by
  have single : segments directory = [directory] := by
    rw [segments, List.splitOn_eq_singleton plain, List.map_singleton, String.ofList_toList]
  refine checkDirectory_eq_ok_iff.mpr ⟨nonempty, ?_, ?_, clean, short⟩
  · rintro (first | last)
    · exact plain (List.mem_of_head? first)
    · exact plain (List.mem_of_getLast? last)
  · rw [single, checkSegments, if_neg nonempty, if_neg absolute, checkSegments]

/-- A directory that takes up all bytes of an object name but one. -/
def longDirectory : String := String.ofList (List.replicate 1023 'd')

theorem size_longDirectory : longDirectory.utf8ByteSize = 1023 := by
  decide +kernel

theorem longDirectory_ne {text : String} (size : text.utf8ByteSize ≠ 1023) : longDirectory ≠ text :=
  fun same => size (same ▸ size_longDirectory)

theorem eq_of_mem_longDirectory {char : Char} (inside : char ∈ longDirectory.toList) : char = 'd' :=
  List.eq_of_mem_replicate (String.toList_ofList ▸ inside)

theorem ObjectName.checkDirectory_longDirectory : checkDirectory longDirectory = .ok () := by
  refine checkDirectory_of_plain (longDirectory_ne (by decide)) ?_ ?_ ?_ ?_
  · intro slash
    exact absurd (eq_of_mem_longDirectory slash) (by decide)
  · simp only [isRelative, Bool.or_eq_true, beq_iff_eq, not_or]
    exact ⟨longDirectory_ne (by decide), longDirectory_ne (by decide)⟩
  · rw [checkCharacters_eq_ok_iff]
    intro char inside
    rw [eq_of_mem_longDirectory inside]
    decide
  · rw [size_longDirectory]
    decide

/-- Under two valid configurations there is no name for which a file can be created: one working directory is
too long, the other one is kept by the store. -/
theorem no_room_for_files :
    ((Config.sample longDirectory).validate = .ok () ∧
      ¬ ∃ name names, FileNames.ofDirectories longDirectory "out" name = .ok names) ∧
    (Config.sample ".well-known/acme-challenge").validate = .ok () ∧
      ¬ ∃ name names, FileNames.ofDirectories ".well-known/acme-challenge" "out" name = .ok names := by
  have different : longDirectory ≠ "out" := longDirectory_ne (by decide)
  have long := Config.validate_sample ObjectName.checkDirectory_longDirectory different
  have kept : (Config.sample ".well-known/acme-challenge").validate = .ok () :=
    Config.validate_sample rfl (by decide)
  refine ⟨⟨long, fun named => ?_⟩, kept, fun named => ?_⟩
  · have size := ((Config.exists_names_iff long).mp named).working_size
    rw [Config.workingDir_sample, size_longDirectory] at size
    exact absurd size (by decide)
  · exact ((Config.exists_names_iff kept).mp named).working_free (by decide)

end RecordSink
