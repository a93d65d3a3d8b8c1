import RecordSink.Proofs.Sink.Room

/-!
# Accepted names

Which directories and which name make the names of a file, told without the checks: a directory is a list of
segments joined by slashes, and a segment is what may stand between two of them. Main statement: the checks of
a working directory, a publish directory and a file name pass exactly where the three are usable together.
-/

namespace RecordSink

namespace ObjectName

variable {directory name text : String}

/-! ## Segments -/

/-- No piece of a split list holds what the list was split at. -/
theorem not_mem_of_mem_splitOn {list piece : List Char} (inside : piece ∈ list.splitOn '/') : '/' ∉ piece := by
  rw [List.splitOn_eq_splitOnP] at inside
  induction list generalizing piece with
  | nil =>
      rw [List.splitOnP_nil, List.mem_singleton] at inside
      rw [inside]
      exact List.not_mem_nil
  | cons char rest ih =>
      rw [List.splitOnP_cons_eq_if_modifyHead] at inside
      split at inside
      · rcases List.mem_cons.mp inside with rfl | later
        · exact List.not_mem_nil
        · exact ih later
      · next other =>
        cases pieces : rest.splitOnP (· == '/') with
        | nil => exact absurd pieces (List.splitOnP_ne_nil _ _)
        | cons first later =>
            rw [pieces, List.modifyHead_cons, List.mem_cons] at inside
            rcases inside with rfl | inside
            · have plain : '/' ∉ first := ih (by rw [pieces]; exact List.mem_cons_self)
              intro slash
              rcases List.mem_cons.mp slash with same | slash
              · exact other (by rw [← same]; rfl)
              · exact plain slash
            · exact ih (by rw [pieces]; exact List.mem_cons_of_mem _ inside)

theorem segments_ne_nil (directory : String) : segments directory ≠ [] := by
  rw [segments, Ne, List.map_eq_nil_iff]
  exact List.splitOn_ne_nil _ _

/-- No slash stands in a segment. -/
theorem plain_of_mem_segments {segment : String} (inside : segment ∈ segments directory) :
    '/' ∉ segment.toList := by
  obtain ⟨piece, among, rfl⟩ := List.mem_map.mp inside
  rw [String.toList_ofList]
  exact not_mem_of_mem_splitOn among

/-- A directory is its segments, joined by slashes. -/
theorem intercalate_segments (directory : String) : "/".intercalate (segments directory) = directory := by
  apply String.toList_inj.mp
  calc
    ("/".intercalate (segments directory)).toList
        = ['/'].intercalate ((segments directory).map String.toList) := String.toList_intercalate
    _ = ['/'].intercalate (directory.toList.splitOn '/') := by simp [segments, Function.comp_def]
    _ = directory.toList := List.intercalate_splitOn '/'

/-- Texts without a slash are the segments of what they are joined to. -/
theorem segments_intercalate {steps : List String} (filled : steps ≠ [])
    (plain : ∀ step ∈ steps, '/' ∉ step.toList) : segments ("/".intercalate steps) = steps := by
  have split : ("/".intercalate steps).toList.splitOn '/' = steps.map String.toList := by
    rw [String.toList_intercalate]
    apply List.splitOn_intercalate
    · intro piece inside
      obtain ⟨step, among, rfl⟩ := List.mem_map.mp inside
      exact plain step among
    · rwa [Ne, List.map_eq_nil_iff]
  rw [segments, split]
  simp [Function.comp_def]

/-- A slash in a directory separates its segments. -/
theorem segments_append_slash (front back : String) :
    segments (front ++ "/" ++ back) = segments front ++ segments back := by
  have joined : "/".intercalate (segments front ++ segments back) = front ++ "/" ++ back := by
    rw [String.intercalate_append_of_ne_nil (segments_ne_nil front) (segments_ne_nil back),
      intercalate_segments, intercalate_segments]
  rw [← joined]
  apply segments_intercalate
  · simp [segments_ne_nil]
  · intro step inside
    rcases List.mem_append.mp inside with inside | inside <;> exact plain_of_mem_segments inside

/-- A slash at an end of a directory leaves an empty segment, and so does a directory without any text. -/
theorem empty_mem_segments
    (outer : directory = "" ∨ directory.toList.head? = some '/' ∨ directory.toList.getLast? = some '/') :
    "" ∈ segments directory := by
  have empty : segments "" = [""] := rfl
  rcases outer with rfl | first | last
  · rw [empty]
    exact List.mem_singleton_self _
  · obtain ⟨rest, begins⟩ := List.head?_eq_some_iff.mp first
    have whole : directory = "" ++ "/" ++ String.ofList rest := by
      apply String.toList_inj.mp
      simp [begins]
    rw [whole, segments_append_slash, empty]
    exact List.mem_append_left _ (List.mem_singleton_self _)
  · obtain ⟨front, ends⟩ := List.getLast?_eq_some_iff.mp last
    have whole : directory = String.ofList front ++ "/" ++ "" := by
      apply String.toList_inj.mp
      simp [ends]
    rw [whole, segments_append_slash, empty]
    exact List.mem_append_right _ (List.mem_singleton_self _)

/-- The segments of a directory pass where each of them is neither empty nor relative. -/
theorem checkSegments_eq_ok_iff {steps : List String} : checkSegments directory steps = .ok () ↔
    ∀ step ∈ steps, step ≠ "" ∧ step ≠ "." ∧ step ≠ ".." := by
  induction steps with
  | nil => simp [checkSegments]
  | cons step rest ih =>
      have relative : isRelative step = true ↔ step = "." ∨ step = ".." := by simp [isRelative]
      rw [checkSegments, List.forall_mem_cons, ← ih]
      by_cases empty : step = ""
      · simp [empty]
      by_cases away : isRelative step = true
      · rw [if_neg empty, if_pos away]
        rcases relative.mp away with same | same <;> simp [same]
      · rw [if_neg empty, if_neg away]
        rw [relative, not_or] at away
        simp [empty, away]

/-! ## Usable directories and names -/

/-- A text without control characters: none of the general category `Cc`. -/
def IsClean (text : String) : Prop :=
  ∀ char ∈ text.toList, ¬ (char.toNat < 0x20 ∨ 0x7F ≤ char.toNat ∧ char.toNat ≤ 0x9F)

/-- What may stand between two slashes. -/
structure IsStep (text : String) : Prop where
  nonempty : text ≠ ""
  plain : '/' ∉ text.toList
  ne_here : text ≠ "."
  ne_above : text ≠ ".."

/-- One or more segments, joined by slashes, short enough to stand in an object name. -/
structure IsDirectory (directory : String) : Prop where
  joined : ∃ steps : List String,
    steps ≠ [] ∧ (∀ step ∈ steps, IsStep step) ∧ directory = "/".intercalate steps
  clean : IsClean directory
  short : directory.utf8ByteSize < 1024

/-- The store keeps the directory or one above it for itself. -/
def IsKept (directory : String) : Prop :=
  directory = ".well-known/acme-challenge" ∨
    ".well-known/acme-challenge/".toList <+: directory.toList

theorem checkCharacters_iff_isClean : checkCharacters text = .ok () ↔ IsClean text := by
  rw [checkCharacters_eq_ok_iff, IsClean]
  refine forall₂_congr fun char _ => ?_
  rw [Text.isControl, Bool.or_eq_false_iff, Bool.and_eq_false_iff]
  simp only [decide_eq_false_iff_not]
  omega

theorem checkFileName_iff_isStep : checkFileName name = .ok () ↔ IsStep name ∧ IsClean name := by
  have relative : isRelative name = true ↔ name = "." ∨ name = ".." := by simp [isRelative]
  rw [checkFileName_eq_ok_iff, checkCharacters_iff_isClean, relative, not_or]
  constructor
  · rintro ⟨nonempty, plain, ⟨here, above⟩, clean⟩
    exact ⟨⟨nonempty, plain, here, above⟩, clean⟩
  · rintro ⟨step, clean⟩
    exact ⟨step.nonempty, step.plain, ⟨step.ne_here, step.ne_above⟩, clean⟩

/-- A directory passes its check where it is a list of segments. -/
theorem checkDirectory_iff_isDirectory : checkDirectory directory = .ok () ↔ IsDirectory directory := by
  rw [checkDirectory_eq_ok_iff, checkSegments_eq_ok_iff, checkCharacters_iff_isClean]
  constructor
  · rintro ⟨-, -, steps, clean, short⟩
    refine ⟨⟨segments directory, segments_ne_nil directory, ?_, (intercalate_segments directory).symm⟩,
      clean, short⟩
    intro step inside
    obtain ⟨nonempty, here, above⟩ := steps step inside
    exact ⟨nonempty, plain_of_mem_segments inside, here, above⟩
  · rintro ⟨⟨steps, filled, valid, joined⟩, clean, short⟩
    have split : segments directory = steps := by
      rw [joined]
      exact segments_intercalate filled fun step inside => (valid step inside).plain
    have none : "" ∉ segments directory := by
      rw [split]
      exact fun inside => (valid "" inside).nonempty rfl
    refine ⟨fun empty => none (empty_mem_segments (.inl empty)),
      fun outer => none (empty_mem_segments (.inr outer)), ?_, clean, short⟩
    rw [split]
    intro step inside
    exact ⟨(valid step inside).nonempty, (valid step inside).ne_here, (valid step inside).ne_above⟩

/-- What is kept with a slash behind it is kept without it. -/
theorem reserves_iff_isKept : Reserves directory ↔ IsKept directory := by
  have kept : storePrefix.toList = ".well-known/acme-challenge".toList ++ ['/'] := rfl
  have slash : (directory ++ "/").toList = directory.toList ++ ['/'] := by simp
  rw [Reserves, slash, List.prefix_concat_iff, IsKept, storePrefix]
  refine or_congr ?_ .rfl
  rw [← storePrefix, kept, List.append_left_inj, String.toList_inj]
  exact eq_comm

/-- A name in a directory is the name of no other place. -/
theorem join_injective {other otherName : String} {object : ObjectName}
    (first : join directory name = .ok object) (second : join other otherName = .ok object) :
    directory = other ∧ name = otherName := by
  obtain ⟨text, plain⟩ := text_of_join first
  obtain ⟨otherText, otherPlain⟩ := text_of_join second
  have chars := congrArg String.toList (text.symm.trans otherText)
  simp only [String.toList_append, List.append_assoc] at chars
  obtain ⟨directories, names⟩ := append_slash_injective plain otherPlain chars
  exact ⟨String.toList_inj.mp directories, String.toList_inj.mp names⟩

end ObjectName

/-! ## Files -/

namespace FileNames

open ObjectName

variable {working publish name : String} {names : FileNames}

/-- A working directory, a publish directory and a name that make a file: with a slash between them and `.part`
behind the name of the part, all names have room in 1024 bytes. -/
structure IsUsable (working publish name : String) : Prop where
  inWorking : IsDirectory working
  inPublish : IsDirectory publish
  step : IsStep name
  clean : IsClean name
  different : working ≠ publish
  working_size : working.utf8ByteSize + name.utf8ByteSize + 6 ≤ 1024
  publish_size : publish.utf8ByteSize + name.utf8ByteSize + 1 ≤ 1024
  working_free : ¬ IsKept working
  publish_free : ¬ IsKept publish

/-- The names of the part and of the publish object fit where they have room and are not kept. -/
theorem fits_iff : Fits working (name ++ partSuffix) ∧ Fits publish name ↔
    working.utf8ByteSize + name.utf8ByteSize + 6 ≤ 1024 ∧
      publish.utf8ByteSize + name.utf8ByteSize + 1 ≤ 1024 ∧ ¬ IsKept working ∧ ¬ IsKept publish := by
  have suffix : partSuffix.utf8ByteSize = 5 := by decide
  rw [Fits, Fits, reserves_iff_isKept, reserves_iff_isKept, String.utf8ByteSize_append, suffix, maxSize]
  constructor
  · rintro ⟨⟨part, working⟩, target, publish⟩
    exact ⟨by omega, by omega, working, publish⟩
  · rintro ⟨part, target, working, publish⟩
    exact ⟨⟨by omega, working⟩, by omega, publish⟩

/-- In one directory the inflight object would be the publish object. -/
theorem different_of_ofDirectories (made : ofDirectories working publish name = .ok names) :
    working ≠ publish := by
  rintro rfl
  have apart := isFor_of_ofDirectories made
  apply apart.working_ne_publish.1
  apply text_injective
  rw [apart.inflight, apart.publish]

/-- Both directories of a file pass their checks. -/
theorem directories_of_ofDirectories (made : ofDirectories working publish name = .ok names) :
    checkDirectory working = .ok () ∧ checkDirectory publish = .ok () := by
  rw [ofDirectories] at made
  obtain ⟨inflight, inWorking, made⟩ := Except.exists_of_bind_eq_ok made
  obtain ⟨part, -, made⟩ := Except.exists_of_bind_eq_ok made
  obtain ⟨target, inPublish, -⟩ := Except.exists_of_bind_eq_ok made
  exact ⟨(exists_join_iff.mp ⟨inflight, inWorking⟩).1, (exists_join_iff.mp ⟨target, inPublish⟩).1⟩

theorem exists_iff_isUsable :
    (∃ names, ofDirectories working publish name = .ok names) ↔ IsUsable working publish name := by
  constructor
  · rintro ⟨names, made⟩
    obtain ⟨checkedWorking, checkedPublish⟩ := directories_of_ofDirectories made
    have different := different_of_ofDirectories made
    obtain ⟨named, fit⟩ :=
      (exists_ofDirectories_iff checkedWorking checkedPublish different).mp ⟨names, made⟩
    obtain ⟨step, clean⟩ := checkFileName_iff_isStep.mp named
    obtain ⟨workingSize, publishSize, workingFree, publishFree⟩ := fits_iff.mp fit
    exact ⟨checkDirectory_iff_isDirectory.mp checkedWorking, checkDirectory_iff_isDirectory.mp checkedPublish,
      step, clean, different, workingSize, publishSize, workingFree, publishFree⟩
  · intro usable
    have checkedWorking := checkDirectory_iff_isDirectory.mpr usable.inWorking
    have checkedPublish := checkDirectory_iff_isDirectory.mpr usable.inPublish
    have named := checkFileName_iff_isStep.mpr ⟨usable.step, usable.clean⟩
    apply (exists_ofDirectories_iff checkedWorking checkedPublish usable.different).mpr
    exact ⟨named, fits_iff.mpr
      ⟨usable.working_size, usable.publish_size, usable.working_free, usable.publish_free⟩⟩

/-- The names of a file are made exactly of usable directories and names. The inflight object and the part stand in
the working directory and the publish object in the publish directory; the three names are different, and each
is one that the store accepts. A name in a directory tells the directory and the name that it was made of. -/
theorem ofDirectories_iff_isUsable (working publish name : String) :
    ((∃ names, ofDirectories working publish name = .ok names) ↔ IsUsable working publish name) ∧
    (∀ names, ofDirectories working publish name = .ok names →
      names.inflight.text = working ++ "/" ++ name ∧
      names.part.text = working ++ "/" ++ name ++ ".part" ∧
      names.publish.text = publish ++ "/" ++ name ∧
      names.inflight ≠ names.part ∧ names.inflight ≠ names.publish ∧ names.part ≠ names.publish ∧
      check (working ++ "/" ++ name) = .ok () ∧ check (working ++ "/" ++ name ++ ".part") = .ok () ∧
      check (publish ++ "/" ++ name) = .ok ()) ∧
    ∀ directory other base otherBase object,
      join directory base = .ok object → join other otherBase = .ok object →
        directory = other ∧ base = otherBase := by
  refine ⟨exists_iff_isUsable, ?_, fun _ _ _ _ _ first second => join_injective first second⟩
  intro names made
  have apart := isFor_of_ofDirectories made
  have part : names.part.text = working ++ "/" ++ name ++ ".part" := apart.part.trans String.append_assoc.symm
  refine ⟨apart.inflight, part, apart.publish, apart.inflight_ne_part, apart.working_ne_publish.1,
    apart.working_ne_publish.2, ?_, ?_, ?_⟩
  · rw [← apart.inflight]
    exact names.inflight.accepted
  · rw [← part]
    exact names.part.accepted
  · rw [← apart.publish]
    exact names.publish.accepted

/-- A file in nested directories has its three names, and none in one directory for both. -/
theorem ofDirectories_iff_isUsable_trial :
    (∃ names, ofDirectories "tmp/sink/work" "data/2024" "f" = .ok names ∧
      names.part.text = "tmp/sink/work/f.part" ∧ names.inflight ≠ names.publish) ∧
    ¬ IsUsable "dir" "dir" "f" := by
  have passes : (ofDirectories "tmp/sink/work" "data/2024" "f").toOption.isSome = true := by decide +kernel
  have made := Except.eq_ok_of_isSome passes
  obtain ⟨-, named, -⟩ := ofDirectories_iff_isUsable "tmp/sink/work" "data/2024" "f"
  obtain ⟨-, part, -, -, apart, -⟩ := named _ made
  refine ⟨⟨_, made, ?_, apart⟩, fun usable => usable.different rfl⟩
  rw [part]
  decide

end FileNames

end RecordSink
