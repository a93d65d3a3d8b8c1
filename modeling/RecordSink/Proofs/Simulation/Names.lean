import RecordSink.Proofs.Sink.Room
import RecordSink.Simulation

/-!
# Names in a simulation

The files of a simulation are numbered, and their numbers can be told from the names of their objects. So no
two of them share an object, and what a check reads off an object name is the file that it belongs to.
-/

namespace RecordSink.Simulation

/-! ## Texts -/

/-- Behind its own front a text goes on with its rest. -/
theorem Harness.after?_append (front rest : String) : Harness.after? front (front ++ rest) = some rest := by
  rw [Harness.after?, String.toList_append, if_pos (by simp), List.drop_left, String.ofList_toList]

/-- No published object is found among those in progress. -/
theorem Harness.after?_published (rest : String) :
    Harness.after? "published/" ("inflight/" ++ rest) = none := by
  rw [Harness.after?, if_neg]
  simp

/-- An ending is taken off the text that has it. -/
theorem Harness.without_append (ending text : String) : Harness.without ending (text ++ ending) = text := by
  rw [Harness.without, String.toList_append, if_pos (by simp), List.length_append, Nat.add_sub_cancel,
    List.take_left, String.ofList_toList]

/-- A text that ends otherwise is left as it is. -/
theorem Harness.without_of_getLast? {ending text : String}
    (other : text.toList.getLast? ≠ ending.toList.getLast?) (isSome : ending.toList.getLast?.isSome) :
    Harness.without ending text = text := by
  rw [Harness.without, if_neg]
  intro ends
  obtain ⟨front, whole⟩ := List.isSuffixOf_iff_suffix.mp ends
  apply other
  rw [← whole, List.getLast?_append, Option.or_of_isSome isSome]

/-- A character has at most four bytes. -/
theorem utf8ByteSize_ofList_le (chars : List Char) : (String.ofList chars).utf8ByteSize ≤ 4 * chars.length := by
  induction chars with
  | nil => decide
  | cons char rest ih =>
      have split : String.ofList (char :: rest) = String.singleton char ++ String.ofList rest :=
        String.toList_inj.mp (by simp)
      have four := char.utf8Size_le_four
      rw [split, String.utf8ByteSize_append, String.utf8ByteSize_singleton, List.length_cons]
      omega

/-! ## Files -/

namespace Progress

theorem toList_fileName (number : Nat) : (fileName number).toList =
    "file-".toList ++ (List.replicate (5 - (Numeral.digits 10 number).length) '0' ++
      Numeral.digits 10 number) ++ ".rec".toList := by
  simp [fileName]

/-- Zeros in front of a numeral do not change its value. -/
theorem valueFrom?_zeros (count : Nat) (digits : List Char) :
    Numeral.valueFrom? 0 (List.replicate count '0' ++ digits) = Numeral.valueFrom? 0 digits := by
  have zeros : Numeral.valueFrom? 0 (List.replicate count '0') = some 0 := by
    induction count with
    | zero => rfl
    | succ count ih => exact ih
  rw [Numeral.valueFrom?_append, zeros, Option.bind_some]

/-- Different numbers make different file names. -/
theorem fileName_injective {first second : Nat} (same : fileName first = fileName second) :
    first = second := by
  have chars := congrArg String.toList same
  rw [toList_fileName, toList_fileName, List.append_left_inj, List.append_right_inj] at chars
  have values := congrArg (Numeral.valueFrom? 0) chars
  rw [valueFrom?_zeros, valueFrom?_zeros, Numeral.valueFrom?_digits, Numeral.valueFrom?_digits] at values
  exact Option.some.inj values

theorem getLast?_fileName (number : Nat) : (fileName number).toList.getLast? = some 'c' := by
  rw [toList_fileName, List.getLast?_append, Option.or_of_isSome (by decide)]
  decide

/-- A file name does not end like the name of a part. -/
theorem fileName_ne_append (first second : Nat) :
    fileName first ≠ fileName second ++ ObjectName.partSuffix := by
  intro same
  have ends := getLast?_fileName first
  rw [same, String.toList_append, List.getLast?_append, Option.or_of_isSome (by decide)] at ends
  exact absurd ends (by decide)

theorem without_fileName (number : Nat) :
    Harness.without ObjectName.partSuffix (fileName number) = fileName number := by
  refine Harness.without_of_getLast? ?_ (by decide)
  rw [getLast?_fileName]
  decide

/-- A file name has no separator and no control character. -/
theorem plain_fileName {number : Nat} {char : Char} (inside : char ∈ (fileName number).toList) :
    char ≠ '/' ∧ Text.isControl char = false := by
  have plain : ("file-".toList ++ ".rec".toList ++ ['0']).all
      (fun char => char ≠ '/' ∧ Text.isControl char = false) = true := by decide
  have fixed : ∀ char ∈ "file-".toList ++ ".rec".toList ++ ['0'], char ≠ '/' ∧ Text.isControl char = false :=
    fun char among => of_decide_eq_true (List.all_eq_true.mp plain char among)
  have digits : ∀ digit : Fin 10, Numeral.digitChar digit ≠ '/' ∧
      Text.isControl (Numeral.digitChar digit) = false := by decide
  simp only [toList_fileName, List.mem_append, List.mem_replicate] at inside fixed
  rcases inside with (front | ⟨-, rfl⟩ | written) | back
  · exact fixed char (.inl (.inl front))
  · exact fixed '0' (.inr (List.mem_singleton_self _))
  · obtain ⟨digit, rfl⟩ := Numeral.exists_digit written
    exact digits digit
  · exact fixed char (.inl (.inr back))

theorem checkFileName_fileName (number : Nat) : ObjectName.checkFileName (fileName number) = .ok () := by
  have ends : ∀ other, fileName number = other → other.toList.getLast? = some 'c' := by
    rintro _ rfl
    exact getLast?_fileName number
  refine ObjectName.checkFileName_eq_ok_iff.mpr ⟨?_, fun inside => (plain_fileName inside).1 rfl, ?_,
    ObjectName.checkCharacters_eq_ok_iff.mpr fun char inside => (plain_fileName inside).2⟩
  · exact fun empty => absurd (ends _ empty) (by decide)
  · simp only [ObjectName.isRelative, Bool.or_eq_true, beq_iff_eq]
    rintro (one | two)
    · exact absurd (ends _ one) (by decide)
    · exact absurd (ends _ two) (by decide)

/-- The name of a file whose number has 64 bits is short. -/
theorem utf8ByteSize_fileName_le {number : Nat} (small : number < Nat.pow 2 64) :
    (fileName number).utf8ByteSize ≤ 140 := by
  have digits := Numeral.length_digits_le 19 (Nat.lt_trans small (by decide : Nat.pow 2 64 < Nat.pow 10 20))
  have length : (fileName number).toList.length ≤ 34 := by
    have front : "file-".toList.length = 5 := by decide
    have back : ".rec".toList.length = 4 := by decide
    simp only [toList_fileName, List.length_append, List.length_replicate]
    omega
  have size := utf8ByteSize_ofList_le (fileName number).toList
  rw [String.ofList_toList] at size
  omega

end Progress

/-! ## Objects -/

/-- The name of the published object of a file. -/
def publishText (name : String) : String := "published/" ++ name

/-- The names of the objects of a file in progress. -/
def workingTexts (name : String) : List String :=
  ["inflight/" ++ name, "inflight/" ++ (name ++ ObjectName.partSuffix)]

/-- The names of all objects of a file. -/
def objectTexts (name : String) : List String := publishText name :: workingTexts name

variable {first second : Nat} {name text : String}

theorem publishText_injective {own other : String} (same : publishText own = publishText other) :
    own = other :=
  (String.append_right_inj "published/").mp same

theorem publishText_not_mem_workingTexts (own other : String) : publishText own ∉ workingTexts other := by
  intro inside
  have heads : (publishText own).toList.head? = some 'p' := by simp [publishText]
  simp only [workingTexts, List.mem_cons, List.not_mem_nil, or_false] at inside
  rcases inside with same | same <;> simp [same] at heads

/-- A published object belongs to one file. -/
theorem eq_of_publishText_mem {own other : String} (inside : publishText own ∈ objectTexts other) :
    own = other := by
  rcases List.mem_cons.mp inside with same | working
  · exact publishText_injective same
  · exact absurd working (publishText_not_mem_workingTexts own other)

theorem eq_of_mem_workingTexts (inside : text ∈ workingTexts (Progress.fileName first))
    (inOther : text ∈ workingTexts (Progress.fileName second)) : first = second := by
  have cancel : ∀ own other : String, "inflight/" ++ own = "inflight/" ++ other → own = other :=
    fun own other => (String.append_right_inj "inflight/").mp
  simp only [workingTexts, List.mem_cons, List.not_mem_nil, or_false] at inside inOther
  rcases inside with rfl | rfl <;> rcases inOther with same | same
  · exact Progress.fileName_injective (cancel _ _ same)
  · exact absurd (cancel _ _ same) (Progress.fileName_ne_append first second)
  · exact absurd (cancel _ _ same).symm (Progress.fileName_ne_append second first)
  · exact Progress.fileName_injective ((String.append_left_inj _).mp (cancel _ _ same))

/-- An object belongs to one file of a simulation. -/
theorem eq_of_mem_objectTexts (inside : text ∈ objectTexts (Progress.fileName first))
    (inOther : text ∈ objectTexts (Progress.fileName second)) : first = second := by
  rcases List.mem_cons.mp inside with rfl | working
  · exact Progress.fileName_injective (eq_of_publishText_mem inOther)
  · rcases List.mem_cons.mp inOther with rfl | workingOther
    · exact absurd working (publishText_not_mem_workingTexts _ _)
    · exact eq_of_mem_workingTexts working workingOther

variable {settings : Settings} {names : FileNames}

/-- The names of a file of a simulation are made of its directories. -/
def Settings.Gives (settings : Settings) (name : String) (names : FileNames) : Prop :=
  FileNames.ofDirectories settings.config.workingDir settings.config.publishDir name = .ok names

theorem Settings.Gives.texts (gives : settings.Gives name names) :
    [names.inflight.text, names.part.text] = workingTexts name ∧ names.publish.text = publishText name := by
  have texts := FileNames.isFor_of_ofDirectories gives
  rw [texts.inflight, texts.part, texts.publish]
  exact ⟨rfl, rfl⟩

/-- There are names for every file whose number has 64 bits. -/
theorem Settings.exists_names (settings : Settings) {number : Nat} (small : number < Nat.pow 2 64) :
    ∃ names, settings.Gives (Progress.fileName number) names := by
  have size := Progress.utf8ByteSize_fileName_le small
  have working : "inflight".utf8ByteSize = 8 := by decide
  have publish : "published".utf8ByteSize = 9 := by decide
  have suffix : ObjectName.partSuffix.utf8ByteSize = 5 := by decide
  have room : ObjectName.Fits "inflight" (Progress.fileName number ++ ObjectName.partSuffix) := by
    refine ⟨?_, by decide⟩
    rw [String.utf8ByteSize_append, working, suffix, ObjectName.maxSize]
    omega
  have roomPublish : ObjectName.Fits "published" (Progress.fileName number) := by
    refine ⟨?_, by decide⟩
    rw [publish, ObjectName.maxSize]
    omega
  have checked : ObjectName.checkDirectory "inflight" = .ok () := rfl
  have checkedPublish : ObjectName.checkDirectory "published" = .ok () := rfl
  have different : "inflight" ≠ "published" := by decide
  exact (FileNames.exists_ofDirectories_iff checked checkedPublish different).mpr
    ⟨Progress.checkFileName_fileName number, room, roomPublish⟩

/-- The objects of a file are those with its names. -/
theorem Settings.Gives.mem_objectTexts_iff (gives : settings.Gives name names) :
    text ∈ objectTexts name ↔ text ∈ names.all.map (·.text) := by
  obtain ⟨working, publish⟩ := gives.texts
  rw [objectTexts, ← working, ← publish]
  simp only [FileNames.all, List.map_cons, List.map_nil, List.mem_cons, List.not_mem_nil, or_false]
  constructor
  · rintro (same | same | same) <;> simp [same]
  · rintro (same | same | same) <;> simp [same]

end RecordSink.Simulation
