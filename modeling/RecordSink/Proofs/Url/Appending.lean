import RecordSink.Url

/-!
# Names and pairs behind a base

Names that are appended to a base are read back behind the names that the base has already, and
pairs behind the pairs of its query. What the base looks like does not matter.
-/

namespace RecordSink.Url

/-! ## Names -/

/-- A name that is one segment of a path: it does not say where one is, and nothing in it is passed
over. -/
structure IsSegment (name : String) : Prop where
  nonempty : name ≠ ""
  notHere : name ≠ "."
  notAbove : name ≠ ".."
  unbroken : ∀ char ∈ name.toList, isBreak char = false

/-- Whether a name is a segment can be computed. -/
theorem isSegment_of_check {name : String}
    (passed : (name != "" && name != "." && name != ".." &&
      name.toList.all fun char => !isBreak char) = true) : IsSegment name := by
  simp only [Bool.and_eq_true, bne_iff_ne, List.all_eq_true, Bool.not_eq_true'] at passed
  obtain ⟨⟨⟨nonempty, notHere⟩, notAbove⟩, unbroken⟩ := passed
  exact ⟨nonempty, notHere, notAbove, unbroken⟩

/-- A name in the form in which it is appended. -/
def written (special : Bool) (name : String) : String := Percent.encodeText (Percent.segment special) name

theorem decodeText_written (special : Bool) (name : String) :
    Percent.decodeText (written special name) = name := Percent.decodeText_segment special name

theorem written_ne_of_decodes {special : Bool} {name other meant : String}
    (decodes : Percent.decodeText other = meant) (different : name ≠ meant) :
    written special name ≠ other := by
  intro same
  rw [← decodes, ← same, decodeText_written] at different
  exact different rfl

/-- An appended name is not taken for the place itself. -/
theorem not_isHere_written {special : Bool} {name : String} (segment : IsSegment name) :
    isHere (written special name) = false := by
  have all : ∀ form ∈ [".", "%2e", "%2E"], Percent.decodeText form = "." := by decide +kernel
  rw [isHere, ← Bool.not_eq_true, List.contains_iff_mem]
  intro inside
  exact written_ne_of_decodes (all _ inside) segment.notHere rfl

/-- An appended name is not taken for the place above. -/
theorem not_isAbove_written {special : Bool} {name : String} (segment : IsSegment name) :
    isAbove (written special name) = false := by
  have all : ∀ form ∈ ["..", ".%2e", ".%2E", "%2e.", "%2E.", "%2e%2e", "%2e%2E", "%2E%2e", "%2E%2E"],
      Percent.decodeText form = ".." := by decide +kernel
  rw [isAbove, ← Bool.not_eq_true, List.contains_iff_mem]
  intro inside
  exact written_ne_of_decodes (all _ inside) segment.notAbove rfl

theorem written_ne_empty {special : Bool} {name : String} (segment : IsSegment name) :
    written special name ≠ "" :=
  written_ne_of_decodes (by decide +kernel) segment.nonempty

/-- No byte of an encoding that escapes it is a slash. -/
theorem slash_not_mem_encode {escapes : UInt8 → Bool} (slash : escapes 0x2F = true) (bytes : Bytes) :
    (0x2F : UInt8) ∉ Percent.encode escapes bytes := by
  have digits : ∀ number : Fin 16, Percent.digit number.val ≠ 0x2F := by decide
  intro inside
  rw [Percent.encode, List.mem_flatMap] at inside
  obtain ⟨source, -, inside⟩ := inside
  have bound := source.toNat_lt
  split at inside
  · simp only [Percent.escape, List.mem_cons, List.not_mem_nil, or_false] at inside
    rcases inside with same | same | same
    · exact absurd same (by decide)
    · exact digits ⟨source.toNat / 16, by omega⟩ same.symm
    · exact digits ⟨source.toNat % 16, by omega⟩ same.symm
  · next kept =>
      rw [List.mem_singleton] at inside
      exact kept (inside ▸ slash)

theorem segment_beyond (special : Bool) (byte : UInt8) (high : 128 ≤ byte.toNat) :
    Percent.segment special byte = true := by
  simp [Percent.segment, Percent.path, Percent.fragment, Percent.control_beyond byte high]

/-- No slash stands in an appended name. -/
theorem slash_not_mem_written (special : Bool) (name : String) : '/' ∉ (written special name).toList := by
  intro inside
  rw [written, Percent.encodeText, Bytes.asciiText, String.toList_ofList, List.mem_map] at inside
  obtain ⟨byte, inside, same⟩ := inside
  have small := Percent.encode_ascii (segment_beyond special) _ byte inside
  have value : byte.toNat = 47 := by
    rw [← Bytes.toNat_ofNat_small small, same]
    rfl
  have slash : byte = 0x2F := UInt8.toNat_inj.mp value
  exact slash_not_mem_encode (by cases special <;> decide) _ (slash ▸ inside)

/-- The path with one more name: a bare slash gets no other in front of the name. -/
theorem toList_joinName {scheme path name : String} (web : isFile scheme = false)
    (segment : IsSegment name) :
    (joinName scheme path name).toList =
      (if path.toList = ['/'] then ['/'] else path.toList ++ ['/'])
        ++ (written (isSpecial scheme) name).toList := by
  have pieces : name.toList.splitOnP isBreak = [name.toList] :=
    List.splitOnP_eq_singleton segment.unbroken
  have filled : name.toList.isEmpty = false := by
    rw [← Bool.not_eq_true, List.isEmpty_iff, String.toList_eq_nil_iff]
    exact segment.nonempty
  have encoded : Percent.encodeText (Percent.segment (isSpecial scheme)) name =
      written (isSpecial scheme) name := rfl
  rw [joinName, if_neg (by simp [segment.notHere, segment.notAbove])]
  simp only [web, addSegment, pieces, List.foldl_cons, List.foldl_nil, Draft.write, filled,
    Bool.false_eq_true, ↓reduceIte, List.append_nil, Draft.complete, List.reverse_reverse,
    String.ofList_toList, encoded, not_isAbove_written segment, not_isHere_written segment,
    Bool.false_and, List.nil_append, settled, String.toList_ofList, List.reverse_append]
  by_cases bare : path.toList = ['/']
  · simp [bare]
  · rw [if_neg (by simpa using bare), if_neg bare, List.reverse_cons, List.reverse_reverse]

/-- The segments in front of an appended name: a bare slash has none. -/
def front (path : String) : List String :=
  if path.toList = ['/'] then [] else (Path.rooted path).segments

/-- The segments of the path with one more name. -/
theorem segments_joinName {scheme path name : String} (web : isFile scheme = false)
    (segment : IsSegment name) :
    (Path.rooted (joinName scheme path name)).segments =
      front path ++ [written (isSpecial scheme) name] := by
  have whole : (written (isSpecial scheme) name).toList.splitOn '/' =
      [(written (isSpecial scheme) name).toList] :=
    List.splitOn_eq_singleton (slash_not_mem_written _ _)
  rw [Path.segments, toList_joinName web segment, front]
  by_cases bare : path.toList = ['/']
  · rw [if_pos bare, if_pos bare, List.singleton_append, List.splitOn_cons_eq_if_modifyHead, whole]
    simp
  · rw [if_neg bare, if_neg bare, Path.segments, List.append_assoc, List.singleton_append,
      List.splitOn_append_cons_self, whole]
    obtain ⟨first, rest, split⟩ := List.exists_cons_of_ne_nil (List.splitOn_ne_nil '/' path.toList)
    rw [split]
    simp

/-- An appended name leaves no bare slash. -/
theorem joinName_ne_slash {scheme path name : String} (web : isFile scheme = false)
    (segment : IsSegment name) : (joinName scheme path name).toList ≠ ['/'] := by
  intro bare
  have filled : (written (isSpecial scheme) name).toList ≠ [] := by
    rw [Ne, String.toList_eq_nil_iff]
    exact written_ne_empty segment
  have positive := List.length_pos_iff.mpr filled
  have size := congrArg List.length (@toList_joinName scheme path name web segment)
  rw [bare, List.length_append] at size
  split at size
  · rw [List.length_singleton] at size
    omega
  · rw [List.length_append, List.length_singleton] at size
    omega

/-- The segments of a path other than a bare slash with more names. -/
theorem segments_foldl_joinName {scheme : String} (web : isFile scheme = false) {names : List String}
    (segments : ∀ name ∈ names, IsSegment name) {path : String} (notBare : path.toList ≠ ['/']) :
    (Path.rooted (names.foldl (joinName scheme) path)).segments =
      (Path.rooted path).segments ++ names.map (written (isSpecial scheme)) := by
  induction names generalizing path with
  | nil => simp
  | cons name rest ih =>
      have segment := segments name (by simp)
      have others : ∀ other ∈ rest, IsSegment other :=
        fun other inside => segments other (by simp [inside])
      calc
        (Path.rooted ((name :: rest).foldl (joinName scheme) path)).segments
            = (Path.rooted (joinName scheme path name)).segments
                ++ rest.map (written (isSpecial scheme)) :=
          ih others (joinName_ne_slash web segment)
        _ = ((Path.rooted path).segments ++ [written (isSpecial scheme) name])
                ++ rest.map (written (isSpecial scheme)) := by
          rw [segments_joinName web segment, front, if_neg notBare]
        _ = (Path.rooted path).segments ++ (name :: rest).map (written (isSpecial scheme)) := by
          rw [List.map_cons, List.append_assoc, List.singleton_append]

/-- Names appended to a path are read back behind the names of the path. -/
theorem names_join_rooted {url : Url} {path : String} (rooted : url.path = .rooted path)
    (web : isFile url.scheme = false) {names : List String} (some' : names ≠ [])
    (segments : ∀ name ∈ names, IsSegment name) :
    (url.join names).names = (front (withoutSlash path)).map Percent.decodeText ++ names := by
  obtain ⟨name, rest, rfl⟩ := List.exists_cons_of_ne_nil some'
  have segment := segments name (by simp)
  have read : ∀ names : List String,
      (names.map (written (isSpecial url.scheme))).map Percent.decodeText = names := by
    intro names
    rw [List.map_map]
    exact (List.map_congr_left fun name _ => decodeText_written _ name).trans (List.map_id names)
  rw [Url.names, join, rooted]
  simp only [List.foldl_cons]
  rw [segments_foldl_joinName web (fun other inside => segments other (by simp [inside]))
    (joinName_ne_slash web segment), segments_joinName web segment]
  rw [List.map_append, List.map_append, read, List.append_assoc, List.map_singleton,
    decodeText_written, List.singleton_append]

/-- Names appended to a base are read back behind its own names. -/
theorem names_join {url : Url} (base : url.isBase) (web : isFile url.scheme = false) :
    ∃ own, ∀ names, names ≠ [] → (∀ name ∈ names, IsSegment name) →
      (url.join names).names = own ++ names := by
  cases shape : url.path with
  | opaquePath text => simp [isBase, shape] at base
  | rooted path => exact ⟨_, fun names some' segments => names_join_rooted shape web some' segments⟩

/-! ## Pairs -/

namespace Query

/-- A plus sign in a query stands for a space. -/
def spaced (byte : UInt8) : UInt8 := if byte = 0x2B then 0x20 else byte

/-- A form component with its spaces is percent encoded. -/
theorem map_spaced_component (text : String) :
    (component text).map spaced =
      Percent.encode (fun byte => byte != 0x20 && Percent.form byte) (Bytes.ofText text) := by
  have digits : ∀ number : Fin 16, spaced (Percent.digit number.val) = Percent.digit number.val := by
    decide
  have escapes : ∀ byte : UInt8, (Percent.escape byte).map spaced = Percent.escape byte := by
    intro byte
    have bound := byte.toNat_lt
    simp only [Percent.escape, List.map_cons, List.map_nil,
      digits ⟨byte.toNat / 16, by omega⟩, digits ⟨byte.toNat % 16, by omega⟩]
    rfl
  rw [component, Percent.encode, List.map_flatMap]
  congr 1
  funext byte
  by_cases space : byte = 0x20
  · subst space
    rfl
  · by_cases escaped : Percent.form byte = true
    · simp only [space, escaped, ↓reduceIte, escapes, Bool.and_self, bne,
        beq_eq_false_iff_ne.mpr space, Bool.not_false]
    · have plain : byte ≠ 0x2B := by
        rintro rfl
        exact escaped (by decide)
      simp [space, escaped, spaced, plain]

/-- A form component is read back. -/
theorem readComponent_component (text : String) : readComponent (component text) = text := by
  have decoded := map_spaced_component text
  have same : (component text).map (fun byte => if byte = 0x2B then 0x20 else byte) =
      (component text).map spaced := rfl
  rw [readComponent, same, decoded, Percent.decode_encode (by decide), Bytes.lossyText_ofText]

/-- What a form component does not escape is ASCII and separates nothing. -/
theorem of_not_form {byte : UInt8} (kept : Percent.form byte = false) :
    byte ≠ 0x26 ∧ byte ≠ 0x3D ∧ byte.toNat < 128 := by
  have all : ∀ value : Fin 256, Percent.form (UInt8.ofNat value) = false →
      UInt8.ofNat value ≠ 0x26 ∧ UInt8.ofNat value ≠ 0x3D ∧ (UInt8.ofNat value).toNat < 128 := by
    decide +kernel
  have found := all ⟨byte.toNat, byte.toNat_lt⟩
  rw [UInt8.ofNat_toNat] at found
  exact found kept

/-- The separators do not stand in a form component, which is ASCII. -/
theorem of_mem_component {text : String} {byte : UInt8} (inside : byte ∈ component text) :
    byte ≠ 0x26 ∧ byte ≠ 0x3D ∧ byte.toNat < 128 := by
  have digits : ∀ number : Fin 16, Percent.digit number.val ≠ 0x26 ∧
      Percent.digit number.val ≠ 0x3D ∧ (Percent.digit number.val).toNat < 128 := by decide
  rw [component, List.mem_flatMap] at inside
  obtain ⟨source, -, inside⟩ := inside
  have bound := source.toNat_lt
  split at inside
  · rw [List.mem_singleton] at inside
    subst inside
    decide
  split at inside
  · simp only [Percent.escape, List.mem_cons, List.not_mem_nil, or_false] at inside
    rcases inside with rfl | rfl | rfl
    · decide
    · exact digits ⟨source.toNat / 16, by omega⟩
    · exact digits ⟨source.toNat % 16, by omega⟩
  · next kept =>
      rw [List.mem_singleton] at inside
      subst inside
      exact of_not_form (Bool.eq_false_iff.mpr kept)

/-- A pair is read back. -/
theorem readPair_pair (name value : String) : readPair (pair name value) = (name, value) := by
  have inName : ∀ byte ∈ component name, (byte != 0x3D) = true := by
    intro byte inside
    simpa using (of_mem_component inside).2.1
  rw [readPair, pair, List.takeWhile_append_of_pos inName, List.dropWhile_append_of_pos inName]
  simp [readComponent_component]

/-- A pair is ASCII, and no ampersand stands in it. -/
theorem of_mem_pair {name value : String} {byte : UInt8} (inside : byte ∈ pair name value) :
    byte ≠ 0x26 ∧ byte.toNat < 128 := by
  rw [pair, List.mem_append, List.mem_cons] at inside
  rcases inside with inName | rfl | inValue
  · exact ⟨(of_mem_component inName).1, (of_mem_component inName).2.2⟩
  · decide
  · exact ⟨(of_mem_component inValue).1, (of_mem_component inValue).2.2⟩

/-- A pair that is appended to a query is read back behind its own pairs. -/
theorem read_append_pair (query name value : String) :
    read ((if query.isEmpty then "" else query ++ "&") ++ Bytes.asciiText (pair name value)) =
      read query ++ [(name, value)] := by
  have ascii : Bytes.ofText (Bytes.asciiText (pair name value)) = pair name value :=
    Bytes.ofText_asciiText fun byte inside => (of_mem_pair inside).2
  have alone : (pair name value).splitOn 0x26 = [pair name value] :=
    List.splitOn_eq_singleton fun inside => (of_mem_pair inside).1 rfl
  have filled : pair name value ≠ [] := by simp [pair]
  rw [read, read, Bytes.ofText_append, ascii]
  by_cases empty : query = ""
  · subst empty
    have nothing : Bytes.ofText "" = [] := by decide
    simp [nothing, alone, filled, readPair_pair]
  · have mark : Bytes.ofText "&" = [0x26] := by decide
    rw [if_neg (by simpa using empty), Bytes.ofText_append, mark, List.append_assoc,
      List.singleton_append, List.splitOn_append_cons_self, alone]
    simp [filled, readPair_pair]

/-- Pairs that are appended to a query are read back behind its own pairs. -/
theorem read_append (query : String) (pairs : List (String × String)) :
    read (append query pairs) = read query ++ pairs := by
  induction pairs generalizing query with
  | nil => simp [append]
  | cons first rest ih =>
      obtain ⟨name, value⟩ := first
      rw [append, List.foldl_cons, ← append, ih, read_append_pair, List.append_assoc,
        List.singleton_append]

end Query

/-- Pairs that are appended to a base are read back behind its own pairs. -/
theorem pairs_withPairs (url : Url) (pairs : List (String × String)) :
    (url.withPairs pairs).pairs = url.pairs ++ pairs := Query.read_append _ pairs

end RecordSink.Url
