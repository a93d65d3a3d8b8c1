import RecordSink.Resource

/-!
# Reading written JSON

A value without numbers is read back from its compact form, whatever follows it. The resources of
the store are such values, so they are read back too.
-/

namespace RecordSink

namespace Json

/-! ## Strings -/

/-- A short escape is read as the byte it means. -/
theorem stringBody?_short {letter byte : UInt8} (meant : shortEscape? letter = some byte)
    (short : letter ≠ 0x75) (tail : Bytes) :
    stringBody? ([0x5C, letter] ++ tail) =
      (stringBody? tail).map fun (spelled, after) => (byte :: spelled, after) := by
  rw [List.cons_append, List.singleton_append, stringBody?.eq_4]
  · rw [meant]
    cases stringBody? tail <;> rfl
  · intro a b c d rest same
    exact absurd same short

/-- The hexadecimal numeral of a control character has two digits, which are read back. -/
theorem hexUnit?_hex : ∀ value : Fin 32,
    Bytes.ofText (Numeral.hex 2 value) =
        [UInt8.ofNat (48 + value / 16), UInt8.ofNat (Numeral.digitChar (value % 16)).toNat] ∧
      hexUnit? 0x30 0x30 (UInt8.ofNat (48 + value / 16))
        (UInt8.ofNat (Numeral.digitChar (value % 16)).toNat) = some value.val := by
  decide +kernel

/-- A long escape is read as the control character it means. -/
theorem stringBody?_long {byte : UInt8} (low : byte < 0x20) (tail : Bytes) :
    stringBody? ([0x5C, 0x75, 0x30, 0x30] ++ Bytes.ofText (Numeral.hex 2 byte.toNat) ++ tail) =
      (stringBody? tail).map fun (spelled, after) => (byte :: spelled, after) := by
  have bound : byte.toNat < 32 := UInt8.lt_iff_toNat_lt.mp low
  obtain ⟨written, read⟩ := hexUnit?_hex ⟨byte.toNat, bound⟩
  have point : pointBytes byte.toNat = [byte] := by
    rw [pointBytes, if_pos (by omega), UInt8.ofNat_toNat]
  rw [written, stringBody?.eq_def]
  simp only [List.cons_append, List.nil_append, read, Option.bind_eq_bind, Option.bind_some]
  rw [if_neg (by omega), point]
  cases stringBody? tail <;> rfl

/-- A byte that stands for itself is read as itself. -/
theorem stringBody?_plain {byte : UInt8} (notMark : byte ≠ 0x22) (notEscape : byte ≠ 0x5C)
    (high : ¬ byte < 0x20) (tail : Bytes) :
    stringBody? ([byte] ++ tail) =
      (stringBody? tail).map fun (spelled, after) => (byte :: spelled, after) := by
  rw [List.singleton_append, stringBody?.eq_5]
  · rw [if_neg (by simp [high, notEscape])]
    cases stringBody? tail <;> rfl
  · exact fun same => notMark same
  · intro a b c d rest same
    exact absurd same notEscape
  · intro letter rest same
    exact absurd same notEscape

/-- A byte in its escaped form is read back. -/
theorem stringBody?_escapedByte (byte : UInt8) (tail : Bytes) :
    stringBody? (escapedByte byte ++ tail) =
      (stringBody? tail).map fun (spelled, after) => (byte :: spelled, after) := by
  rw [escapedByte]
  split
  · next same => rw [same]; exact stringBody?_short rfl (by decide) tail
  split
  · next same => rw [same]; exact stringBody?_short rfl (by decide) tail
  split
  · next same => rw [same]; exact stringBody?_short rfl (by decide) tail
  split
  · next same => rw [same]; exact stringBody?_short rfl (by decide) tail
  split
  · next same => rw [same]; exact stringBody?_short rfl (by decide) tail
  split
  · next same => rw [same]; exact stringBody?_short rfl (by decide) tail
  split
  · next same => rw [same]; exact stringBody?_short rfl (by decide) tail
  split
  · next low => exact stringBody?_long low tail
  · next notMark notEscape _ _ _ _ _ high => exact stringBody?_plain notMark notEscape high tail

/-- A string literal is read back. -/
theorem stringBody?_literal (spelled rest : Bytes) :
    stringBody? (spelled.flatMap escapedByte ++ 0x22 :: rest) = some (spelled, rest) := by
  induction spelled with
  | nil => rw [List.flatMap_nil, List.nil_append, stringBody?]
  | cons byte more ih =>
      rw [List.flatMap_cons, List.append_assoc, stringBody?_escapedByte, ih]
      rfl

/-! ## Values -/

mutual

/-- No number occurs in a value. -/
def numberFree : Json → Bool
  | .number _ => false
  | .array items => itemsNumberFree items
  | .object members => membersNumberFree members
  | _ => true

/-- No number occurs in the items of an array. -/
def itemsNumberFree : List Json → Bool
  | [] => true
  | item :: rest => numberFree item && itemsNumberFree rest

/-- No number occurs in the members of an object. -/
def membersNumberFree : List (Bytes × Json) → Bool
  | [] => true
  | (_, value) :: rest => numberFree value && membersNumberFree rest

end

/-- The bytes with which a value without numbers can begin. -/
def openers : Bytes := [0x6E, 0x74, 0x66, 0x22, 0x5B, 0x7B]

/-- A value without numbers begins with a byte that is no white space and closes nothing. -/
theorem render_begins {value : Json} (free : value.numberFree) :
    ∃ first more, value.render = first :: more ∧ first ∈ openers := by
  cases value with
  | null => exact ⟨_, _, by rw [render], by decide⟩
  | bool truth => cases truth <;> exact ⟨_, _, by rw [render], by decide⟩
  | number written => simp [numberFree] at free
  | string spelled => exact ⟨_, _, by rw [render, literal, List.cons_append], by decide⟩
  | array items => exact ⟨_, _, by rw [render, List.cons_append], by decide⟩
  | object members => exact ⟨_, _, by rw [render, List.cons_append], by decide⟩

theorem skipSpace_cons {first : UInt8} (solid : isSpace first = false) (rest : Bytes) :
    skipSpace (first :: rest) = first :: rest := by
  rw [skipSpace, List.dropWhile_cons_of_neg (by simp [solid])]

theorem skipSpace_opener {first : UInt8} (opens : first ∈ openers) (rest : Bytes) :
    skipSpace (first :: rest) = first :: rest := by
  have all : ∀ byte ∈ openers, isSpace byte = false := by decide +kernel
  exact skipSpace_cons (all first opens) rest

/-- Items without numbers begin with a byte that is no white space and closes nothing. -/
theorem renderItems_begins {item : Json} (free : item.numberFree) (others : List Json) :
    ∃ first more, renderItems (item :: others) = first :: more ∧ first ∈ openers := by
  obtain ⟨first, more, begins, opens⟩ := render_begins free
  cases others with
  | nil => exact ⟨first, more, by rw [renderItems, begins], opens⟩
  | cons next rest => exact ⟨first, _, by rw [renderItems, begins, List.cons_append], opens⟩

/-- Members begin with a quotation mark. -/
theorem renderMembers_begins (member : Bytes × Json) (others : List (Bytes × Json)) :
    ∃ more, renderMembers (member :: others) = 0x22 :: more := by
  obtain ⟨name, value⟩ := member
  cases others with
  | nil => exact ⟨_, by rw [renderMembers, literal, List.cons_append, List.cons_append]⟩
  | cons next rest =>
      exact ⟨_, by rw [renderMembers, literal, List.cons_append, List.cons_append, List.cons_append]⟩

mutual

/-- A value without numbers is read back where there are as many turns as it has bytes. -/
theorem value?_render (value : Json) (free : value.numberFree) (turns : Nat)
    (enough : value.render.length ≤ turns) (rest : Bytes) :
    value? turns (value.render ++ rest) = some (value, rest) := by
  obtain ⟨first, more, begins, opens⟩ := render_begins free
  have skip : skipSpace (value.render ++ rest) = value.render ++ rest := by
    rw [begins, List.cons_append, skipSpace_opener opens]
  obtain ⟨turns, rfl⟩ : ∃ fewer, turns = fewer + 1 := by
    refine ⟨turns - 1, ?_⟩
    rw [begins, List.length_cons] at enough
    omega
  rw [value?, skip]
  cases value with
  | null => rfl
  | bool truth => cases truth <;> rfl
  | number written => simp [numberFree] at free
  | string spelled =>
      simp only [render, literal, List.cons_append, List.append_assoc, List.nil_append,
        stringBody?_literal]
      rfl
  | array items =>
      simp only [render, List.cons_append, List.append_assoc, List.nil_append]
      cases items with
      | nil => rfl
      | cons item others =>
          rw [render, List.length_append, List.length_cons, List.length_singleton] at enough
          have free : itemsNumberFree (item :: others) = true := by simpa [numberFree] using free
          have first : item.numberFree = true := by
            simp only [itemsNumberFree, Bool.and_eq_true] at free
            exact free.1
          obtain ⟨byte, tail, starts, opens⟩ := renderItems_begins first others
          have read := items?_render item others free turns (by omega) rest
          rw [starts, List.cons_append] at read ⊢
          rw [skipSpace_opener opens]
          have notClosing : byte ≠ 0x5D := by
            rintro rfl
            exact absurd opens (by decide)
          split
          · next same => cases same; exact absurd rfl notClosing
          · rw [read]
            rfl
  | object members =>
      simp only [render, List.cons_append, List.append_assoc, List.nil_append]
      cases members with
      | nil => rfl
      | cons member others =>
          rw [render, List.length_append, List.length_cons, List.length_singleton] at enough
          have free : membersNumberFree (member :: others) = true := by simpa [numberFree] using free
          obtain ⟨tail, starts⟩ := renderMembers_begins member others
          have read := members?_render member others free turns (by omega) rest
          rw [starts, List.cons_append] at read ⊢
          rw [skipSpace_opener (by decide)]
          split
          · next same => cases same
          · rw [read]
            rfl
  termination_by turns

/-- The items of an array without numbers are read back. -/
theorem items?_render (item : Json) (others : List Json) (free : itemsNumberFree (item :: others))
    (turns : Nat) (enough : (renderItems (item :: others)).length < turns) (rest : Bytes) :
    items? turns (renderItems (item :: others) ++ 0x5D :: rest) = some (item :: others, rest) := by
  obtain ⟨turns, rfl⟩ : ∃ fewer, turns = fewer + 1 := ⟨turns - 1, by omega⟩
  rw [itemsNumberFree, Bool.and_eq_true] at free
  cases others with
  | nil =>
      rw [renderItems] at enough ⊢
      rw [items?, value?_render item free.1 turns (by omega)]
      rfl
  | cons next more =>
      rw [renderItems, List.length_append, List.length_cons] at enough
      rw [renderItems, List.append_assoc, List.cons_append, items?,
        value?_render item free.1 turns (by omega)]
      have read := items?_render next more free.2 turns (by omega) rest
      simp only [Option.bind_eq_bind, Option.bind_some]
      rw [skipSpace_cons (show isSpace 0x2C = false from rfl)]
      simp only [read, Option.bind_some]
      rfl
  termination_by turns

/-- The members of an object without numbers are read back. -/
theorem members?_render (member : Bytes × Json) (others : List (Bytes × Json))
    (free : membersNumberFree (member :: others)) (turns : Nat)
    (enough : (renderMembers (member :: others)).length < turns) (rest : Bytes) :
    members? turns (renderMembers (member :: others) ++ 0x7D :: rest) =
      some (member :: others, rest) := by
  obtain ⟨name, value⟩ := member
  obtain ⟨turns, rfl⟩ : ∃ fewer, turns = fewer + 1 := ⟨turns - 1, by omega⟩
  rw [membersNumberFree, Bool.and_eq_true] at free
  cases others with
  | nil =>
      rw [renderMembers, List.length_append, List.length_cons] at enough
      rw [renderMembers, literal, members?]
      simp only [List.cons_append, List.append_assoc, List.nil_append]
      rw [skipSpace_cons (show isSpace 0x22 = false from rfl)]
      simp only [stringBody?_literal, Option.bind_eq_bind, Option.bind_some]
      rw [skipSpace_cons (show isSpace 0x3A = false from rfl)]
      simp only [value?_render value free.1 turns (by omega), Option.bind_some]
      rfl
  | cons next more =>
      rw [renderMembers, List.length_append, List.length_append, List.length_cons,
        List.length_cons] at enough
      have read := members?_render next more free.2 turns (by omega) rest
      rw [renderMembers, literal, members?]
      simp only [List.cons_append, List.append_assoc, List.nil_append]
      rw [skipSpace_cons (show isSpace 0x22 = false from rfl)]
      simp only [stringBody?_literal, Option.bind_eq_bind, Option.bind_some]
      rw [skipSpace_cons (show isSpace 0x3A = false from rfl)]
      simp only [value?_render value free.1 turns (by omega), Option.bind_some]
      rw [skipSpace_cons (show isSpace 0x2C = false from rfl)]
      simp only [read, Option.bind_some]
      rfl
  termination_by turns

end

/-- A document that is a written value without numbers is read back. -/
theorem read?_render {value : Json} (free : value.numberFree) : read? value.render = some value := by
  have read := value?_render value free (2 * value.render.length + 2) (by omega) []
  rw [List.append_nil] at read
  rw [read?, read]
  rfl

/-- A text is read back. -/
theorem asText?_text (value : String) : asText? (.text value) = some value := by
  rw [text, asText?, Bytes.text?_ofText]

/-- A text that may be missing is read back. -/
theorem optionalText?_optionalText (value : Option String) :
    optionalText? (some (optionalText value)) = some value := by
  cases value with
  | none => rfl
  | some value =>
      rw [optionalText, text, optionalText?]
      · rw [← text, asText?_text]
        rfl
      · simp

/-- The names of the members of a record are texts. -/
theorem namedMembers?_map (members : List (String × Json)) :
    namedMembers? (members.map fun (name, value) => (Bytes.ofText name, value)) = some members := by
  induction members with
  | nil => rfl
  | cons member rest ih =>
      rw [namedMembers?] at ih ⊢
      rw [List.map_cons, List.mapM_cons, ih]
      simp

end Json

/-! ## Resources -/

/-- What the store says about an object is read back. -/
theorem ObjectMetadata.read?_render (object : ObjectMetadata) :
    read? object.toJson.render = some object := by
  have free : object.toJson.numberFree := by
    obtain ⟨name, bucket, size, contentType, generation⟩ := object
    cases contentType <;> cases generation <;> rfl
  rw [read?, Json.read?_render free, Option.bind_some, ofJson?, toJson, Json.record, Json.fields?,
    Json.namedMembers?_map]
  simp [names, Json.requiredText?, Json.asText?_text, Json.optionalText?_optionalText]

namespace ComposeRequest

/-- The sources of a request hold no number. -/
theorem itemsNumberFree_sources (sources : List String) :
    Json.itemsNumberFree (sources.map fun name => .record [("name", .text name)]) = true := by
  induction sources with
  | nil => rfl
  | cons name rest ih =>
      rw [List.map_cons, Json.itemsNumberFree, ih]
      rfl

/-- A resource with a single text is read back. -/
theorem single?_record (name value : String) :
    single? name (.record [(name, .text value)]) = some value := by
  rw [single?, Json.record, Json.fields?, Json.namedMembers?_map]
  simp [Json.requiredText?, Json.asText?_text]

/-- The names of the sources are read back. -/
theorem mapM_single? (sources : List String) :
    (sources.map fun name => Json.record [("name", .text name)]).mapM (single? "name") = some sources := by
  induction sources with
  | nil => rfl
  | cons name rest ih =>
      rw [List.map_cons, List.mapM_cons, single?_record, ih]
      rfl

/-- What the store is asked to compose is read back. -/
theorem read?_render (request : ComposeRequest) : read? request.toJson.render = some request := by
  have free : request.toJson.numberFree := by
    simp only [toJson, Json.record, List.map_cons, List.map_nil, Json.numberFree,
      Json.membersNumberFree, Bool.and_true, Bool.and_eq_true]
    exact ⟨rfl, itemsNumberFree_sources request.sources⟩
  rw [read?, Json.read?_render free, Option.bind_some, ofJson?, toJson, Json.record, Json.fields?,
    Json.namedMembers?_map]
  have sources := mapM_single? request.sources
  rw [List.mapM_map] at sources
  simp [single?_record, sources, Json.asItems?]

end ComposeRequest

end RecordSink
