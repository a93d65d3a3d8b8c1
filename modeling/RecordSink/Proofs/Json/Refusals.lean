import RecordSink.Emulator
import RecordSink.Proofs.Json.RoundTrip

/-!
# Refusals are no resources

A refusal is a record with one member that holds the status and the message. Whatever its status is, the
body names no object, so that a client that asked for a resource finds none in it.
-/

namespace RecordSink

/-- A decimal numeral is written with digits. -/
theorem Numeral.isDigit_decimal (value : Nat) :
    ∀ byte ∈ Bytes.ofText (decimal value), Json.isDigit byte = true := by
  have spelled : ∀ digit : Fin 10, ∀ byte ∈ String.utf8EncodeChar (digitChar digit),
      Json.isDigit byte = true := by decide +kernel
  intro byte inside
  simp only [Bytes.ofText, decimal, String.toByteArray_ofList, List.utf8Encode] at inside
  obtain ⟨char, among, inChar⟩ := List.mem_flatMap.mp (by simpa using inside)
  obtain ⟨digit, rfl⟩ := exists_digit among
  exact spelled digit byte inChar

namespace Json

/-! ## Reading a refusal -/

variable {digits more back : Bytes} {turns : Nat}

theorem digitRun_append (all : ∀ byte ∈ digits, isDigit byte = true) :
    digitRun (digits ++ 0x2C :: more) = (digits, 0x2C :: more) := by
  induction digits with
  | nil => rfl
  | cons digit rest ih =>
      have first := all digit (by simp)
      have later := ih fun byte inside => all byte (by simp [inside])
      simp only [digitRun, Prod.mk.injEq] at later ⊢
      simp [first, later]

theorem wholePart?_digits (all : ∀ byte ∈ digits, isDigit byte = true) {whole rest : Bytes}
    (read : wholePart? (digits ++ 0x2C :: more) = some (whole, rest)) : rest = 0x2C :: more := by
  rw [wholePart?, digitRun_append all] at read
  cases digits with
  | nil => cases read
  | cons digit others =>
      dsimp only at read
      split at read
      · cases read
      · cases read
        rfl

/-- What is read from digits in front of a comma ends there. -/
theorem number?_digits (all : ∀ byte ∈ digits, isDigit byte = true) {value : Json} {rest : Bytes}
    (read : number? (digits ++ 0x2C :: more) = some (value, rest)) : rest = 0x2C :: more := by
  have unsigned : ∀ tail, digits ++ 0x2C :: more ≠ 0x2D :: tail := by
    cases digits with
    | nil =>
        intro tail same
        cases same
    | cons digit others =>
        intro tail same
        cases same
        exact absurd (all 0x2D (by simp)) (by decide)
  rw [number?] at read
  · cases found : wholePart? (digits ++ 0x2C :: more) with
    | none => rw [found] at read; cases read
    | some parts =>
        obtain ⟨whole, left⟩ := parts
        obtain rfl := wholePart?_digits all found
        rw [found] at read
        cases read
        rfl
  · exact unsigned

theorem value?_digits (all : ∀ byte ∈ digits, isDigit byte = true) {value : Json} {rest : Bytes}
    (read : value? turns (digits ++ 0x2C :: more) = some (value, rest)) : rest = 0x2C :: more := by
  cases turns with
  | zero => rw [value?] at read; cases read
  | succ turns =>
      have solid : skipSpace (digits ++ 0x2C :: more) = digits ++ 0x2C :: more := by
        cases digits with
        | nil => exact skipSpace_cons rfl more
        | cons digit others =>
            apply skipSpace_cons
            have first := all digit (by simp)
            simp only [isDigit, Bool.and_eq_true, decide_eq_true_eq] at first
            simp only [isSpace, Bool.or_eq_false_iff, beq_eq_false_iff_ne]
            refine ⟨⟨⟨?_, ?_⟩, ?_⟩, ?_⟩ <;> rintro rfl <;> exact absurd first.1 (by decide)
      have opener : ∀ byte ∈ openers, ∀ tail, digits ++ 0x2C :: more ≠ byte :: tail := by
        intro byte opens tail same
        cases digits with
        | nil =>
            cases same
            exact absurd opens (by decide)
        | cons digit others =>
            cases same
            have none : ∀ byte ∈ openers, isDigit byte = false := by decide +kernel
            cases (none _ opens).symm.trans (all _ (by simp))
      rw [value?, solid] at read
      split at read
      case h_7 => exact number?_digits all read
      all_goals
        next same => exact absurd same (opener _ (by decide) _)

/-- What was read from members in braces is an object of these members. -/
theorem value?_members {name tail rest : Bytes} {value : Json}
    (read : value? turns (0x7B :: (literal name ++ tail)) = some (value, rest)) :
    ∃ fewer members, turns = fewer + 1 ∧ members? fewer (literal name ++ tail) = some (members, rest) ∧
      value = .object members := by
  cases turns with
  | zero => rw [value?] at read; cases read
  | succ turns =>
      have begins : skipSpace (literal name ++ tail) = literal name ++ tail := skipSpace_cons rfl _
      rw [value?, skipSpace_cons (show isSpace 0x7B = false from rfl)] at read
      split at read
      case h_6 same =>
        cases same
        rw [begins] at read
        split at read
        · next closed =>
          rw [literal, List.cons_append] at closed
          cases closed
        · cases found : members? turns (literal name ++ tail) with
          | none => rw [found] at read; cases read
          | some parts =>
              rw [found] at read
              cases read
              exact ⟨turns, parts.1, rfl, found, rfl⟩
      case h_7 other => exact absurd rfl (other _)
      all_goals
        next same => cases same

/-- What was read from members begins with the first one, and its value is read from what follows the
name. -/
theorem members?_cons {name input rest : Bytes} {members : List (Bytes × Json)}
    (read : members? turns (literal name ++ 0x3A :: input) = some (members, rest)) :
    ∃ fewer value after, turns = fewer + 1 ∧ value? fewer input = some (value, after) ∧
      (skipSpace after = 0x7D :: rest ∧ members = [(name, value)] ∨
        ∃ more others, skipSpace after = 0x2C :: more ∧ members? fewer more = some (others, rest) ∧
          members = (name, value) :: others) := by
  cases turns with
  | zero => rw [members?] at read; cases read
  | succ turns =>
      rw [members?, literal] at read
      simp only [List.cons_append, List.append_assoc, List.nil_append] at read
      rw [skipSpace_cons (show isSpace 0x22 = false from rfl)] at read
      simp only [stringBody?_literal, Option.bind_eq_bind, Option.bind_some] at read
      rw [skipSpace_cons (show isSpace 0x3A = false from rfl)] at read
      cases found : value? turns input with
      | none => simp [found] at read
      | some parts =>
          obtain ⟨value, after⟩ := parts
          simp only [found, Option.bind_some] at read
          refine ⟨turns, value, after, rfl, found, ?_⟩
          split at read
          · next closed =>
            cases read
            exact .inl ⟨closed, rfl⟩
          · next more goesOn =>
            cases further : members? turns more with
            | none => simp [further] at read
            | some parts =>
                obtain ⟨others, left⟩ := parts
                simp only [further, Option.bind_some, Option.pure_def, Option.some.injEq,
                  Prod.mk.injEq] at read
                obtain ⟨rfl, rfl⟩ := read
                exact .inr ⟨more, others, goesOn, further, rfl⟩
          · cases read

end Json

namespace Emulator

/-- The body of a refusal is read as a record with one member, if it is read at all. -/
theorem read?_refusal {status : Nat} {message : String} {json : Json}
    (read : Json.read? (refusal status message).body = some json) :
    ∃ value, json = .object [(Bytes.ofText "error", value)] := by
  let digits := Bytes.ofText (Numeral.decimal status)
  let told := Json.renderMembers [(Bytes.ofText "message", .text message)]
  let inner := 0x7B :: (Json.literal (Bytes.ofText "code") ++ 0x3A :: (digits ++ 0x2C :: (told ++ [0x7D])))
  have body : (refusal status message).body =
      0x7B :: (Json.literal (Bytes.ofText "error") ++ 0x3A :: (inner ++ [0x7D])) := by
    simp [refusal, Json.record, Json.text, Json.natural, Json.render, Json.renderMembers, inner, told,
      digits]
  have size : told.length + 4 < 2 * (refusal status message).body.length + 2 := by
    simp only [body, inner, List.length_cons, List.length_append]
    omega
  rw [Json.read?] at read
  cases found : Json.value? (2 * (refusal status message).body.length + 2)
      (refusal status message).body with
  | none => rw [found] at read; cases read
  | some parts =>
      obtain ⟨value, rest⟩ := parts
      rw [found] at read
      rw [body] at found
      obtain ⟨outer, members, turns, outerRead, rfl⟩ := Json.value?_members found
      obtain ⟨within, value, after, rfl, valueRead, ends⟩ := Json.members?_cons outerRead
      have opened : inner ++ [0x7D] = 0x7B :: (Json.literal (Bytes.ofText "code")
          ++ 0x3A :: (digits ++ 0x2C :: (told ++ 0x7D :: [0x7D]))) := by
        simp [inner]
      rw [opened] at valueRead
      obtain ⟨deeper, others, rfl, innerRead, rfl⟩ := Json.value?_members valueRead
      obtain ⟨last, number, left, rfl, numberRead, goesOn⟩ := Json.members?_cons innerRead
      obtain rfl := Json.value?_digits (Numeral.isDigit_decimal status) numberRead
      rw [Json.skipSpace_cons (show Json.isSpace 0x2C = false from rfl)] at goesOn
      rcases goesOn with ⟨closed, -⟩ | ⟨more, further, comma, furtherRead, -⟩
      · cases closed
      cases comma
      have enough : told.length < last := by
        rw [← body] at turns
        omega
      rw [Json.members?_render _ [] rfl last enough] at furtherRead
      cases furtherRead
      rw [Json.skipSpace_cons (show Json.isSpace 0x7D = false from rfl)] at ends
      rcases ends with ⟨-, rfl⟩ | ⟨more, further, comma, -⟩
      · simp only [Option.bind_eq_bind, Option.bind_some] at read
        split at read
        · cases read
          exact ⟨_, rfl⟩
        · cases read
      · cases comma

/-- The body of a refusal is no object resource. -/
theorem metadata_refusal (status : Nat) (message : String) :
    ObjectMetadata.read? (refusal status message).body = none := by
  cases read : Json.read? (refusal status message).body with
  | none => rw [ObjectMetadata.read?, read, Option.bind_none]
  | some json =>
      obtain ⟨value, rfl⟩ := read?_refusal read
      rw [ObjectMetadata.read?, read, Option.bind_some, ObjectMetadata.ofJson?, Json.fields?]
      have named := Json.namedMembers?_map [("error", value)]
      rw [List.map_cons, List.map_nil] at named
      rw [named]
      simp [ObjectMetadata.names, Json.requiredText?]

end Emulator

end RecordSink
