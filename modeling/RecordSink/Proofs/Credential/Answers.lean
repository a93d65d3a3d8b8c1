import RecordSink.Credential.MetadataServer

/-!
# Answers with tokens

What a metadata server makes of the outcome of its request. Main statement: it accepts a token if and only if the
answer reports success and its body is a document with a bearer token.
-/

namespace RecordSink

/-! ## Words in any letter case -/

namespace Text

/-- Each letter is the one of the word or its capital. -/
def Spells : List Char → List Char → Prop
  | [], [] => True
  | own :: others, letter :: letters => (own = letter ∨ own = letter.toUpper) ∧ Spells others letters
  | _, _ => False

theorem spells_self (word : List Char) : Spells word word := by
  induction word with
  | nil => trivial
  | cons letter letters ih => exact ⟨.inl rfl, ih⟩

theorem toNat_toLower (char : Char) :
    char.toLower.toNat = if 65 ≤ char.toNat ∧ char.toNat ≤ 90 then char.toNat + 32 else char.toNat := by
  delta Char.toLower
  split
  · next capital =>
    have inside : 65 ≤ char.toNat ∧ char.toNat ≤ 90 := capital
    have sum : (char.val + ('a'.val - 'A'.val)).toNat = (char.toNat + 32) % 4294967296 := UInt32.toNat_add ..
    rw [if_pos inside, Char.toNat_mk, sum]
    omega
  · next other => exact (if_neg other).symm

theorem toNat_toUpper (char : Char) :
    char.toUpper.toNat = if 97 ≤ char.toNat ∧ char.toNat ≤ 122 then char.toNat - 32 else char.toNat := by
  delta Char.toUpper
  split
  · next small =>
    have inside : 97 ≤ char.toNat ∧ char.toNat ≤ 122 := small
    -- the difference of the letters is negative, and wraps around
    have sum : (char.val + ('A'.val - 'a'.val)).toNat = (char.toNat + 4294967264) % 4294967296 :=
      UInt32.toNat_add ..
    rw [if_pos inside, Char.toNat_mk, sum]
    omega
  · next other => exact (if_neg other).symm

/-- A small letter comes of itself and of its capital. -/
theorem toLower_eq_iff {letter : Char} (small : 97 ≤ letter.toNat ∧ letter.toNat ≤ 122) (own : Char) :
    own.toLower = letter ↔ own = letter ∨ own = letter.toUpper := by
  rw [← Char.toNat_inj, ← Char.toNat_inj, ← Char.toNat_inj, toNat_toLower, toNat_toUpper, if_pos small]
  split <;> omega

theorem map_toLower_eq_iff {letters : List Char}
    (small : ∀ letter ∈ letters, 97 ≤ letter.toNat ∧ letter.toNat ≤ 122) (own : List Char) :
    own.map Char.toLower = letters ↔ Spells own letters := by
  induction own generalizing letters with
  | nil => cases letters <;> simp [Spells]
  | cons first others ih =>
      cases letters with
      | nil => simp [Spells]
      | cons letter letters =>
          obtain ⟨here, behind⟩ := List.forall_mem_cons.mp small
          rw [List.map_cons, List.cons.injEq, toLower_eq_iff here, ih behind, Spells]

/-- Equality with a small word up to the case of ASCII letters. -/
theorem sameIgnoringCase_iff {word : String}
    (small : ∀ letter ∈ word.toList, 97 ≤ letter.toNat ∧ letter.toNat ≤ 122) (text : String) :
    sameIgnoringCase text word = true ↔ Spells text.toList word.toList := by
  have own : word.toList.map Char.toLower = word.toList := (map_toLower_eq_iff small _).mpr (spells_self _)
  rw [sameIgnoringCase, asciiLower, asciiLower, own, beq_iff_eq, String.ofList_inj]
  exact map_toLower_eq_iff small _

end Text

namespace MetadataServer

/-! ## Answers -/

/-- The kind of a token is left open, or it is the one of bearer tokens. -/
def Bearing (kind : Option Json) : Prop :=
  kind = none ∨ kind = some .null ∨
    ∃ spelled text, kind = some (.string spelled) ∧ Bytes.text? spelled = some text ∧
      Text.Spells text.toList "bearer".toList

/-- A body is a document with a token: its text, its lifetime in seconds, and no other kind than that of bearer
tokens. -/
def Gives (body : Bytes) (token : Token) : Prop :=
  ∃ json text lifetime kind seconds, Json.read? body = some json ∧
    json.fields? ["access_token", "expires_in", "token_type"] = some [some text, some lifetime, kind] ∧
    Json.asText? text = some token.text ∧
    Json.asCounter? lifetime = some seconds ∧ token.lifetime = .ofSeconds seconds ∧ Bearing kind

theorem bearing_iff (kind : Option Json) :
    Bearing kind ↔ ∃ read, Json.optionalText? kind = some read ∧
      ∀ text, read = some text → Text.sameIgnoringCase text "bearer" = true := by
  have small : ∀ letter ∈ "bearer".toList, 97 ≤ letter.toNat ∧ letter.toNat ≤ 122 := by simp
  constructor
  · rintro (rfl | rfl | ⟨spelled, text, rfl, read, spells⟩)
    · exact ⟨none, rfl, nofun⟩
    · exact ⟨none, rfl, nofun⟩
    · refine ⟨some text, congrArg (Option.map some) read, ?_⟩
      rintro _ ⟨⟩
      exact (Text.sameIgnoringCase_iff small text).mpr spells
  · rintro ⟨read, readable, bearer⟩
    match kind with
    | none => exact .inl rfl
    | some .null => exact .inr (.inl rfl)
    | some (.string spelled) =>
        obtain ⟨text, read, rfl⟩ := Option.map_eq_some_iff.mp readable
        exact .inr (.inr ⟨spelled, text, rfl, read, (Text.sameIgnoringCase_iff small text).mp (bearer text rfl)⟩)
    | some (.bool _) | some (.number _) | some (.array _) | some (.object _) => cases readable

theorem gives_of_readToken {body : Bytes} {token : Token} (read : readToken body = .ok token) :
    Gives body token := by
  -- each member is read in turn, and all of them have to be readable
  unfold readToken at read
  split at read
  case h_2 => cases read
  rename_i json document
  split at read
  case h_2 => cases read
  rename_i text lifetime kind fields
  split at read
  case h_2 => cases read
  rename_i word spelled
  split at read
  case h_2 => cases read
  rename_i seconds counted
  split at read
  case h_2 => cases read
  rename_i stated readable
  obtain ⟨text, rfl, spelled⟩ := Option.bind_eq_some_iff.mp spelled
  obtain ⟨lifetime, rfl, counted⟩ := Option.bind_eq_some_iff.mp counted
  have bearer : (∀ text, stated = some text → Text.sameIgnoringCase text "bearer" = true) ∧
      { text := word, lifetime := .ofSeconds seconds } = token := by
    cases stated with
    | none => exact ⟨nofun, Except.ok.inj read⟩
    | some stated =>
        dsimp only at read
        split at read
        case isFalse => cases read
        rename_i same
        exact ⟨fun _ stated => Option.some.inj stated ▸ same, Except.ok.inj read⟩
  obtain ⟨bearer, rfl⟩ := bearer
  have bearing : Bearing kind := (bearing_iff kind).mpr ⟨stated, readable, bearer⟩
  exact ⟨json, text, lifetime, kind, seconds, document, fields, spelled, counted, rfl, bearing⟩

theorem readToken_of_gives {body : Bytes} {token : Token} (gives : Gives body token) :
    readToken body = .ok token := by
  obtain ⟨json, text, lifetime, kind, seconds, document, fields, spelled, counted, lasts, bearing⟩ := gives
  obtain ⟨read, readable, bearer⟩ := (bearing_iff kind).mp bearing
  have made : ({ text := token.text, lifetime := .ofSeconds seconds } : Token) = token := by rw [← lasts]
  simp only [readToken, document, fields, Json.requiredText?, Option.bind_some, spelled, counted, readable, made]
  cases read with
  | none => rfl
  | some kind => exact if_pos (bearer kind rfl)

/-- A body without a token is malformed. -/
theorem malformed_of_readToken {body : Bytes} {cause : CredentialError} (read : readToken body = .error cause) :
    ∃ reason, cause = .malformed reason := by
  unfold readToken at read
  repeat' split at read
  all_goals cases read
  all_goals exact ⟨_, rfl⟩

/-- A request was answered with success. -/
def Succeeds (outcome : Http.Outcome) : Prop :=
  ∃ response, outcome = .ok response ∧ 200 ≤ response.status ∧ response.status < 300

/-- A request was answered with success and with a token. -/
def Answers (outcome : Http.Outcome) (token : Token) : Prop :=
  ∃ response, outcome = .ok response ∧ 200 ≤ response.status ∧ response.status < 300 ∧ Gives response.body token

/-- What a server makes of the outcome of its request. -/
def accept : Http.Outcome → Except CredentialError Token
  | .error cause => .error (.unavailable cause.message)
  | .ok response =>
      if !response.isSuccess then
        .error (.unavailable ("metadata server returned HTTP " ++ Numeral.decimal response.status ++ ": "
          ++ response.text))
      else readToken response.body

theorem accept_of_succeeds {outcome : Http.Outcome} {response : Http.Response} (answered : outcome = .ok response)
    (low : 200 ≤ response.status) (high : response.status < 300) : accept outcome = readToken response.body := by
  have success : response.isSuccess = true := by
    rw [Http.Response.isSuccess, Http.isSuccess, decide_eq_true low, decide_eq_true high, Bool.and_self]
  rw [answered, accept, success]
  rfl

theorem accept_of_not_succeeds {outcome : Http.Outcome} (fails : ¬ Succeeds outcome) :
    ∃ reason, accept outcome = .error (.unavailable reason) := by
  cases outcome with
  | error cause => exact ⟨_, rfl⟩
  | ok response =>
      have failure : response.isSuccess = false := by
        rw [← Bool.not_eq_true, Http.Response.isSuccess, Http.isSuccess, Bool.and_eq_true, decide_eq_true_iff,
          decide_eq_true_iff]
        exact fun success => fails ⟨response, rfl, success⟩
      rw [accept, failure]
      exact ⟨_, rfl⟩

theorem accept_ok_iff (outcome : Http.Outcome) (token : Token) :
    accept outcome = .ok token ↔ Answers outcome token := by
  constructor
  · intro accepted
    by_cases succeeds : Succeeds outcome
    · obtain ⟨response, answered, low, high⟩ := succeeds
      rw [accept_of_succeeds answered low high] at accepted
      exact ⟨response, answered, low, high, gives_of_readToken accepted⟩
    · obtain ⟨reason, refused⟩ := accept_of_not_succeeds succeeds
      rw [refused] at accepted
      cases accepted
  · rintro ⟨response, answered, low, high, gives⟩
    rw [accept_of_succeeds answered low high]
    exact readToken_of_gives gives

theorem accept_unavailable_iff (outcome : Http.Outcome) :
    (∃ reason, accept outcome = .error (.unavailable reason)) ↔ ¬ Succeeds outcome := by
  constructor
  · rintro ⟨reason, refused⟩ ⟨response, answered, low, high⟩
    rw [accept_of_succeeds answered low high] at refused
    obtain ⟨other, same⟩ := malformed_of_readToken refused
    cases same
  · exact accept_of_not_succeeds

theorem accept_malformed_iff (outcome : Http.Outcome) :
    (∃ reason, accept outcome = .error (.malformed reason)) ↔
      Succeeds outcome ∧ ∀ token, ¬ Answers outcome token := by
  constructor
  · rintro ⟨reason, refused⟩
    constructor
    · apply Classical.byContradiction
      intro fails
      obtain ⟨other, same⟩ := accept_of_not_succeeds fails
      cases refused.symm.trans same
    · intro token answers
      cases refused.symm.trans ((accept_ok_iff outcome token).mpr answers)
  · rintro ⟨⟨response, answered, low, high⟩, without⟩
    rw [accept_of_succeeds answered low high]
    cases read : readToken response.body with
    | error cause =>
        obtain ⟨reason, rfl⟩ := malformed_of_readToken read
        exact ⟨reason, rfl⟩
    | ok token => exact absurd ⟨response, answered, low, high, gives_of_readToken read⟩ (without token)

end MetadataServer

end RecordSink
