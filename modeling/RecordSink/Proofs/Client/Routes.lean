import RecordSink.Client
import RecordSink.Emulator.Route
import RecordSink.Proofs.Url.Appending

/-!
# The routes of a client's requests

A request of a client is routed to the operation it stands for, or to none: the path of an endpoint
can hide the interface from the store. No request is taken for another one.
-/

namespace RecordSink

open Url

/-! ## Names and pairs -/

/-- Names leave the query of a base as it is. -/
theorem Url.pairs_join (url : Url) (names : List String) : (url.join names).pairs = url.pairs := by
  rw [join]
  split <;> rfl

/-- A break is a control character. -/
theorem Url.isBreak_eq_false {char : Char} (printable : Text.isControl char = false) :
    isBreak char = false := by
  rw [← Bool.not_eq_true]
  intro breaks
  simp only [isBreak, Bool.or_eq_true, beq_iff_eq] at breaks
  rcases breaks with (rfl | rfl) | rfl <;> exact absurd printable (by decide)

/-- A text without control characters passes the check for them. -/
theorem ObjectName.isControl_eq_false {text : String} (passed : checkCharacters text = .ok ()) :
    ∀ char ∈ text.toList, Text.isControl char = false := by
  rw [checkCharacters] at passed
  cases found : text.toList.find? Text.isControl with
  | some char => rw [found] at passed; cases passed
  | none => simpa [List.find?_eq_none] using found

/-- An object name is one segment of a path. -/
theorem ObjectName.isSegment (name : ObjectName) : IsSegment name.text := by
  obtain ⟨text, accepted⟩ := name
  rw [check] at accepted
  by_cases empty : text = ""
  · rw [if_pos empty] at accepted
    cases accepted
  rw [if_neg empty] at accepted
  by_cases long : maxSize < text.utf8ByteSize
  · rw [if_pos long] at accepted
    cases accepted
  rw [if_neg long] at accepted
  by_cases relative : isRelative text = true
  · rw [if_pos relative] at accepted
    cases accepted
  rw [if_neg relative] at accepted
  by_cases reserved : storePrefix.toList.isPrefixOf text.toList = true
  · rw [if_pos reserved] at accepted
    cases accepted
  rw [if_neg reserved] at accepted
  have printable := isControl_eq_false accepted
  simp only [isRelative, Bool.or_eq_true, beq_iff_eq, not_or] at relative
  exact ⟨empty, relative.1, relative.2, fun char inside => isBreak_eq_false (printable char inside)⟩

namespace Emulator.Route

/-! ## Where the interface is found -/

/-- The interface is found in what stands in front, or where it was appended. -/
theorem interface?_append {tail : List String} (own : tail.head? ≠ some "v1") (before : String)
    (front : List String) :
    (∃ upload rest, interface? before (front ++ tail) = some (upload, rest ++ tail)) ∨
      ∃ last, interface? before (front ++ tail) = interface? last tail := by
  induction front generalizing before with
  | nil => exact .inr ⟨before, rfl⟩
  | cons first rest ih =>
      rw [List.cons_append, interface?]
      split
      · next found =>
          left
          cases rest with
          | nil => exact absurd found.2 own
          | cons second more => exact ⟨before == "upload", more, rfl⟩
      · exact ih first

/-- A path that goes on too long behind the interface is no route. -/
theorem ofRequest_of_long {method : Http.Method} {url : Url} {upload : Bool} {rest : List String}
    (found : interface? "" url.names = some (upload, rest)) (long : 6 ≤ rest.length) :
    ofRequest method url = .unknown := by
  unfold ofRequest
  rw [found]
  split
  case h_6 => rfl
  all_goals
    next same =>
      cases same
      exact absurd long (by simp)

end Emulator.Route

namespace Client

open Emulator

variable {W : Type}

/-- A client whose names are read back from the URLs that it makes of them. -/
structure IsAddressed (client : Client W) : Prop where
  base : client.endpoint.isBase
  web : isFile client.endpoint.scheme = false
  bucket : IsSegment client.bucket

/-- The generation that a compose of the client asks for: one in the query of the endpoint comes
first. -/
def asked (client : Client W) (generation : Option String) : Option String :=
  (Route.generation? client.endpoint.pairs).or generation

/-- The words of the interface are segments. -/
theorem isSegment_words : ∀ word ∈ ["upload", "storage", "v1", "b", "o", "compose"], IsSegment word := by
  intro word inside
  simp only [List.mem_cons, List.not_mem_nil, or_false] at inside
  rcases inside with rfl | rfl | rfl | rfl | rfl | rfl <;> exact isSegment_of_check (by decide)

/-! ## The URLs of requests -/

/-- Names that a client appends to its endpoint are read back behind some others. -/
def Appends (client : Client W) (own : List String) : Prop :=
  ∀ names, names ≠ [] → (∀ name ∈ names, IsSegment name) →
    (client.endpoint.join names).names = own ++ names

section

variable {client : Client W} {own : List String}

theorem Appends.names_uploadUrl (appends : client.Appends own) (addressed : client.IsAddressed)
    (name : ObjectName) : (client.uploadUrl name).names =
      own ++ ["upload", "storage", "v1", "b", client.bucket, "o"] := by
  have words := isSegment_words
  apply appends _ (by simp)
  simp only [List.forall_mem_cons]
  exact ⟨words _ (by simp), words _ (by simp), words _ (by simp), words _ (by simp),
    addressed.bucket, words _ (by simp), fun _ none => nomatch none⟩

theorem Appends.names_composeUrl (appends : client.Appends own) (addressed : client.IsAddressed)
    (name : ObjectName) (generation : Option String) : (client.composeUrl name generation).names =
      own ++ ["storage", "v1", "b", client.bucket, "o", name.text, "compose"] := by
  have words := isSegment_words
  have segments : ∀ word ∈ ["storage", "v1", "b", client.bucket, "o", name.text, "compose"],
      IsSegment word := by
    simp only [List.forall_mem_cons]
    exact ⟨words _ (by simp), words _ (by simp), words _ (by simp), addressed.bucket,
      words _ (by simp), name.isSegment, words _ (by simp), fun _ none => nomatch none⟩
  have names := appends _ (by simp) segments
  cases generation <;> exact names

theorem Appends.names_objectUrl (appends : client.Appends own) (addressed : client.IsAddressed)
    (name : ObjectName) : (client.objectUrl name).names =
      own ++ ["storage", "v1", "b", client.bucket, "o", name.text] := by
  have words := isSegment_words
  apply appends _ (by simp)
  simp only [List.forall_mem_cons]
  exact ⟨words _ (by simp), words _ (by simp), words _ (by simp), addressed.bucket,
    words _ (by simp), name.isSegment, fun _ none => nomatch none⟩

theorem pairs_uploadUrl (client : Client W) (name : ObjectName) : (client.uploadUrl name).pairs =
    client.endpoint.pairs ++ [("uploadType", "media"), ("name", name.text)] := by
  rw [uploadUrl, pairs_withPairs, pairs_join]

theorem generation?_composeUrl (client : Client W) (name : ObjectName) (generation : Option String) :
    Route.generation? (client.composeUrl name generation).pairs = client.asked generation := by
  cases generation with
  | none => rw [composeUrl, pairs_join, asked, Option.or_none]
  | some generation =>
      rw [composeUrl, pairs_withPairs, pairs_join, asked, Route.generation?, List.find?_append]
      cases found : client.endpoint.pairs.find? (·.1 == "ifGenerationMatch") <;>
        simp [Route.generation?, found]

end

/-! ## Routes -/

/-- Either every upload is routed as such, or none is routed. -/
theorem ofRequest_uploadUrl {client : Client W} (addressed : client.IsAddressed) :
    (∀ name, Route.ofRequest .post (client.uploadUrl name) = .upload client.bucket (some name.text)) ∨
      ∀ name, Route.ofRequest .post (client.uploadUrl name) = .unknown := by
  obtain ⟨own, joined⟩ := names_join addressed.base addressed.web
  have path := Appends.names_uploadUrl joined addressed
  rcases @Route.interface?_append ["upload", "storage", "v1", "b", client.bucket, "o"]
    (by simp) "" own with ⟨upload, rest, hidden⟩ | ⟨last, found⟩
  · right
    intro name
    rw [← path name] at hidden
    exact Route.ofRequest_of_long hidden (by simp)
  · left
    intro name
    rw [← path name] at found
    simp [Route.ofRequest, found, Route.interface?, pairs_uploadUrl, Route.uploadName?, Route.lastValue?]

/-- A compose is routed as such, or not at all. -/
theorem ofRequest_composeUrl {client : Client W} (addressed : client.IsAddressed) (name : ObjectName)
    (generation : Option String) :
    Route.ofRequest .post (client.composeUrl name generation) =
        .compose client.bucket name.text (client.asked generation) ∨
      Route.ofRequest .post (client.composeUrl name generation) = .unknown := by
  obtain ⟨own, joined⟩ := names_join addressed.base addressed.web
  have path := Appends.names_composeUrl joined addressed name generation
  rcases @Route.interface?_append ["storage", "v1", "b", client.bucket, "o", name.text, "compose"]
    (by simp) "" own with ⟨upload, rest, hidden⟩ | ⟨last, found⟩
  · right
    rw [← path] at hidden
    exact Route.ofRequest_of_long hidden (by simp)
  · rw [← path] at found
    cases marked : last == "upload" with
    | true => exact .inr (by simp [Route.ofRequest, found, Route.interface?, marked])
    | false =>
        exact .inl (by simp [Route.ofRequest, found, Route.interface?, generation?_composeUrl, marked])

/-- A request for an object is routed as such, or not at all. -/
theorem ofRequest_objectUrl {client : Client W} (addressed : client.IsAddressed) (name : ObjectName) :
    (Route.ofRequest .delete (client.objectUrl name) = .delete client.bucket name.text ∨
        Route.ofRequest .delete (client.objectUrl name) = .unknown) ∧
      (Route.ofRequest .get (client.objectUrl name) = .getObject client.bucket name.text ∨
        Route.ofRequest .get (client.objectUrl name) = .unknown) := by
  obtain ⟨own, joined⟩ := names_join addressed.base addressed.web
  have path := Appends.names_objectUrl joined addressed name
  rcases @Route.interface?_append ["storage", "v1", "b", client.bucket, "o", name.text]
    (by simp) "" own with ⟨upload, rest, hidden⟩ | ⟨last, found⟩
  · rw [← path] at hidden
    exact ⟨.inr (Route.ofRequest_of_long hidden (by simp)), .inr (Route.ofRequest_of_long hidden (by simp))⟩
  · rw [← path] at found
    cases marked : last == "upload" with
    | true =>
        constructor
        · exact .inr (by simp [Route.ofRequest, found, Route.interface?, marked])
        · exact .inr (by simp [Route.ofRequest, found, Route.interface?, marked])
    | false =>
        constructor
        · exact .inl (by simp [Route.ofRequest, found, Route.interface?, marked])
        · exact .inl (by simp [Route.ofRequest, found, Route.interface?, marked])

/-- Every request of a client is routed to the operation that it stands for. -/
structure Reaches (client : Client W) : Prop where
  upload : ∀ name,
    Route.ofRequest .post (client.uploadUrl name) = .upload client.bucket (some name.text)
  compose : ∀ name generation, Route.ofRequest .post (client.composeUrl name generation) =
    .compose client.bucket name.text generation
  delete : ∀ name,
    Route.ofRequest .delete (client.objectUrl name) = .delete client.bucket name.text
  object : ∀ name,
    Route.ofRequest .get (client.objectUrl name) = .getObject client.bucket name.text

/-- Behind an endpoint without a path and a query nothing hides the interface. -/
theorem reaches_of_bare {client : Client W} (addressed : client.IsAddressed)
    (root : client.endpoint.path = .rooted "/") (bare : client.endpoint.query = none) : client.Reaches := by
  have appends : client.Appends [] := by
    intro names some' segments
    have nothing : (front (withoutSlash "/")).map Percent.decodeText = [] := by decide
    rw [names_join_rooted root addressed.web some' segments, nothing]
  have pairs : client.endpoint.pairs = [] := by
    rw [Url.pairs, bare]
    decide
  have asked : ∀ generation, client.asked generation = generation := by
    intro generation
    rw [Client.asked, pairs]
    rfl
  constructor
  · intro name
    simp [Route.ofRequest, appends.names_uploadUrl addressed, Route.interface?, pairs_uploadUrl,
      Route.uploadName?, Route.lastValue?]
  · intro name generation
    simp [Route.ofRequest, appends.names_composeUrl addressed, Route.interface?, generation?_composeUrl,
      asked]
  · intro name
    simp [Route.ofRequest, appends.names_objectUrl addressed, Route.interface?]
  · intro name
    simp [Route.ofRequest, appends.names_objectUrl addressed, Route.interface?]

end Client

end RecordSink
