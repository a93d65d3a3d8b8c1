import RecordSink.Credential
import RecordSink.Duration
import RecordSink.Json.Record
import RecordSink.Json.Reader
import RecordSink.Text
import RecordSink.Url.Reader

/-!
# Tokens from a metadata server

A source that asks a server for a token and keeps it until shortly before it expires. A failed
request leaves the kept token as it is.
-/

namespace RecordSink

/-- A credential that is kept until a moment. -/
structure KeptCredential where
  credential : Credential
  /-- From this moment on a new one is asked for. -/
  refreshAt : Duration
  deriving DecidableEq, Repr

/-- A metadata server and the place where a world keeps its last token. -/
structure MetadataServer (W : Type) where
  link : Link W
  tokenUrl : Url
  now : StateM W Duration
  kept : StateM W (Option KeptCredential)
  keep : KeptCredential → StateM W Unit

namespace MetadataServer

/-- Where the tokens of a machine's own account are found. -/
def standardUrl : String :=
  "http://metadata.google.internal/computeMetadata/v1/instance/service-accounts/default/token"

/-- The right to read and write objects. -/
def readWriteScope : String := "https://www.googleapis.com/auth/devstorage.read_write"

/-- A token is no longer used when less than this is left of its life. -/
def margin : Duration := .ofSeconds 60

/-- The URL of a token with the wanted rights. -/
def scopedUrl (written : String) : Except CredentialError Url :=
  match Url.parse? written with
  | .error cause => .error (.unavailable ("bad token URL: " ++ cause.message))
  | .ok url => .ok (url.withPairs [("scopes", readWriteScope)])

/-- A token as the server hands it out. -/
structure Token where
  text : String
  lifetime : Duration
  deriving DecidableEq, Repr

/-- The token of a response body. Where the kind of token is stated, it has to be a bearer token. -/
def readToken (body : Bytes) : Except CredentialError Token := do
  let some json := Json.read? body | throw (.malformed "not a JSON document")
  let some [text, lifetime, kind] := json.fields? ["access_token", "expires_in", "token_type"]
    | throw (.malformed "not a token")
  let some text := Json.requiredText? text | throw (.malformed "no access token")
  let some seconds := lifetime.bind Json.asCounter? | throw (.malformed "no lifetime")
  let some kind := Json.optionalText? kind | throw (.malformed "token type is no text")
  match kind with
  | none => return { text, lifetime := .ofSeconds seconds }
  | some kind =>
      if Text.sameIgnoringCase kind "bearer" then return { text, lifetime := .ofSeconds seconds }
      else throw (.malformed ("unsupported token type '" ++ kind ++ "'"))

variable {W : Type}

/-- Asks the server for a token and keeps it. -/
def fetch (server : MetadataServer W) : StateM W (Except CredentialError Credential) := do
  let request := (Http.Request.plain .get server.tokenUrl).withHeaders [("Metadata-Flavor", "Google")]
  match ← server.link.exchange request with
  | .error cause => return .error (.unavailable cause.message)
  | .ok response =>
      if !response.isSuccess then
        return .error (.unavailable ("metadata server returned HTTP "
          ++ Numeral.decimal response.status ++ ": " ++ response.text))
      match readToken response.body with
      | .error cause => return .error cause
      | .ok token =>
          let credential := Credential.bearer token.text
          let now ← server.now
          server.keep { credential, refreshAt := now + (token.lifetime - margin) }
          return .ok credential

/-- The kept credential while it is fresh, else a new one. -/
def obtain (server : MetadataServer W) : StateM W (Except CredentialError Credential) := do
  let now ← server.now
  match ← server.kept with
  | some kept => if now < kept.refreshAt then return .ok kept.credential else server.fetch
  | none => server.fetch

/-- The server as a source. -/
def source (server : MetadataServer W) : CredentialSource W := ⟨server.obtain⟩

end MetadataServer

end RecordSink
