import RecordSink.Config
import RecordSink.Credential
import RecordSink.Failure
import RecordSink.Resource

/-!
# The store's client

Each call is one exchange with the store, and its outcome is classified: a success, a failure
that may pass, or a failure that is final. No call is repeated here.
-/

namespace RecordSink

/-- A client for one bucket. -/
structure Client (W : Type) where
  link : Link W
  credentials : CredentialSource W
  endpoint : Url
  bucket : String

namespace Client

/-- The content type of every object that a sink writes. -/
def recordType : String := "application/octet-stream"

/-- The content type of a compose request. -/
def jsonType : String := "application/json; charset=UTF-8"

/-- The store composes at most so many objects in one call. -/
def maxSources : Nat := 32

/-- The endpoint of a written URL, to which segments can be appended. -/
def endpoint? (written : String) : Except ConfigError Url :=
  match Url.parse? written with
  | .error cause => .error (.invalid "endpoint" cause.message)
  | .ok url =>
      if url.isBase then .ok url
      else .error (.invalid "endpoint" ("'" ++ url.text ++ "' is not a base URL"))

variable {W : Type}

/-- A client for a bucket behind an endpoint. -/
def connect (link : Link W) (credentials : CredentialSource W) (endpoint bucket : String) :
    Except ConfigError (Client W) := do
  return { link, credentials, endpoint := ← endpoint? endpoint, bucket }

/-! ## Requests -/

/-- Where objects are uploaded. -/
def uploadUrl (client : Client W) (name : ObjectName) : Url :=
  (client.endpoint.join ["upload", "storage", "v1", "b", client.bucket, "o"]).withPairs
    [("uploadType", "media"), ("name", name.text)]

/-- Where an object is found. -/
def objectUrl (client : Client W) (name : ObjectName) : Url :=
  client.endpoint.join ["storage", "v1", "b", client.bucket, "o", name.text]

/-- Where the bucket is found. -/
def bucketUrl (client : Client W) : Url :=
  client.endpoint.join ["storage", "v1", "b", client.bucket]

/-- Where an object is composed. With a generation, the store composes only while the object has
that generation. -/
def composeUrl (client : Client W) (name : ObjectName) (generation : Option String) : Url :=
  let url := client.endpoint.join ["storage", "v1", "b", client.bucket, "o", name.text, "compose"]
  match generation with
  | none => url
  | some generation => url.withPairs [("ifGenerationMatch", generation)]

/-- The request to create or replace an object. -/
def uploadRequest (client : Client W) (name : ObjectName) (contentType : String) (body : Bytes) :
    Http.Request :=
  { method := .post, url := client.uploadUrl name, headers := [("Content-Type", contentType)]
    body := some body }

/-- The request to replace an object by the concatenation of others. -/
def composeRequest (client : Client W) (name : ObjectName) (sources : List ObjectName)
    (contentType : String) (generation : Option String) : Http.Request :=
  { method := .post, url := client.composeUrl name generation
    headers := [("Content-Type", jsonType)]
    body := some (ComposeRequest.mk contentType (sources.map (·.text))).toJson.render }

/-! ## Calls -/

/-- Sends a request with a credential obtained for it. -/
def exchange (client : Client W) (request : Http.Request) :
    StateM W (Except RemoteError Http.Response) := do
  match ← client.credentials.obtain with
  | .error cause => return .error (.fatal (.credential cause.message))
  | .ok credential =>
      match ← client.link.exchange (request.withHeaders credential.headers) with
      | .error cause => return .error ⟨cause.isTransient, .link cause.message⟩
      | .ok response =>
          if response.isSuccess then return .ok response
          else return .error (.ofStatus response.status response.text)

/-- The resource in the body of a response. -/
def readBody {α : Type} (read? : Bytes → Option α) : Except RemoteError Http.Response → Except RemoteError α
  | .error cause => .error cause
  | .ok response =>
      match read? response.body with
      | some value => .ok value
      | none => .error (.fatal (.decode "unexpected form"))

/-- Creates or replaces an object. -/
def upload (client : Client W) (name : ObjectName) (contentType : String) (body : Bytes) :
    StateM W (Except RemoteError ObjectMetadata) := do
  return readBody ObjectMetadata.read? (← client.exchange (client.uploadRequest name contentType body))

/-- Replaces an object by the concatenation of others. A number of sources that the store would
not take is refused without a request. -/
def compose (client : Client W) (name : ObjectName) (sources : List ObjectName)
    (contentType : String) (generation : Option String) :
    StateM W (Except RemoteError ObjectMetadata) := do
  if sources.length = 0 ∨ maxSources < sources.length then
    return .error (.fatal (.encode ("compose takes 1..=" ++ Numeral.decimal maxSources
      ++ " sources, got " ++ Numeral.decimal sources.length)))
  return readBody ObjectMetadata.read?
    (← client.exchange (client.composeRequest name sources contentType generation))

/-- Removes an object; a missing one is a final failure. -/
def delete (client : Client W) (name : ObjectName) : StateM W (Except RemoteError Unit) := do
  match ← client.exchange (.plain .delete (client.objectUrl name)) with
  | .error cause => return .error cause
  | .ok _ => return .ok ()

/-- What the store says about an object. -/
def object (client : Client W) (name : ObjectName) : StateM W (Except RemoteError ObjectMetadata) := do
  return readBody ObjectMetadata.read? (← client.exchange (.plain .get (client.objectUrl name)))

/-- What the store says about the bucket. -/
def bucketMetadata (client : Client W) : StateM W (Except RemoteError BucketMetadata) := do
  return readBody BucketMetadata.read? (← client.exchange (.plain .get client.bucketUrl))

end Client

end RecordSink
