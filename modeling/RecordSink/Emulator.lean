import RecordSink.Credential
import RecordSink.Emulator.Faults
import RecordSink.Emulator.Objects
import RecordSink.Emulator.Route

/-!
# An emulated store

The interface of the store over a map of objects, with faults on demand. A request is recorded,
checked for its token, routed, and then settled: applied, refused, or applied with its response
lost. `settle` takes the fault as given, so that every schedule of faults can be played.
-/

namespace RecordSink

/-- Counters of an emulated store. -/
structure Emulator.Stats where
  requests : Nat
  uploads : Nat
  composes : Nat
  deletes : Nat
  bucketReads : Nat
  unauthorized : Nat
  notFound : Nat
  injectedRetriable : Nat
  injectedFatal : Nat
  lostResponses : Nat
  deriving DecidableEq, Repr, Inhabited

/-- A request as the store saw it. -/
structure Emulator.Seen where
  request : Http.Request
  operation : Option Operation
  object : Option String
  deriving Repr

/-- An emulated store. -/
structure Emulator where
  buckets : List String
  objects : Emulator.Objects
  requiredToken : Option String
  script : Emulator.Script
  rates : Emulator.FaultRates
  random : Random
  /-- The generation of the next write. -/
  nextGeneration : Nat
  stats : Emulator.Stats
  /-- The requests seen, the last one first. -/
  seen : List Emulator.Seen
  deriving Repr

namespace Emulator

/-- A store without buckets and without faults. -/
def empty : Emulator :=
  { buckets := [], objects := .empty, requiredToken := none, script := [], rates := .none
    random := .ofSeed 0, nextGeneration := 1
    stats := ⟨0, 0, 0, 0, 0, 0, 0, 0, 0, 0⟩, seen := [] }

instance : Inhabited Emulator := ⟨empty⟩

/-! ## Preparing a store -/

/-- The store with one more bucket. -/
def createBucket (bucket : String) (store : Emulator) : Emulator :=
  if bucket ∈ store.buckets then store else { store with buckets := bucket :: store.buckets }

/-- A store with one bucket. -/
def withBucket (bucket : String) : Emulator := empty.createBucket bucket

/-- A store with one bucket and random faults. -/
def withFaults (bucket : String) (rates : FaultRates) (seed : UInt64) : Emulator :=
  { withBucket bucket with rates, random := .ofSeed seed }

/-- From now on requests need a token. -/
def requireToken (token : String) (store : Emulator) : Emulator :=
  { store with requiredToken := some token }

/-- The next requests for an operation meet a fault. -/
def plan (operation : Operation) (fault : Fault) (times : Nat) (store : Emulator) : Emulator :=
  { store with script := store.script ++ List.replicate times (operation, fault) }

/-- The next requests for an operation are answered with a status. -/
def failNext (operation : Operation) (status times : Nat) (store : Emulator) : Emulator :=
  store.plan operation (.refuse status "Injected failure") times

/-- The next responses for an operation are lost. -/
def loseNext (operation : Operation) (times : Nat) (store : Emulator) : Emulator :=
  store.plan operation .lose times

/-- The content type of objects that are stored directly. -/
def defaultType : String := "application/octet-stream"

/-- The store with an object written. -/
def write (place : Place) (data : Bytes) (contentType : String) (store : Emulator) : Emulator :=
  { store with
    objects := store.objects.insert place { data, contentType, generation := store.nextGeneration }
    nextGeneration := store.nextGeneration + 1 }

/-- Stores an object directly. -/
def put (place : Place) (data : Bytes) (store : Emulator) : Emulator :=
  store.write place data defaultType

/-- The bytes of an object. -/
def object? (place : Place) (store : Emulator) : Option Bytes :=
  (store.objects.get? place).map (·.data)

/-- The objects in a bucket with their bytes, in the order of their names. -/
def contents (bucket : String) (store : Emulator) : List (String × Bytes) :=
  (store.objects.names bucket).filterMap fun name => (store.object? ⟨bucket, name⟩).map (name, ·)

/-- What the store says about an object. -/
def metadata? (place : Place) (store : Emulator) : Option ObjectMetadata :=
  (store.objects.get? place).map (·.metadata place)

/-! ## Responses -/

/-- A response with a status and a message. -/
def refusal (status : Nat) (message : String) : Http.Response :=
  { status
    body := (Json.record [("error", .record [("code", .natural status), ("message", .text message)])]).render }

/-- A successful response with a resource. -/
def answer (resource : Json) : Http.Response := { status := 200, body := resource.render }

/-- The response where a bucket is missing. -/
def noBucket : Http.Response := refusal 404 "The specified bucket does not exist."

/-- The response where an object is missing. -/
def noObject (place : Place) : Http.Response :=
  refusal 404 ("No such object: " ++ place.bucket ++ "/" ++ place.name)

/-! ## Applying requests -/

/-- The store with an object written, and the response that describes it. -/
def stored (place : Place) (data : Bytes) (contentType : String) (store : Emulator) :
    Http.Response × Emulator :=
  let object : StoredObject := { data, contentType, generation := store.nextGeneration }
  (answer (object.metadata place).toJson, store.write place data contentType)

/-- Applies an upload. -/
def applyUpload (bucket : String) (name : Option String) (body : Bytes) (store : Emulator) :
    Http.Response × Emulator :=
  match name with
  | none => (refusal 400 "Missing object name or uploadType=media", store)
  | some name =>
      if bucket ∉ store.buckets then (noBucket, store)
      else
        stored ⟨bucket, name⟩ body defaultType
          { store with stats := { store.stats with uploads := store.stats.uploads + 1 } }

/-- The generation of an object, zero where there is none. -/
def generationAt (place : Place) (store : Emulator) : Nat :=
  match store.objects.get? place with
  | none => 0
  | some object => object.generation

/-- The bytes of objects in turn, or the first place that has none. -/
def gather (store : Emulator) : List Place → Except Place (List Bytes)
  | [] => .ok []
  | place :: rest =>
      match store.objects.get? place with
      | none => .error place
      | some object => (gather store rest).map (object.data :: ·)

/-- Applies a compose. -/
def applyCompose (bucket name : String) (generation : Option String) (body : Bytes)
    (store : Emulator) : Http.Response × Emulator :=
  if bucket ∉ store.buckets then (noBucket, store)
  else if generation.any (· != Numeral.decimal (store.generationAt ⟨bucket, name⟩)) then
    (refusal 412 "At least one of the pre-conditions you specified did not hold.", store)
  else
    match ComposeRequest.read? body with
    | none => (refusal 400 "Invalid compose request: unexpected form", store)
    | some request =>
        if request.sources = [] then (refusal 400 "At least one source object is required.", store)
        else
          match store.gather (request.sources.map fun source => ⟨bucket, source⟩) with
          | .error place => (noObject place, store)
          | .ok pieces =>
              stored ⟨bucket, name⟩ pieces.flatten request.contentType
                { store with stats := { store.stats with composes := store.stats.composes + 1 } }

/-- Applies a delete. -/
def applyDelete (place : Place) (store : Emulator) : Http.Response × Emulator :=
  match store.objects.get? place with
  | none => (noObject place, store)
  | some _ =>
      ({ status := 200, body := [] },
        { store with
          objects := store.objects.erase place
          stats := { store.stats with deletes := store.stats.deletes + 1 } })

/-- Applies a request for a bucket. -/
def applyGetBucket (bucket : String) (store : Emulator) : Http.Response × Emulator :=
  if bucket ∉ store.buckets then (noBucket, store)
  else
    (answer (BucketMetadata.mk bucket (some "EMULATED") (some "STANDARD")).toJson,
      { store with stats := { store.stats with bucketReads := store.stats.bucketReads + 1 } })

/-- Applies a request. -/
def apply (route : Route) (body : Bytes) (store : Emulator) : Http.Response × Emulator :=
  match route with
  | .upload bucket name => store.applyUpload bucket name body
  | .compose bucket name generation => store.applyCompose bucket name generation body
  | .delete bucket name => store.applyDelete ⟨bucket, name⟩
  | .getObject bucket name =>
      match store.objects.get? ⟨bucket, name⟩ with
      | none => (noObject ⟨bucket, name⟩, store)
      | some object => (answer (object.metadata ⟨bucket, name⟩).toJson, store)
  | .getBucket bucket => store.applyGetBucket bucket
  | .unknown => (refusal 400 "Unsupported request", store)

/-- The store with a missing object or bucket counted. -/
def counted (status : Nat) (store : Emulator) : Emulator :=
  if status = 404 then { store with stats := { store.stats with notFound := store.stats.notFound + 1 } }
  else store

/-- What comes of a request that meets a fault, or none. -/
def settle (fault : Option Fault) (route : Route) (body : Bytes) (store : Emulator) :
    Http.Outcome × Emulator :=
  match fault with
  | some (.refuse status message) => (.ok (refusal status message), store)
  | some .lose =>
      let (response, store) := store.apply route body
      let store := store.counted response.status
      (.error (.timeout "response lost"),
        { store with stats := { store.stats with lostResponses := store.stats.lostResponses + 1 } })
  | none =>
      let (response, store) := store.apply route body
      (.ok response, store.counted response.status)

/-! ## Requests -/

/-- The counters after a random fault. -/
def Stats.withFault (stats : Stats) : Option Fault → Stats
  | some (.refuse 403 _) => { stats with injectedFatal := stats.injectedFatal + 1 }
  | some (.refuse _ _) => { stats with injectedRetriable := stats.injectedRetriable + 1 }
  | _ => stats

/-- The fault of the next request for an operation: the scripted one, else a random one. Bucket
requests meet no random faults. -/
def nextFault (operation : Operation) (store : Emulator) : Option Fault × Emulator :=
  match store.script.take? operation with
  | some (fault, script) => (some fault, { store with script })
  | none =>
      if operation = .getBucket then (none, store)
      else
        let (roll, random) := store.random.unit
        let fault := store.rates.faultOf roll
        (fault, { store with random, stats := store.stats.withFault fault })

/-- The store after it saw a request. -/
def record (request : Http.Request) (route : Route) (store : Emulator) : Emulator :=
  { store with
    stats := { store.stats with requests := store.stats.requests + 1 }
    seen := { request, operation := route.operation?, object := route.object? } :: store.seen }

/-- The request carries the token that the store needs. -/
def isAuthorized (request : Http.Request) (store : Emulator) : Bool :=
  match store.requiredToken with
  | none => true
  | some token => request.header? "authorization" == some ("Bearer " ++ token)

/-- What comes of a request where the fault is known to be as given once the request is found
acceptable. -/
def exchangeWith (draw : Operation → Emulator → Option Fault × Emulator) (request : Http.Request)
    (store : Emulator) : Http.Outcome × Emulator :=
  let route := Route.ofRequest request.method request.url
  let store := store.record request route
  if !store.isAuthorized request then
    (.ok (refusal 401 "Invalid Credentials"),
      { store with stats := { store.stats with unauthorized := store.stats.unauthorized + 1 } })
  else
    match route.operation? with
    | none => (.ok (refusal 400 "Unsupported request"), store)
    | some operation =>
        let (fault, store) := draw operation store
        store.settle fault route (request.body.getD [])

/-- What comes of a request. -/
def exchange (request : Http.Request) (store : Emulator) : Http.Outcome × Emulator :=
  store.exchangeWith (fun operation store => store.nextFault operation) request

/-- The link to an emulated store. -/
def link : Link Emulator := ⟨fun request store => store.exchange request⟩

end Emulator

end RecordSink
