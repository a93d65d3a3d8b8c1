import RecordSink.Json.Reader
import RecordSink.Json.Record
import RecordSink.ObjectName

/-!
# Resources of the store

What the store says about objects and buckets, and what it is asked to compose, as JSON.
-/

namespace RecordSink

/-- What the store says about an object. -/
structure ObjectMetadata where
  name : String
  bucket : String
  /-- The size in bytes as a decimal numeral. -/
  size : String
  contentType : Option String
  /-- Changes with every write of the object. -/
  generation : Option String
  deriving DecidableEq, Repr

namespace ObjectMetadata

/-- The size in bytes, where the store states it in a readable form. -/
def sizeBytes? (object : ObjectMetadata) : Option Nat := Numeral.readCounter? object.size

/-- The names of the members. -/
def names : List String := ["name", "bucket", "size", "contentType", "generation"]

/-- The resource as JSON. -/
def toJson (object : ObjectMetadata) : Json :=
  .record [("name", .text object.name), ("bucket", .text object.bucket), ("size", .text object.size),
    ("contentType", .optionalText object.contentType),
    ("generation", .optionalText object.generation)]

/-- The resource of a JSON value; a missing size is empty. -/
def ofJson? (json : Json) : Option ObjectMetadata := do
  let [name, bucket, size, contentType, generation] ← json.fields? names | none
  return {
    name := ← Json.requiredText? name
    bucket := ← Json.requiredText? bucket
    size := ← if size.isNone then some "" else Json.requiredText? size
    contentType := ← Json.optionalText? contentType
    generation := ← Json.optionalText? generation }

/-- The resource of a document. -/
def read? (document : Bytes) : Option ObjectMetadata := (Json.read? document).bind ofJson?

end ObjectMetadata

/-- What the store says about a bucket. -/
structure BucketMetadata where
  name : String
  location : Option String
  storageClass : Option String
  deriving DecidableEq, Repr

namespace BucketMetadata

/-- The names of the members. -/
def names : List String := ["name", "location", "storageClass"]

/-- The resource as JSON. -/
def toJson (bucket : BucketMetadata) : Json :=
  .record [("name", .text bucket.name), ("location", .optionalText bucket.location),
    ("storageClass", .optionalText bucket.storageClass)]

/-- The resource of a JSON value. -/
def ofJson? (json : Json) : Option BucketMetadata := do
  let [name, location, storageClass] ← json.fields? names | none
  return {
    name := ← Json.requiredText? name
    location := ← Json.optionalText? location
    storageClass := ← Json.optionalText? storageClass }

/-- The resource of a document. -/
def read? (document : Bytes) : Option BucketMetadata := (Json.read? document).bind ofJson?

end BucketMetadata

/-- What the store is asked to compose. -/
structure ComposeRequest where
  /-- The content type of the composed object. -/
  contentType : String
  /-- The names of the objects to concatenate, in order. -/
  sources : List String
  deriving DecidableEq, Repr

namespace ComposeRequest

/-- The request as JSON. -/
def toJson (request : ComposeRequest) : Json :=
  .record [("destination", .record [("contentType", .text request.contentType)]),
    ("sourceObjects", .array (request.sources.map fun name => .record [("name", .text name)]))]

/-- The only member of a resource, a text. -/
def single? (name : String) (json : Json) : Option String := do
  let [value] ← json.fields? [name] | none
  Json.requiredText? value

/-- The request of a JSON value. -/
def ofJson? (json : Json) : Option ComposeRequest := do
  let [destination, sources] ← json.fields? ["destination", "sourceObjects"] | none
  return {
    contentType := ← (← destination) |> single? "contentType"
    sources := ← (← (← sources).asItems?).mapM (single? "name") }

/-- The request of a document. -/
def read? (document : Bytes) : Option ComposeRequest := (Json.read? document).bind ofJson?

end ComposeRequest

end RecordSink
