import RecordSink.Failure
import RecordSink.Url

/-!
# Routes

Which operation a request asks an emulated store for. The path of the interface may stand behind
other segments; an upload has the segment `upload` in front of it.
-/

namespace RecordSink.Emulator

/-- What a request asks for. -/
inductive Route where
  /-- Without a name the request is incomplete. -/
  | upload (bucket : String) (name : Option String)
  | compose (bucket name : String) (generation : Option String)
  | delete (bucket name : String)
  | getObject (bucket name : String)
  | getBucket (bucket : String)
  | unknown
  deriving DecidableEq, Repr

namespace Route

/-- The operation of a route. -/
def operation? : Route → Option Operation
  | .upload .. => some .upload
  | .compose .. => some .compose
  | .delete .. => some .delete
  | .getObject .. => some .getObject
  | .getBucket _ => some .getBucket
  | .unknown => none

/-- The object that a route names. -/
def object? : Route → Option String
  | .upload _ name => name
  | .compose _ name _ => some name
  | .delete _ name => some name
  | .getObject _ name => some name
  | .getBucket _ => none
  | .unknown => none

/-- What follows the first `storage/v1` of a path, and whether `upload` stands right before it. -/
def interface? (before : String) : List String → Option (Bool × List String)
  | [] => none
  | first :: rest =>
      if first = "storage" ∧ rest.head? = some "v1" then some (before == "upload", rest.drop 1)
      else interface? first rest

/-- The last value of a name. -/
def lastValue? (name : String) (pairs : List (String × String)) : Option String :=
  ((pairs.filter (·.1 == name)).getLast?).map (·.2)

/-- The name of an upload; only plain uploads have one. -/
def uploadName? (pairs : List (String × String)) : Option String :=
  if lastValue? "uploadType" pairs = some "media" then lastValue? "name" pairs else none

/-- The generation that a compose asks for. -/
def generation? (pairs : List (String × String)) : Option String :=
  (pairs.find? (·.1 == "ifGenerationMatch")).map (·.2)

/-- The route of a request. -/
def ofRequest (method : Http.Method) (url : Url) : Route :=
  match method, interface? "" url.names with
  | .post, some (true, ["b", bucket, "o"]) => .upload bucket (uploadName? url.pairs)
  | .post, some (false, ["b", bucket, "o", name, "compose"]) =>
      .compose bucket name (generation? url.pairs)
  | .delete, some (false, ["b", bucket, "o", name]) => .delete bucket name
  | .get, some (false, ["b", bucket, "o", name]) => .getObject bucket name
  | .get, some (false, ["b", bucket]) => .getBucket bucket
  | _, _ => .unknown

end Route

end RecordSink.Emulator
