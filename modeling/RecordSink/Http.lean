import RecordSink.Url

/-!
# HTTP exchanges

A request, a response read to its end, and the ways in which a request gets no response. A link
carries requests to a store: it is one step on the state of a world, so that every store, real
or emulated, and every way of failing is a link.
-/

namespace RecordSink.Http

/-- The methods that the store's interface uses. -/
inductive Method where
  | get
  | post
  | delete
  deriving DecidableEq, Repr, Inhabited

/-- The name of a method on the wire. -/
def Method.text : Method → String
  | .get => "GET"
  | .post => "POST"
  | .delete => "DELETE"

/-- A request with its body in full. -/
structure Request where
  method : Method
  url : Url
  headers : List (String × String)
  body : Option Bytes
  deriving DecidableEq, Repr

/-- A request without headers and body. -/
def Request.plain (method : Method) (url : Url) : Request :=
  { method, url, headers := [], body := none }

/-- The request with headers after its own. -/
def Request.withHeaders (request : Request) (headers : List (String × String)) : Request :=
  { request with headers := request.headers ++ headers }

/-- The first value of a header, its name compared without regard to the case of ASCII letters. -/
def Request.header? (request : Request) (name : String) : Option String :=
  let lower (text : String) := text.toList.map Char.toLower
  (request.headers.find? fun (own, _) => lower own == lower name).map (·.2)

/-- A response with its body in full. -/
structure Response where
  status : Nat
  body : Bytes
  deriving DecidableEq, Repr

/-- A status that reports success. -/
def isSuccess (status : Nat) : Bool := 200 ≤ status && status < 300

/-- The response reports success. -/
def Response.isSuccess (response : Response) : Bool := Http.isSuccess response.status

/-- The body as text. -/
def Response.text (response : Response) : String := Bytes.lossyText response.body

/-- Why a request got no response. -/
inductive LinkError where
  | connect (reason : String)
  | timeout (reason : String)
  | other (reason : String)
  deriving DecidableEq, Repr

/-- The wording of a link error. -/
def LinkError.message : LinkError → String
  | .connect reason => "connection failed: " ++ reason
  | .timeout reason => "request timed out: " ++ reason
  | .other reason => reason

/-- A lost connection and a timeout are worth another attempt. -/
def LinkError.isTransient : LinkError → Bool
  | .connect _ => true
  | .timeout _ => true
  | .other _ => false

/-- The outcome of sending a request. -/
abbrev Outcome := Except LinkError Response

end RecordSink.Http

namespace RecordSink

/-- A link to a store in a world: it carries one request at a time. -/
structure Link (W : Type) where
  exchange : Http.Request → StateM W Http.Outcome

end RecordSink
