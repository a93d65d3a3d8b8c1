import RecordSink.Url.Path

/-!
# URLs

A parsed URL: its parts in the form in which they are written. A path is either made of segments
or, where no authority and no slash follow the scheme, one opaque text. This module holds the
written form, the names appended to a base, and the reading of names and query.

A query is in the form encoding of named values: pairs separated by ampersands, a name and its
value by an equals sign, spaces as plus signs.
-/

namespace RecordSink

/-- Why a text is no absolute URL. -/
inductive UrlError where
  | relative
  | emptyHost
  | internationalName
  | domainCharacter
  | ipv4Address
  | ipv6Address
  | port
  deriving DecidableEq, Repr

/-- The wording of a URL error. -/
def UrlError.message : UrlError → String
  | .relative => "relative URL without a base"
  | .emptyHost => "empty host"
  | .internationalName => "invalid international domain name"
  | .domainCharacter => "invalid domain character"
  | .ipv4Address => "invalid IPv4 address"
  | .ipv6Address => "invalid IPv6 address"
  | .port => "invalid port number"

/-- A URL in parts. User name and password are empty where they are missing. -/
structure Url where
  scheme : String
  username : String
  password : String
  host : Option String
  port : Option Nat
  /-- A dot stands in front of the path, for the missing authority. -/
  dotted : Bool
  path : Url.Path
  query : Option String
  fragment : Option String
  deriving DecidableEq, Repr

namespace Url

/-! ## Query pairs -/

namespace Query

/-- A form component. -/
def component (text : String) : Bytes :=
  (Bytes.ofText text).flatMap fun byte =>
    if byte = 0x20 then [0x2B] else if Percent.form byte then Percent.escape byte else [byte]

/-- One pair. -/
def pair (name value : String) : Bytes := component name ++ 0x3D :: component value

/-- Pairs after a query: an ampersand stands between two pairs, none in front of the first. -/
def append (query : String) (pairs : List (String × String)) : String :=
  pairs.foldl
    (fun written (name, value) =>
      (if written.isEmpty then "" else written ++ "&") ++ Bytes.asciiText (pair name value))
    query

/-- The text of a form component. -/
def readComponent (written : Bytes) : String :=
  Bytes.lossyText (Percent.decode (written.map fun byte => if byte = 0x2B then 0x20 else byte))

/-- The name and the value of a written pair, split at the first equals sign. -/
def readPair (written : Bytes) : String × String :=
  (readComponent (written.takeWhile (· != 0x3D)),
    readComponent ((written.dropWhile (· != 0x3D)).drop 1))

/-- The pairs of a query, empty pieces left out. -/
def read (query : String) : List (String × String) :=
  (((Bytes.ofText query).splitOn 0x26).filter (· ≠ [])).map readPair

end Query

/-! ## The parts of a URL -/

/-- A URL with an opaque path is no base for segments. -/
def isBase (url : Url) : Bool :=
  match url.path with
  | .opaquePath _ => false
  | .rooted _ => true

/-! ## The written form -/

/-- The user information before the host. -/
def userinfo (url : Url) : String :=
  if url.username.isEmpty && url.password.isEmpty then ""
  else url.username ++ (if url.password.isEmpty then "" else ":" ++ url.password) ++ "@"

/-- What stands between the scheme and the path. -/
def authority (url : Url) : String :=
  match url.host with
  | some host =>
      "//" ++ url.userinfo ++ host
        ++ (match url.port with
            | some port => ":" ++ Numeral.decimal port
            | none => "")
  | none => if url.dotted then "/." else ""

/-- The written form of a URL. -/
def text (url : Url) : String :=
  url.scheme ++ ":" ++ url.authority ++ url.path.text
    ++ (match url.query with
        | some query => "?" ++ query
        | none => "")
    ++ (match url.fragment with
        | some fragment => "#" ++ fragment
        | none => "")

/-! ## Segments and query -/

/-- The URL with names appended to its path, each as one segment. -/
def join (url : Url) (names : List String) : Url :=
  match url.path with
  | .opaquePath _ => url
  | .rooted text =>
      { url with path := .rooted (names.foldl (joinName url.scheme) (withoutSlash text)) }

/-- The URL with pairs appended to its query. -/
def withPairs (url : Url) (pairs : List (String × String)) : Url :=
  { url with query := some (Query.append (url.query.getD "") pairs) }

/-- The names of the path segments; an opaque path has none. -/
def names (url : Url) : List String := url.path.segments.map Percent.decodeText

/-- The pairs of the query. -/
def pairs (url : Url) : List (String × String) := Query.read (url.query.getD "")

end Url

end RecordSink
