import RecordSink.Url.Host

/-!
# Reading URLs

An absolute URL is read from a text part by part: scheme, authority, path, query, fragment.
Controls and spaces around it and tabs and line ends inside it do not count. Relative segments
are resolved while the path is read.
-/

namespace RecordSink.Url

/-- A text without the controls and spaces around it. -/
def stripped (text : String) : List Char :=
  let edge (char : Char) : Bool := char.toNat ≤ 0x20
  ((text.toList.dropWhile edge).reverse.dropWhile edge).reverse

/-- The characters that count. -/
def unbroken (written : List Char) : List Char := written.filter (!isBreak ·)

/-- The scheme in small letters and what follows its colon. -/
def scheme? (input : List Char) : Option (String × List Char) :=
  let allowed (char : Char) := char.isAlphanum || ['+', '-', '.'].contains char || isBreak char
  match unbroken (input.takeWhile allowed), input.dropWhile allowed with
  | first :: more, ':' :: rest =>
      if first.isAlpha then some (String.ofList ((first :: more).map Char.toLower), rest) else none
  | _, _ => none

/-- A slash of a scheme in which a backslash is one too. -/
def isSlash (char : Char) : Bool := char == '/' || char == '\\'

/-! ## Authority -/

/-- A character that ends the authority. -/
def endsAuthority (scheme : String) (char : Char) : Bool :=
  char == '/' || (isSpecial scheme && char == '\\')

/-- User name, password and the rest of an authority after its last at sign. -/
def splitUserinfo (authority : List Char) : List Char × List Char × List Char :=
  if authority.contains '@' then
    let reversed := authority.reverse
    let info := ((reversed.dropWhile (· != '@')).drop 1).reverse
    let rest := (reversed.takeWhile (· != '@')).reverse
    (info.takeWhile (· != ':'), (info.dropWhile (· != ':')).drop 1, rest)
  else ([], [], authority)

/-- The host and what follows it: a colon inside brackets belongs to the host. -/
def splitHost : Bool → List Char → List Char × List Char
  | _, [] => ([], [])
  | inside, char :: rest =>
      if char = ':' ∧ inside = false then ([], char :: rest)
      else
        let (host, after) := splitHost (char == '[' || (inside && char != ']')) rest
        (char :: host, after)

/-- The port after a colon, left out where the scheme implies it, and what follows it: nothing, or
a backslash, which ends the port in every scheme. -/
def port? (scheme : String) (written : List Char) : Except UrlError (Option Nat × List Char) :=
  let (digits, after) := (written.drop 1).span Char.isDigit
  let ended := match after with
    | next :: _ => next == '\\'
    | [] => true
  let value := (Numeral.valueFrom? 0 digits).getD 0
  if !ended || 65535 < value then .error .port
  else if digits.isEmpty || defaultPort? scheme == some value then .ok (none, after)
  else .ok (some value, after)

/-- A part of the user information. -/
def infoText (written : List Char) : String :=
  Percent.encodeText Percent.userinfo (String.ofList written)

/-- A URL without path from its authority, and what follows the port. The host may be missing
outside the web, but not after user information, before a port or, where more follows, after a bare
at sign. -/
def withAuthority? (scheme : String) (authority : List Char) (more : Bool) :
    Except UrlError (Url × List Char) := do
  let (user, password, rest) := splitUserinfo authority
  let (written, after) := splitHost false rest
  if written.isEmpty ∧ (isWeb scheme ∨ after ≠ [] ∨ user ≠ [] ∨ password ≠ [] ∨
      (authority = ['@'] ∧ more)) then
    throw .emptyHost
  let host ← if isWeb scheme then Host.web? written else Host.opaqueHost? written
  let (port, after) ← port? scheme after
  return ({ scheme, username := infoText user, password := infoText password, host := some host,
            port, dotted := false, path := .rooted "", query := none, fragment := none }, after)

/-! ## The whole -/

/-- What comes before the query, the query, and the fragment. -/
def splitTail (input : List Char) : List Char × Option (List Char) × Option (List Char) :=
  let body := input.takeWhile (· != '#')
  let fragment := match input.dropWhile (· != '#') with
    | _ :: rest => some rest
    | [] => none
  let query := match body.dropWhile (· != '?') with
    | _ :: rest => some rest
    | [] => none
  (body.takeWhile (· != '?'), query, fragment)

/-- A URL with its query and fragment in written form. -/
def finish (query fragment : Option (List Char)) (url : Url) : Url :=
  let escaped (escapes : UInt8 → Bool) (written : List Char) : String :=
    Percent.encodeText escapes (String.ofList (unbroken written))
  { url with
    query := query.map (escaped (Percent.query (isSpecial url.scheme)))
    fragment := fragment.map (escaped Percent.fragment) }

/-- A URL without authority. -/
def plain (scheme : String) (host : Option String) (path : Path) : Url :=
  { scheme, username := "", password := "", host, port := none, dotted := false, path,
    query := none, fragment := none }

/-- A URL from what follows its two slashes: the web always has a path, elsewhere it may be
missing. -/
def afterSlashes? (scheme : String) (body : List Char) (more : Bool) : Except UrlError Url := do
  let (authority, rest) := body.span (!endsAuthority scheme ·)
  let (url, after) ← withAuthority? scheme authority (more || !rest.isEmpty)
  let path := match after ++ rest with
    | [] => if isSpecial scheme then "/" else ""
    | first :: more =>
        (readPath scheme ['/'] (if endsAuthority scheme first then more else first :: more)).1
  return { url with path := .rooted path }

/-- A URL outside the web that has no authority. A path that would look like one is dotted. -/
def withoutAuthority (scheme : String) (body : List Char) : Url :=
  match body with
  | '/' :: rest =>
      let path := (readPath scheme ['/'] rest).1
      { plain scheme none (.rooted path) with dotted := path.startsWith "//" }
  | _ =>
      plain scheme none (.opaquePath (Percent.encodeText Percent.control (String.ofList body)))

/-- A URL of a local file from what follows its two slashes. A drive letter is no host, and no host
stands before one; the host of one's own machine is left out. -/
def fileAfterSlashes? (body : List Char) : Except UrlError Url := do
  let (written, rest) := body.span (!isSlash ·)
  let scheme := "file"
  let hostless (path : List Char) : Url :=
    plain scheme (some "") (.rooted (readPath scheme ['/'] path).1)
  if isDrive (unbroken written) then return hostless body
  else if (unbroken written).isEmpty then return hostless rest
  else
    let host ← Host.web? (unbroken written)
    if host == "localhost" then return hostless rest
    else
      let (path, drive) := readPath scheme ['/'] (rest.drop 1)
      return plain scheme (some (if drive then "" else host)) (.rooted path)

/-- A URL of a local file. -/
def file? (body : List Char) : Except UrlError Url :=
  match body.dropWhile isBreak with
  | first :: rest =>
      if isSlash first then
        match rest.dropWhile isBreak with
        | second :: after =>
            if isSlash second then fileAfterSlashes? after
            else .ok (plain "file" (some "") (.rooted (readPath "file" ['/'] rest).1))
        | [] => .ok (plain "file" (some "") (.rooted "/"))
      else .ok (plain "file" (some "") (.rooted (readPath "file" ['/'] body).1))
  | [] => .ok (plain "file" (some "") (.rooted "/"))

/-- The URL of a text. -/
def parse? (text : String) : Except UrlError Url := do
  let some (scheme, rest) := scheme? (stripped text) | throw .relative
  let (body, query, fragment) := splitTail rest
  let more := query.isSome || fragment.isSome
  let url ←
    if isFile scheme then file? body
    else if isWeb scheme then afterSlashes? scheme ((unbroken body).dropWhile isSlash) more
    else
      match unbroken body with
      | '/' :: '/' :: rest => afterSlashes? scheme rest more
      | body => pure (withoutAuthority scheme body)
  return finish query fragment url

end RecordSink.Url
