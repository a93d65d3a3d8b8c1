import RecordSink.Url.Percent

/-!
# Schemes and paths

The scheme of a URL decides whether there is always a host, whether a backslash is a slash, and
which port is left out.

A path is written segment by segment. A relative segment is resolved as soon as it is complete.
In the path of a local file a drive letter stays: it is never resolved away, a bar after the letter
becomes a colon, and what follows it directly gets a slash in front.
-/

namespace RecordSink.Url

/-! ## Schemes -/

/-- The schemes of the web, whose URLs always have a host. -/
def isWeb (scheme : String) : Bool := ["http", "https", "ws", "wss", "ftp"].contains scheme

/-- The scheme of local files. -/
def isFile (scheme : String) : Bool := scheme == "file"

/-- The schemes in which a backslash is a slash. -/
def isSpecial (scheme : String) : Bool := isWeb scheme || isFile scheme

/-- The port that a scheme leaves out. -/
def defaultPort? (scheme : String) : Option Nat :=
  if scheme == "http" || scheme == "ws" then some 80
  else if scheme == "https" || scheme == "wss" then some 443
  else if scheme == "ftp" then some 21
  else none

/-! ## Paths -/

/-- The path of a URL. -/
inductive Path where
  /-- A text without structure. -/
  | opaquePath (text : String)
  /-- Escaped segments, each after a slash. -/
  | rooted (text : String)
  deriving DecidableEq, Repr

/-- The written form of a path. -/
def Path.text : Path → String
  | .opaquePath text => text
  | .rooted text => text

/-- The escaped segments of a path; an opaque path has none. -/
def Path.segments : Path → List String
  | .opaquePath _ => []
  | .rooted text => ((text.toList.splitOn '/').drop 1).map String.ofList

/-! ## Segments with a meaning -/

/-- A segment that stands for the directory itself. -/
def isHere (segment : String) : Bool := [".", "%2e", "%2E"].contains segment

/-- A segment that stands for the directory above. -/
def isAbove (segment : String) : Bool :=
  ["..", ".%2e", ".%2E", "%2e.", "%2E.", "%2e%2e", "%2e%2E", "%2E%2e", "%2E%2E"].contains segment

/-- A drive letter: a letter with a colon or a bar. -/
def isDrive : List Char → Bool
  | [letter, mark] => letter.isAlpha && (mark == ':' || mark == '|')
  | _ => false

/-- A drive letter stands in front, by itself. -/
def startsWithDrive (written : List Char) : Bool :=
  isDrive (written.take 2) && match written.drop 2 with
    | next :: _ => ['/', '\\', '?', '#'].contains next
    | [] => true

/-! ## Writing -/

/-- A path up to the segment that is being written, and that segment, both backwards. -/
structure Draft where
  before : List Char
  segment : List Char
  deriving Repr

namespace Draft

/-- A drive letter that goes on gets a slash after its colon; the letter then no longer counts to
the segment. -/
def closeDrive (draft : Draft) : Draft :=
  match draft with
  | ⟨['/'], [':', letter]⟩ => if letter.isAlpha then ⟨[letter, '/'], ['/', ':']⟩ else draft
  | _ => draft

/-- The draft with more characters in its segment. -/
def write (file : Bool) (escapes : UInt8 → Bool) (draft : Draft) (chars : List Char) : Draft :=
  if chars.isEmpty then draft
  else
    let draft := if file then draft.closeDrive else draft
    { draft with
      segment := (Percent.encodeText escapes (String.ofList chars)).toList.reverse ++ draft.segment }

/-- A path without its last segment; the root and a drive letter stay. -/
def parent (before : List Char) : List Char :=
  let inside := before.drop 1
  let last := (inside.takeWhile (· != '/')).reverse
  if inside.contains '/' && !startsWithDrive (last ++ ['/']) then inside.dropWhile (· != '/')
  else before

/-- The path with its segment complete, backwards, and whether that is a drive letter. -/
def complete (file slash : Bool) (draft : Draft) : List Char × Bool :=
  let segment := draft.segment.reverse
  let after := if slash then ['/'] else []
  if isAbove (String.ofList segment) then (parent draft.before, false)
  else if isHere (String.ofList segment) then (draft.before, false)
  else if file && (draft.before.drop 1).isEmpty && isDrive segment then
    (after ++ ':' :: segment.take 1 ++ draft.before, true)
  else (after ++ draft.segment ++ draft.before, false)

end Draft

/-- A tab or a line end, which does not count in a URL. -/
def isBreak (char : Char) : Bool := char == '\t' || char == '\n' || char == '\r'

/-- A path with one more segment: the path backwards, and whether it has got a drive letter. -/
def addSegment (file : Bool) (escapes : UInt8 → Bool) (slash : Bool) (path : List Char × Bool)
    (written : List Char) : List Char × Bool :=
  let draft := (written.splitOnP isBreak).foldl (Draft.write file escapes) ⟨path.1, []⟩
  let (text, drive) := draft.complete file slash
  (text, path.2 || drive)

/-- A path with some more segments, a slash after each but the last. -/
def addSegments (file : Bool) (escapes : UInt8 → Bool) :
    List (List Char) → List Char × Bool → List Char × Bool
  | [], path => path
  | [last], path => addSegment file escapes false path last
  | written :: rest, path =>
      addSegments file escapes rest (addSegment file escapes true path written)

/-- A path in its final form. The path of a local file has one slash in front. -/
def settled (file : Bool) (backwards : List Char) : String :=
  let path := backwards.reverse
  String.ofList (if file then '/' :: path.dropWhile (· == '/') else path)

/-- The path of a text after what is written of it already, and whether it has got a drive letter. -/
def readPath (scheme : String) (start : List Char) (written : List Char) : String × Bool :=
  let separates (char : Char) : Bool := char == '/' || (isSpecial scheme && char == '\\')
  let (path, drive) :=
    addSegments (isFile scheme) Percent.path (written.splitOnP separates) (start, false)
  (settled (isFile scheme) path, drive)

/-- A path with a name appended as one segment. A name that says where one is is passed over. -/
def joinName (scheme path name : String) : String :=
  if name == "." || name == ".." then path
  else
    let start := path.toList.reverse
    let start := if start == ['/'] then start else '/' :: start
    let escapes := Percent.segment (isSpecial scheme)
    settled (isFile scheme) (addSegment (isFile scheme) escapes false (start, false) name.toList).1

/-- A path without the slash at its end; a bare slash stays. -/
def withoutSlash (path : String) : String :=
  match path.toList.reverse with
  | '/' :: first :: rest => String.ofList (first :: rest).reverse
  | _ => path

end RecordSink.Url
