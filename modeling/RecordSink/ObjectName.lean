import RecordSink.Text.Escaped
import RecordSink.Numeral

/-!
# Object names

The rules for the names under which a file lives in the store. A directory and a file name are
checked apart and joined by a slash; every name that is sent to the store satisfies the rules
of the store, which the type `ObjectName` carries as a proof.
-/

namespace RecordSink

/-- Why a directory, a file name or an object name is refused. -/
inductive NameError where
  | emptyDirectory
  | outerSlash (directory : String)
  | emptySegment (directory : String)
  | relativeSegment (directory segment : String)
  | longDirectory (size : Nat)
  | emptyFileName
  | slashInFileName (name : String)
  | reservedFileName (name : String)
  | emptyObjectName
  | longObjectName (size : Nat)
  | reservedObjectName (name : String)
  | reservedPrefix
  | controlCharacter (text : String) (char : Char)
  | collision (publish : String)
  /-- A directory setting is refused. -/
  | setting (field : String) (cause : NameError)
  /-- A reason in words. -/
  | stated (reason : String)
  deriving DecidableEq, Repr

namespace ObjectName

/-- The greatest size of an object name in bytes. -/
def maxSize : Nat := 1024

/-- The names that the store keeps for itself start so. -/
def storePrefix : String := ".well-known/acme-challenge/"

/-- What the name of a part adds to the name of its file. -/
def partSuffix : String := ".part"

end ObjectName

/-- The wording of a name error. -/
def NameError.message : NameError → String
  | .emptyDirectory => "directory must not be empty"
  | .outerSlash directory => "directory '" ++ directory ++ "' must not start or end with '/'"
  | .emptySegment directory => "directory '" ++ directory ++ "' contains an empty segment"
  | .relativeSegment directory segment =>
      "directory '" ++ directory ++ "' contains a relative segment '" ++ segment ++ "'"
  | .longDirectory size =>
      "directory is " ++ Numeral.decimal size ++ " bytes, object names are limited to "
        ++ Numeral.decimal ObjectName.maxSize
  | .emptyFileName => "file name must not be empty"
  | .slashInFileName name => "file name '" ++ name ++ "' must not contain '/'"
  | .reservedFileName name => "file name '" ++ name ++ "' is reserved"
  | .emptyObjectName => "object name must not be empty"
  | .longObjectName size =>
      "object name is " ++ Numeral.decimal size ++ " bytes, limit is "
        ++ Numeral.decimal ObjectName.maxSize
  | .reservedObjectName name => "object name '" ++ name ++ "' is reserved"
  | .reservedPrefix => "object name must not start with '" ++ ObjectName.storePrefix ++ "'"
  | .controlCharacter text char =>
      "'" ++ Text.escaped text ++ "' contains control character " ++ Text.quotedChar char
  | .collision publish => "publish path '" ++ publish ++ "' collides with a working object"
  | .setting field cause => field ++ ": " ++ cause.message
  | .stated reason => reason

namespace ObjectName

/-- A name that means a place relative to another. -/
def isRelative (name : String) : Bool := name == "." || name == ".."

/-- The segments of a directory, between its slashes. -/
def segments (directory : String) : List String :=
  (directory.toList.splitOn '/').map String.ofList

/-- No control character stands in a text. -/
def checkCharacters (text : String) : Except NameError Unit :=
  match text.toList.find? Text.isControl with
  | some char => .error (.controlCharacter text char)
  | none => .ok ()

/-- The first segment that may not stand in a directory decides. -/
def checkSegments (directory : String) : List String → Except NameError Unit
  | [] => .ok ()
  | segment :: rest =>
      if segment = "" then .error (.emptySegment directory)
      else if isRelative segment then .error (.relativeSegment directory segment)
      else checkSegments directory rest

/-- The rules for a directory. -/
def checkDirectory (directory : String) : Except NameError Unit := do
  if directory = "" then throw .emptyDirectory
  if directory.toList.head? = some '/' ∨ directory.toList.getLast? = some '/' then
    throw (.outerSlash directory)
  checkSegments directory (segments directory)
  checkCharacters directory
  if maxSize ≤ directory.utf8ByteSize then throw (.longDirectory directory.utf8ByteSize)

/-- The rules for a file name. -/
def checkFileName (name : String) : Except NameError Unit := do
  if name = "" then throw .emptyFileName
  if '/' ∈ name.toList then throw (.slashInFileName name)
  if isRelative name then throw (.reservedFileName name)
  checkCharacters name

/-- The rules for an object name. -/
def check (name : String) : Except NameError Unit := do
  if name = "" then throw .emptyObjectName
  if maxSize < name.utf8ByteSize then throw (.longObjectName name.utf8ByteSize)
  if isRelative name then throw (.reservedObjectName name)
  if storePrefix.toList.isPrefixOf name.toList then throw .reservedPrefix
  checkCharacters name

end ObjectName

/-- A name that the store accepts. -/
structure ObjectName where
  text : String
  accepted : ObjectName.check text = .ok ()

namespace ObjectName

instance : DecidableEq ObjectName := fun first second =>
  if same : first.text = second.text then
    isTrue (by cases first; cases second; cases same; rfl)
  else isFalse fun equal => same (equal ▸ rfl)

instance : Repr ObjectName := ⟨fun name _ => repr name.text⟩

theorem text_injective {first second : ObjectName} (same : first.text = second.text) :
    first = second := by
  cases first; cases second; cases same; rfl

/-- The object name of a text. -/
def ofText (text : String) : Except NameError ObjectName :=
  match outcome : check text with
  | .ok () => .ok ⟨text, outcome⟩
  | .error cause => .error cause

/-- The object of a file in a directory. -/
def join (directory name : String) : Except NameError ObjectName := do
  checkDirectory directory
  checkFileName name
  ofText (directory ++ "/" ++ name)

/-- The name with a suffix. -/
def withSuffix (name : ObjectName) (suffix : String) : Except NameError ObjectName :=
  ofText (name.text ++ suffix)

end ObjectName

/-- The three object names of a sink file. -/
structure FileNames where
  /-- Holds every record synced so far. -/
  inflight : ObjectName
  /-- Holds the records of one sync. -/
  part : ObjectName
  /-- Holds the finished file. -/
  publish : ObjectName
  deriving DecidableEq, Repr

/-- The names of a file. The publish name never names a working object, or a sync could
publish. -/
def FileNames.ofDirectories (working publish name : String) : Except NameError FileNames := do
  let inflight ← ObjectName.join working name
  let part ← inflight.withSuffix ObjectName.partSuffix
  let publish ← ObjectName.join publish name
  if part = publish ∨ inflight = publish then throw (.collision publish.text)
  return { inflight, part, publish }

end RecordSink
