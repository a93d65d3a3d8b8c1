import RecordSink.Text.Normal
import RecordSink.Url.Domain.Direction
import RecordSink.Url.Domain.Joining
import RecordSink.Url.Domain.Mapping
import RecordSink.Url.Punycode

/-!
# Domain names

A domain name in its ASCII form. Its characters are mapped and normalised, and each label beyond
ASCII is encoded. A label that is encoded already has to be the encoding of one that the mapping
would leave as it is.
-/

namespace RecordSink.Url.Domain

/-- The ASCII characters a domain may not hold. -/
def isDenied (char : Char) : Bool :=
  char.toNat ≤ 0x20 || char == '\x7f'
    || ['%', '#', '/', ':', '<', '>', '?', '@', '[', '\\', ']', '^', '|'].contains char

/-- An ASCII text. -/
def isAscii (label : List Char) : Bool := label.all (·.toNat < 128)

/-- A label in both forms. -/
structure Label where
  /-- The characters that are meant. -/
  name : List Char
  /-- The ASCII form. -/
  ascii : List Char

/-- What stands in front of an encoding. -/
def marker : List Char := ['x', 'n', '-', '-']

/-- The most characters that are encoded. -/
def longestLabel : Nat := 1000

/-- The most characters of an encoding that is read. -/
def longestEncoding : Nat := 2000

/-- Characters that mapping and normalising leave as they are. -/
def isSettled (name : List Char) : Bool :=
  name.all (fun char => mapped? char == some [char]) && Text.composed name == name

/-- The label of an encoding without its marker. -/
def decoded? (encoding : List Char) : Option (List Char) := do
  if longestEncoding < encoding.length ∨ encoding.getLast? = some '-' then none
  else
    let name ← Punycode.decode? encoding
    if isAscii name || !isSettled name then none else some name

/-- A label after mapping and normalising. -/
def label? (written : List Char) : Option Label :=
  let encoded := written.take 4 == marker
  match isAscii written, encoded with
  | true, false => some ⟨written, written⟩
  | true, true => (decoded? (written.drop 4)).map (⟨·, written⟩)
  | false, false =>
      if longestLabel < written.length then none
      else some ⟨written, marker ++ Punycode.encode written⟩
  | false, true => none

/-- A label that does not begin with a mark and whose joiners fit. -/
def isWellFormed (name : List Char) : Bool :=
  joinersFit [] name && match name with
    | first :: _ => !Text.isMark first
    | [] => true

/-- The ASCII form of a domain name. -/
def ascii? (name : String) : Option String := do
  let mapped := Text.composed (← name.toList.mapM mapped?).flatten
  if mapped.any isDenied then none
  else
    let labels ← (mapped.splitOn '.').mapM label?
    let names := labels.map Label.name
    if names.any (!isWellFormed ·) || (names.any isBidirectional && names.any (!isDirected ·)) then none
    else return String.ofList (['.'].intercalate (labels.map Label.ascii))

end RecordSink.Url.Domain
