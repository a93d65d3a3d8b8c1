import RecordSink.Bytes
import RecordSink.Numeral

/-!
# JSON values

JSON as the store's resources use it, written compactly. Strings are the bytes they spell, so a
string that spells no text is still a value; whether a text is needed is decided where the value
is used. Numbers keep the form in which they were written.
-/

namespace RecordSink

/-- A JSON value. -/
inductive Json where
  | null
  | bool (value : Bool)
  | number (written : Bytes)
  | string (spelled : Bytes)
  | array (items : List Json)
  | object (members : List (Bytes × Json))
  deriving Repr, Inhabited

namespace Json

/-- The string of a text. -/
def text (value : String) : Json := .string (Bytes.ofText value)

/-- The number of a natural number. -/
def natural (value : Nat) : Json := .number (Bytes.ofText (Numeral.decimal value))

/-- A text where there is one, and null elsewhere. -/
def optionalText : Option String → Json
  | none => .null
  | some value => .text value

/-- An object from named members. -/
def record (members : List (String × Json)) : Json :=
  .object (members.map fun (name, value) => (Bytes.ofText name, value))

/-- A byte of a string literal: quotation marks, backslashes and control characters are escaped. -/
def escapedByte (byte : UInt8) : Bytes :=
  if byte = 0x22 then [0x5C, 0x22]
  else if byte = 0x5C then [0x5C, 0x5C]
  else if byte = 0x08 then [0x5C, 0x62]
  else if byte = 0x09 then [0x5C, 0x74]
  else if byte = 0x0A then [0x5C, 0x6E]
  else if byte = 0x0C then [0x5C, 0x66]
  else if byte = 0x0D then [0x5C, 0x72]
  else if byte < 0x20 then [0x5C, 0x75, 0x30, 0x30] ++ Bytes.ofText (Numeral.hex 2 byte.toNat)
  else [byte]

/-- The literal of a string. -/
def literal (spelled : Bytes) : Bytes := 0x22 :: spelled.flatMap escapedByte ++ [0x22]

mutual

/-- The compact form of a value. -/
def render : Json → Bytes
  | .null => [0x6E, 0x75, 0x6C, 0x6C]
  | .bool true => [0x74, 0x72, 0x75, 0x65]
  | .bool false => [0x66, 0x61, 0x6C, 0x73, 0x65]
  | .number written => written
  | .string spelled => literal spelled
  | .array items => 0x5B :: renderItems items ++ [0x5D]
  | .object members => 0x7B :: renderMembers members ++ [0x7D]

/-- The items of an array, separated by commas. -/
def renderItems : List Json → Bytes
  | [] => []
  | [item] => render item
  | item :: next :: rest => render item ++ 0x2C :: renderItems (next :: rest)

/-- The members of an object, separated by commas. -/
def renderMembers : List (Bytes × Json) → Bytes
  | [] => []
  | [(name, value)] => literal name ++ 0x3A :: render value
  | (name, value) :: next :: rest =>
      literal name ++ 0x3A :: render value ++ 0x2C :: renderMembers (next :: rest)

end

end Json

end RecordSink
