import RecordSink.Json.Reader

/-!
# Records in JSON

A record with known member names, read from an object or from an array that lists the members
in order. Every member name of an object has to be a text, a known one may stand only once, and
an unknown one is passed over. An array may leave out members at its end but holds no more.
-/

namespace RecordSink.Json

/-- The text a value spells. -/
def asText? : Json → Option String
  | .string spelled => Bytes.text? spelled
  | _ => none

/-- The natural number of a value that fits 64 bits. -/
def asCounter? : Json → Option Nat
  | .number written =>
      if written.all isDigit then (Bytes.text? written).bind Numeral.readCounter? else none
  | _ => none

/-- The items of an array. -/
def asItems? : Json → Option (List Json)
  | .array items => some items
  | _ => none

/-- The members of an object, if every name is a text. -/
def namedMembers? (members : List (Bytes × Json)) : Option (List (String × Json)) :=
  members.mapM fun (name, value) => (Bytes.text? name).map (·, value)

/-- The values of the known members, in the order of their names. -/
def fields? (names : List String) : Json → Option (List (Option Json))
  | .object members => do
      let named ← namedMembers? members
      names.mapM fun name =>
        match named.filter (·.1 == name) with
        | [] => some none
        | [(_, value)] => some (some value)
        | _ => none
  | .array items =>
      if items.length ≤ names.length then
        some (items.map some ++ List.replicate (names.length - items.length) none)
      else none
  | _ => none

/-- A member that has to be a text. -/
def requiredText? (field : Option Json) : Option String := field.bind asText?

/-- A text member that may be missing or null. -/
def optionalText? : Option Json → Option (Option String)
  | none => some none
  | some .null => some none
  | some value => (asText? value).map some

end RecordSink.Json
