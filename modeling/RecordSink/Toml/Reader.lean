import RecordSink.Toml.Moment
import RecordSink.Toml.Scalar

/-!
# Reading TOML documents

A document is read line by line into the table it describes. Where a key or a header would
redefine something, or add to a table that is closed, there is no table.
-/

namespace RecordSink.Toml

/-! ## Keys -/

/-- A character of a bare key. -/
def isBare (char : Char) : Bool :=
  ('a' ≤ char && char ≤ 'z') || ('A' ≤ char && char ≤ 'Z') || char.isDigit || char == '-'
    || char == '_'

/-- One part of a key, with the blanks around it. -/
def keyPart? (input : List Char) : Option (String × List Char) :=
  let input := skipBlanks input
  let found := match input with
    | '\"' :: _ => lineString? input
    | '\'' :: _ => lineString? input
    | _ =>
        if (input.takeWhile isBare).isEmpty then none
        else some (input.takeWhile isBare, input.dropWhile isBare)
  found.map fun (chars, rest) => (String.ofList chars, skipBlanks rest)

/-- Keys have fewer parts than this, and fewer brackets are open at a time. -/
def depthLimit : Nat := 80

/-- The parts of a dotted key and what follows. -/
def keyParts? : Nat → List Char → Option (List String × List Char)
  | 0, _ => none
  | turns + 1, input => do
      let (first, rest) ← keyPart? input
      match rest with
      | '.' :: rest =>
          let (more, rest) ← keyParts? turns rest
          return (first :: more, rest)
      | _ => return ([first], rest)

/-- A dotted key and what follows. -/
def key? (input : List Char) : Option (List String × List Char) := do
  let (path, rest) ← keyParts? (input.length + 1) input
  if path.length < depthLimit then return (path, rest) else none

/-! ## Tables -/

/-- Members with the value of one name replaced or added. -/
def Members.put (members : Members) (name : String) (value : Toml) : Members :=
  match members with
  | [] => [(name, value)]
  | (other, old) :: rest =>
      if other = name then (name, value) :: rest else (other, old) :: Members.put rest name value

/-- The table of a header is opened where nothing closed bears its name. -/
def openTable (name : String) (members : Members) : Option Members :=
  match members.get? name with
  | none => some (members.put name (.table .header []))
  | some (.table .implied inner) => some (members.put name (.table .header inner))
  | some _ => none

/-- One more table of a double header. -/
def openNext (name : String) (members : Members) : Option Members :=
  match members.get? name with
  | none => some (members.put name (.tables [[]]))
  | some (.tables items) => some (members.put name (.tables (items ++ [[]])))
  | some _ => none

/-- A value under a name that is not taken. -/
def assign (name : String) (value : Toml) (members : Members) : Option Members :=
  match members.get? name with
  | none => some (members.put name value)
  | some _ => none

/-- A change of the table at the end of a header's path; tables on the way are implied. -/
def within : List String → (Members → Option Members) → Members → Option Members
  | [], change, members => change members
  | name :: path, change, members =>
      match members.get? name with
      | none => do return members.put name (.table .implied (← within path change []))
      | some (.table .inline _) => none
      | some (.table form inner) => do
          return members.put name (.table form (← within path change inner))
      | some (.tables items) => do
          let last ← within path change (items.getLast?.getD [])
          return members.put name (.tables (items.dropLast ++ [last]))
      | some _ => none

/-- A value under a dotted key. Tables on the way may not have a header of their own, and the last
one has to stem from dotted keys alone. -/
def assignAt (path : List String) (value : Toml) (members : Members) : Option Members :=
  match path with
  | [] => none
  | [name] => assign name value members
  | name :: path =>
      match members.get? name with
      | none => do return members.put name (.table .dotted (← assignAt path value []))
      | some (.table .dotted inner) => do
          return members.put name (.table .dotted (← assignAt path value inner))
      | some (.table .implied inner) =>
          if path.length = 1 then none
          else do return members.put name (.table .implied (← assignAt path value inner))
      | some _ => none

/-! ## Values -/

/-- The input without blanks, comments and line ends in front. -/
def skipLines : Nat → List Char → List Char
  | 0, input => input
  | turns + 1, input =>
      let rest := skipComment (skipBlanks input)
      match lineEnd? rest with
      | some rest => skipLines turns rest
      | none => rest

mutual

/-- A value and what follows, where some more brackets may be opened. -/
def value? : Nat → Nat → List Char → Option (Toml × List Char)
  | 0, _, _ => none
  | turns + 1, depth, input =>
      match input with
      | '\"' :: _ => (string? input).map fun (chars, rest) => (.string (String.ofList chars), rest)
      | '\'' :: _ => (string? input).map fun (chars, rest) => (.string (String.ofList chars), rest)
      | 't' :: 'r' :: 'u' :: 'e' :: rest => some (.boolean true, rest)
      | 'f' :: 'a' :: 'l' :: 's' :: 'e' :: rest => some (.boolean false, rest)
      | '[' :: rest => do
          if depth = 0 then none
          let (items, rest) ← items? turns (depth - 1) rest
          return (.array items, rest)
      | '\x7b' :: rest => do
          if depth = 0 then none
          match skipBlanks rest with
          | '\x7d' :: rest => return (.table .inline [], rest)
          | rest =>
              let (members, rest) ← members? turns (depth - 1) [] rest
              return (.table .inline members, rest)
      | _ =>
          match moment? input with
          | some (value, rest) => some (.moment value, rest)
          | none => number? input

/-- The items of an array up to its closing bracket. -/
def items? : Nat → Nat → List Char → Option (List Toml × List Char)
  | 0, _, _ => none
  | turns + 1, depth, input =>
      match skipLines input.length input with
      | ']' :: rest => some ([], rest)
      | start => do
          let (item, rest) ← value? turns depth start
          match skipLines rest.length rest with
          | ']' :: rest => return ([item], rest)
          | ',' :: rest =>
              let (items, rest) ← items? turns depth rest
              return (item :: items, rest)
          | _ => none

/-- The members of an inline table up to its closing brace, after those already read. -/
def members? : Nat → Nat → Members → List Char → Option (Members × List Char)
  | 0, _, _, _ => none
  | turns + 1, depth, members, input => do
      let (path, rest) ← key? input
      let '=' :: rest := rest | none
      let (value, rest) ← value? turns depth (skipBlanks rest)
      let members ← assignAt path value members
      match skipBlanks rest with
      | '\x7d' :: rest => return (members, rest)
      | ',' :: rest => members? turns depth members rest
      | _ => none

end

/-! ## Documents -/

/-- A header and what follows its line: the path it opens and whether it is a double one. -/
def header? (input : List Char) : Option (List String × Bool × List Char) := do
  let (double, rest) : Bool × List Char := match input with
    | '[' :: rest => (true, rest)
    | _ => (false, input)
  let (path, rest) ← key? rest
  match double, rest with
  | true, ']' :: ']' :: rest => return (path, true, ← finishLine? rest)
  | false, ']' :: rest => return (path, false, ← finishLine? rest)
  | _, _ => none

/-- The table of the lines from here on, added to what the lines before described. -/
def lines : Nat → List String → Members → List Char → Option Members
  | 0, _, _, _ => none
  | turns + 1, current, members, input =>
      match skipBlanks input with
      | [] => some members
      | '[' :: rest => do
          let (path, double, rest) ← header? rest
          let name ← path.getLast?
          let members ← within path.dropLast (if double then openNext name else openTable name) members
          lines turns path members rest
      | start =>
          match finishLine? start with
          | some rest => lines turns current members rest
          | none => do
              let (path, rest) ← key? start
              let '=' :: rest := rest | none
              let (value, rest) ← value? (2 * rest.length + 2) (depthLimit - 1) (skipBlanks rest)
              let members ← within current (assignAt path value) members
              lines turns current members (← finishLine? rest)

/-- The table of a document. A byte order mark in front does not count. -/
def read? (text : String) : Option Members :=
  let chars := match text.toList with
    | '\uFEFF' :: rest => rest
    | chars => chars
  lines (chars.length + 1) [] [] chars

end RecordSink.Toml
