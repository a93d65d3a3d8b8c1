import RecordSink.Double

/-!
# TOML values

The values of a TOML document and their written forms. A table remembers how it was introduced,
because that decides which later parts of a document may add to it.
-/

namespace RecordSink

/-- How a table was introduced. -/
inductive Toml.Form where
  /-- Written between braces; nothing can be added. -/
  | inline
  /-- Opened by a header of its own. -/
  | header
  /-- Named only on the way to another header. -/
  | implied
  /-- Named only on the way to a dotted key. -/
  | dotted
  deriving DecidableEq, Repr

/-- A day of the calendar. -/
structure Toml.Date where
  year : Nat
  month : Nat
  day : Nat
  deriving DecidableEq, Repr

/-- A time of day. -/
structure Toml.Time where
  hour : Nat
  minute : Nat
  second : Nat
  nanos : Nat
  deriving DecidableEq, Repr

/-- A date, a time of day, or both. -/
structure Toml.Moment where
  date : Option Toml.Date
  time : Option Toml.Time
  /-- Minutes ahead of universal time. -/
  offset : Option Int
  deriving DecidableEq, Repr

/-- A TOML value. -/
inductive Toml where
  | string (value : String)
  | integer (value : Int)
  | float (value : Float)
  | boolean (value : Bool)
  | moment (value : Toml.Moment)
  | array (items : List Toml)
  /-- A table. -/
  | table (form : Toml.Form) (members : List (String × Toml))
  /-- The tables of repeated double headers, the last of which is open. -/
  | tables (items : List (List (String × Toml)))
  deriving Repr, Inhabited

namespace Toml

/-- The members of a table. -/
abbrev Members := List (String × Toml)

/-- The value of a member. -/
def Members.get? (members : Members) (name : String) : Option Toml :=
  (members.find? (·.1 == name)).map (·.2)

/-! ## Written forms -/

/-- The longest run of a mark, where a run of some length stands in front. -/
def longestRun (mark : Char) : List Char → Nat → Nat
  | [], run => run
  | char :: rest, run =>
      if char = mark then longestRun mark rest (run + 1) else max run (longestRun mark rest 0)

/-- A control character that no string can hold as it is. -/
def needsEscape (char : Char) : Bool :=
  (char.toNat < 0x20 && char != '\t' && char != '\n') || char == '\x7f'

/-- The marks around a written string. -/
structure Quotation where
  mark : Char
  /-- Three marks on either side instead of one. -/
  tripled : Bool
  deriving DecidableEq, Repr

/-- The marks that suit the characters of a string: quotation marks or else apostrophes, single
or else tripled, so that nothing has to be escaped. Where something has to, quotation marks, tripled
for more than one line. -/
def quotation (chars : List Char) : Quotation :=
  let controls := chars.any needsEscape
  let lines := chars.contains '\n'
  let backslashes := chars.contains '\\'
  let quotes := longestRun '\"' chars 0
  let apostrophes := longestRun '\'' chars 0
  if controls then ⟨'\"', lines⟩
  else if !backslashes && quotes = 0 && !lines then ⟨'\"', false⟩
  else if apostrophes = 0 && !lines then ⟨'\'', false⟩
  else if !backslashes && quotes < 3 then ⟨'\"', true⟩
  else if apostrophes < 3 then ⟨'\'', true⟩
  else ⟨'\"', lines⟩

/-- A character between quotation marks, other than one of these. -/
def escapedChar (tripled : Bool) (char : Char) : List Char :=
  if char = '\x08' then ['\\', 'b']
  else if char = '\t' then ['\\', 't']
  else if char = '\n' then if tripled then ['\n'] else ['\\', 'n']
  else if char = '\x0c' then ['\\', 'f']
  else if char = '\r' then ['\\', 'r']
  else if char = '\\' then ['\\', '\\']
  else if char.toNat < 0x20 ∨ char = '\x7f' then
    ['\\', 'u'] ++ (Numeral.hex 4 char.toNat).toList.map Char.toUpper
  else [char]

/-- Characters between quotation marks. A quotation mark among them is escaped, but between tripled
ones only where it would be the third in a row. -/
def escapedChars (tripled : Bool) : Nat → List Char → List Char
  | _, [] => []
  | run, char :: rest =>
      if char = '\"' then
        if tripled ∧ run < 2 then '\"' :: escapedChars tripled (run + 1) rest
        else '\\' :: '\"' :: escapedChars tripled 0 rest
      else escapedChar tripled char ++ escapedChars tripled 0 rest

/-- A string with the marks that suit its characters. Lines begin below the opening marks. -/
def stringText (value : String) : String :=
  let chars := value.toList
  let marks := quotation chars
  let mark := List.replicate (if marks.tripled then 3 else 1) marks.mark
  let start := if marks.tripled && chars.contains '\n' then ['\n'] else []
  let inside := if marks.mark = '\"' then escapedChars marks.tripled 0 chars else chars
  String.ofList (mark ++ start ++ inside ++ mark)

end Toml

end RecordSink
