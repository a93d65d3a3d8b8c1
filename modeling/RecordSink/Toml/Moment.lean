import RecordSink.Toml

/-!
# Reading TOML moments

Readers for dates and times of day. Every part has a fixed number of digits and its own range: a
day has to be one of its month, and a minute may end in a leap second.
-/

namespace RecordSink.Toml

/-- A numeral of a fixed number of digits. -/
def fixed? (count : Nat) (input : List Char) : Option (Nat × List Char) := do
  let digits := input.take count
  if digits.length < count then none
  return (← Numeral.valueFrom? 0 digits, input.drop count)

/-- A numeral of two digits between two bounds. -/
def bounded? (least greatest : Nat) (input : List Char) : Option (Nat × List Char) := do
  let (value, rest) ← fixed? 2 input
  if least ≤ value ∧ value ≤ greatest then return (value, rest) else none

/-- What follows a mark. -/
def after? (mark : Char) : List Char → Option (List Char)
  | char :: rest => if char = mark then some rest else none
  | [] => none

/-- A year with a 29th of February. -/
def isLeap (year : Nat) : Bool := year % 4 == 0 && (year % 100 != 0 || year % 400 == 0)

/-- The days of a month. -/
def daysOf (year month : Nat) : Nat :=
  if month = 2 then if isLeap year then 29 else 28
  else if month = 4 ∨ month = 6 ∨ month = 9 ∨ month = 11 then 30
  else 31

/-- A day of the calendar. -/
def date? (input : List Char) : Option (Date × List Char) := do
  let (year, rest) ← fixed? 4 input
  let (month, rest) ← bounded? 1 12 (← after? '-' rest)
  let (day, rest) ← bounded? 1 (daysOf year month) (← after? '-' rest)
  return ({ year, month, day }, rest)

/-- A fraction of a second in nanoseconds; digits beyond the ninth do not count. -/
def nanos? (input : List Char) : Option (Nat × List Char) := do
  let rest ← after? '.' input
  let digits := rest.takeWhile Char.isDigit
  if digits.isEmpty then none
  let kept := digits.take 9
  return ((← Numeral.valueFrom? 0 kept) * Nat.pow 10 (9 - kept.length), rest.drop digits.length)

/-- A time of day. -/
def time? (input : List Char) : Option (Time × List Char) := do
  let (hour, rest) ← bounded? 0 23 input
  let (minute, rest) ← bounded? 0 59 (← after? ':' rest)
  let (second, rest) ← bounded? 0 60 (← after? ':' rest)
  let (nanos, rest) := (nanos? rest).getD (0, rest)
  return ({ hour, minute, second, nanos }, rest)

/-- An offset from universal time in minutes. -/
def offset? : List Char → Option (Int × List Char)
  | mark :: rest =>
      if mark = 'Z' ∨ mark = 'z' then some (0, rest)
      else if mark = '+' ∨ mark = '-' then do
        let (hours, rest) ← bounded? 0 23 rest
        let (minutes, rest) ← bounded? 0 59 (← after? ':' rest)
        let size : Int := hours * 60 + minutes
        return (if mark = '-' then -size else size, rest)
      else none
  | [] => none

/-- The time of day that follows a date. -/
def timeAfterDate? : List Char → Option (Time × List Char)
  | mark :: rest => if mark = 'T' ∨ mark = 't' ∨ mark = ' ' then time? rest else none
  | [] => none

/-- A moment and what follows: a date, a time of day, or both with or without an offset. -/
def moment? (input : List Char) : Option (Moment × List Char) :=
  match date? input with
  | none => (time? input).map fun (time, rest) =>
      ({ date := none, time := some time, offset := none }, rest)
  | some (date, rest) =>
      match timeAfterDate? rest with
      | none => some ({ date := some date, time := none, offset := none }, rest)
      | some (time, rest) =>
          match offset? rest with
          | none => some ({ date := some date, time := some time, offset := none }, rest)
          | some (offset, rest) =>
              some ({ date := some date, time := some time, offset := some offset }, rest)

end RecordSink.Toml
