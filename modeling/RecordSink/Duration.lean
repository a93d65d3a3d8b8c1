import RecordSink.Double

/-!
# Durations

Spans of time in whole nanoseconds. A fraction of seconds becomes the nearest duration, ties to
the even nanosecond; a span is shown in the largest unit that has a whole part.
-/

namespace RecordSink

/-- A span of time. -/
structure Duration where
  /-- Whole nanoseconds. -/
  nanos : Nat
  deriving DecidableEq, Repr, Inhabited

namespace Duration

instance : LE Duration := ⟨fun first second => first.nanos ≤ second.nanos⟩

instance : LT Duration := ⟨fun first second => first.nanos < second.nanos⟩

instance (first second : Duration) : Decidable (first ≤ second) :=
  inferInstanceAs (Decidable (first.nanos ≤ second.nanos))

instance (first second : Duration) : Decidable (first < second) :=
  inferInstanceAs (Decidable (first.nanos < second.nanos))

instance : Add Duration := ⟨fun first second => ⟨first.nanos + second.nanos⟩⟩

/-- The time since an earlier moment, none where the moment is later. -/
instance : Sub Duration := ⟨fun first second => ⟨first.nanos - second.nanos⟩⟩

@[simp]
theorem nanos_sub (first second : Duration) :
    (first - second).nanos = first.nanos - second.nanos := rfl

@[simp]
theorem nanos_add (first second : Duration) :
    (first + second).nanos = first.nanos + second.nanos := rfl

/-- No time. -/
def zero : Duration := ⟨0⟩

/-- A number of whole seconds. -/
def ofSeconds (count : Nat) : Duration := ⟨count * 1000000000⟩

/-- A number of whole milliseconds. -/
def ofMillis (count : Nat) : Duration := ⟨count * 1000000⟩

/-- The whole seconds. -/
def wholeSeconds (span : Duration) : Nat := span.nanos / 1000000000

/-- The nanoseconds beyond the whole seconds. -/
def subsecond (span : Duration) : Nat := span.nanos % 1000000000

/-- The whole milliseconds. -/
def wholeMillis (span : Duration) : Nat := span.nanos / 1000000

/-- The milliseconds, a begun one counted as a whole one. -/
def millisUp (span : Duration) : Nat := (span.nanos + 999999) / 1000000

/-- The shorter of two spans. -/
def shorter (first second : Duration) : Duration := if second < first then second else first

/-- The span in seconds, whole part and fraction rounded apart. -/
def toSeconds (span : Duration) : Float :=
  (UInt64.ofNat span.wholeSeconds).toFloat + (UInt64.ofNat span.subsecond).toFloat / 1e9

/-- The span nearest to a number of seconds, if there is one: the number is neither negative nor
undefined and its whole seconds fit 64 bits. -/
def ofSeconds? (seconds : Float) : Option Duration :=
  if seconds.isNaN || seconds.isInf || seconds < 0 then none
  else
    let (significand, exponent) := Double.parts seconds
    let (top, bottom) := Double.scaled (significand * 1000000000) 1 exponent
    let nanos := Double.roundDiv top bottom
    if nanos < Nat.pow 2 64 * 1000000000 then some ⟨nanos⟩ else none

/-- A fraction of a unit, `part` counting the last of `places` decimal places, without trailing
zeros. -/
def fraction (part places : Nat) : String :=
  let written := Numeral.digits 10 part
  let filled := List.replicate (places - written.length) '0' ++ written
  let kept := (filled.reverse.dropWhile (· == '0')).reverse
  if kept.isEmpty then "" else String.ofList ('.' :: kept)

/-- The span in seconds, milliseconds, microseconds or nanoseconds: the largest unit with a
whole part. -/
def text (span : Duration) : String :=
  let shown (unit places : Nat) (name : String) :=
    Numeral.decimal (span.nanos / unit) ++ fraction (span.nanos % unit) places ++ name
  if 1000000000 ≤ span.nanos then shown 1000000000 9 "s"
  else if 1000000 ≤ span.nanos then shown 1000000 6 "ms"
  else if 1000 ≤ span.nanos then shown 1000 3 "µs"
  else shown 1 0 "ns"

end Duration

end RecordSink
