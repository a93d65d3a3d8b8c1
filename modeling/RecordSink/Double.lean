import RecordSink.Numeral

/-!
# Binary64 numbers and decimal numerals

The two exact conversions between a binary64 number and decimal digits: the nearest double of
a decimal fraction, ties to the even significand, and the fewest digits that read back as a
given double. Both work on natural numbers only; no intermediate result is rounded.
-/

namespace RecordSink.Double

/-- The quotient rounded to the nearest natural number, ties to even. -/
def roundDiv (num den : Nat) : Nat :=
  let quotient := num / den
  let twice := 2 * (num % den)
  if twice < den then quotient
  else if den < twice then quotient + 1
  else quotient + quotient % 2

/-- A power of two moved into a fraction: `num / den * 2 ^ exponent`. -/
def scaled (num den : Nat) (exponent : Int) : Nat × Nat :=
  if 0 ≤ exponent then (num * Nat.pow 2 exponent.toNat, den) else (num, den * Nat.pow 2 (-exponent).toNat)

/-- The exponent of the greatest power of two not above a positive fraction. -/
def binaryExponent (num den : Nat) : Int :=
  let guess : Int := (num.log2 : Int) - (den.log2 : Int)
  let (top, bottom) := scaled num den (-guess)
  if bottom ≤ top then guess else guess - 1

/-- The bits of the double nearest to a fraction, infinity where it is out of range. -/
def bitsOfFraction (num den : Nat) : Nat :=
  if num = 0 then 0
  else
    let quantum := max (binaryExponent num den - 52) (-1074)
    let (top, bottom) := scaled num den (-quantum)
    let significand := roundDiv top bottom
    let bits : Nat := if significand < Nat.pow 2 52 then significand
      else (quantum + 1075).toNat * Nat.pow 2 52 + (significand - Nat.pow 2 52)
    min bits (2047 * Nat.pow 2 52)

/-- The nearest double of `digits * 10 ^ exponent`. A power of ten that certainly leaves the range
is not computed: eight is below ten and sixteen above it. -/
def ofDecimal (negative : Bool) (digits : Nat) (exponent : Int) : Float :=
  let magnitude : Nat :=
    if digits = 0 ∨ exponent + digits.log2 / 3 < -400 then 0
    else if 400 < exponent + digits.log2 / 4 then 2047 * Nat.pow 2 52
    else if 0 ≤ exponent then bitsOfFraction (digits * Nat.pow 10 exponent.toNat) 1
    else bitsOfFraction digits (Nat.pow 10 (-exponent).toNat)
  Float.ofBits (UInt64.ofNat (if negative then magnitude + Nat.pow 2 63 else magnitude))

/-- The sign bit. -/
def isNegative (value : Float) : Bool := Nat.pow 2 63 ≤ value.toBits.toNat

/-- Significand and exponent of the magnitude of a finite double. -/
def parts (value : Float) : Nat × Int :=
  let bits : Nat := value.toBits.toNat % Nat.pow 2 63
  let biased : Nat := bits / Nat.pow 2 52
  let fraction : Nat := bits % Nat.pow 2 52
  if biased = 0 then (fraction, -1074) else (Nat.pow 2 52 + fraction, (biased : Int) - 1075)

/-- The decimal exponent of the leading digit of a positive fraction, searched upward from
`start`. -/
def leadingExponent (num den : Nat) : Nat → Int → Int
  | 0, start => start
  | fuel + 1, start =>
      let next := start + 1
      let above := if 0 ≤ next then den * Nat.pow 10 next.toNat ≤ num else den ≤ num * Nat.pow 10 (-next).toNat
      if above then leadingExponent num den fuel next else start

/-- The interval of fractions that round to a double, over one denominator: its lower end, the
double itself, its upper end, the denominator, and whether the ends belong to it. -/
structure Rounding where
  low : Nat
  middle : Nat
  high : Nat
  denominator : Nat
  closed : Bool

/-- The rounding interval of a positive double. -/
def rounding (significand : Nat) (exponent : Int) : Rounding :=
  let gap := if significand = Nat.pow 2 52 ∧ -1074 < exponent then 1 else 2
  let place (quarters : Nat) := (scaled quarters 1 (exponent - 2)).1
  { low := place (4 * significand - gap)
    middle := place (4 * significand)
    high := place (4 * significand + 2)
    denominator := (scaled 1 1 (exponent - 2)).2
    closed := significand % 2 = 0 }

/-- A decimal `digits * 10 ^ exponent` over the denominator of an interval, with the ends of
the interval over the same unit. -/
def Rounding.holds (interval : Rounding) (digits : Nat) (exponent : Int) : Bool :=
  let up := if 0 ≤ exponent then Nat.pow 10 exponent.toNat else 1
  let down := if 0 ≤ exponent then 1 else Nat.pow 10 (-exponent).toNat
  let point := digits * up * interval.denominator
  if interval.closed then interval.low * down ≤ point && point ≤ interval.high * down
  else interval.low * down < point && point < interval.high * down

/-- The shortest decimal inside a rounding interval: with one more digit on each turn, the two
neighbours of the double on that decimal grid are tried, the nearer one first and of two equally
near ones the even one. -/
def shortestFrom (interval : Rounding) (leading : Int) : Nat → Nat → Nat × Int
  | 0, count => (0, leading - count)
  | fuel + 1, count =>
      let exponent := leading - count
      let top := if 0 ≤ exponent then interval.middle else interval.middle * Nat.pow 10 (-exponent).toNat
      let bottom := if 0 ≤ exponent then interval.denominator * Nat.pow 10 exponent.toNat
        else interval.denominator
      let below := top / bottom
      let near := roundDiv top bottom
      let far := if near = below then below + 1 else below
      if interval.holds near exponent then (near, exponent)
      else if interval.holds far exponent then (far, exponent)
      else shortestFrom interval leading fuel (count + 1)

/-- The fewest digits that read back as a positive finite double, and the exponent of the last
one. -/
def shortest (value : Float) : Nat × Int :=
  let (significand, exponent) := parts value
  let interval := rounding significand exponent
  let leading := leadingExponent interval.middle interval.denominator 700 (-330)
  shortestFrom interval leading 18 0

/-- Digits placed by their exponent, without an exponent in the text. -/
def positional (digits : Nat) (exponent : Int) : String :=
  let written := Numeral.digits 10 digits
  if 0 ≤ exponent then String.ofList (written ++ List.replicate exponent.toNat '0' ++ ['.', '0'])
  else
    let places := (-exponent).toNat
    let filled := List.replicate (places + 1 - written.length) '0' ++ written
    let whole := filled.length - places
    String.ofList (filled.take whole ++ '.' :: filled.drop whole)

/-- Drops the zeros at the end of a decimal. -/
def trimmed (digits : Nat) (exponent : Int) : Nat → Nat × Int
  | 0 => (digits, exponent)
  | fuel + 1 =>
      if digits % 10 = 0 ∧ digits ≠ 0 then trimmed (digits / 10) (exponent + 1) fuel
      else (digits, exponent)

/-- The positional text of a double with at least one digit after the point. -/
def text (value : Float) : String :=
  let sign := if isNegative value then "-" else ""
  if value.isNaN then sign ++ "nan"
  else if value.isInf then sign ++ "inf"
  else if value == 0 then sign ++ "0.0"
  else
    let (digits, exponent) := shortest value
    let (digits, exponent) := trimmed digits exponent 40
    sign ++ positional digits exponent

end RecordSink.Double
