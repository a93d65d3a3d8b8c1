/-!
# Texts

What is asked of characters and of whole texts elsewhere: classes of code points, as increasing
arrays of closed ranges with membership by bisection; the characters with the property
`White_Space` and the trimming of a text by them; and the case of ASCII letters.
-/

namespace RecordSink.Text

/-! ## Classes of code points -/

/-- A class of code points: closed ranges in increasing order. -/
abbrev Ranges := Array (Nat × Nat)

/-- Bisection among the ranges from `low` to `high`, the upper index excluded. -/
def Ranges.search (ranges : Ranges) (point low high : Nat) : Bool :=
  if low < high then
    let middle := (low + high) / 2
    match ranges[middle]? with
    | none => false
    | some (first, last) =>
        if point < first then ranges.search point low middle
        else if last < point then ranges.search point (middle + 1) high
        else true
  else false
  termination_by high - low

/-- Membership of a character in a class. -/
def Ranges.contains (ranges : Ranges) (char : Char) : Bool :=
  ranges.search char.toNat 0 ranges.size

/-! ## Blank characters -/

/-- A character with the property `White_Space`. -/
def isBlank (char : Char) : Bool :=
  let point := char.toNat
  (9 ≤ point && point ≤ 13) || point == 0x20 || point == 0x85 || point == 0xA0
    || point == 0x1680 || (0x2000 ≤ point && point ≤ 0x200A) || point == 0x2028
    || point == 0x2029 || point == 0x202F || point == 0x205F || point == 0x3000

/-- A text without the blank characters at its ends. -/
def trimmed (text : String) : String :=
  String.ofList
    ((text.toList.dropWhile isBlank).reverse.dropWhile isBlank).reverse

/-! ## Letter case -/

/-- A text with its ASCII capitals made small. -/
def asciiLower (text : String) : String := String.ofList (text.toList.map Char.toLower)

/-- Equality up to the case of ASCII letters. -/
def sameIgnoringCase (first second : String) : Bool := asciiLower first == asciiLower second

end RecordSink.Text
