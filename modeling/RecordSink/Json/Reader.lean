import RecordSink.Json

/-!
# Reading JSON

A recursive reader over bytes. Each reader gives the value it found and what follows it. Two
turns of the readers take at least one byte, so `read?` allows twice as many turns as the document
has bytes.
-/

namespace RecordSink.Json

/-- White space between tokens. -/
def isSpace (byte : UInt8) : Bool :=
  byte == 0x20 || byte == 0x09 || byte == 0x0A || byte == 0x0D

/-- The input without the white space in front. -/
def skipSpace (input : Bytes) : Bytes := input.dropWhile isSpace

/-- A decimal digit. -/
def isDigit (byte : UInt8) : Bool := 0x30 ≤ byte && byte ≤ 0x39

/-- The digits in front and what follows them. -/
def digitRun (input : Bytes) : Bytes × Bytes := (input.takeWhile isDigit, input.dropWhile isDigit)

/-! ## Numbers -/

/-- The whole part of a number: zero alone, or digits without a zero in front. -/
def wholePart? (input : Bytes) : Option (Bytes × Bytes) :=
  match digitRun input with
  | ([], _) => none
  | (first :: more, rest) => if first = 0x30 ∧ more ≠ [] then none else some (first :: more, rest)

/-- The fraction of a number, if it has one. -/
def fractionPart? (input : Bytes) : Option (Bytes × Bytes) :=
  match input with
  | 0x2E :: after =>
      match digitRun after with
      | ([], _) => none
      | (digits, rest) => some (0x2E :: digits, rest)
  | _ => some ([], input)

/-- The exponent of a number, if it has one. -/
def exponentPart? (input : Bytes) : Option (Bytes × Bytes) :=
  match input with
  | mark :: after =>
      if mark = 0x65 ∨ mark = 0x45 then
        let (sign, after) : Bytes × Bytes := match after with
          | 0x2B :: more => ([0x2B], more)
          | 0x2D :: more => ([0x2D], more)
          | _ => ([], after)
        match digitRun after with
        | ([], _) => none
        | (digits, rest) => some (mark :: sign ++ digits, rest)
      else some ([], input)
  | [] => some ([], input)

/-- A number and what follows it. -/
def number? (input : Bytes) : Option (Json × Bytes) := do
  let (sign, input) : Bytes × Bytes := match input with
    | 0x2D :: rest => ([0x2D], rest)
    | _ => ([], input)
  let (whole, input) ← wholePart? input
  let (fraction, input) ← fractionPart? input
  let (exponent, input) ← exponentPart? input
  return (.number (sign ++ whole ++ fraction ++ exponent), input)

/-! ## Strings -/

/-- The value of a hexadecimal digit. -/
def hexValue? (byte : UInt8) : Option Nat := Numeral.hexValue? (Char.ofNat byte.toNat)

/-- Four hexadecimal digits. -/
def hexUnit? (a b c d : UInt8) : Option Nat := do
  return ((← hexValue? a) * 16 + (← hexValue? b)) * 256 + (← hexValue? c) * 16 + (← hexValue? d)

/-- The bytes of a code point in the scheme of UTF-8, surrogates included. -/
def pointBytes (point : Nat) : Bytes :=
  let tail (shifted : Nat) : UInt8 := UInt8.ofNat (0x80 + shifted % 64)
  if point < 0x80 then [UInt8.ofNat point]
  else if point < 0x800 then [UInt8.ofNat (0xC0 + point / 64), tail point]
  else if point < 0x10000 then
    [UInt8.ofNat (0xE0 + point / 4096), tail (point / 64), tail point]
  else
    [UInt8.ofNat (0xF0 + point / 262144), tail (point / 4096), tail (point / 64), tail point]

/-- The byte meant by the letter of a short escape. -/
def shortEscape? (letter : UInt8) : Option UInt8 :=
  if letter = 0x22 ∨ letter = 0x5C ∨ letter = 0x2F then some letter
  else if letter = 0x62 then some 0x08
  else if letter = 0x66 then some 0x0C
  else if letter = 0x6E then some 0x0A
  else if letter = 0x72 then some 0x0D
  else if letter = 0x74 then some 0x09
  else none

/-- The rest of a string literal: the bytes it spells and what follows the closing mark. Two
escapes that form a surrogate pair spell one code point; an unpaired surrogate spells bytes that
are no text. -/
def stringBody? : Bytes → Option (Bytes × Bytes)
  | [] => none
  | 0x22 :: rest => some ([], rest)
  | 0x5C :: 0x75 :: a :: b :: c :: d :: rest => do
      let unit ← hexUnit? a b c d
      if 0xD800 ≤ unit ∧ unit < 0xDC00 then
        match rest with
        | 0x5C :: 0x75 :: e :: f :: g :: h :: more =>
            let low ← hexUnit? e f g h
            if 0xDC00 ≤ low ∧ low < 0xE000 then
              let (spelled, after) ← stringBody? more
              return (pointBytes (0x10000 + (unit - 0xD800) * 1024 + (low - 0xDC00)) ++ spelled,
                after)
            else
              let (spelled, after) ← stringBody? (0x5C :: 0x75 :: e :: f :: g :: h :: more)
              return (pointBytes unit ++ spelled, after)
        | other =>
            let (spelled, after) ← stringBody? other
            return (pointBytes unit ++ spelled, after)
      else
        let (spelled, after) ← stringBody? rest
        return (pointBytes unit ++ spelled, after)
  | 0x5C :: letter :: rest => do
      let byte ← shortEscape? letter
      let (spelled, after) ← stringBody? rest
      return (byte :: spelled, after)
  | byte :: rest =>
      if byte < 0x20 ∨ byte = 0x5C then none
      else do
        let (spelled, after) ← stringBody? rest
        return (byte :: spelled, after)
  termination_by input => input.length

/-! ## Values -/

mutual

/-- A value read in a bounded number of turns and what follows it. -/
def value? : Nat → Bytes → Option (Json × Bytes)
  | 0, _ => none
  | turns + 1, input =>
      match skipSpace input with
      | 0x6E :: 0x75 :: 0x6C :: 0x6C :: rest => some (.null, rest)
      | 0x74 :: 0x72 :: 0x75 :: 0x65 :: rest => some (.bool true, rest)
      | 0x66 :: 0x61 :: 0x6C :: 0x73 :: 0x65 :: rest => some (.bool false, rest)
      | 0x22 :: rest => do
          let (spelled, rest) ← stringBody? rest
          return (.string spelled, rest)
      | 0x5B :: rest =>
          match skipSpace rest with
          | 0x5D :: rest => some (.array [], rest)
          | rest => do
              let (items, rest) ← items? turns rest
              return (.array items, rest)
      | 0x7B :: rest =>
          match skipSpace rest with
          | 0x7D :: rest => some (.object [], rest)
          | rest => do
              let (members, rest) ← members? turns rest
              return (.object members, rest)
      | rest => number? rest

/-- The items of an array up to the closing bracket. -/
def items? : Nat → Bytes → Option (List Json × Bytes)
  | 0, _ => none
  | turns + 1, input => do
      let (item, rest) ← value? turns input
      match skipSpace rest with
      | 0x5D :: rest => return ([item], rest)
      | 0x2C :: rest =>
          let (items, rest) ← items? turns rest
          return (item :: items, rest)
      | _ => none

/-- The members of an object up to the closing brace. -/
def members? : Nat → Bytes → Option (List (Bytes × Json) × Bytes)
  | 0, _ => none
  | turns + 1, input => do
      let 0x22 :: rest := skipSpace input | none
      let (name, rest) ← stringBody? rest
      let 0x3A :: rest := skipSpace rest | none
      let (value, rest) ← value? turns rest
      match skipSpace rest with
      | 0x7D :: rest => return ([(name, value)], rest)
      | 0x2C :: rest =>
          let (members, rest) ← members? turns rest
          return ((name, value) :: members, rest)
      | _ => none

end

/-- The value of a whole document, with white space around it allowed. -/
def read? (input : Bytes) : Option Json := do
  let (value, rest) ← value? (2 * input.length + 2) input
  if skipSpace rest = [] then return value else none

end RecordSink.Json
