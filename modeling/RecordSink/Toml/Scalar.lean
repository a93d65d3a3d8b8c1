import RecordSink.Toml

/-!
# Reading TOML scalars

Readers for the parts of a TOML line: white space, comments and line ends, strings, numbers and
the words for truth values. A reader gives what it found and what follows it.
-/

namespace RecordSink.Toml

/-! ## Blanks and line ends -/

/-- A blank inside a line. -/
def isBlank (char : Char) : Bool := char == ' ' || char == '\t'

/-- The input without blanks in front. -/
def skipBlanks (input : List Char) : List Char := input.dropWhile isBlank

/-- A character that may stand in a comment or a literal string. -/
def isPlain (char : Char) : Bool := char == '\t' || (0x20 ≤ char.toNat && char != '\x7f')

/-- What follows a line end. -/
def lineEnd? : List Char → Option (List Char)
  | '\n' :: rest => some rest
  | '\r' :: '\n' :: rest => some rest
  | _ => none

/-- What follows a comment, if there is one. -/
def skipComment : List Char → List Char
  | '#' :: rest => rest.dropWhile isPlain
  | input => input

/-- What follows the rest of a line: blanks, a comment, and a line end or the end of all. -/
def finishLine? (input : List Char) : Option (List Char) :=
  match skipComment (skipBlanks input) with
  | [] => some []
  | rest => lineEnd? rest

/-! ## Strings -/

/-- The character of a hexadecimal escape. -/
def pointChar? (digits : List Char) : Option Char := do
  let values ← digits.mapM Numeral.hexValue?
  let point := values.foldl (fun point value => point * 16 + value) 0
  if point.isValidChar then return Char.ofNat point else none

/-- The character of an escape after its backslash, and what follows. -/
def escape? : List Char → Option (Char × List Char)
  | 'b' :: rest => some ('\x08', rest)
  | 't' :: rest => some ('\t', rest)
  | 'n' :: rest => some ('\n', rest)
  | 'f' :: rest => some ('\x0c', rest)
  | 'r' :: rest => some ('\r', rest)
  | '\"' :: rest => some ('\"', rest)
  | '\\' :: rest => some ('\\', rest)
  | 'u' :: a :: b :: c :: d :: rest => (pointChar? [a, b, c, d]).map (·, rest)
  | 'U' :: a :: b :: c :: d :: e :: f :: g :: h :: rest =>
      (pointChar? [a, b, c, d, e, f, g, h]).map (·, rest)
  | _ => none

/-- What follows a backslash at the end of a line: the blanks and line ends after it. -/
def continuation? : Nat → List Char → Option (List Char)
  | 0, _ => none
  | turns + 1, input => do
      let rest := skipBlanks (← lineEnd? (skipBlanks input))
      return (continuation? turns rest).getD rest

/-- The rest of a basic string on one line. -/
def basic? : Nat → List Char → Option (List Char × List Char)
  | 0, _ => none
  | turns + 1, input =>
      match input with
      | '\"' :: rest => some ([], rest)
      | '\\' :: rest => do
          let (char, rest) ← escape? rest
          let (chars, rest) ← basic? turns rest
          return (char :: chars, rest)
      | char :: rest =>
          if isPlain char then do
            let (chars, rest) ← basic? turns rest
            return (char :: chars, rest)
          else none
      | [] => none

/-- The rest of a literal string on one line. -/
def literal? (input : List Char) : Option (List Char × List Char) :=
  let inside (char : Char) := isPlain char && char != '\''
  match input.dropWhile inside with
  | '\'' :: rest => some (input.takeWhile inside, rest)
  | _ => none

/-- A run of quotation marks inside a string of several lines: three or more close it, and up to
two in front of the closing ones belong to it. Gives the marks that belong to the string and,
if it is closed, what follows. -/
def marks (mark : Char) (input : List Char) : List Char × Option (List Char) :=
  let run := (input.takeWhile (· == mark)).length
  if run < 3 then (List.replicate run mark, none)
  else
    let kept := min (run - 3) 2
    (List.replicate kept mark, some (input.drop (kept + 3)))

/-- The rest of a string of several lines. -/
def lines? (mark : Char) (escapes : Bool) : Nat → List Char → Option (List Char × List Char)
  | 0, _ => none
  | turns + 1, input =>
      match input with
      | [] => none
      | char :: rest =>
          if char = mark then
            match marks mark input with
            | (kept, some rest) => some (kept, rest)
            | (kept, none) => do
                let (chars, rest) ← lines? mark escapes turns (input.drop kept.length)
                return (kept ++ chars, rest)
          else if char = '\\' ∧ escapes then
            match continuation? (turns + 1) rest with
            | some rest => lines? mark escapes turns rest
            | none => do
                let (char, rest) ← escape? rest
                let (chars, rest) ← lines? mark escapes turns rest
                return (char :: chars, rest)
          else if isPlain char then do
            let (chars, rest) ← lines? mark escapes turns rest
            return (char :: chars, rest)
          else do
            let (chars, rest) ← lines? mark escapes turns (← lineEnd? input)
            return ('\n' :: chars, rest)

/-- A string on one line and what follows. -/
def lineString? : List Char → Option (List Char × List Char)
  | '\"' :: rest => basic? (rest.length + 1) rest
  | '\'' :: rest => literal? rest
  | _ => none

/-- A string and what follows. A line end right after the opening marks does not count. -/
def string? (input : List Char) : Option (List Char × List Char) :=
  match input with
  | '\"' :: '\"' :: '\"' :: rest =>
      lines? '\"' true (input.length + 1) ((lineEnd? rest).getD rest)
  | '\'' :: '\'' :: '\'' :: rest =>
      lines? '\'' false (input.length + 1) ((lineEnd? rest).getD rest)
  | _ => lineString? input

/-! ## Numbers -/

/-- Digits of a base after a first one; an underscore may stand between two digits. -/
def moreDigits (isDigit : Char → Bool) : List Char → List Char × List Char
  | '_' :: char :: rest =>
      if isDigit char then
        let (digits, rest) := moreDigits isDigit rest
        (char :: digits, rest)
      else ([], '_' :: char :: rest)
  | char :: rest =>
      if isDigit char then
        let (digits, rest) := moreDigits isDigit rest
        (char :: digits, rest)
      else ([], char :: rest)
  | [] => ([], [])

/-- At least one digit of a base. -/
def digits? (isDigit : Char → Bool) : List Char → Option (List Char × List Char)
  | char :: rest =>
      if isDigit char then
        let (digits, rest) := moreDigits isDigit rest
        some (char :: digits, rest)
      else none
  | [] => none

/-- The whole digits of a decimal number: a zero stands alone. -/
def wholeDigits? : List Char → Option (List Char × List Char)
  | '0' :: rest => some (['0'], rest)
  | input => digits? Char.isDigit input

/-- The value of digits in a base. -/
def digitsValue (base : Nat) (digits : List Char) : Nat :=
  digits.foldl (fun value char => value * base + (Numeral.hexValue? char).getD 0) 0

/-- An integer of 64 bits. -/
def integer? (value : Int) : Option Toml :=
  if -(Nat.pow 2 63) ≤ value ∧ value < Nat.pow 2 63 then some (.integer value) else none

/-- A sign and what follows: whether it is a minus, or nothing where there is no sign. -/
def sign (input : List Char) : Bool × List Char :=
  match input with
  | '+' :: rest => (false, rest)
  | '-' :: rest => (true, rest)
  | _ => (false, input)

/-- An integer with the mark of its base. -/
def based? (base : Nat) (input : List Char) : Option (Toml × List Char) := do
  let isDigit (char : Char) : Bool := match Numeral.hexValue? char with
    | some value => value < base
    | none => false
  let (digits, rest) ← digits? isDigit input
  return (← integer? (digitsValue base digits), rest)

/-- The digits after a point, if there are any. -/
def fraction? : List Char → Option (List Char × List Char)
  | '.' :: rest => digits? Char.isDigit rest
  | _ => none

/-- The power of ten after its letter, if there is one. -/
def exponent? : List Char → Option (Int × List Char)
  | char :: rest =>
      if char = 'e' ∨ char = 'E' then do
        let (negative, rest) := sign rest
        let (digits, rest) ← digits? Char.isDigit rest
        let size : Int := digitsValue 10 digits
        return (if negative then -size else size, rest)
      else none
  | [] => none

/-- A number with a fraction or an exponent. Overflow is refused upwards only. -/
def decimal? (negative : Bool) (whole fraction : List Char) (power : Int) (rest : List Char) :
    Option (Toml × List Char) :=
  let digits := whole ++ fraction
  let value := Double.ofDecimal negative (digitsValue 10 digits) (power - fraction.length)
  if value.isInf ∧ !negative then none else some (.float value, rest)

/-- A decimal number and what follows. -/
def number? (input : List Char) : Option (Toml × List Char) :=
  match input with
  | '0' :: 'x' :: rest => based? 16 rest
  | '0' :: 'o' :: rest => based? 8 rest
  | '0' :: 'b' :: rest => based? 2 rest
  | _ =>
      let (negative, unsigned) := sign input
      match unsigned with
      | 'i' :: 'n' :: 'f' :: rest =>
          some (.float (Float.ofBits (if negative then 0xFFF0000000000000 else 0x7FF0000000000000)), rest)
      | 'n' :: 'a' :: 'n' :: rest =>
          some (.float (Float.ofBits (if negative then 0xFFF8000000000000 else 0x7FF8000000000000)), rest)
      | _ => do
          let (whole, rest) ← wholeDigits? unsigned
          match fraction? rest, exponent? rest with
          | some (fraction, rest), _ =>
              let (power, rest) := (exponent? rest).getD (0, rest)
              decimal? negative whole fraction power rest
          | none, some (power, rest) => decimal? negative whole [] power rest
          | none, none =>
              let size : Int := digitsValue 10 whole
              return (← integer? (if negative then -size else size), rest)

end RecordSink.Toml
