import RecordSink.Url
import RecordSink.Url.Domain

/-!
# Hosts

The host of a URL in its written form: a domain in ASCII, an IPv4 address in four decimal
parts, an IPv6 address in brackets with its longest run of zeros left out, or, outside the
schemes of the web, an opaque name.
-/

namespace RecordSink.Url.Host

/-! ## IPv4 addresses -/

/-- The value of digits in a base. -/
def valueIn? (base : Nat) (digits : List Char) : Option Nat :=
  digits.foldlM
    (fun value char => do
      let digit ← Numeral.hexValue? char
      if digit < base then some (value * base + digit) else none)
    0

/-- A part of an IPv4 address, decimal, octal after a zero or hexadecimal after `0x`. -/
def part? (written : List Char) : Option Nat :=
  match written with
  | [] => none
  | '0' :: 'x' :: rest => valueIn? 16 rest
  | '0' :: 'X' :: rest => valueIn? 16 rest
  | '0' :: digit :: rest => valueIn? 8 (digit :: rest)
  | digits => valueIn? 10 digits

/-- The parts of a domain, without an empty one at the end. -/
def parts (domain : String) : List (List Char) :=
  let list := domain.toList.splitOn '.'
  if 1 < list.length ∧ list.getLast? = some [] then list.dropLast else list

/-- A domain is meant as an IPv4 address when its last part is a number. -/
def endsInNumber (domain : String) : Bool :=
  match (parts domain).getLast? with
  | none => false
  | some last => (!last.isEmpty && last.all Char.isDigit) || (part? last).isSome

/-- The written form of an IPv4 address. -/
def ipv4Text (address : Nat) : String :=
  ".".intercalate ([24, 16, 8, 0].map fun shift => Numeral.decimal (address / Nat.pow 2 shift % 256))

/-- The IPv4 address of a domain that ends in a number: the last part fills the bytes that the
others leave. -/
def ipv4? (domain : String) : Option Nat := do
  let numbers ← (parts domain).mapM part?
  let last ← numbers.getLast?
  let leading := numbers.dropLast
  if 3 < leading.length ∨ leading.any (255 < ·) ∨ Nat.pow 256 (4 - leading.length) ≤ last then none
  else
    let (address, _) := leading.foldl
      (fun (sum, place) number => (sum + number * Nat.pow 256 place, place - 1)) (last, 3)
    return address

/-! ## IPv6 addresses -/

/-- The last two pieces of an IPv6 address written as an IPv4 address in four decimal parts. -/
def embedded? (written : List Char) : Option (List Nat) := do
  let numbers ← (written.splitOn '.').mapM fun part =>
    if part.isEmpty ∨ 3 < part.length ∨ (part.length ≠ 1 ∧ part.head? = some '0') then none
    else (Numeral.valueFrom? 0 part).filter (· < 256)
  match numbers with
  | [a, b, c, d] => some [a * 256 + b, c * 256 + d]
  | _ => none

/-- The pieces of a run of groups between colons; the last group may be an IPv4 address. -/
def pieces? : List (List Char) → Option (List Nat)
  | [] => some []
  | [group] =>
      if group.contains '.' then embedded? group
      else if group.isEmpty ∨ 4 < group.length then none
      else (valueIn? 16 group).map ([·])
  | group :: rest => do
      if group.isEmpty ∨ 4 < group.length then none
      else return (← valueIn? 16 group) :: (← pieces? rest)

/-- The groups before and after a double colon. -/
def splitDouble : List Char → Option (List Char × List Char)
  | ':' :: ':' :: rest => some ([], rest)
  | char :: rest => (splitDouble rest).map fun (before, after) => (char :: before, after)
  | [] => none

/-- The groups of a text between colons; none in the empty text. -/
def groups (written : List Char) : List (List Char) :=
  if written.isEmpty then [] else written.splitOn ':'

/-- The eight pieces of an IPv6 address. -/
def ipv6? (written : List Char) : Option (List Nat) := do
  match splitDouble written with
  | none =>
      let list ← pieces? (groups written)
      if list.length = 8 then some list else none
  | some (before, after) =>
      if before.contains '.' then none
      else
        let front ← pieces? (groups before)
        let back ← pieces? (groups after)
        let missing := 8 - front.length - back.length
        if missing = 0 then none
        else return front ++ List.replicate missing 0 ++ back

/-- The length of the run of zeros in front. -/
def zeros (list : List Nat) : Nat := (list.takeWhile (· == 0)).length

/-- The first longest run of at least two zeros, as its place and length. -/
def longestZeros (list : List Nat) : Option (Nat × Nat) :=
  ((List.range list.length).map fun place => (place, zeros (list.drop place))).foldl
    (fun best (place, length) =>
      match best with
      | some (_, longest) => if longest < length then some (place, length) else best
      | none => if 2 ≤ length then some (place, length) else none)
    none

/-- The written form of an IPv6 address. -/
def ipv6Text (list : List Nat) : String :=
  let run (pieces : List Nat) := ":".intercalate (pieces.map fun piece => String.ofList (Numeral.digits 16 piece))
  match longestZeros list with
  | none => "[" ++ run list ++ "]"
  | some (place, length) => "[" ++ run (list.take place) ++ "::" ++ run (list.drop (place + length)) ++ "]"

/-! ## Hosts -/

/-- An IPv6 address between brackets. -/
def bracketed? (inside : List Char) : Except UrlError String :=
  match inside.getLast?, ipv6? inside.dropLast with
  | some ']', some list => .ok (ipv6Text list)
  | _, _ => .error .ipv6Address

/-- The host of a URL of the web. -/
def web? (written : List Char) : Except UrlError String :=
  match written with
  | '[' :: inside => bracketed? inside
  | _ =>
      let bytes := Percent.decode (Bytes.ofText (String.ofList written))
      match (Bytes.text? bytes).bind Domain.ascii? with
      | none => .error .internationalName
      | some domain =>
          if domain.isEmpty then .error .emptyHost
          else if endsInNumber domain then
            match ipv4? domain with
            | some address => .ok (ipv4Text address)
            | none => .error .ipv4Address
          else .ok domain

/-- The host of any other URL: its characters as they are, those beyond ASCII escaped. -/
def opaqueHost? (written : List Char) : Except UrlError String :=
  match written with
  | '[' :: inside => bracketed? inside
  | _ =>
      let denied := ['\x00', '\t', '\n', '\r', ' ', '#', '/', ':', '<', '>', '?', '@', '[', '\\', ']', '^', '|']
      if written.any denied.contains then .error .domainCharacter
      else .ok (Percent.encodeText Percent.control (String.ofList written))

end RecordSink.Url.Host
