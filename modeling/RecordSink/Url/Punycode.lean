/-!
# Punycode

The encoding of a label beyond ASCII by its ASCII characters and the differences between the
others in increasing order. Each loop runs on a quantity that falls.
-/

namespace RecordSink.Url.Punycode

/-- A digit in base thirty-six. -/
def digit (value : Nat) : Char :=
  if value < 26 then Char.ofNat (97 + value) else Char.ofNat (22 + value)

/-- The value of a digit in base thirty-six. -/
def digitValue? (char : Char) : Option Nat :=
  if 'a' ≤ char ∧ char ≤ 'z' then some (char.toNat - 97)
  else if 'A' ≤ char ∧ char ≤ 'Z' then some (char.toNat - 65)
  else if '0' ≤ char ∧ char ≤ '9' then some (char.toNat - 22)
  else none

/-- The threshold of a digit position. -/
def threshold (position bias : Nat) : Nat := min 26 (max 1 (position - bias))

theorem threshold_bounds (position bias : Nat) :
    1 ≤ threshold position bias ∧ threshold position bias ≤ 26 := by
  simp only [threshold]
  omega

/-- The part of the bias that comes from the size of a difference. -/
def shrink (delta steps : Nat) : Nat :=
  if 455 < delta then shrink (delta / 35) (steps + 36) else steps + 36 * delta / (delta + 38)
  termination_by delta

/-- The bias after a difference. -/
def adapt (delta points : Nat) (first : Bool) : Nat :=
  let delta := if first then delta / 700 else delta / 2
  shrink (delta + delta / points) 0

/-- A difference as digits. -/
def spread (bias position value : Nat) : List Char :=
  let limit := threshold position bias
  if value < limit then [digit value]
  else
    digit (limit + (value - limit) % (36 - limit))
      :: spread bias (position + 36) ((value - limit) / (36 - limit))
  termination_by value
  decreasing_by
    have bounds := threshold_bounds position bias
    have : (value - threshold position bias) / (36 - threshold position bias)
        ≤ value - threshold position bias := Nat.div_le_self _ _
    omega

/-- The state of an encoding run. -/
structure Run where
  written : List Char
  delta : Nat
  bias : Nat
  handled : Nat

/-- One character of the label while the code point `point` is being placed. -/
def Run.see (basic point : Nat) (run : Run) (char : Char) : Run :=
  if char.toNat < point then { run with delta := run.delta + 1 }
  else if char.toNat = point then
    { written := run.written ++ spread run.bias 36 run.delta
      delta := 0
      bias := adapt run.delta (run.handled + 1) (run.handled == basic)
      handled := run.handled + 1 }
  else run

/-- The distinct code points beyond ASCII in increasing order. -/
def points (label : List Char) : List Nat :=
  (((label.map Char.toNat).filter (128 ≤ ·)).mergeSort).eraseDups

/-- The encoding of a label, without a prefix. -/
def encode (label : List Char) : List Char :=
  let basic := label.filter (·.toNat < 128)
  let start : Run := ⟨basic ++ (if basic.isEmpty then [] else ['-']), 0, 72, basic.length⟩
  let place (state : Run × Nat) (point : Nat) : Run × Nat :=
    let (run, next) := state
    let run := { run with delta := run.delta + (point - next) * (run.handled + 1) }
    let run := label.foldl (Run.see basic.length point) run
    ({ run with delta := run.delta + 1 }, point + 1)
  ((points label).foldl place (start, 128)).1.written

/-- The numbers that a reader takes are below this bound. -/
def bound : Nat := Nat.pow 2 32

/-- A difference read from digits, added to `value`, and what follows it. -/
def readSpread? (bias : Nat) : List Char → Nat → Nat → Nat → Option (Nat × List Char)
  | [], _, _, _ => none
  | char :: rest, position, weight, value => do
      let digit ← digitValue? char
      let value := value + digit * weight
      let limit := threshold position bias
      if bound ≤ value then none
      else if digit < limit then return (value, rest)
      else if bound ≤ weight * (36 - limit) then none
      else readSpread? bias rest (position + 36) (weight * (36 - limit)) value

/-- The code points of a label whose differences are still to be placed. -/
def place? : Nat → List Char → List Nat → Nat → Nat → Nat → Option (List Nat)
  | _, [], placed, _, _, _ => some placed
  | 0, _ :: _, _, _, _, _ => none
  | turns + 1, input, placed, point, index, bias => do
      let (next, rest) ← readSpread? bias input 36 1 index
      let count := placed.length + 1
      let bias := adapt (next - index) count (index == 0)
      let point := point + next / count
      let place := next % count
      if point.isValidChar then
        place? turns rest (placed.take place ++ point :: placed.drop place) point (place + 1) bias
      else none

/-- The label of an encoding without its marker. The ASCII characters come first, and a hyphen ends
them; where there are none, there is no hyphen. -/
def decode? (written : List Char) : Option (List Char) := do
  let reversed := written.reverse
  let tail := (reversed.takeWhile (· != '-')).reverse
  let head := ((reversed.dropWhile (· != '-')).drop 1).reverse
  if written.head? = some '-' ∧ head.isEmpty then none
  else
    let points ← place? tail.length tail (head.map Char.toNat) 128 0 72
    return points.map Char.ofNat

end RecordSink.Url.Punycode
