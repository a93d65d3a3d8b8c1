/-!
# Numerals

Written natural numbers: decimal and hexadecimal digits, and the reading of a counter from
text. A decimal numeral is read back as the number it was written from.
-/

namespace RecordSink.Numeral

/-- The digit character of a value below sixteen. -/
def digitChar (value : Nat) : Char :=
  if value < 10 then Char.ofNat (48 + value) else Char.ofNat (87 + value)

/-- The value of a hexadecimal digit in either case. -/
def hexValue? (char : Char) : Option Nat :=
  if '0' ≤ char ∧ char ≤ '9' then some (char.toNat - 48)
  else if 'a' ≤ char ∧ char ≤ 'f' then some (char.toNat - 87)
  else if 'A' ≤ char ∧ char ≤ 'F' then some (char.toNat - 55)
  else none

/-- The value of a decimal digit. -/
def digitValue? (char : Char) : Option Nat :=
  if '0' ≤ char ∧ char ≤ '9' then some (char.toNat - 48) else none

theorem digitValue?_digitChar {value : Nat} (small : value < 10) :
    digitValue? (digitChar value) = some value := by
  have all : ∀ digit : Fin 10, digitValue? (digitChar digit) = some digit.val := by decide
  exact all ⟨value, small⟩

/-- The digits of a number in a base of at least two, most significant first. -/
def digits (base : Nat) (value : Nat) : List Char :=
  if _two : 2 ≤ base then
    if value < base then [digitChar value]
    else digits base (value / base) ++ [digitChar (value % base)]
  else []
  termination_by value
  decreasing_by exact Nat.div_lt_self (by omega) _two

/-- The decimal numeral of a number. -/
def decimal (value : Nat) : String := String.ofList (digits 10 value)

/-- The hexadecimal numeral of a number, filled with zeros on the left up to a width. -/
def hex (width value : Nat) : String :=
  let written := digits 16 value
  String.ofList (List.replicate (width - written.length) '0' ++ written)

/-- The number spelled by decimal digits after those of `start`. -/
def valueFrom? (start : Nat) : List Char → Option Nat
  | [] => some start
  | char :: rest => do valueFrom? (start * 10 + (← digitValue? char)) rest

theorem valueFrom?_append (start : Nat) (first second : List Char) :
    valueFrom? start (first ++ second) =
      (valueFrom? start first).bind (fun value => valueFrom? value second) := by
  induction first generalizing start with
  | nil => rfl
  | cons char rest ih =>
      cases read : digitValue? char with
      | none => simp [valueFrom?, read]
      | some digit => simp [valueFrom?, read, ih]

/-- Digits of a number are read back as that number. -/
theorem valueFrom?_digits (value : Nat) : valueFrom? 0 (digits 10 value) = some value := by
  induction value using Nat.strongRecOn with
  | ind value ih =>
      unfold digits
      by_cases small : value < 10
      · simp [small, valueFrom?, digitValue?_digitChar small]
      · have last := digitValue?_digitChar (Nat.mod_lt value (by omega : 10 > 0))
        simp only [Nat.reduceLeDiff, ↓reduceDIte, small, ↓reduceIte, valueFrom?_append,
          ih (value / 10) (Nat.div_lt_self (by omega) (by omega)), Option.bind_some]
        simp only [valueFrom?, last, Option.bind_eq_bind, Option.bind_some]
        congr 1
        omega

theorem digits_ne_nil (value : Nat) : digits 10 value ≠ [] := by
  unfold digits
  by_cases small : value < 10 <;> simp [small]

/-- Every character of a decimal numeral is a digit. -/
theorem exists_digit {value : Nat} {char : Char} (inside : char ∈ digits 10 value) :
    ∃ digit : Fin 10, char = digitChar digit := by
  induction value using Nat.strongRecOn with
  | ind value ih =>
      unfold digits at inside
      by_cases small : value < 10
      · simp only [Nat.reduceLeDiff, ↓reduceDIte, small, ↓reduceIte, List.mem_singleton] at inside
        exact ⟨⟨value, small⟩, inside⟩
      · simp only [Nat.reduceLeDiff, ↓reduceDIte, small, ↓reduceIte, List.mem_append,
          List.mem_singleton] at inside
        rcases inside with high | last
        · exact ih (value / 10) (Nat.div_lt_self (by omega) (by omega)) high
        · exact ⟨⟨value % 10, Nat.mod_lt _ (by omega)⟩, last⟩

/-- A number below a power of ten has at most so many digits. -/
theorem length_digits_le {value : Nat} (exponent : Nat) (small : value < Nat.pow 10 (exponent + 1)) :
    (digits 10 value).length ≤ exponent + 1 := by
  induction exponent generalizing value with
  | zero => simp [digits, show value < 10 from small]
  | succ exponent ih =>
      unfold digits
      by_cases single : value < 10
      · simp [single]
      · have tenth : value / 10 < Nat.pow 10 (exponent + 1) := Nat.div_lt_of_lt_mul (Nat.mul_comm _ 10 ▸ small)
        simpa [single] using ih tenth

/-- The number of a decimal numeral below a bound: at least one digit, with one plus sign
allowed in front. -/
def readBelow? (bound : Nat) (text : String) : Option Nat :=
  let written := match text.toList with
    | '+' :: rest => rest
    | other => other
  if written.isEmpty then none
  else (valueFrom? 0 written).filter (· < bound)

/-- The number of a decimal numeral that fits 64 bits. -/
def readCounter? (text : String) : Option Nat := readBelow? (Nat.pow 2 64) text

theorem head?_digits_ne_plus (value : Nat) : (digits 10 value).head? ≠ some '+' := by
  intro plus
  have all : ∀ digit : Fin 10, '+' ≠ digitChar digit := by decide
  obtain ⟨digit, same⟩ := exists_digit (List.mem_of_mem_head? plus)
  exact all digit same

/-- A number is read back from its decimal numeral exactly where it is below the bound. -/
theorem readBelow?_decimal (bound value : Nat) :
    readBelow? bound (decimal value) = (some value).filter (· < bound) := by
  have noPlus := head?_digits_ne_plus value
  have read := valueFrom?_digits value
  have nonempty := digits_ne_nil value
  simp only [readBelow?, decimal, String.toList_ofList]
  cases shape : digits 10 value with
  | nil => exact absurd shape nonempty
  | cons first rest =>
      rw [shape] at noPlus read
      split
      · rename_i same
        cases same
        simp at noPlus
      · simp only [List.isEmpty_cons, Bool.false_eq_true, ↓reduceIte, read]

/-- A counter below `2 ^ 64` is read back from its decimal numeral. -/
theorem readCounter?_decimal {value : Nat} (fits : value < Nat.pow 2 64) :
    readCounter? (decimal value) = some value := by
  rw [readCounter?, readBelow?_decimal, Option.filter_some, if_pos (by simpa using fits)]

/-- A counter that is read from a decimal numeral is the number it was written from. -/
theorem eq_of_readCounter?_decimal {value read : Nat} (found : readCounter? (decimal value) = some read) :
    value = read := by
  rw [readCounter?, readBelow?_decimal, Option.filter_some] at found
  split at found
  · exact Option.some.inj found
  · cases found

/-- Different numbers have different decimal numerals. -/
theorem decimal_injective {first second : Nat} (same : decimal first = decimal second) :
    first = second := by
  have lists : digits 10 first = digits 10 second := by
    simpa [decimal] using congrArg String.toList same
  have read := valueFrom?_digits first
  rw [lists, valueFrom?_digits] at read
  exact (Option.some.inj read).symm

end RecordSink.Numeral
