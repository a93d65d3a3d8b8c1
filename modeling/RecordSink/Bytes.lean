/-!
# Byte strings

Byte strings are lists of bytes. This module holds the two readings of a byte string that the
library needs: fixed-width little-endian numbers and UTF-8 text. A number of `n` bytes is read
back as written, a text is read back as written, and a byte string that is no text is shown
with one replacement character for each maximal malformed piece.
-/

namespace RecordSink

/-- A byte string. -/
abbrev Bytes := List UInt8

/-- The sum of a measure over a list. -/
def sumOver {α : Type} (measure : α → Nat) (items : List α) : Nat :=
  items.foldr (fun item sum => measure item + sum) 0

@[simp]
theorem sumOver_nil {α : Type} (measure : α → Nat) : sumOver measure [] = 0 := rfl

@[simp]
theorem sumOver_cons {α : Type} (measure : α → Nat) (item : α) (rest : List α) :
    sumOver measure (item :: rest) = measure item + sumOver measure rest := rfl

theorem sumOver_append {α : Type} (measure : α → Nat) (first second : List α) :
    sumOver measure (first ++ second) = sumOver measure first + sumOver measure second := by
  induction first with
  | nil => simp
  | cons item rest ih => simp [ih, Nat.add_assoc]

namespace Bytes

/-! ## Little-endian numbers -/

/-- The `width` low-order bytes of a number, least significant byte first. -/
def ofNatLE : Nat → Nat → Bytes
  | 0, _ => []
  | width + 1, value => UInt8.ofNat value :: ofNatLE width (value / 256)

/-- The number spelled by a byte string, least significant byte first. -/
def toNatLE : Bytes → Nat
  | [] => 0
  | byte :: rest => byte.toNat + 256 * toNatLE rest

@[simp]
theorem length_ofNatLE (width value : Nat) : (ofNatLE width value).length = width := by
  induction width generalizing value with
  | zero => rfl
  | succ width ih => simp [ofNatLE, ih]

/-- A number that fits its width is read back as written. -/
theorem toNatLE_ofNatLE {width value : Nat} (fits : value < Nat.pow 256 width) :
    toNatLE (ofNatLE width value) = value := by
  induction width generalizing value with
  | zero =>
      have none : value < 1 := fits
      simp [ofNatLE, toNatLE]
      omega
  | succ width ih =>
      have small : value / 256 < Nat.pow 256 width := by
        have raised : value < Nat.pow 256 width * 256 := fits
        exact Nat.div_lt_of_lt_mul (by omega)
      simp only [ofNatLE, toNatLE, ih small, UInt8.toNat_ofNat']
      omega

/-- A byte string is the little-endian form of the number it spells. -/
theorem ofNatLE_toNatLE (bytes : Bytes) : ofNatLE bytes.length (toNatLE bytes) = bytes := by
  induction bytes with
  | nil => rfl
  | cons byte rest ih =>
      have low : UInt8.ofNat (byte.toNat + 256 * toNatLE rest) = byte := by
        apply UInt8.toNat_inj.mp
        have := byte.toNat_lt
        simp only [UInt8.toNat_ofNat']
        omega
      have high : (byte.toNat + 256 * toNatLE rest) / 256 = toNatLE rest := by
        have := byte.toNat_lt
        omega
      simp only [List.length_cons, toNatLE, ofNatLE, low, high, ih]

/-- A byte string of `width` bytes spells a number below `256 ^ width`. -/
theorem toNatLE_lt (bytes : Bytes) : toNatLE bytes < Nat.pow 256 bytes.length := by
  induction bytes with
  | nil => simp [toNatLE]
  | cons byte rest ih =>
      have := byte.toNat_lt
      have raised : Nat.pow 256 (rest.length + 1) = Nat.pow 256 rest.length * 256 := rfl
      simp only [toNatLE, List.length_cons, raised]
      omega

/-! ## Text -/

/-- The UTF-8 bytes of a text. -/
def ofText (text : String) : Bytes := text.toByteArray.data.toList

/-- The text a byte string spells in UTF-8, if it spells one. -/
def text? (bytes : Bytes) : Option String := String.fromUTF8? ⟨bytes.toArray⟩

@[simp]
theorem text?_ofText (text : String) : text? (ofText text) = some text := by
  have same : (⟨(ofText text).toArray⟩ : ByteArray) = text.toByteArray := by simp [ofText]
  simp [text?, same, String.fromUTF8?, String.fromUTF8, text.isValidUTF8]

/-- Only the UTF-8 bytes of a text are read as that text. -/
theorem text?_eq_some_iff {bytes : Bytes} {text : String} :
    text? bytes = some text ↔ bytes = ofText text := by
  constructor
  · intro read
    simp only [text?, String.fromUTF8?] at read
    split at read
    · cases read; simp [ofText, String.fromUTF8]
    · cases read
  · rintro rfl
    exact text?_ofText text

theorem ofText_append (first second : String) :
    ofText (first ++ second) = ofText first ++ ofText second := by
  simp [ofText, String.toByteArray_append]

/-- The text of a byte string in ASCII. -/
def asciiText (bytes : Bytes) : String :=
  String.ofList (bytes.map fun byte => Char.ofNat byte.toNat)

theorem toNat_ofNat_small {point : Nat} (small : point < 128) : (Char.ofNat point).toNat = point := by
  have all : ∀ value : Fin 128, (Char.ofNat value.val).toNat = value.val := by decide
  exact all ⟨point, small⟩

/-- The bytes of an ASCII text are the bytes it was made from. -/
theorem ofText_asciiText {bytes : Bytes} (ascii : ∀ byte ∈ bytes, byte.toNat < 128) :
    ofText (asciiText bytes) = bytes := by
  have spelled : (bytes.map fun byte => Char.ofNat byte.toNat).flatMap String.utf8EncodeChar = bytes := by
    induction bytes with
    | nil => rfl
    | cons byte rest ih =>
        have small := ascii byte (by simp)
        have single : String.utf8EncodeChar (Char.ofNat byte.toNat) = [byte] := by
          have value := toNat_ofNat_small small
          simp only [String.utf8EncodeChar, Char.toNat_val, value]
          rw [if_pos (by omega)]
          simp
        simp only [List.map_cons, List.flatMap_cons, single]
        rw [ih (fun other inside => ascii other (by simp [inside]))]
        rfl
  simp only [ofText, asciiText, String.toByteArray_ofList, List.utf8Encode, spelled]
  simp

/-- Different texts have different bytes. -/
theorem ofText_injective {first second : String} (same : ofText first = ofText second) :
    first = second := by
  have read := text?_ofText first
  rw [same, text?_ofText] at read
  exact (Option.some.inj read).symm

/-- A continuation byte of UTF-8. -/
def isTail (byte : UInt8) : Bool := 0x80 ≤ byte && byte ≤ 0xBF

/-- The second bytes that may follow a lead byte, and how many bytes follow in all. -/
def followers (lead : UInt8) : Option ((UInt8 → Bool) × Nat) :=
  if 0xC2 ≤ lead && lead ≤ 0xDF then some (isTail, 1)
  else if lead = 0xE0 then some ((fun byte => 0xA0 ≤ byte && byte ≤ 0xBF), 2)
  else if lead = 0xED then some ((fun byte => 0x80 ≤ byte && byte ≤ 0x9F), 2)
  else if 0xE1 ≤ lead && lead ≤ 0xEF then some (isTail, 2)
  else if lead = 0xF0 then some ((fun byte => 0x90 ≤ byte && byte ≤ 0xBF), 3)
  else if 0xF1 ≤ lead && lead ≤ 0xF3 then some (isTail, 3)
  else if lead = 0xF4 then some ((fun byte => 0x80 ≤ byte && byte ≤ 0x8F), 3)
  else none

/-- How many of the bytes after a lead byte belong to its character or malformed piece. -/
def pieceTail (second : UInt8 → Bool) (count : Nat) (rest : Bytes) : Bytes :=
  match rest with
  | [] => []
  | byte :: more => if second byte then byte :: (more.take (count - 1)).takeWhile isTail else []

/-- The code point spelled by a lead byte and its continuation bytes. -/
def codePoint (lead : UInt8) (tail : Bytes) : Nat :=
  tail.foldl (fun point byte => point * 64 + byte.toNat % 64)
    (lead.toNat % Nat.pow 2 (6 - tail.length))

/-- The characters of a byte string, with one replacement character for each maximal malformed
piece. -/
def lossyChars : Bytes → List Char
  | [] => []
  | lead :: rest =>
      if lead < 0x80 then Char.ofNat lead.toNat :: lossyChars rest
      else match followers lead with
        | none => '\uFFFD' :: lossyChars rest
        | some (second, count) =>
            let tail := pieceTail second count rest
            let char := if tail.length = count then Char.ofNat (codePoint lead tail) else '\uFFFD'
            char :: lossyChars (rest.drop tail.length)
  termination_by bytes => bytes.length
  decreasing_by
    all_goals simp only [List.length_cons, List.length_drop]; omega

/-- The text of a byte string, malformed pieces replaced. -/
def lossyText (bytes : Bytes) : String :=
  (text? bytes).getD (String.ofList (lossyChars bytes))

@[simp]
theorem lossyText_ofText (text : String) : lossyText (ofText text) = text := by
  simp [lossyText]

end Bytes

end RecordSink
