import RecordSink.Bytes
import RecordSink.Numeral

/-!
# Bytes in hexadecimal

Two digits a byte, the high one first and letters small. What is written is read back; capital
letters are read as well.
-/

namespace RecordSink.Text

/-- The two digits of a byte. -/
def hexDigits (byte : UInt8) : List Char :=
  [Numeral.digitChar (byte.toNat / 16), Numeral.digitChar (byte.toNat % 16)]

/-- The digits of bytes. -/
def hex (bytes : Bytes) : String := String.ofList (bytes.flatMap hexDigits)

/-- The bytes of digits, if they pair up. -/
def bytesOfDigits? : List Char → Option Bytes
  | [] => some []
  | high :: low :: rest => do
      let byte := (← Numeral.hexValue? high) * 16 + (← Numeral.hexValue? low)
      return UInt8.ofNat byte :: (← bytesOfDigits? rest)
  | [_] => none

/-- The bytes that a text spells in hexadecimal. -/
def ofHex? (text : String) : Option Bytes := bytesOfDigits? text.toList

theorem hexValue?_digitChar {value : Nat} (small : value < 16) :
    Numeral.hexValue? (Numeral.digitChar value) = some value := by
  have all : ∀ digit : Fin 16, Numeral.hexValue? (Numeral.digitChar digit) = some digit.val := by
    decide
  exact all ⟨value, small⟩

/-- Bytes are read back as written. -/
@[simp]
theorem ofHex?_hex (bytes : Bytes) : ofHex? (hex bytes) = some bytes := by
  simp only [ofHex?, hex, String.toList_ofList]
  induction bytes with
  | nil => rfl
  | cons byte rest ih =>
      have bound := byte.toNat_lt
      have high := hexValue?_digitChar (show byte.toNat / 16 < 16 by omega)
      have low := hexValue?_digitChar (show byte.toNat % 16 < 16 by omega)
      simp only [List.flatMap_cons, hexDigits, List.cons_append, List.nil_append, bytesOfDigits?,
        high, low, ih, Option.bind_eq_bind, Option.bind_some, Nat.div_add_mod']
      simp

end RecordSink.Text
