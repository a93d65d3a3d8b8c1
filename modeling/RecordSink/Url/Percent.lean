import RecordSink.Bytes
import RecordSink.Numeral

/-!
# Percent encoding

Bytes that may not stand in a part of a URL are written as a percent sign and two capital
hexadecimal digits. Which bytes those are depends on the part. Decoding undoes the encoding of
every part that escapes the percent sign, whatever else it escapes.
-/

namespace RecordSink.Url.Percent

/-- A hexadecimal digit as a capital letter or a numeral. -/
def digit (value : Nat) : UInt8 := if value < 10 then UInt8.ofNat (48 + value) else UInt8.ofNat (55 + value)

/-- The value of a hexadecimal digit. -/
def digitValue? (byte : UInt8) : Option Nat := Numeral.hexValue? (Char.ofNat byte.toNat)

/-- A byte as a percent sign and two digits. -/
def escape (byte : UInt8) : Bytes := [0x25, digit (byte.toNat / 16), digit (byte.toNat % 16)]

/-- Bytes with those of a set escaped. -/
def encode (escapes : UInt8 → Bool) (bytes : Bytes) : Bytes :=
  bytes.flatMap fun byte => if escapes byte then escape byte else [byte]

/-- Bytes with every percent sign before two digits resolved. -/
def decode : Bytes → Bytes
  | [] => []
  | 0x25 :: high :: low :: rest =>
      match digitValue? high, digitValue? low with
      | some first, some second => UInt8.ofNat (first * 16 + second) :: decode rest
      | _, _ => 0x25 :: decode (high :: low :: rest)
  | byte :: rest => byte :: decode rest

theorem digitValue?_digit {value : Nat} (small : value < 16) : digitValue? (digit value) = some value := by
  have all : ∀ number : Fin 16, digitValue? (digit number.val) = some number.val := by decide
  exact all ⟨value, small⟩

theorem decode_escape (byte : UInt8) (rest : Bytes) : decode (escape byte ++ rest) = byte :: decode rest := by
  have bound := byte.toNat_lt
  have high := digitValue?_digit (show byte.toNat / 16 < 16 by omega)
  have low := digitValue?_digit (show byte.toNat % 16 < 16 by omega)
  have whole : byte.toNat / 16 * 16 + byte.toNat % 16 = byte.toNat := by omega
  simp [escape, decode, high, low, whole]

theorem decode_plain {byte : UInt8} (plain : byte ≠ 0x25) (rest : Bytes) :
    decode (byte :: rest) = byte :: decode rest := by
  conv => lhs; unfold decode
  split
  · rename_i same; cases same
  · rename_i same; cases same; exact absurd rfl plain
  · rename_i same; cases same; rfl

/-- Decoding undoes every encoding that escapes the percent sign. -/
theorem decode_encode {escapes : UInt8 → Bool} (percent : escapes 0x25 = true) (bytes : Bytes) :
    decode (encode escapes bytes) = bytes := by
  induction bytes with
  | nil => rfl
  | cons byte rest ih =>
      have shape : encode escapes (byte :: rest)
          = (if escapes byte then escape byte else [byte]) ++ encode escapes rest := rfl
      rw [shape]
      by_cases chosen : escapes byte = true
      · rw [if_pos chosen, decode_escape, ih]
      · rw [if_neg chosen]
        have plain : byte ≠ 0x25 := by
          rintro rfl
          exact chosen percent
        rw [List.singleton_append, decode_plain plain, ih]

/-- An encoding that escapes the bytes beyond ASCII is ASCII. -/
theorem encode_ascii {escapes : UInt8 → Bool} (beyond : ∀ byte : UInt8, 128 ≤ byte.toNat → escapes byte = true)
    (bytes : Bytes) : ∀ byte ∈ encode escapes bytes, byte.toNat < 128 := by
  have digits : ∀ number : Fin 16, (digit number.val).toNat < 128 := by decide
  intro byte inside
  simp only [encode, List.mem_flatMap] at inside
  obtain ⟨source, -, written⟩ := inside
  have bound := source.toNat_lt
  split at written
  · simp only [escape, List.mem_cons, List.not_mem_nil, or_false] at written
    rcases written with rfl | rfl | rfl
    · decide
    · exact digits ⟨source.toNat / 16, by omega⟩
    · exact digits ⟨source.toNat % 16, by omega⟩
  · rename_i kept
    simp only [List.mem_singleton] at written
    subst written
    apply Nat.lt_of_not_le
    intro high
    exact kept (beyond byte high)

/-! ## The sets -/

/-- Controls and every byte beyond ASCII. -/
def control (byte : UInt8) : Bool := byte < 0x20 || 0x7F ≤ byte

/-- One of the characters of an ASCII list. -/
def among (marks : List Char) (byte : UInt8) : Bool := marks.any fun mark => mark.toNat == byte.toNat

/-- What a fragment escapes. -/
def fragment (byte : UInt8) : Bool := control byte || among [' ', '\"', '<', '>', '\x60'] byte

/-- What a path escapes. -/
def path (byte : UInt8) : Bool := fragment byte || among ['#', '?', '\x7b', '\x7d'] byte

/-- What one segment of a path escapes: also the percent sign and the separators. A backslash
separates segments only where the scheme is special. -/
def segment (special : Bool) (byte : UInt8) : Bool :=
  path byte || among ['/', '%'] byte || (special && byte == 0x5C)

/-- What user information escapes. -/
def userinfo (byte : UInt8) : Bool :=
  path byte || among ['/', ':', ';', '=', '@', '[', '\\', ']', '^', '|'] byte

/-- What a query escapes; in the schemes of the web also the apostrophe. -/
def query (special : Bool) (byte : UInt8) : Bool :=
  control byte || among [' ', '\"', '#', '<', '>'] byte || (special && byte == 0x27)

/-- What a form component escapes: all but letters, digits and four marks. A space is written as
a plus sign, apart from the percent signs. -/
def form (byte : UInt8) : Bool :=
  !((0x30 ≤ byte && byte ≤ 0x39) || (0x41 ≤ byte && byte ≤ 0x5A) || (0x61 ≤ byte && byte ≤ 0x7A)
    || among ['*', '-', '.', '_'] byte)

/-- A text with the bytes of a set escaped. -/
def encodeText (escapes : UInt8 → Bool) (text : String) : String :=
  Bytes.asciiText (encode escapes (Bytes.ofText text))

/-- The text of an escaped text, malformed bytes replaced. -/
def decodeText (text : String) : String := Bytes.lossyText (decode (Bytes.ofText text))

theorem control_beyond (byte : UInt8) (high : 128 ≤ byte.toNat) : control byte = true := by
  have : (0x7F : UInt8) ≤ byte := UInt8.le_iff_toNat_le.mpr (by simpa using Nat.le_trans (by decide) high)
  simp [control, this]

/-- A text written as one path segment is read back. -/
theorem decodeText_segment (special : Bool) (text : String) :
    decodeText (encodeText (segment special) text) = text := by
  have beyond : ∀ byte : UInt8, 128 ≤ byte.toNat → segment special byte = true := by
    intro byte high
    simp [segment, path, fragment, control_beyond byte high]
  rw [decodeText, encodeText, Bytes.ofText_asciiText (encode_ascii beyond _),
    decode_encode (by cases special <;> decide), Bytes.lossyText_ofText]

end RecordSink.Url.Percent
