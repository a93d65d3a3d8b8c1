import RecordSink.Text.Marks

/-!
# Directions

The direction in which a label is read. A name with a character from right to left has to be
readable without doubt: each of its labels goes in one direction, begins with a letter and ends with
a letter or a number of that direction. The ranges hold for the characters that may stand in a name.
-/

namespace RecordSink.Url.Domain

/-- The direction of a character. -/
inductive Direction where
  | leftToRight
  | rightToLeft
  | arabicNumber
  | europeanNumber
  /-- A mark takes the direction of its base. -/
  | mark
  | neutral
  deriving DecidableEq, Repr

/-- The letters written from right to left. -/
def rightToLeft : Text.Ranges :=
  #[(0x5be, 0x5f4), (0x608, 0x608), (0x60b, 0x60b), (0x60d, 0x60d), (0x61b, 0x64a),
    (0x66d, 0x6d5), (0x6e5, 0x6e6), (0x6ee, 0x6ef), (0x6fa, 0x7f5), (0x7fa, 0x8c9),
    (0xfbb2, 0xfbc2), (0xfe73, 0xfe73), (0x10800, 0x1091b), (0x10920, 0x10b35),
    (0x10b40, 0x10d23), (0x10d40, 0x10d4f), (0x10d6f, 0x10d8f), (0x10e80, 0x10ed0),
    (0x10f00, 0x10ff6), (0x1e800, 0x1ed3d)]

/-- The numbers of Arabic scripts. -/
def arabicNumbers : Text.Ranges :=
  #[(0x660, 0x669), (0x66b, 0x66c), (0x10d30, 0x10d39), (0x10e60, 0x10e7e)]

/-- The numbers of other scripts that are read like European ones. -/
def europeanNumbers : Text.Ranges :=
  #[(0x6f0, 0x6f9), (0x102e1, 0x102fb)]

/-- The characters without a direction. -/
def neutrals : Text.Ranges :=
  #[(0xa1, 0xd7), (0xf7, 0xf7), (0x2b9, 0x2ba), (0x2c2, 0x2cf), (0x2d2, 0x2ed), (0x2ef, 0x2ff),
    (0x375, 0x375), (0x3f6, 0x3f6), (0x58a, 0x58f), (0x606, 0x607), (0x609, 0x60a),
    (0x60c, 0x60c), (0x60e, 0x60f), (0x66a, 0x66a), (0x6de, 0x6de), (0x6e9, 0x6e9),
    (0x7f6, 0x7f9), (0x9f2, 0x9f3), (0x9fb, 0x9fb), (0xaf1, 0xaf1), (0xbf3, 0xbfa),
    (0xc78, 0xc7e), (0xe3f, 0xe3f), (0xf3a, 0xf3d), (0x1390, 0x1399), (0x1400, 0x1400),
    (0x169b, 0x169c), (0x17db, 0x17db), (0x17f0, 0x180a), (0x1940, 0x1945), (0x19de, 0x19ff),
    (0x200c, 0x214d), (0x218a, 0x2335), (0x237b, 0x2394), (0x2396, 0x26ab), (0x26ad, 0x27ff),
    (0x2900, 0x2bff), (0x2ce5, 0x2cea), (0x2cf9, 0x2cff), (0x2e00, 0x3004), (0x3008, 0x3020),
    (0x3030, 0x3030), (0x3037, 0x3037), (0x303d, 0x303f), (0x30a0, 0x30a0), (0x30fb, 0x30fb),
    (0x31c0, 0x31e5), (0x4dc0, 0x4dff), (0xa490, 0xa4c6), (0xa60d, 0xa60f), (0xa673, 0xa67f),
    (0xa700, 0xa721), (0xa788, 0xa788), (0xa828, 0xa82b), (0xa838, 0xa839), (0xa874, 0xa877),
    (0xab6a, 0xab6b), (0xfbc3, 0xfe46), (0x10101, 0x10101), (0x10140, 0x1018c),
    (0x10190, 0x101a0), (0x1091f, 0x1091f), (0x10b39, 0x10b3f), (0x10d6e, 0x10d6e),
    (0x10ed1, 0x10ed8), (0x11052, 0x11065), (0x11660, 0x1166c), (0x11fd5, 0x11ff1),
    (0x16fe2, 0x16fe2), (0x1cc00, 0x1cef0), (0x1d1e9, 0x1d245), (0x1d300, 0x1d356),
    (0x1e2ff, 0x1e2ff), (0x1eef0, 0x1f12f), (0x1f16d, 0x1f16f), (0x1f1ad, 0x1f1ad),
    (0x1f260, 0x1fbfa)]

/-- The marks without width that are written from left to right all the same. -/
def markedLetters : List Nat := [0xCBF, 0xCC6, 0x11A07, 0x11A08, 0x11C3F]

/-- The direction of a character that may stand in a name. -/
def direction (char : Char) : Direction :=
  if char.toNat < 128 then
    if char.isAlpha then .leftToRight else if char.isDigit then .europeanNumber else .neutral
  else if Text.nonspacing.contains char && !markedLetters.contains char.toNat then .mark
  else if rightToLeft.contains char then .rightToLeft
  else if arabicNumbers.contains char then .arabicNumber
  else if europeanNumbers.contains char then .europeanNumber
  else if neutrals.contains char then .neutral
  else .leftToRight

/-- A label with a character that is read from right to left. -/
def isBidirectional (label : List Char) : Bool :=
  label.any fun char => [.rightToLeft, .arabicNumber].contains (direction char)

/-- A label that goes in one direction. Marks at its end do not count, and a label from right to
left has numbers of one kind. -/
def isDirected (label : List Char) : Bool :=
  match label.map direction with
  | [] => true
  | first :: rest =>
      let rest := (rest.reverse.dropWhile (· == .mark)).reverse
      let endsIn (allowed : List Direction) : Bool :=
        match rest.getLast? with
        | some last => allowed.contains last
        | none => true
      match first with
      | .leftToRight =>
          !rest.contains .rightToLeft && !rest.contains .arabicNumber
            && endsIn [.leftToRight, .europeanNumber]
      | .rightToLeft =>
          !rest.contains .leftToRight && endsIn [.rightToLeft, .arabicNumber, .europeanNumber]
            && !(rest.contains .arabicNumber && rest.contains .europeanNumber)
      | _ => false

end RecordSink.Url.Domain
