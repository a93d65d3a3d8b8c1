import RecordSink.Numeral
import RecordSink.Text.Unprintable
import RecordSink.Text.Extending

/-!
# Escaped text

Text as messages show it: a backslash form for the usual control characters, quotation marks
and the backslash, and the number of any other character that cannot be seen. Quotation marks
are escaped only where the surrounding marks ask for it.
-/

namespace RecordSink.Text

/-- What an escaped text escapes besides the invisible characters. -/
structure Escaping where
  /-- Apostrophes are escaped. -/
  single : Bool
  /-- Quotation marks are escaped. -/
  double : Bool
  /-- Grapheme extenders are shown by number. -/
  extenders : Bool

/-- The number of a character in braces. -/
def numbered (char : Char) : List Char :=
  ['\\', 'u', '\x7b'] ++ Numeral.digits 16 char.toNat ++ ['\x7d']

/-- One character of an escaped text. -/
def Escaping.char (rules : Escaping) (char : Char) : List Char :=
  if char = '\x00' then ['\\', '0']
  else if char = '\t' then ['\\', 't']
  else if char = '\r' then ['\\', 'r']
  else if char = '\n' then ['\\', 'n']
  else if char = '\\' then ['\\', '\\']
  else if char = '\"' then if rules.double then ['\\', '\"'] else ['\"']
  else if char = '\'' then if rules.single then ['\\', '\''] else ['\'']
  else if rules.extenders && extending.contains char then numbered char
  else if unprintable.contains char then numbered char
  else [char]

/-- A text inside a sentence: both quotation marks are escaped, and an extender only where it
leads. -/
def escaped (text : String) : String :=
  match text.toList with
  | [] => ""
  | first :: rest =>
      String.ofList (Escaping.char ⟨true, true, true⟩ first
        ++ rest.flatMap (Escaping.char ⟨true, true, false⟩))

/-- A text between quotation marks. -/
def quoted (text : String) : String :=
  String.ofList ('\"' :: text.toList.flatMap (Escaping.char ⟨false, true, true⟩) ++ ['\"'])

/-- A character between apostrophes. -/
def quotedChar (char : Char) : String :=
  String.ofList ('\'' :: Escaping.char ⟨true, false, true⟩ char ++ ['\''])

end RecordSink.Text
