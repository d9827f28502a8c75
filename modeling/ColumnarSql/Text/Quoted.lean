import ColumnarSql.Text.Printable

/-!
# Quoted text

A text in double quotes. Tab, line feed, carriage return, NUL, the quote and
the backslash have escapes of two characters; unprintable characters and
grapheme extenders are written by their code point in hexadecimal.
-/

set_option autoImplicit false

namespace ColumnarSql.Text

/-- `\u` and the code point in braces, without leading zeros. -/
def codePointEscape (c : Char) : List Char :=
  '\\' :: 'u' :: '\x7b' :: Nat.toDigits 16 c.toNat ++ ['\x7d']

/-- One character as it stands between double quotes. -/
def escapeChar (c : Char) : List Char :=
  if c = '\x00' then ['\\', '0']
  else if c = '\t' then ['\\', 't']
  else if c = '\n' then ['\\', 'n']
  else if c = '\r' then ['\\', 'r']
  else if c = '"' || c = '\\' then ['\\', c]
  else if isGraphemeExtend c || !isPrintable c then codePointEscape c
  else [c]

/-- The text in double quotes. -/
def quoted (s : String) : String :=
  String.ofList ('"' :: s.toList.flatMap escapeChar ++ ['"'])

end ColumnarSql.Text
