import Parley.Text.Visible

/-!
# Quoted texts

`quoted` puts a text between double quotes, with a backslash before quotes and backslashes, short
forms for the common controls, and `\u` with the code point in braces for everything else that is
not visible.
-/

namespace Parley.Text

/-- Hexadecimal digits in lower case, without leading zeros. -/
def hexChars (n : Nat) : List Char := Nat.toDigits 16 n

/-- How a character stands in a quoted text. -/
def quotedChar (c : Char) : List Char :=
  if c = '"' then ['\\', '"']
  else if c = '\\' then ['\\', '\\']
  else if c = '\n' then ['\\', 'n']
  else if c = '\t' then ['\\', 't']
  else if c = '\r' then ['\\', 'r']
  else if c.toNat = 0 then ['\\', '0']
  else if isVisible c then [c]
  else ['\\', 'u', '\x7b'] ++ hexChars c.toNat ++ ['\x7d']

/-- A text between double quotes. -/
def quoted (s : String) : String :=
  String.ofList (['"'] ++ s.toList.flatMap quotedChar ++ ['"'])

end Parley.Text
