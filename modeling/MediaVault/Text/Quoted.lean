import MediaVault.Text.Hex
import MediaVault.Text.Printable

/-!
# Quoted text in messages

Where a message shows a text between double quotes, the quote, the backslash
and every character that cannot be shown alone are escaped.
-/

namespace MediaVault.Text

/-- The hexadecimal digits of a code point, without leading zeros. -/
def hexNumeral (n : Nat) : List Char :=
  Nat.toDigits 16 n

/-- How one character is written between quotes. -/
def displayEscape (c : Char) : List Char :=
  if c = '"' then ['\\', '"']
  else if c = '\\' then ['\\', '\\']
  else if c = '\n' then ['\\', 'n']
  else if c = '\r' then ['\\', 'r']
  else if c = '\t' then ['\\', 't']
  else if c.toNat = 0 then ['\\', '0']
  else if isPrintable c then [c]
  else '\\' :: 'u' :: '{' :: hexNumeral c.toNat ++ ['}']

/-- The text between double quotes. -/
def quoteForDisplay (s : String) : String :=
  String.ofList ('"' :: s.toList.flatMap displayEscape ++ ['"'])

end MediaVault.Text
