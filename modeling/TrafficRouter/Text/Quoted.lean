import TrafficRouter.Text.Printable

/-!
# Quoted text

A text between double quotes, written so that every character of it can be seen. The quote, the
backslash, the line ends, the tab and NUL have escapes of two characters; any other character
that is not printable is written as its code point in hexadecimal between braces; all else stands
for itself. An apostrophe is not escaped.
-/

namespace TrafficRouter.Text

/-- The written form of one character inside quotes. -/
def escape (c : Char) : List Char :=
  if c = '"' then ['\\', '"']
  else if c = '\\' then ['\\', '\\']
  else if c = '\n' then ['\\', 'n']
  else if c = '\r' then ['\\', 'r']
  else if c = '\t' then ['\\', 't']
  else if c.toNat = 0 then ['\\', '0']
  else if isPrintable c then [c]
  else ['\\', 'u', '\x7b'] ++ Nat.toDigits 16 c.toNat ++ ['\x7d']

/-- A text in quotes. -/
def quote (text : String) : String :=
  String.ofList ('"' :: (text.toList.flatMap escape ++ ['"']))

end TrafficRouter.Text
