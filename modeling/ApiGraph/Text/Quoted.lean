/-
# Quoted text

Messages show strings in double quotes.  A quote and a backslash are escaped
with a backslash, tab, newline, carriage return and the null character by their
letter, and every other character that is not printable by its code point in
hexadecimal, as in `\u{1b}`.
-/

import ApiGraph.Text.Character

namespace ApiGraph
namespace Text

/-- One character inside double quotes. -/
def quotedChar (c : Char) : List Char :=
  if c = '"' then ['\\', '"']
  else if c = '\\' then ['\\', '\\']
  else if c = '\n' then ['\\', 'n']
  else if c = '\t' then ['\\', 't']
  else if c = '\r' then ['\\', 'r']
  else if c = '\x00' then ['\\', '0']
  else if isPrintable c then [c]
  else ['\\', 'u', '{'] ++ Nat.toDigits 16 c.toNat ++ ['}']

/-- The text in double quotes, with what is not printable escaped. -/
def quoted (s : String) : String :=
  String.ofList ('"' :: s.toList.flatMap quotedChar ++ ['"'])

end Text
end ApiGraph
