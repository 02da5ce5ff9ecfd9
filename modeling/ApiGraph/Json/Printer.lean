/-
# JSON text

Two layouts: compact, without any blanks, and indented by two blanks a level,
where empty arrays and objects stay on one line.

Inside strings the quote, the backslash and the control characters are escaped,
the common ones by their letter, the others by four hexadecimal digits.  Floating
point numbers have the fewest digits that read back and always a point or an
exponent: positional from `10 ^ -5` to below `10 ^ 16`, else scientific with a
signed exponent.
-/

import ApiGraph.Json
import ApiGraph.Binary64.Shortest

namespace ApiGraph
namespace Json

/-- A hexadecimal digit in lower case. -/
def hexDigit (n : Nat) : Char :=
  Nat.digitChar n

/-- One character inside a JSON string. -/
def escapedChar (c : Char) : List Char :=
  if c = '"' then ['\\', '"']
  else if c = '\\' then ['\\', '\\']
  else if c = '\x08' then ['\\', 'b']
  else if c = '\t' then ['\\', 't']
  else if c = '\n' then ['\\', 'n']
  else if c = '\x0c' then ['\\', 'f']
  else if c = '\r' then ['\\', 'r']
  else if c.toNat < 0x20 then
    ['\\', 'u', '0', '0', hexDigit (c.toNat / 16), hexDigit (c.toNat % 16)]
  else [c]

/-- A string in its quotes. -/
def stringChars (s : String) : List Char :=
  '"' :: s.toList.flatMap escapedChar ++ ['"']

/-- Digits with the point behind the first of them, if more follow. -/
def pointed : List Char → List Char
  | [] => []
  | [d] => [d]
  | d :: rest => d :: '.' :: rest

/-- The text of a floating-point number. -/
def floatChars (x : Binary64) : List Char :=
  let sign := if x.negative then ['-'] else []
  if x.isZero then sign ++ ['0', '.', '0']
  else
    let decimal := x.shortest
    let digits := Nat.toDigits 10 decimal.digits
    let leading := decimal.power + digits.length - 1
    sign ++
      if leading < -5 ∨ 16 ≤ leading then
        pointed digits ++ ['e', if leading < 0 then '-' else '+'] ++ Nat.toDigits 10 leading.natAbs
      else if leading < 0 then
        ['0', '.'] ++ List.replicate (-leading - 1).toNat '0' ++ digits
      else if 0 ≤ decimal.power then
        digits ++ List.replicate decimal.power.toNat '0' ++ ['.', '0']
      else
        digits.take (leading + 1).toNat ++ '.' :: digits.drop (leading + 1).toNat

/-- The text of a floating-point number. -/
def floatText (x : Binary64) : String :=
  String.ofList (floatChars x)

/-- The text of an integer. -/
def integerText (i : Int) : String :=
  toString i

/-- The text of a string in its quotes. -/
def stringText (s : String) : String :=
  String.ofList (stringChars s)

/-- Texts with a separator between them. -/
def separatedBy (separator : String) (pieces : List String) : String :=
  separator.intercalate pieces

mutual

/-- The value without any blanks. -/
def compact : Json → String
  | .null => "null"
  | .bool true => "true"
  | .bool false => "false"
  | .integer i => integerText i
  | .float x => floatText x
  | .string s => stringText s
  | .array items => "[" ++ separatedBy "," (compactItems items) ++ "]"
  | .object fields => "\x7b" ++ separatedBy "," (compactFields fields) ++ "\x7d"

/-- The items of an array without any blanks. -/
def compactItems : List Json → List String
  | [] => []
  | item :: items => compact item :: compactItems items

/-- The fields of an object without any blanks. -/
def compactFields : List (String × Json) → List String
  | [] => []
  | (key, value) :: fields => (stringText key ++ ":" ++ compact value) :: compactFields fields

end

/-- The beginning of a line at a level of nesting. -/
def newline (level : Nat) : String :=
  String.ofList ('\n' :: List.replicate (2 * level) ' ')

mutual

/-- The value with one item a line, starting at a level of nesting. -/
def indented (level : Nat) : Json → String
  | .array [] => "[]"
  | .object [] => "\x7b\x7d"
  | .array items =>
    "[" ++ newline (level + 1) ++
      separatedBy ("," ++ newline (level + 1)) (indentedItems (level + 1) items) ++
      newline level ++ "]"
  | .object fields =>
    "\x7b" ++ newline (level + 1) ++
      separatedBy ("," ++ newline (level + 1)) (indentedFields (level + 1) fields) ++
      newline level ++ "\x7d"
  | .null => "null"
  | .bool true => "true"
  | .bool false => "false"
  | .integer i => integerText i
  | .float x => floatText x
  | .string s => stringText s

/-- The items of an array at a level of nesting. -/
def indentedItems (level : Nat) : List Json → List String
  | [] => []
  | item :: items => indented level item :: indentedItems level items

/-- The fields of an object at a level of nesting. -/
def indentedFields (level : Nat) : List (String × Json) → List String
  | [] => []
  | (key, value) :: fields =>
    (stringText key ++ ": " ++ indented level value) :: indentedFields level fields

end

/-- The value with one item a line. -/
def pretty (v : Json) : String :=
  indented 0 v

end Json
end ApiGraph
