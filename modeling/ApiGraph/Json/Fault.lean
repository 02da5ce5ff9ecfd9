/-
# What is wrong with a JSON text or value

A fault is either one of syntax, found while the text is cut into values, or one
of shape, found while a value is decoded.  `message` gives the wording.
-/

import ApiGraph.Json.Printer
import ApiGraph.Text.Quoted

namespace ApiGraph

/-- What was found where something else was expected. -/
inductive Found where
  | null
  | bool (b : Bool)
  | integer (i : Int)
  | float (x : Binary64)
  | string (s : String)
  | sequence
  | map
  deriving DecidableEq, Repr

/-- A text in the typographic quotes that messages use for code. -/
def inTicks (s : String) : String :=
  String.ofList (Char.ofNat 0x60 :: s.toList ++ [Char.ofNat 0x60])

/-- The words for what was found. -/
def Found.text : Found → String
  | .null => "null"
  | .bool b => "boolean " ++ inTicks (if b then "true" else "false")
  | .integer i => "integer " ++ inTicks (Json.integerText i)
  | .float x => "floating point " ++ inTicks (Json.floatText x)
  | .string s => "string " ++ Text.quoted s
  | .sequence => "sequence"
  | .map => "map"

/-- What is wrong with a text or a value. -/
inductive Fault where
  /-- The text ends where a value has to come, or inside one. -/
  | unfinishedValue
  /-- The text ends inside a string. -/
  | unfinishedString
  /-- The text ends inside an array. -/
  | unfinishedList
  /-- The text ends inside an object. -/
  | unfinishedObject
  /-- No value begins here. -/
  | valueExpected
  /-- A word other than null, true and false. -/
  | wordExpected
  /-- No colon behind a key. -/
  | colonExpected
  /-- Neither comma nor bracket behind an item. -/
  | listSeparatorExpected
  /-- Neither comma nor brace behind a member. -/
  | objectSeparatorExpected
  /-- Something other than a string where a key has to come. -/
  | keyNotString
  /-- A comma before a closing bracket or brace. -/
  | trailingComma
  /-- Something behind the end of the value. -/
  | trailingCharacters
  /-- A number that breaks the grammar. -/
  | invalidNumber
  /-- A number beyond the largest one that can be represented. -/
  | numberOutOfRange
  /-- A backslash before a character that has no escape. -/
  | invalidEscape
  /-- A control character inside a string. -/
  | controlCharacter
  /-- Half of a surrogate pair, or two halves that form none. -/
  | loneSurrogate
  /-- The first half of a surrogate pair without an escape behind it. -/
  | unfinishedPair
  /-- More nested arrays and objects than are read. -/
  | nestedTooDeep
  /-- A value of the wrong type. -/
  | wrongType (found : Found) (expected : String)
  /-- A value of the right type that is not admitted. -/
  | wrongValue (found : Found) (expected : String)
  /-- A field of a record that is given twice. -/
  | duplicateField (name : String)
  /-- A required field that is not given. -/
  | missingField (name : String)
  /-- An array that ends before the fields of its record do. -/
  | wrongLength (length : Nat) (expected : String)
  /-- A name that is none of those a choice admits. -/
  | unknownChoice (name : String) (choices : List String)
  /-- A value that none of the forms of a union fits. -/
  | noForm (union : String)
  deriving DecidableEq, Repr

namespace Fault

/-- The names of a choice, as a message lists them. -/
def choiceText : List String → String
  | [] => "there are no variants"
  | [a] => "expected " ++ inTicks a
  | [a, b] => "expected " ++ inTicks a ++ " or " ++ inTicks b
  | choices => "expected one of " ++ Json.separatedBy ", " (choices.map inTicks)

/-- The wording of a fault. -/
def message : Fault → String
  | unfinishedValue => "EOF while parsing a value"
  | unfinishedString => "EOF while parsing a string"
  | unfinishedList => "EOF while parsing a list"
  | unfinishedObject => "EOF while parsing an object"
  | valueExpected => "expected value"
  | wordExpected => "expected ident"
  | colonExpected => "expected " ++ inTicks ":"
  | listSeparatorExpected => "expected " ++ inTicks "," ++ " or " ++ inTicks "]"
  | objectSeparatorExpected => "expected " ++ inTicks "," ++ " or " ++ inTicks "\x7d"
  | keyNotString => "key must be a string"
  | trailingComma => "trailing comma"
  | trailingCharacters => "trailing characters"
  | invalidNumber => "invalid number"
  | numberOutOfRange => "number out of range"
  | invalidEscape => "invalid escape"
  | controlCharacter => "control character (\\u0000-\\u001F) found while parsing a string"
  | loneSurrogate => "lone leading surrogate in hex escape"
  | unfinishedPair => "unexpected end of hex escape"
  | nestedTooDeep => "recursion limit exceeded"
  | wrongType found expected => "invalid type: " ++ found.text ++ ", expected " ++ expected
  | wrongValue found expected => "invalid value: " ++ found.text ++ ", expected " ++ expected
  | duplicateField name => "duplicate field " ++ inTicks name
  | missingField name => "missing field " ++ inTicks name
  | wrongLength length expected =>
    "invalid length " ++ toString length ++ ", expected " ++ expected
  | unknownChoice name choices =>
    "unknown variant " ++ inTicks name ++ ", " ++ choiceText choices
  | noForm union => "data did not match any variant of untagged enum " ++ union

end Fault
end ApiGraph
