/-
# Reading TOML

Reads a document line by line.  Values may nest `nestingLimit` deep.

The readers of values call each other; each call takes at least one character or is
followed by one that does, so twice as many calls as there are characters are enough.
-/

import ApiGraph.Toml.Quoted
import ApiGraph.Toml.Scalar

namespace ApiGraph
namespace Toml

/-- How many arrays and braced tables may stand inside each other, and how many keys
a dotted key may have. -/
def nestingLimit : Nat := 79

/-- A character that separates words of a line. -/
def isBlank (c : Char) : Bool :=
  c = ' ' || c = '\t'

/-- The text without blanks at its beginning. -/
def skipBlanks (cs : List Char) : List Char :=
  cs.dropWhile isBlank

/-- The rest behind a line break, or behind the end of the text. -/
def lineBreak? : List Char → Option (List Char)
  | [] => some []
  | '\n' :: rest => some rest
  | '\r' :: '\n' :: rest => some rest
  | _ => none

/-- The rest behind a line on which only a comment follows. -/
def endLine? (cs : List Char) : Option (List Char) :=
  match skipBlanks cs with
  | '#' :: rest => lineBreak? (rest.dropWhile isTextChar)
  | cs => lineBreak? cs

/-- The text without blanks, line breaks and comments at its beginning. -/
def skipSpace (inComment : Bool) : List Char → Option (List Char)
  | [] => some []
  | '\r' :: '\n' :: rest => skipSpace false rest
  | c :: rest =>
    if c = '\n' then skipSpace false rest
    else if inComment then if isTextChar c then skipSpace true rest else none
    else if isBlank c then skipSpace false rest
    else if c = '#' then skipSpace true rest
    else some (c :: rest)

/-- A character of a key without quotes. -/
def isBareChar (c : Char) : Bool :=
  c.isAlphanum || c = '_' || c = '-'

/-- Reads a key. -/
def key? (cs : List Char) : Option (String × List Char) :=
  match cs with
  | '"' :: _ => quotedLine? cs
  | '\'' :: _ => quotedLine? cs
  | _ =>
    match cs.span isBareChar with
    | ([], _) => none
    | (bare, rest) => some (String.ofList bare, rest)

/-- Reads a dotted key of at most so many keys, with the blanks behind it. -/
def keys? : Nat → List Char → Option (List String × List Char)
  | 0, _ => none
  | limit + 1, cs => do
    let (key, rest) ← key? cs
    match skipBlanks rest with
    | '.' :: rest => do
      let (more, rest) ← keys? limit (skipBlanks rest)
      return (key :: more, rest)
    | rest => return ([key], rest)

/-- A character of a scalar without quotes. -/
def isScalarChar (c : Char) : Bool :=
  isBareChar c || c = '+' || c = '.' || c = ':'

/-- Reads a scalar without quotes.  A date and a time may be separated by a blank. -/
def scalarToken? (cs : List Char) : Option (Toml × List Char) := do
  let (token, rest) := cs.span isScalarChar
  let (time, behind) := (rest.drop 1).span isScalarChar
  if rest.head? = some ' ' && isDate token && isTimeWithOffset time then
    return (.date (String.ofList (token ++ ' ' :: time)), behind)
  else return (← scalar? token, rest)

mutual

/-- Reads a value that may nest so deep. -/
def value? : (calls depth : Nat) → List Char → Option (Toml × List Char)
  | 0, _, _ => none
  | calls + 1, depth, cs =>
    match cs with
    | '"' :: _ => (quotedText? cs).map fun (s, rest) => (.string s, rest)
    | '\'' :: _ => (quotedText? cs).map fun (s, rest) => (.string s, rest)
    | '[' :: rest =>
      match depth with
      | 0 => none
      | depth + 1 => items? calls depth [] rest
    | '{' :: rest =>
      match depth with
      | 0 => none
      | depth + 1 =>
        match skipBlanks rest with
        | '}' :: rest => some (.table .braced [], rest)
        | rest => fields? calls depth (.table .braced []) rest
    | _ => scalarToken? cs

/-- Reads the items of an array behind those that were read already, in reverse. -/
def items? : (calls depth : Nat) → List Toml → List Char → Option (Toml × List Char)
  | 0, _, _, _ => none
  | calls + 1, depth, out, cs => do
    match ← skipSpace false cs with
    | ']' :: rest => return (.array out.reverse, rest)
    | cs => do
      let (item, rest) ← value? calls depth cs
      match ← skipSpace false rest with
      | ',' :: rest => items? calls depth (item :: out) rest
      | ']' :: rest => return (.array (item :: out).reverse, rest)
      | _ => none

/-- Reads the fields of a braced table into it. -/
def fields? : (calls depth : Nat) → Toml → List Char → Option (Toml × List Char)
  | 0, _, _, _ => none
  | calls + 1, depth, t, cs => do
    let (path, rest) ← keys? nestingLimit cs
    match rest with
    | '=' :: rest => do
      let (value, rest) ← value? calls depth (skipBlanks rest)
      let t ← t.assign path value
      match skipBlanks rest with
      | ',' :: rest => fields? calls depth t (skipBlanks rest)
      | '}' :: rest => return (t, rest)
      | _ => none
    | _ => none

end

/-- Reads the path of a header, and the rest behind its closing brackets. -/
def header? (closing : List Char) (cs : List Char) : Option (List String × List Char) := do
  let (path, rest) ← keys? nestingLimit (skipBlanks cs)
  if closing.isPrefixOf rest then return (path, ← endLine? (rest.drop closing.length)) else none

/-- Reads an assignment, and the rest behind its line. -/
def assignment? (cs : List Char) : Option (List String × Toml × List Char) := do
  let (path, rest) ← keys? nestingLimit cs
  match rest with
  | '=' :: rest =>
    let (value, rest) ← value? (2 * cs.length + 2) nestingLimit (skipBlanks rest)
    return (path, value, ← endLine? rest)
  | _ => none

/-- Reads at most so many lines into a document, the first of them into the table at
`current`. -/
def lines? : Nat → (current : List String) → Toml → List Char → Option Toml
  | 0, _, t, cs => if cs.isEmpty then some t else none
  | limit + 1, current, t, cs => do
    match skipBlanks cs with
    | [] => return t
    | '[' :: '[' :: rest =>
      let (path, rest) ← header? [']', ']'] rest
      lines? limit path (← t.appendTable path) rest
    | '[' :: rest =>
      let (path, rest) ← header? [']'] rest
      lines? limit path (← t.openTable path) rest
    | c :: cs =>
      if c = '#' || c = '\n' || c = '\r' then lines? limit current t (← endLine? (c :: cs))
      else
        let (path, value, rest) ← assignment? (c :: cs)
        lines? limit current (← t.assignWithin current path value) rest

/-- The text without a mark of its byte order at its beginning. -/
def withoutMark (cs : List Char) : List Char :=
  match cs with
  | c :: rest => if c = '\ufeff' then rest else cs
  | [] => []

/-- The document that a text holds. -/
def ofText? (text : String) : Option Toml :=
  let cs := withoutMark text.toList
  lines? (cs.length + 1) [] empty cs

end Toml
end ApiGraph
