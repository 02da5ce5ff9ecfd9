/-
# Identifiers and display names

Names in documents are paths, keys and templates (`user/signup`, `orderId`,
`orders.{id}`).  `snakeCase` and `pascalCase` turn them into identifiers, and
`displayName` names an entity after the place where it was declared.
-/

import ApiGraph.Text.Character

namespace ApiGraph
namespace Text

/-- A separator, unless the text is empty or ends in one; the text is reversed. -/
def separated (out : List Char) : List Char :=
  match out with
  | [] => []
  | '_' :: _ => out
  | _ => '_' :: out

/-- Adds one character to a snake-case identifier, which is kept reversed.  A
capital opens a new word, and whatever is neither letter nor number ends one. -/
def snakeStep (out : List Char) (c : Char) : List Char :=
  if isUppercase c then (lowercase c).reverse ++ separated out
  else if isAlphanumeric c then c :: out
  else separated out

/-- Words in lower case, joined by single underscores. -/
def snakeCase (s : String) : String :=
  String.ofList ((s.toList.foldl snakeStep []).dropWhile (· == '_')).reverse

/-- Words run together; `start` says that the next letter opens a word. -/
def pascalFrom (start : Bool) : List Char → List Char
  | [] => []
  | c :: rest =>
    if isAlphanumeric c then (if start then uppercase c else [c]) ++ pascalFrom false rest
    else pascalFrom true rest

/-- Words run together, each with a capital first letter. -/
def pascalCase (s : String) : String :=
  String.ofList (pascalFrom true s.toList)

/-- Segments of a location that tell a reader nothing. -/
def structuralSegments : List String :=
  ["components", "properties", "oneOf", "channels", "servers"]

/-- The name of what is declared at a location.  Indexes are kept, so that
siblings stay distinct. -/
def displayName (segments : List String) : String :=
  String.join ((segments.filter (!structuralSegments.contains ·)).map pascalCase)

end Text
end ApiGraph
