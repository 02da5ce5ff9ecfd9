/-
# Document paths

A document is known by its path relative to the directory of the root document,
or by a URL.  One document has many spellings (`common.json`, `./common.json`,
`a/../common.json`); `normalize` gives them one identity.  `resolve` reads a path
as it stands in another document: relative paths count from the directory of
that document, and whatever contains `://` is a URL and stays as it is.
-/

import ApiGraph.Text.Split
import ApiGraph.Text.Similarity

namespace ApiGraph
namespace Path

/-- Adds a component to a normalized path, whose components are kept in reverse.
Empty components and `.` disappear.  `..` cancels the component before it; where
there is none it is kept in a relative path and dropped in an absolute one. -/
def push (absolute : Bool) (components : List (List Char)) (component : List Char) :
    List (List Char) :=
  if component = [] ∨ component = ['.'] then components
  else if component = ['.', '.'] then
    match components with
    | [] => if absolute then [] else [component]
    | last :: before =>
      if last ≠ ['.', '.'] then before
      else if absolute then components
      else component :: components
  else component :: components

/-- Components joined by slashes. -/
def join (components : List (List Char)) : List Char :=
  ['/'].intercalate components

/-- The path begins at the root. -/
def isAbsolute (path : List Char) : Bool :=
  path.head? == some '/'

/-- The components that are left when the path has been normalized. -/
def components (path : List Char) : List (List Char) :=
  ((Text.splitOn '/' path).foldl (push (isAbsolute path)) []).reverse

/-- The normal form of a path. -/
def normalizeChars (path : List Char) : List Char :=
  if isAbsolute path then '/' :: join (components path) else join (components path)

/-- The one spelling under which a document is known. -/
def normalize (path : String) : String :=
  String.ofList (normalizeChars path.toList)

/-- The text names a document by URL. -/
def isUrl (path : List Char) : Bool :=
  Text.occursIn [':', '/', '/'] path

/-- The document that `reference` names when it stands in `current`. -/
def resolve (current reference : String) : String :=
  if isUrl reference.toList then reference
  else if isAbsolute reference.toList then normalize reference
  else
    match Text.cutAtLast? '/' current.toList with
    | none => normalize reference
    | some (directory, _) =>
      let joined := directory ++ '/' :: reference.toList
      if isUrl current.toList then String.ofList joined
      else String.ofList (normalizeChars joined)

end Path
end ApiGraph
