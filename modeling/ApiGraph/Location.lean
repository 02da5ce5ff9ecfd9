/-
# Locations

A location is a place in a document: the document's name and the segments of a
JSON pointer into it.  Artifacts are identified by where they were declared, and
references are written as locations: `other.json#/components/schemas/Id`.

Inside a pointer a segment writes `~` as `~0` and `/` as `~1`, so that segments
may hold any text (`pointer`, `unescape`).
-/

import ApiGraph.Location.Path
import ApiGraph.Text.Quoted

namespace ApiGraph

/-- A place in a document. -/
structure Location where
  /-- The name of the document. -/
  document : String
  /-- The way from the document's root, outermost first. -/
  segments : List String
  deriving DecidableEq, Hashable, Repr, Inhabited

namespace Location

/-- The whole document. -/
def root (document : String) : Location :=
  ⟨document, []⟩

/-- The innermost segment; the root has none. -/
def last? (l : Location) : Option String :=
  l.segments.getLast?

/-- One step further in. -/
def join (l : Location) (segment : String) : Location :=
  ⟨l.document, l.segments ++ [segment]⟩

/-- Several steps further in. -/
def descend (l : Location) (path : List String) : Location :=
  ⟨l.document, l.segments ++ path⟩

/-- One step further out; the root has no parent. -/
def parent? (l : Location) : Option Location :=
  if l.segments.isEmpty then none else some ⟨l.document, l.segments.dropLast⟩

/-- The location lies in `document`, at or below `path`. -/
def hasPrefix (l : Location) (document : String) (path : List String) : Bool :=
  l.document == document && path.isPrefixOf l.segments

/-- A segment as it is written in a pointer. -/
def escape : List Char → List Char
  | [] => []
  | '~' :: rest => '~' :: '0' :: escape rest
  | '/' :: rest => '~' :: '1' :: escape rest
  | c :: rest => c :: escape rest

/-- The segment that is written so in a pointer.  A `~` before anything but `0`
or `1` stands for itself. -/
def unescape : List Char → List Char
  | [] => []
  | '~' :: '1' :: rest => '/' :: unescape rest
  | '~' :: '0' :: rest => '~' :: unescape rest
  | c :: rest => c :: unescape rest

/-- Segments as a pointer: each behind a slash. -/
def pointerChars (segments : List String) : List Char :=
  segments.flatMap fun segment => '/' :: escape segment.toList

/-- The JSON pointer of the location within its document; empty for the root. -/
def pointer (l : Location) : String :=
  String.ofList (pointerChars l.segments)

/-- The location as text, `document#pointer`. -/
def text (l : Location) : String :=
  l.document ++ "#" ++ l.pointer

instance : ToString Location := ⟨text⟩

/-- The location as it is shown while debugging. -/
def debugText (l : Location) : String :=
  "Location(" ++ l.text ++ ")"

/-- The segments of a pointer, which begins with a slash unless it is empty.
Any other text is no pointer. -/
def segments? : List Char → Option (List String)
  | [] => some []
  | '/' :: rest => some ((Text.splitOn '/' rest).map fun piece => String.ofList (unescape piece))
  | _ => none

/-- Reads a reference that stands in the document `current`.  Before the first
`#` it names a document (`current` itself where it names none), behind it a
pointer.  The error says what is wrong with the pointer. -/
def ofReference (current reference : String) : Except String Location :=
  let (path, fragment) := (Text.cutAt? '#' reference.toList).getD (reference.toList, [])
  let document := if path.isEmpty then current else Path.resolve current (String.ofList path)
  match segments? fragment with
  | some segments => .ok ⟨document, segments⟩
  | none =>
    .error ("fragment " ++ Text.quoted (String.ofList fragment) ++ " is not a JSON pointer")

/-- Lexicographic order of segments; a beginning comes before what continues it. -/
def compareSegments : List String → List String → Ordering
  | [], [] => .eq
  | [], _ :: _ => .lt
  | _ :: _, [] => .gt
  | a :: as, b :: bs => (Ord.compare a b).then (compareSegments as bs)

/-- Order by document, then by segments. -/
instance : Ord Location where
  compare a b := (Ord.compare a.document b.document).then (compareSegments a.segments b.segments)

end Location
end ApiGraph
