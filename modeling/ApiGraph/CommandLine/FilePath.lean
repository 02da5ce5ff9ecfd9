/-
# Paths of files

Paths as they are written on a command line, segment by segment between slashes.
Empty segments, and dots that do not begin the path, stand for nothing.  Neither a path
nor a segment may be arbitrarily long.
-/

import ApiGraph.Text.Split

namespace ApiGraph
namespace CommandLine
namespace FilePath

/-- The most bytes that a path has. -/
def limit : Nat := 4095

/-- The most bytes that a segment has. -/
def segmentLimit : Nat := 255

/-- The segments of a path. -/
def segments (path : String) : List String :=
  (Text.splitOn '/' path.toList).map String.ofList

/-- A segment that stands for nothing, unless it begins the path. -/
def isIdle (segment : String) : Bool :=
  segment = "" || segment = "."

/-- The segments, last one first, without idle ones before the last that counts. -/
def trimmed : List String → List String
  | s :: t :: rest => if isIdle s then trimmed (t :: rest) else s :: t :: rest
  | segments => segments

/-- The path of the directory that a path leads into; empty for a name alone. -/
def parent (path : String) : String :=
  match trimmed (segments path).reverse with
  | [] => ""
  | _ :: outer =>
    match trimmed outer with
    | [""] => "/"
    | outer => "/".intercalate outer.reverse

/-- The name at the end of a path. -/
def name? (path : String) : Option String :=
  match trimmed (segments path).reverse with
  | s :: _ => if isIdle s || s = ".." then none else some s
  | [] => none

/-- The path begins at the root of all files. -/
def isAbsolute (path : String) : Bool :=
  path.toList.head? == some '/'

/-- A path from a directory on. -/
def join (directory path : String) : String :=
  if directory.isEmpty || isAbsolute path then path
  else if directory.toList.getLast? = some '/' then directory ++ path
  else directory ++ "/" ++ path

theorem size_le_join (directory path : String) :
    path.utf8ByteSize ≤ (join directory path).utf8ByteSize := by
  unfold join
  split
  · exact Nat.le_refl _
  · split <;> simp only [String.utf8ByteSize_append] <;> omega

end FilePath
end CommandLine
end ApiGraph
