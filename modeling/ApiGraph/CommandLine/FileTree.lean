/-
# File trees

Files under a root directory, and the directory that a command is run in.  A place is
the segments that lead to it from the top of the file system, so that a path which
leads out of the tree has a place as well.  A path is walked segment by segment: a
segment that another one follows has to be a directory, and `..` leads out of one.

New files can be made in the tree and in the directory around it, and nowhere else.
-/

import ApiGraph.CommandLine.Disk
import ApiGraph.CommandLine.FilePath
import ApiGraph.CommandLine.Surroundings
import ApiGraph.Table

namespace ApiGraph
namespace CommandLine

/-- Files under a root directory. -/
structure FileTree where
  /-- The files by their segments from the root. -/
  files : List (List String × String)
  /-- The directory that commands are run in, from the root. -/
  current : List String
  deriving DecidableEq, Repr

namespace FileTree

/-- The segments of a path that stand for something. -/
def names (path : String) : List String :=
  (FilePath.segments path).filter (!FilePath.isIdle ·)

/-- The tree of files that are given by their paths from the root. -/
def ofFiles (files : Table String) (current : String) : FileTree where
  files := files.map fun (path, text) => (names path, text)
  current := names current

/-- The directory around the root. -/
def base : List String := ["tmp"]

/-- The place of the root.  No segment of a path holds a slash, so no path leads into the
tree from outside. -/
def root : List String := base ++ ["/"]

/-- The segments from the root to a place in the tree. -/
def fromRoot? (place : List String) : Option (List String) :=
  if root.isPrefixOf place then some (place.drop root.length) else none

/-- The text of the file that some segments from the root lead to. -/
def file? (t : FileTree) (inner : List String) : Option String :=
  (t.files.find? (·.1 == inner)).map (·.2)

/-- Some segments from the root lead to a directory: one around the current directory or
around a file. -/
def isDirectory (t : FileTree) (inner : List String) : Bool :=
  inner.isPrefixOf t.current ||
    t.files.any fun (path, _) => inner.isPrefixOf path && inner.length < path.length

/-- What is at a place. -/
def entryAt (t : FileTree) (place : List String) : Entry :=
  match fromRoot? place with
  | none => Surroundings.entryAt place
  | some inner =>
    match t.file? inner with
    | some text => .file text
    | none => if t.isDirectory inner then .directory else .nothing

/-- There is a directory at a place, or one can be made. -/
def canBeDirectory (t : FileTree) (place : List String) : Bool :=
  match t.entryAt place with
  | .directory => true
  | .nothing => base.isPrefixOf place
  | .file _ | .device _ => false

/-- There is something at a place that takes a text, or it can be made. -/
def takesText (t : FileTree) (place : List String) : Bool :=
  match t.entryAt place with
  | .directory => false
  | .nothing | .file _ => base.isPrefixOf place
  | .device _ => Device.at? place ≠ some .full

/-- A place can be on the way: there is a directory, or one can be made. -/
def passes (t : FileTree) (makesDirectories : Bool) (place : List String) : Bool :=
  if makesDirectories then t.canBeDirectory place else t.entryAt place = .directory

/-- The place that a segment leads to. -/
def step (place : List String) (segment : String) : List String :=
  if FilePath.isIdle segment then place
  else if segment = ".." then place.dropLast
  else place ++ [segment]

/-- The places from one on that segments lead through, up to the one where they end. -/
def walk (t : FileTree) (makesDirectories : Bool) :
    (place : List String) → (path : List String) → Option (List (List String))
  | place, [] => some [place]
  | place, segment :: rest =>
    if t.passes makesDirectories place && segment.utf8ByteSize ≤ FilePath.segmentLimit then
      (t.walk makesDirectories (step place segment) rest).map (place :: ·)
    else none

/-- The places that a path leads through, if directories are made or not.  The empty
path leads nowhere, nor does one that is too long or holds the null character. -/
def trail? (t : FileTree) (makesDirectories : Bool) (path : String) :
    Option (List (List String)) :=
  if path.isEmpty || FilePath.limit < path.utf8ByteSize || path.toList.contains '\x00' then none
  else
    let start := if FilePath.isAbsolute path then [] else root ++ t.current
    t.walk makesDirectories start (FilePath.segments path)

/-- The place where a path leads to. -/
def place? (t : FileTree) (makesDirectories : Bool) (path : String) : Option (List String) :=
  (t.trail? makesDirectories path).bind List.getLast?

/-- What is at a path. -/
def entry (t : FileTree) (path : String) : Entry :=
  match t.place? false path with
  | none => .nothing
  | some place => t.entryAt place

/-- A path whose end can only be a directory. -/
def endsInDirectory (path : String) : Bool :=
  match (FilePath.segments path).getLast? with
  | some s => FilePath.isIdle s || s = ".."
  | none => true

/-- A file can be written where a path leads to: it takes a text, and no directory was
made there on the way. -/
def takesFile (t : FileTree) (makesDirectories : Bool) (path : String) : Bool :=
  match t.trail? makesDirectories path with
  | none => false
  | some trail =>
    !endsInDirectory path &&
      trail.getLast?.any fun place => !trail.dropLast.contains place && t.takesText place

/-- Whether a file can be written at a path. -/
def write (t : FileTree) (makesDirectories : Bool) (path : String) : Writing :=
  let directory := FilePath.parent path
  let made := (t.place? true directory).any t.canBeDirectory
  if makesDirectories && !directory.isEmpty && !made then .noDirectory
  else if t.takesFile makesDirectories path then .done
  else .noFile

/-- The tree as a disk. -/
def disk (t : FileTree) : Disk where
  entry := t.entry
  write := t.write

/-- The place of the file that an outcome leaves behind, and its text. -/
def written? (t : FileTree) (o : Outcome) : Option (List String × String) := do
  let (path, text) ← o.written
  return (← t.place? true path, text)

/-- The files of an outcome that are new or have changed, by their paths from the
root. -/
def changes (t : FileTree) (o : Outcome) : Table String :=
  match t.written? o with
  | none => []
  | some (place, text) =>
    match fromRoot? place with
    | none => []
    | some inner => if t.file? inner = some text then [] else [("/".intercalate inner, text)]

/-- An outcome with what was written to the standard streams in front of what is printed
there. -/
def shown (t : FileTree) (o : Outcome) : Outcome :=
  match t.written? o with
  | none => o
  | some (place, text) =>
    match Device.at? place with
    | some .standardOutput => { o with stdout := text ++ o.stdout }
    | some .standardError => { o with stderr := text ++ o.stderr }
    | _ => o

end FileTree
end CommandLine
end ApiGraph
