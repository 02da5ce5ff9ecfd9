/-
# The program

Runs the command line against the files of the system.  The commands themselves are
functions of a disk; what happens here is reading the files that a command wants to
see, one after the other, and carrying out what it leaves behind.
-/

import ApiGraph.CommandLine.Run

namespace ApiGraph
namespace CommandLine

/-- What was read of the system's files. -/
structure Known where
  /-- What is at the paths that were looked at. -/
  entries : Table Entry := []
  /-- The paths at which no file can be written. -/
  refused : List String := []

/-- What was read, as a disk. -/
def Known.disk (k : Known) : Disk where
  entry path := (k.entries.get? path).getD .nothing
  write _ path := if k.refused.contains path then .noFile else .done

/-- What is at a path of the system.  What is there but holds no text is taken for a
directory. -/
def look (path : String) : IO Entry := do
  let kind? ← try some <$> (·.type) <$> (← IO.FS.realPath path).metadata catch _ => pure none
  match kind? with
  | none => return .nothing
  | some kind =>
    try
      let text ← IO.FS.readFile path
      return if kind == .file then .file text else .device text
    catch _ => return .directory

/-- Writes a file, if need be after making its directory. -/
def store (makesDirectories : Bool) (path text : String) : IO Bool := do
  try
    let directory := FilePath.parent path
    if makesDirectories && !directory.isEmpty then IO.FS.createDirAll directory
    IO.FS.writeFile path text
    return true
  catch _ => return false

/-- The paths that a request names. -/
def Request.paths (r : Request) : List String :=
  r.config ::
    match r.command with
    | .init _ => []
    | .compile document _ => [document]
    | .check document => [document]
    | .search document _ => [document]

/-- The directory of a report is made, that of a configuration has to be there. -/
def Request.makesDirectories (r : Request) : Bool :=
  match r.command with
  | .init _ => false
  | _ => true

/-- Runs a request until it wants to see no further document, and carries it out. -/
partial def Request.execute (r : Request) (k : Known) : IO Outcome := do
  let outcome := r.run k.disk
  if let some path := outcome.wanted then
    if (k.entries.get? path).isNone then
      return ← r.execute { k with entries := k.entries.insert path (← look path) }
  if let some (path, text) := outcome.written then
    unless ← store r.makesDirectories path text do
      return ← r.execute { k with refused := path :: k.refused }
  return outcome

/-- The outcome of arguments on the system's files. -/
def execute (arguments : List String) : IO Outcome := do
  match Request.ofArguments arguments with
  | .error h => return h.outcome
  | .ok r =>
    let entries ← r.paths.mapM fun path => return (path, ← look path)
    r.execute { entries }

end CommandLine
end ApiGraph

/-- Runs the program. -/
def main (arguments : List String) : IO UInt32 := do
  let outcome ← ApiGraph.CommandLine.execute arguments
  IO.print outcome.stdout
  IO.eprint outcome.stderr
  return outcome.exitCode.toUInt32
