/-
# Disks and outcomes

What a command can see of the files around it, and what it leaves behind.  Commands
are functions from a disk to an outcome; who runs them supplies the one and carries
out the other.
-/

import ApiGraph.CommandLine.FilePath

namespace ApiGraph
namespace CommandLine

/-- What is at a path. -/
inductive Entry where
  | file (text : String)
  /-- Something that is read and written as a file is, but keeps no text. -/
  | device (text : String)
  | directory
  | nothing
  deriving DecidableEq, Repr

/-- The text that can be read. -/
def Entry.text? : Entry → Option String
  | file text | device text => some text
  | directory | nothing => none

/-- Whether a file can be written. -/
inductive Writing where
  | done
  /-- The directory of the file is not there and cannot be made. -/
  | noDirectory
  /-- There can be no file at the path. -/
  | noFile
  deriving DecidableEq, Repr

/-- The files around a command. -/
structure Disk where
  /-- What is at a path. -/
  entry : String → Entry
  /-- Whether a file can be written at a path, if directories are made or not. -/
  write : (makesDirectories : Bool) → String → Writing

/-- What is at a path.  There is nothing at one that is too long. -/
def Disk.look (disk : Disk) (path : String) : Entry :=
  if path.utf8ByteSize ≤ FilePath.limit then disk.entry path else .nothing

/-- The text that can be read at a path. -/
def Disk.text? (disk : Disk) (path : String) : Option String :=
  (disk.look path).text?

/-- The text of the file at a path. -/
def Disk.file? (disk : Disk) (path : String) : Option String :=
  match disk.look path with
  | .file text => some text
  | _ => none

theorem Disk.size_le_of_file? {disk : Disk} {path text : String}
    (h : disk.file? path = some text) : path.utf8ByteSize ≤ FilePath.limit := by
  unfold Disk.file? Disk.look at h
  split at h
  · split at *
    · assumption
    · contradiction
  · cases h

/-- What a command leaves behind. -/
structure Outcome where
  exitCode : Nat := 0
  stdout : String := ""
  stderr : String := ""
  /-- The file that was written: its path and its text. -/
  written : Option (String × String) := none
  /-- The path of a document that was needed and is not there. -/
  wanted : Option String := none
  deriving DecidableEq, Repr, Inhabited

end CommandLine
end ApiGraph
