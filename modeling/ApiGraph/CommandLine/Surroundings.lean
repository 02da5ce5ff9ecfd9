/-
# Surroundings

What every system has besides the files that a command is about: the directories at the
top of the file system, a few files in them, and some devices.  A place is the segments
that lead to it from the top.
-/

import ApiGraph.CommandLine.Disk

namespace ApiGraph
namespace CommandLine

/-- What looks like a file but keeps no text. -/
inductive Device where
  /-- Takes every text and is empty. -/
  | null
  /-- Takes every text and has no end, so that it is never read. -/
  | endless
  /-- Has no room for any text. -/
  | full
  | standardInput
  /-- Prints what is written to it. -/
  | standardOutput
  /-- Prints what is written to it. -/
  | standardError
  deriving DecidableEq, Repr

/-- The device at a place. -/
def Device.at? : List String → Option Device
  | ["dev", "null"] => some null
  | ["dev", "zero"] | ["dev", "random"] | ["dev", "urandom"] => some endless
  | ["dev", "full"] => some full
  | ["dev", "stdin"] => some standardInput
  | ["dev", "stdout"] => some standardOutput
  | ["dev", "stderr"] => some standardError
  | _ => none

namespace Surroundings

/-- The directories at the top. -/
def topDirectories : List String :=
  ["bin", "boot", "dev", "etc", "home", "lib", "media", "mnt", "opt", "proc", "root", "run",
    "sbin", "srv", "sys", "tmp", "usr", "var"]

/-- There is a directory at a place. -/
def isDirectory : List String → Bool
  | [] => true
  | [name] => topDirectories.contains name
  | _ => false

/-- The text of the file at a place, or how it begins. -/
def file? : List String → Option String
  | ["etc", "hosts"] => some "127.0.0.1\tlocalhost\n"
  | ["etc", "passwd"] => some "root:x:0:0:root:/root:/bin/sh\n"
  | _ => none

/-- What is at a place. -/
def entryAt (place : List String) : Entry :=
  match Device.at? place, file? place with
  | some _, _ => .device ""
  | none, some text => .file text
  | none, none => if isDirectory place then .directory else .nothing

end Surroundings
end CommandLine
end ApiGraph
