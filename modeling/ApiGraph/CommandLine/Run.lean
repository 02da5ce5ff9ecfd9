/-
# Commands

What each command prints and writes.  All of them end with exit code 1 and one message
when something is wrong with the configuration, the document or the report file; a
misuse of the command line is exit code 2.
-/

import ApiGraph.CommandLine.Arguments
import ApiGraph.CommandLine.Disk
import ApiGraph.CommandLine.FilePath
import ApiGraph.Configuration
import ApiGraph.Document.Search
import ApiGraph.Json.Printer
import ApiGraph.Project
import ApiGraph.Report
import ApiGraph.Text.Numbering

namespace ApiGraph
namespace CommandLine

/-- The name of the program. -/
def programName : String := "agen"

/-- The version of the program. -/
def programVersion : String := "0.1.0"

/-- Lines of text. -/
def unlines (lines : List String) : String :=
  String.join (lines.map (· ++ "\n"))

/-- Why a command fails. -/
inductive Failure where
  /-- The configuration file cannot be read. -/
  | unreadableConfig (path : String)
  /-- The configuration file has not the right form. -/
  | badConfig (path : String)
  /-- The configuration makes no sense. -/
  | configFault (f : Configuration.Fault)
  /-- There is something where the configuration is to be written. -/
  | configExists (path : String)
  /-- The configuration cannot be written. -/
  | unwritableConfig (path : String)
  /-- The document cannot be read. -/
  | unreadableDocument (path : String)
  /-- There is no graph. -/
  | build (e : BuildError)
  /-- The edges cannot be bound, as was said in detail before. -/
  | unlinked
  /-- The graph does not hold together. -/
  | defect (d : Defect)
  /-- There is no directory for the report. -/
  | noDirectory (path : String)
  /-- The report cannot be written. -/
  | unwritableReport (path : String)

/-- The wording of a build error. -/
def buildMessage : BuildError → String
  | .compile e => e.message
  | .link errors => LinkError.summary errors
  | .boundTwice origin => "promise at " ++ origin.text ++ " was assigned twice"
  | .astray id => (FollowError.absent id).message

/-- The wording of a failure. -/
def Failure.message : Failure → String
  | unreadableConfig path => "Failed to read config file: " ++ path
  | badConfig path => "Failed to parse config file: " ++ path
  | configFault f => f.message
  | configExists path =>
    "Configuration file already exists: " ++ path ++
      "\nUse a different path or remove the existing file."
  | unwritableConfig path => "Failed to write config file: " ++ path
  | unreadableDocument path => "Failed to load document: " ++ path
  | build e => buildMessage e
  | unlinked => "Link failed"
  | defect _ => "The graph does not hold together"
  | noDirectory path => "Failed to create output directory: " ++ path
  | unwritableReport path => "Failed to write report: " ++ path

/-- The document that a failure is about because it is not there. -/
def Failure.missing? : Failure → Option String
  | build (.compile (.unresolved (.notFound document))) => some document
  | _ => none

/-- The outcome of a failure, behind what was printed before. -/
def Failure.outcome (f : Failure) (stdout : String) : Outcome :=
  { exitCode := 1, stdout, stderr := unlines ["Error: " ++ f.message] }

/-! ## Reading -/

/-- The configuration at a path, if there is one. -/
def readConfiguration (disk : Disk) (path : String) : Except Failure (Option Configuration) :=
  match disk.look path with
  | .nothing => .ok none
  | .directory => .error (.unreadableConfig path)
  | .file text | .device text =>
    match Configuration.ofText text with
    | .ok c => .ok (some c)
    | .error .form => .error (.badConfig path)
    | .error (.fault f) => .error (.configFault f)

/-- The options after an override. -/
def DirectionOverride.apply (o : Options) : DirectionOverride → Options
  | none => o
  | publishOnly => { o with publish := true, subscribe := false }
  | subscribeOnly => { o with publish := false, subscribe := true }

/-- The options of a request with the configuration that it names. -/
def optionsOf (r : Request) (c : Option Configuration) : Options :=
  r.override.apply ((c.map Configuration.options).getD {})

/-- The document at a path. -/
def readDocument (disk : Disk) (path : String) : Except Failure Document :=
  match (disk.text? path).map Document.ofText with
  | some (.ok d) => .ok d
  | _ => .error (.unreadableDocument path)

/-- The library of the documents around the one at a path: those whose names lead to a
file from its directory.  A name is not longer than the path to the file, so there are
only finitely many. -/
def libraryFor (disk : Disk) (path : String) : Library where
  resolve :=
    let path := FilePath.join (FilePath.parent path)
    Library.read path fun name => disk.file? (path name)
  size := Text.countWithin FilePath.limit
  length_le_size names distinct found := by
    refine Text.length_le_countWithin distinct fun name member => ?_
    obtain ⟨d, h⟩ := found name member
    obtain ⟨text, present⟩ := Library.exists_text_of_read h
    exact Nat.le_trans (FilePath.size_le_join _ name) (Disk.size_le_of_file? present)

/-- The graph of the document at a path. -/
def readGraph (disk : Disk) (o : Options) (path : String) : Except Failure Graph := do
  let root ← readDocument disk path
  match Project.ofOptions o (libraryFor disk path) with
  | .error e => throw (.build (.compile e))
  | .ok project =>
    match project.build ((FilePath.name? path).getD path) root with
    | .error e => throw (.build e)
    | .ok g => return g

/-- The report about a graph. -/
def reportOf (g : Graph) : Except Failure Report :=
  match (Selection.ofGraph g).bind Selection.report with
  | .ok r => .ok r
  | .error d => .error (.defect d)

/-- The outcome of a failure to read what is around a path. -/
def Failure.outcomeFor (f : Failure) (path stdout : String) : Outcome :=
  { f.outcome stdout with
    wanted := f.missing?.map (FilePath.join (FilePath.parent path)) }

/-! ## Commands -/

/-- The configuration that `init` writes. -/
def initialConfiguration (name : String) : Configuration :=
  { name, output := some "./generated/graph.json" }

/-- What `init` prints. -/
def initText (path : String) : String :=
  unlines [
    "✓ Created " ++ path,
    "",
    "Next steps:",
    "  1. Check your document: " ++ programName ++ " check asyncapi.json",
    "  2. Write the report:    " ++ programName ++ " compile asyncapi.json"]

/-- Writes a configuration to begin with, where there is nothing yet. -/
def runInit (disk : Disk) (path name : String) : Outcome :=
  let c := initialConfiguration name
  if disk.look path ≠ .nothing then (Failure.configExists path).outcome ""
  else
    match c.fault? with
    | some f => (Failure.configFault f).outcome ""
    | none =>
      match disk.write false path with
      | .done => { stdout := initText path, written := some (path, c.text) }
      | _ => (Failure.unwritableConfig path).outcome ""

/-- A text filled up with blanks. -/
def padded (width : Nat) (s : String) : String :=
  s ++ String.ofList (List.replicate (width - s.length) ' ')

/-- The line about a channel. -/
def channelLine (u : UnitReport) : String :=
  "  → " ++ u.name ++ " [" ++
    (if u.protocols.isEmpty then "no servers" else ", ".intercalate u.protocols) ++ "]"

/-- The lines about diagnostics. -/
def warningLines (ds : List Diagnostic) : List String :=
  if ds.isEmpty then []
  else "" :: ("! " ++ toString ds.length ++ " warning(s):") :: ds.map ("  • " ++ ·.text)

/-- What `check` prints about a report. -/
def checkText (r : Report) : String :=
  unlines (
    ("✓ Linked " ++ toString r.documents.length ++ " document(s), " ++
      toString r.artifactCount ++ " artifact(s)") ::
    (r.counts.filter (·.2 != 0)).map
      (fun (kind, n) => "  • " ++ padded 10 kind.text ++ " " ++ toString n) ++
    (r.units.filter (·.kind == .channel)).map channelLine ++
    warningLines r.diagnostics)

/-- What `check` prints about edges that cannot be bound. -/
def unlinkedText (errors : List LinkError) : String :=
  unlines (("✗ " ++ toString errors.length ++ " unresolved reference(s):") ::
    errors.map ("  • " ++ ·.message) ++ [""])

/-- Compiles and links a document, and says what was found. -/
def runCheck (disk : Disk) (r : Request) (path : String) : Outcome :=
  match readConfiguration disk r.config with
  | .error f => f.outcome ""
  | .ok c =>
    let opening := unlines ["→ Checking " ++ path ++ "...", ""]
    match readGraph disk (optionsOf r c) path with
    | .error (.build (.link errors)) => Failure.unlinked.outcome (opening ++ unlinkedText errors)
    | .error f => f.outcomeFor path opening
    | .ok g =>
      match reportOf g with
      | .error f => f.outcome opening
      | .ok report => { stdout := opening ++ checkText report }

/-- What `compile` prints besides the report. -/
def compileNotes (r : Report) (out : Option String) : String :=
  unlines (
    (match out with
      | some path => ["✓ Wrote " ++ toString r.units.length ++ " unit(s) to " ++ path]
      | none => []) ++
    r.diagnostics.map ("warning: " ++ ·.text))

/-- Prints a report or writes it to a file. -/
def deliver (disk : Disk) (r : Report) (out : Option String) : Outcome :=
  let text := r.toJson.pretty
  match out with
  | none => { stdout := unlines [text], stderr := compileNotes r none }
  | some path =>
    match disk.write true path with
    | .noDirectory => (Failure.noDirectory (FilePath.parent path)).outcome ""
    | .noFile => (Failure.unwritableReport path).outcome ""
    | .done => { stderr := compileNotes r (some path), written := some (path, text) }

/-- Compiles and links a document, and delivers the report. -/
def runCompile (disk : Disk) (r : Request) (path : String) (out : Option String) : Outcome :=
  match readConfiguration disk r.config with
  | .error f => f.outcome ""
  | .ok c =>
    match (readGraph disk (optionsOf r c) path).bind reportOf with
    | .error f => f.outcomeFor path ""
    | .ok report => deliver disk report (out.or (c.bind (·.output)))

/-- The mark of a search result. -/
def qualityMark : Document.Match → String
  | .exact => "="
  | .caseInsensitive => "~"
  | .contains => "…"

/-- What `search` prints. -/
def searchText (query : String) (hits : List Document.Hit) : String :=
  if hits.isEmpty then unlines ["! No entries match " ++ Text.quoted query]
  else
    unlines (("✓ " ++ toString hits.length ++ " match(es) for " ++ Text.quoted query ++ ":") ::
      hits.map fun h => "  " ++ qualityMark h.quality ++ " " ++ h.name ++ " " ++ h.place.place)

/-- Searches the names of a document. -/
def runSearch (disk : Disk) (path query : String) : Outcome :=
  match readDocument disk path with
  | .error f => f.outcome ""
  | .ok d => { stdout := searchText query (d.search query) }

/-- Runs the command of a request. -/
def Request.run (r : Request) (disk : Disk) : Outcome :=
  match r.command with
  | .init name => runInit disk r.config name
  | .compile document out => runCompile disk r document out
  | .check document => runCheck disk r document
  | .search document query => runSearch disk document query

/-- How the program is used. -/
def usage : String :=
  unlines [
    "Compile and link API documents",
    "",
    "Usage: " ++ programName ++ " [OPTIONS] [COMMAND]",
    "",
    "Commands:",
    "  init                       Write a configuration to begin with",
    "  compile <DOCUMENT>         Compile, link and write the report",
    "  check <DOCUMENT>           Compile and link, and say what was found",
    "  search <DOCUMENT> <QUERY>  Find named entries in a document",
    "",
    "Options:",
    "  -c, --config <FILE>   The configuration file [default: " ++ standardConfig ++ "]",
    "      --verbose         Say more",
    "      --json-logs       Write logs as JSON",
    "      --publish-only    Only publish operations are visible",
    "      --subscribe-only  Only subscribe operations are visible",
    "  -h, --help            Print help",
    "  -V, --version         Print the version"]

/-- The outcome of arguments that lead to no command. -/
def Halt.outcome : Halt → Outcome
  | help => { stdout := usage }
  | version => { stdout := unlines [programName ++ " " ++ programVersion] }
  | misuse => { exitCode := 2, stderr := "error: the arguments make no sense\n\n" ++ usage }

/-- Runs the program. -/
def run (arguments : List String) (disk : Disk) : Outcome :=
  match Request.ofArguments arguments with
  | .ok r => r.run disk
  | .error h => h.outcome

end CommandLine
end ApiGraph
