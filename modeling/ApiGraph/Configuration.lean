/-
# Configuration files

What a project says about itself in a TOML file: its name, what is built, and where
the report goes.  A file is read in two steps: first it has to have the right form,
then what it says has to make sense (`Configuration.fault?`).
-/

import ApiGraph.Options
import ApiGraph.Text.Quoted
import ApiGraph.Toml.Reader

namespace ApiGraph

/-- The content of a configuration file. -/
structure Configuration where
  /-- The name of the project. -/
  name : String
  /-- Publish operations are visible. -/
  publish : Bool := true
  /-- Subscribe operations are visible. -/
  subscribe : Bool := true
  /-- The content type of last resort. -/
  contentType : String := defaultContentType
  /-- The protocols to build variants for; all that are built in, if it is absent. -/
  protocols : Option (List String) := none
  /-- The file that the report is written to. -/
  output : Option String := none
  deriving DecidableEq, Repr

namespace Configuration

/-- A text. -/
def text? : Toml → Option String
  | .string s => some s
  | _ => none

/-- A truth value. -/
def flag? : Toml → Option Bool
  | .boolean b => some b
  | _ => none

/-- A list of texts. -/
def texts? : Toml → Option (List String)
  | .array items => items.mapM text?
  | _ => none

/-- A part that may be absent. -/
def optional {α : Type} (read : Toml → Option α) : Option Toml → Option (Option α)
  | none => some none
  | some v => (read v).map some

/-- The parts of a record by their keys.  A record may also be written as the list of
its parts in order, and a date is a record without any of them. -/
def parts? (keys : List String) : Toml → Option (Table Toml)
  | .table _ fields => some fields
  | .array items => some (keys.zip items)
  | .tables items => some (keys.zip items)
  | .date _ => some []
  | _ => none

/-- A record that is written as a list and is shorter than it has to be. -/
def isShort (count : Nat) : Toml → Bool
  | .array items => items.length < count
  | .tables items => items.length < count
  | _ => false

/-- The name of the project. -/
def projectName? (v : Toml) : Option String := do
  text? (← (← parts? ["name"] v).get? "name")

/-- The file that the report is written to. -/
def outputPath? (v : Toml) : Option String := do
  text? (← (← parts? ["path"] v).get? "path")

/-- Reads what is built into a configuration. -/
def withGenerate (c : Configuration) (v : Toml) : Option Configuration := do
  let keys := ["publish", "subscribe", "default_content_type", "protocols"]
  if isShort keys.length v then none
  else
    let parts ← parts? keys v
    let publish ← optional flag? (parts.get? "publish")
    let subscribe ← optional flag? (parts.get? "subscribe")
    let contentType ← optional text? (parts.get? "default_content_type")
    let protocols ← optional texts? (parts.get? "protocols")
    return { c with
      publish := publish.getD true, subscribe := subscribe.getD true
      contentType := contentType.getD defaultContentType, protocols }

/-- The configuration that a document holds, if it has the right form. -/
def ofToml? (v : Toml) : Option Configuration := do
  let name ← projectName? (← v.get? "project")
  let output ← optional outputPath? (v.get? "output")
  let c : Configuration := { name, output }
  match v.get? "generate" with
  | none => return c
  | some generate => c.withGenerate generate

/-- Why a configuration makes no sense. -/
inductive Fault where
  | emptyName
  /-- Operations of neither direction are visible. -/
  | noDirection
  | badContentType (s : String)
  | duplicateProtocol (name : String)
  | emptyOutput
  deriving DecidableEq, Repr

/-- The wording of a fault. -/
def Fault.message : Fault → String
  | emptyName => "Project name cannot be empty"
  | noDirection => "At least one of generate.publish and generate.subscribe must be enabled"
  | badContentType s => "Invalid default content type: " ++ Text.quoted s
  | duplicateProtocol name => "Duplicate protocol: " ++ name
  | emptyOutput => "Output path cannot be empty"

/-- The first name that was there before. -/
def duplicate? (seen : List String) : List String → Option String
  | [] => none
  | name :: rest => if seen.contains name then some name else duplicate? (name :: seen) rest

/-- The first reason why a configuration makes no sense. -/
def fault? (c : Configuration) : Option Fault :=
  if c.name.isEmpty then some .emptyName
  else if !c.publish && !c.subscribe then some .noDirection
  else if !c.contentType.toList.contains '/' then some (.badContentType c.contentType)
  else
    match duplicate? [] (c.protocols.getD []) with
    | some name => some (.duplicateProtocol name)
    | none => if c.output = some "" then some .emptyOutput else none

/-- Why a configuration file is of no use. -/
inductive ReadError where
  /-- It has not the right form. -/
  | form
  /-- It makes no sense. -/
  | fault (f : Fault)
  deriving DecidableEq, Repr

/-- The configuration that a text holds. -/
def ofText (text : String) : Except ReadError Configuration :=
  match (Toml.ofText? text).bind ofToml? with
  | none => .error .form
  | some c =>
    match c.fault? with
    | some f => .error (.fault f)
    | none => .ok c

/-- The options that a configuration stands for. -/
def options (c : Configuration) : Options where
  publish := c.publish
  subscribe := c.subscribe
  contentType := c.contentType
  protocols := c.protocols

/-- The text of a truth value. -/
def flagText (b : Bool) : String :=
  if b then "true" else "false"

/-- The line that gives the protocols. -/
def protocolsText : Option (List String) → String
  | none => ""
  | some names => "protocols = [" ++ ", ".intercalate (names.map Toml.quote) ++ "]\n"

/-- A configuration as the text of a file. -/
def text (c : Configuration) : String :=
  "[project]\nname = " ++ Toml.quote c.name ++ "\n\n[generate]\npublish = " ++
    flagText c.publish ++ "\nsubscribe = " ++ flagText c.subscribe ++
    "\ndefault_content_type = " ++ Toml.quote c.contentType ++ "\n" ++
    protocolsText c.protocols ++
    match c.output with
    | none => ""
    | some path => "\n[output]\npath = " ++ Toml.quote path ++ "\n"

end Configuration
end ApiGraph
