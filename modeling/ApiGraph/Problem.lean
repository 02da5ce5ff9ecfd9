/-
# Errors and diagnostics

What stops a document from being compiled, what keeps documents from being linked,
and what is only worth a warning.  Each has the place where it was found.
-/

import ApiGraph.Location

namespace ApiGraph

/-- Why a document that is referred to is not there. -/
inductive ResolveError where
  /-- There is no such document. -/
  | notFound (document : String)
  /-- There is one, but it cannot be read. -/
  | failed (document reason : String)
  deriving DecidableEq, Repr

/-- The wording of a resolve error. -/
def ResolveError.message : ResolveError → String
  | notFound document => "Document " ++ Text.quoted document ++ " is not available"
  | failed document reason =>
    "Document " ++ Text.quoted document ++ " could not be loaded: " ++ reason

/-- Why a project cannot be compiled. -/
inductive CompileError where
  /-- An entity stands where it makes no sense. -/
  | malformed (place : Location) (reason : String)
  /-- A reference that cannot be read. -/
  | invalidReference (place : Location) (reference reason : String)
  /-- Bindings that their protocol refuses. -/
  | protocolDecode (place : Location) (protocol reason : String)
  /-- Two artifacts at one location. -/
  | duplicateLocation (place : Location)
  /-- A hook broke down. -/
  | brokeDown (document : String) (place : Location) (words : String)
  /-- A protocol that is asked for and not known. -/
  | unknownProtocol (name : String)
  /-- A document that is not there. -/
  | unresolved (error : ResolveError)
  deriving DecidableEq, Repr

namespace CompileError

/-- The place where an error was found, if it has one. -/
def place? : CompileError → Option Location
  | malformed place _ => some place
  | invalidReference place _ _ => some place
  | protocolDecode place _ _ => some place
  | duplicateLocation place => some place
  | brokeDown _ place _ => some place
  | unknownProtocol _ => none
  | unresolved _ => none

/-- The wording of a compile error. -/
def message : CompileError → String
  | malformed place reason => "path=" ++ place.text ++ ": " ++ reason
  | invalidReference place reference reason =>
    "path=" ++ place.text ++ ": invalid reference " ++ Text.quoted reference ++ ": " ++ reason
  | protocolDecode place protocol reason =>
    "path=" ++ place.text ++ " proto=" ++ protocol ++ ": " ++ reason
  | duplicateLocation place =>
    "path=" ++ place.text ++ ": an artifact is already registered at this location"
  | brokeDown _ place words => "path=" ++ place.text ++ ": compile hook panicked: " ++ words
  | unknownProtocol name => "Unknown protocol " ++ Text.quoted name ++ " in configuration"
  | unresolved error => error.message

end CompileError

/-- Why an edge cannot be bound. -/
inductive LinkError where
  /-- Nothing is at the target; a neighbour of similar name is suggested. -/
  | notFound (origin target : Location) (suggestion : Option String)
  /-- Nothing fits a description. -/
  | noMatch (origin : Location) (description : String)
  /-- More than one artifact fits a description. -/
  | ambiguous (origin : Location) (description : String) (count : Nat)
  /-- The edge leads to something of another type. -/
  | narrowing (origin target : Location) (expected found : String)
  /-- A promise's transform refused. -/
  | transform (origin : Location) (reason : String)
  /-- References lead back to themselves. -/
  | cycle (origin : Location) (chain : List Location)
  deriving DecidableEq, Repr

namespace LinkError

/-- The place of the edge. -/
def origin : LinkError → Location
  | notFound origin _ _ => origin
  | noMatch origin _ => origin
  | ambiguous origin _ _ => origin
  | narrowing origin _ _ _ => origin
  | transform origin _ => origin
  | cycle origin _ => origin

/-- The wording of a link error. -/
def message : LinkError → String
  | notFound origin target suggestion =>
    "path=" ++ origin.text ++ ": reference target " ++ target.text ++ " not found" ++
      match suggestion with
      | some s => " (did you mean " ++ Text.quoted s ++ "?)"
      | none => ""
  | noMatch origin description =>
    "path=" ++ origin.text ++ ": no artifact matches " ++ description
  | ambiguous origin description count =>
    "path=" ++ origin.text ++ ": " ++ toString count ++ " artifacts match " ++ description ++
      ", expected exactly one"
  | narrowing origin target expected found =>
    "path=" ++ origin.text ++ ": expected " ++ expected ++ ", found " ++ found ++ " at " ++
      target.text
  | transform origin reason => "path=" ++ origin.text ++ ": " ++ reason
  | cycle origin chain =>
    "path=" ++ origin.text ++ ": reference cycle " ++ " -> ".intercalate (chain.map Location.text)

/-- The wording of all errors of a link run. -/
def summary (errors : List LinkError) : String :=
  errors.foldl (fun text e => text ++ "\n  - " ++ e.message)
    (toString errors.length ++ " link error(s)")

end LinkError

/-- How serious a diagnostic is. -/
inductive Severity where
  | warning
  | info
  deriving DecidableEq, Repr

/-- The name of a severity. -/
def Severity.text : Severity → String
  | warning => "warning"
  | info => "info"

/-- Something that was found and does not stop anything. -/
structure Diagnostic where
  severity : Severity := .warning
  location : Location
  protocol : Option String := none
  message : String
  deriving DecidableEq, Repr

/-- The text of a diagnostic. -/
def Diagnostic.text (d : Diagnostic) : String :=
  "path=" ++ d.location.text ++
    (match d.protocol with
      | some protocol => " proto=" ++ protocol
      | none => "") ++
    ": " ++ d.message

end ApiGraph
