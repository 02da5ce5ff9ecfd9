/-
# Projects

A project compiles its root document and every document that is reachable from it
by references, breadth first and each once, and then links them.  Nothing is
linked before everything is compiled.
-/

import ApiGraph.Compilation.Walk
import ApiGraph.Graph
import ApiGraph.Library
import ApiGraph.Protocol.Standard

namespace ApiGraph

/-- Why a project has no graph. -/
inductive BuildError where
  /-- A document cannot be compiled. -/
  | compile (e : CompileError)
  /-- Edges cannot be bound. -/
  | link (errors : List LinkError)
  /-- A cell was bound before linking. -/
  | boundTwice (origin : Location)
  /-- An edge was led to a number that no artifact has. -/
  | astray (id : ArtifactId)

/-- The documents on the way: those that were ever mentioned, and those of them that
are still to be compiled, in the order of mention. -/
structure Agenda where
  seen : List String
  pending : List String
  deriving DecidableEq, Repr

namespace Agenda

/-- Notes a mentioned document. -/
def mention (a : Agenda) (name : String) : Agenda :=
  if a.seen.contains name then a else ⟨a.seen ++ [name], a.pending ++ [name]⟩

/-- Notes mentioned documents. -/
def mentionAll (a : Agenda) (names : List String) : Agenda :=
  names.foldl mention a

end Agenda

/-- What documents are compiled with. -/
structure Project where
  settings : Settings
  library : Library

namespace Project

/-- A project with the built-in builders that the options ask for. -/
def ofOptions (o : Options) (library : Library) : Except CompileError Project :=
  match Registry.ofOptions .standard o with
  | .ok registry => .ok ⟨⟨o, registry⟩, library⟩
  | .error name => .error (.unknownProtocol name)

/-- Compiles a document as the next one of a store, and notes what it mentions. -/
def compileNext (p : Project) (name : String) (d : Document) (s : ArtifactStore) (a : Agenda) :
    Except CompileError (ArtifactStore × Agenda) := do
  let compiled ← d.compile p.settings s.nextIndex name
  return (⟨s.documents ++ [compiled]⟩, a.mentionAll compiled.externals)

/-- Compiles the pending documents, at most so many. -/
def compilePending (p : Project) : Nat → ArtifactStore → Agenda → Except CompileError ArtifactStore
  | 0, s, _ => .ok s
  | limit + 1, s, a =>
    match a.pending with
    | [] => .ok s
    | name :: rest =>
      match p.library.resolve name with
      | .error e => .error (.unresolved e)
      | .ok d => do
        let (s, a) ← p.compileNext name d s { a with pending := rest }
        p.compilePending limit s a

/-- Compiles the root document and everything that is reachable from it.  Every
further document is one of the library and comes once, so that none is left when as
many documents as the library has names have been compiled and a last one was asked
for. -/
def compile (p : Project) (rootId : String) (root : Document) :
    Except CompileError ArtifactStore := do
  let name := Path.normalize rootId
  let (s, a) ← p.compileNext name root {} ⟨[name], []⟩
  p.compilePending (p.library.size + 1) s a

/-- Compiles and links. -/
def build (p : Project) (rootId : String) (root : Document) : Except BuildError Graph :=
  match p.compile rootId root with
  | .error e => .error (.compile e)
  | .ok s =>
    match s.link with
    | .linked s => .ok ⟨s⟩
    | .failed errors => .error (.link errors)
    | .boundTwice origin => .error (.boundTwice origin)
    | .astray id => .error (.astray id)

end Project
end ApiGraph
