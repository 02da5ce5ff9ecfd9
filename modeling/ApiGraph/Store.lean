/-
# Stores

The store of a document holds what compiling the document gave: its artifacts, and
the cells of its edges, which wait to be bound.

There are three sorts of cells, numbered separately: promises of one artifact,
promises of all artifacts of a description, and the slots of references.  A cell
knows where its edge begins, what the edge asks for and what the target has to
be; its binding is written once, when the project is linked.
-/

import ApiGraph.Catalog
import ApiGraph.Problem

namespace ApiGraph

/-- How a promise finds its target. -/
inductive Query where
  /-- What is at a location. -/
  | path (target : Location)
  /-- The only artifact that a condition holds of. -/
  | condition (description : String) (accepts : Artifact → Bool)

/-- A step from what a query found to what the promise is bound to. -/
abbrev Transform := View → ArtifactId → Except String ArtifactId

/-- What an edge has to lead to once references are followed. -/
inductive Expectation where
  /-- An entity of a type. -/
  | entity (l : Label)
  /-- Any artifact of a kind. -/
  | kind (k : Kind)
  deriving DecidableEq, Repr

namespace Expectation

/-- What is expected, in words. -/
def text : Expectation → String
  | entity l => l.text
  | kind k => k.text

/-- An artifact is what is expected. -/
def accepts : Expectation → Artifact → Bool
  | entity l, a => a.body.label? == some l
  | kind k, a => a.kind == k

end Expectation

/-- The cell of a promise. -/
structure PromiseCell where
  /-- Where the edge begins. -/
  origin : Location
  query : Query
  expects : Expectation
  transform : Option Transform := none
  binding : Option ArtifactId := none

/-- The cell of a promise of several artifacts. -/
structure ListCell where
  /-- Where the edge begins. -/
  origin : Location
  description : String
  accepts : Artifact → Bool
  expects : Expectation
  binding : Option (List ArtifactId) := none

/-- The slot of a reference.  It is bound to what is at the target, which may be a
reference again. -/
structure ReferenceSlot where
  /-- Where the reference stands. -/
  origin : Location
  target : Location
  expects : Expectation
  binding : Option ArtifactId := none

/-- What compiling a document gave. -/
structure DocumentStore extends Shelf where
  promises : Array PromiseCell := #[]
  lists : Array ListCell := #[]
  references : Array ReferenceSlot := #[]
  /-- The other documents that edges lead to, each once, in the order of mention. -/
  externals : List String := []
  diagnostics : List Diagnostic := []

namespace DocumentStore

/-- An empty store. -/
def empty (index : Nat) (document : String) : DocumentStore :=
  { index, document }

/-- Adds an artifact, unless there is one at its location. -/
def add (s : DocumentStore) (a : Artifact) : Except CompileError (ArtifactId × DocumentStore) :=
  if s.artifacts.any (·.location == a.location) then .error (.duplicateLocation a.location)
  else .ok (⟨s.index, s.artifacts.size⟩, { s with artifacts := s.artifacts.push a })

/-- Notes that an edge leads to a document. -/
def noteExternal (s : DocumentStore) (target : Location) : DocumentStore :=
  if target.document = s.document ∨ s.externals.contains target.document then s
  else { s with externals := s.externals ++ [target.document] }

/-- The store with the document that a query names noted. -/
def noteQuery (s : DocumentStore) : Query → DocumentStore
  | .path target => s.noteExternal target
  | .condition _ _ => s

/-- A new promise of one artifact that holds an entity of type `l`. -/
def promise (s : DocumentStore) (l : Label) (origin : Location) (query : Query)
    (transform : Option Transform) : Promise l × DocumentStore :=
  (⟨⟨s.index, s.promises.size⟩⟩,
    { s.noteQuery query with
      promises := s.promises.push { origin, query, expects := .entity l, transform } })

/-- A new promise of all artifacts that a condition holds of. -/
def listPromise (s : DocumentStore) (l : Label) (origin : Location) (description : String)
    (accepts : Artifact → Bool) : ListPromise l × DocumentStore :=
  (⟨⟨s.index, s.lists.size⟩⟩,
    { s with lists := s.lists.push { origin, description, accepts, expects := .entity l } })

/-- A new slot for a reference that stands for an artifact of a kind. -/
def reference (s : DocumentStore) (origin target : Location) (kind : Kind) :
    CellId × DocumentStore :=
  (⟨s.index, s.references.size⟩,
    { s.noteExternal target with
      references := s.references.push { origin, target, expects := .kind kind } })

/-- Adds a diagnostic. -/
def diagnose (s : DocumentStore) (d : Diagnostic) : DocumentStore :=
  { s with diagnostics := s.diagnostics ++ [d] }

/-- How many cells there are, of all sorts. -/
def cellCount (s : DocumentStore) : Nat :=
  s.promises.size + s.lists.size + s.references.size

end DocumentStore

/-- The stores of all documents, in the order of compilation. -/
structure ArtifactStore where
  documents : List DocumentStore := []

namespace ArtifactStore

/-- The number that the next document has to carry. -/
def nextIndex (s : ArtifactStore) : Nat :=
  s.documents.length

/-- Adds the store of a document, if it carries the next number. -/
def push? (s : ArtifactStore) (d : DocumentStore) : Option ArtifactStore :=
  if d.index = s.nextIndex then some ⟨s.documents ++ [d]⟩ else none

/-- The artifacts of all documents. -/
def catalog (s : ArtifactStore) : Catalog :=
  s.documents.map (·.toShelf)

/-- There is a document of the name. -/
def containsDocument (s : ArtifactStore) (document : String) : Bool :=
  s.documents.any (·.document == document)

/-- How many artifacts there are. -/
def size (s : ArtifactStore) : Nat :=
  s.catalog.size

/-- Every promise with its number. -/
def promises (s : ArtifactStore) : List (CellId × PromiseCell) :=
  s.documents.flatMap fun d => d.promises.toList.zipIdx.map fun (p, i) => (⟨d.index, i⟩, p)

/-- Every promise of several artifacts with its number. -/
def lists (s : ArtifactStore) : List (CellId × ListCell) :=
  s.documents.flatMap fun d => d.lists.toList.zipIdx.map fun (l, i) => (⟨d.index, i⟩, l)

/-- Every reference slot with its number. -/
def references (s : ArtifactStore) : List (CellId × ReferenceSlot) :=
  s.documents.flatMap fun d => d.references.toList.zipIdx.map fun (r, i) => (⟨d.index, i⟩, r)

/-- The promise with a number. -/
def promise? (s : ArtifactStore) (cell : CellId) : Option PromiseCell :=
  (s.documents[cell.document]?).bind (·.promises[cell.index]?)

/-- The promise of several artifacts with a number. -/
def list? (s : ArtifactStore) (cell : CellId) : Option ListCell :=
  (s.documents[cell.document]?).bind (·.lists[cell.index]?)

/-- The reference slot with a number. -/
def reference? (s : ArtifactStore) (cell : CellId) : Option ReferenceSlot :=
  (s.documents[cell.document]?).bind (·.references[cell.index]?)

end ArtifactStore
end ApiGraph
