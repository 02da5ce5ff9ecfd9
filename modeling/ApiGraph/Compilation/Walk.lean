/-
# Walking through a document

A walk visits the entities of an outline in depth-first order, an entity before
what is inside it, and compiles each where it stands.  The first stop ends the
walk and leaves the context where it happened.
-/

import ApiGraph.Compilation.Entity

namespace ApiGraph

open Document (Entity Outline)

/-- An entity and the way to it. -/
structure Visit where
  frames : List Frame
  entity : Entity

namespace Document.Outline

mutual

/-- The entities of an outline in the order of a walk, which begins at `frames`. -/
def visits (frames : List Frame) : Outline → List Visit
  | .map entries => entryVisits frames entries
  | .sequence items => itemVisits frames 0 items
  | .union none => []
  | .union (some active) => visits frames active
  | .record none fields => fieldVisits frames fields
  | .record (some entity) fields => ⟨frames, entity⟩ :: fieldVisits frames fields
  | .scalar entity => [⟨frames, entity⟩]

/-- The entities inside the entries of a map. -/
def entryVisits (frames : List Frame) : List (String × Outline) → List Visit
  | [] => []
  | (key, node) :: rest => visits (Frame.enter frames key {}) node ++ entryVisits frames rest

/-- The entities inside the items of a sequence from an index on. -/
def itemVisits (frames : List Frame) (index : Nat) : List Outline → List Visit
  | [] => []
  | node :: rest =>
    visits (Frame.enter frames (toString index) {}) node ++ itemVisits frames (index + 1) rest

/-- The entities inside the fields of a record. -/
def fieldVisits (frames : List Frame) : List (String × Tags × Outline) → List Visit
  | [] => []
  | (name, tags, node) :: rest =>
    visits (Frame.enter frames name tags) node ++ fieldVisits frames rest

end

end Document.Outline

/-- Compiles an entity where it stands. -/
def Visit.compile (v : Visit) : Compile Unit := do
  modify ({ · with frames := v.frames })
  v.entity.compile

/-- Walks through an outline from the current place, and returns to it. -/
def Document.Outline.compile (o : Outline) : Compile Unit := do
  let frames := (← get).frames
  (o.visits frames).forM Visit.compile
  modify ({ · with frames })

namespace Compile

/-- Runs a computation: what it gives, and the context that it leaves. -/
def exec {α : Type} (x : Compile α) (settings : Settings) (c : Context) :
    Except Stop α × Context :=
  (x settings).run c

end Compile

/-- What is said for a hook that broke down without words. -/
def wordless : String := "unknown panic payload"

/-- Walks through an outline.  A hook that breaks down is an error of the document
at the place where the walk stood. -/
def Document.Outline.walk (o : Outline) (settings : Settings) (c : Context) :
    Except CompileError Unit × Context :=
  match o.compile.exec settings c with
  | (.ok _, c) => (.ok (), c)
  | (.error (.error e), c) => (.error e, c)
  | (.error (.brokeDown words), c) =>
    (.error (.brokeDown c.store.document c.location (words.getD wordless)), c)

/-- Compiles a document into a store of its own. -/
def Document.compile (d : Document) (settings : Settings) (index : Nat) (name : String) :
    Except CompileError DocumentStore :=
  match d.outline.walk settings { store := .empty index name } with
  | (.ok _, c) => .ok c.store
  | (.error e, _) => .error e

end ApiGraph
