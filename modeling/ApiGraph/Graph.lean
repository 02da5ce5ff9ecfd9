/-
# Linked graphs

A store after linking, read through the bindings of its cells.  In a graph that
linking gave, every read succeeds; what may keep a read from succeeding otherwise
is a `Defect`.
-/

import ApiGraph.Linking

namespace ApiGraph

/-- Why something cannot be read from a graph. -/
inductive Defect where
  /-- A cell that is not bound. -/
  | unbound (origin : Location)
  /-- There is no cell with the number. -/
  | noCell (cell : CellId)
  /-- There is no artifact with the number. -/
  | noArtifact (id : ArtifactId)
  /-- A chain of references that does not end. -/
  | endless (target : Location)
  /-- An edge that leads to something of another type. -/
  | wrongType (place : Location) (found expected : String)
  deriving DecidableEq, Repr

/-- A store whose cells are bound. -/
structure Graph where
  store : ArtifactStore

/-- Links a store. -/
def ArtifactStore.link (s : ArtifactStore) : Linking.Outcome :=
  Linking.run s

namespace Graph

/-- The artifacts of all documents. -/
def catalog (g : Graph) : Catalog :=
  g.store.catalog

/-- The artifact with a number. -/
def artifact (g : Graph) (id : ArtifactId) : Except Defect Artifact :=
  match g.catalog.get? id with
  | some a => .ok a
  | none => .error (.noArtifact id)

/-- Every artifact with its number, in order. -/
def artifacts (g : Graph) : List (ArtifactId × Artifact) :=
  g.catalog.entries

/-- How many artifacts there are. -/
def size (g : Graph) : Nat :=
  g.catalog.size

/-- What a promise is bound to; it may be a reference. -/
def binding {l : Label} (g : Graph) (p : Promise l) : Except Defect ArtifactId :=
  match g.store.promise? p.cell with
  | none => .error (.noCell p.cell)
  | some cell =>
    match cell.binding with
    | some id => .ok id
    | none => .error (.unbound cell.origin)

/-- What a promise of several artifacts is bound to, in the order of the store. -/
def listBindings {l : Label} (g : Graph) (p : ListPromise l) :
    Except Defect (List ArtifactId) :=
  match g.store.list? p.cell with
  | none => .error (.noCell p.cell)
  | some cell =>
    match cell.binding with
    | some ids => .ok ids
    | none => .error (.unbound cell.origin)

/-- What a reference slot is bound to; it may be a reference. -/
def referenceBinding (g : Graph) (slot : CellId) : Except Defect ArtifactId :=
  match g.store.reference? slot with
  | none => .error (.noCell slot)
  | some cell =>
    match cell.binding with
    | some id => .ok id
    | none => .error (.unbound cell.origin)

/-- Follows references for at most so many steps. -/
def followFrom (g : Graph) : Nat → ArtifactId → Except Defect ArtifactId
  | steps, id => do
    let a ← g.artifact id
    match a.body with
    | .reference r =>
      match steps with
      | 0 => throw (.endless r.target)
      | steps + 1 => followFrom g steps (← g.referenceBinding r.slot)
    | _ => return id

/-- The artifact at the end of the references that begin here.  A chain that is
longer than the graph does not end. -/
def follow (g : Graph) (id : ArtifactId) : Except Defect ArtifactId :=
  g.followFrom g.size id

/-- The data of an artifact that holds an entity of a type. -/
def narrow (g : Graph) (l : Label) (id : ArtifactId) : Except Defect (Body.Of l) := do
  let a ← g.artifact id
  match a.body.narrow? l with
  | some data => return data
  | none => throw (.wrongType a.location a.body.labelText l.text)

/-- What a promise finally leads to. -/
def resolve {l : Label} (g : Graph) (p : Promise l) : Except Defect (ArtifactId × Body.Of l) := do
  let id ← g.follow (← g.binding p)
  return (id, ← g.narrow l id)

/-- What a promise of several artifacts finally leads to. -/
def resolveList {l : Label} (g : Graph) (p : ListPromise l) :
    Except Defect (List (ArtifactId × Body.Of l)) := do
  (← g.listBindings p).mapM fun raw => do
    let id ← g.follow raw
    return (id, ← g.narrow l id)

/-- The name that an artifact is shown under, after at most so many references. -/
def displayNameFrom (g : Graph) : Nat → ArtifactId → Except Defect String
  | steps, id => do
    let a ← g.artifact id
    match a.body with
    | .reference r =>
      match r.nameOverride with
      | some name => return name
      | none =>
        match steps with
        | 0 => throw (.endless r.target)
        | steps + 1 => displayNameFrom g steps (← g.referenceBinding r.slot)
    | _ => return a.name

/-- The name that an artifact is shown under: the first one that a reference on its
chain gives, else the name of what the chain ends at. -/
def displayName (g : Graph) (id : ArtifactId) : Except Defect String :=
  g.displayNameFrom g.size id

/-- Whether an artifact is selectable, after at most so many references. -/
def isSelectableFrom (g : Graph) : Nat → ArtifactId → Except Defect Bool
  | steps, id => do
    let a ← g.artifact id
    match a.body with
    | .reference r =>
      match r.selectableOverride with
      | some selectable => return selectable
      | none =>
        match steps with
        | 0 => throw (.endless r.target)
        | steps + 1 => isSelectableFrom g steps (← g.referenceBinding r.slot)
    | _ => return a.selectable

/-- Whether an artifact is selectable: as the first reference on its chain says that
says so, else as what the chain ends at is. -/
def isSelectable (g : Graph) (id : ArtifactId) : Except Defect Bool :=
  g.isSelectableFrom g.size id

/-- Whether what an artifact finally stands for is visible. -/
def isVisible (g : Graph) (id : ArtifactId) : Except Defect Bool := do
  return (← g.artifact (← g.follow id)).visible

/-- The artifacts of a kind, references included. -/
def byKind (g : Graph) (kind : Kind) : List ArtifactId :=
  g.catalog.select (·.kind == kind)

/-- The names of the documents; the root document comes first. -/
def documents (g : Graph) : List String :=
  g.store.documents.map (·.document)

/-- The names of the documents that references brought in. -/
def externalDocuments (g : Graph) : List String :=
  g.documents.drop 1

/-- The diagnostics of all documents. -/
def diagnostics (g : Graph) : List Diagnostic :=
  g.store.documents.flatMap (·.diagnostics)

/-- Every cell of every document is bound. -/
def isFullyBound (g : Graph) : Bool :=
  g.store.documents.all fun d =>
    d.promises.all (·.binding.isSome) && d.lists.all (·.binding.isSome) &&
      d.references.all (·.binding.isSome)

end Graph
end ApiGraph
