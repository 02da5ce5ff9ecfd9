/-
# Linking

Every cell of every document is bound to artifacts.  The run has four phases, of
which the first three only look and collect errors, so that one run reports every
broken edge:

1. reference slots and promises find their raw targets,
2. cycles of references are found, each once, at its least member,
3. raw targets pass the transforms, and references are followed to check that the
   end of every edge is what the edge expects,
4. if there was no error, all bindings are written at once.

An edge whose chain of references breaks off inside another edge is not reported
again: the error belongs to the edge that breaks.

A transform may answer with a number that no artifact has.  A run breaks down where it
looks at an artifact that is not there, whatever else it has found.
-/

import ApiGraph.Store
import ApiGraph.Text.Similarity

namespace ApiGraph
namespace Linking

/-- What a cell found, under the number of the cell. -/
abbrev Finding (α : Type) := CellId × Except LinkError α

/-- The errors among findings. -/
def errors {α : Type} (findings : List (Finding α)) : List LinkError :=
  findings.filterMap fun (_, r) =>
    match r with
    | .error e => some e
    | .ok _ => none

/-- The results among findings. -/
def results {α : Type} (findings : List (Finding α)) : List (CellId × α) :=
  findings.filterMap fun (cell, r) =>
    match r with
    | .error _ => none
    | .ok x => some (cell, x)

/-- The result for a cell. -/
def lookup {α : Type} (xs : List (CellId × α)) (cell : CellId) : Option α :=
  (xs.find? (·.1 == cell)).map (·.2)

/-- The results for a cell. -/
def lookupAll {α : Type} (xs : List (CellId × α)) (cell : CellId) : List α :=
  (xs.filter (·.1 == cell)).map (·.2)

/-! ## Raw targets -/

/-- How far a suggestion may be from the name that was not found. -/
def suggestionLimit : Nat := 3

/-- The names at the same level as a location, in all documents. -/
def siblings (c : Catalog) (target : Location) : List String :=
  (c.entries.filter fun (_, a) => a.location.parent? == target.parent?).filterMap
    fun (_, a) => a.location.last?

/-- The nearest name at the level of a location where nothing is. -/
def suggestion? (c : Catalog) (target : Location) : Option String := do
  let name ← target.last?
  let nearest ← (Text.suggestions name (siblings c target) suggestionLimit).head?
  return nearest.candidate

/-- What a query finds; a condition has to hold of one artifact only. -/
def ask (v : View) : Query → Option ArtifactId
  | .path target => v.find target
  | .condition _ accepts =>
    match v.catalog.select accepts with
    | [id] => some id
    | _ => none

/-- The error for an edge to a location where nothing is. -/
def nothingAt (c : Catalog) (origin target : Location) : LinkError :=
  .notFound origin target (suggestion? c target)

/-- The error for an edge whose query finds nothing. -/
def unanswered (c : Catalog) (origin : Location) : Query → LinkError
  | .path target => nothingAt c origin target
  | .condition description accepts =>
    match c.select accepts with
    | [] => .noMatch origin description
    | many => .ambiguous origin description many.length

/-- The raw targets of the reference slots, document by document. -/
def rawReferences (s : ArtifactStore) (find : Location → Option ArtifactId) :
    Array (Array (Option ArtifactId)) :=
  s.documents.toArray.map fun d => d.references.map fun slot => find slot.target

/-- The catalog with the raw targets of the reference slots. -/
def view (s : ArtifactStore) : View :=
  let shelves := s.catalog.indexed
  let find := fun target => Catalog.findIndexed shelves target
  let raw := rawReferences s find
  { catalog := s.catalog, find, bound := fun cell => do ← (← raw[cell.document]?)[cell.index]? }

/-- The errors of the reference slots without a raw target. -/
def missingReferences (v : View) (s : ArtifactStore) : List LinkError :=
  s.references.filterMap fun (cell, slot) =>
    if (v.bound cell).isSome then none else some (nothingAt v.catalog slot.origin slot.target)

/-- The errors of the promises without a raw target. -/
def missingPromises (v : View) (s : ArtifactStore) : List LinkError :=
  s.promises.filterMap fun (_, p) =>
    if (ask v p.query).isSome then none else some (unanswered v.catalog p.origin p.query)

/-! ## Cycles -/

/-- The members of the cycle through `start`, if it is closed in so many steps, given the
chain from `start` to `current` in reverse. -/
def cycleFrom (v : View) (start : ArtifactId) :
    Nat → List ArtifactId → ArtifactId → Option (List ArtifactId)
  | 0, _, _ => none
  | steps + 1, chain, current =>
    match v.next? current with
    | none => none
    | some next =>
      if next = start then some chain.reverse else cycleFrom v start steps (next :: chain) next

/-- The members of the cycle through an artifact, beginning with it.  A cycle has no more
members than there are artifacts; a chain that goes on for longer has run into a cycle
elsewhere. -/
def cycle? (v : View) (start : ArtifactId) : Option (List ArtifactId) :=
  cycleFrom v start (v.catalog.size + 1) [start] start

/-- The places of artifacts. -/
def places (c : Catalog) (ids : List ArtifactId) : List Location :=
  ids.filterMap fun id => (c.get? id).map (·.location)

/-- The error for a slot whose reference is the least member of a cycle. -/
def cycleAt? (v : View) (slot : ReferenceSlot) : Option LinkError := do
  let start ← v.find slot.origin
  let members ← cycle? v start
  if members.all (ArtifactId.le start) then
    some (.cycle slot.origin (places v.catalog (members ++ [start])))
  else none

/-- The cycles of references, in the order of the slots. -/
def cycles (v : View) (s : ArtifactStore) : List LinkError :=
  s.references.filterMap fun (_, slot) => cycleAt? v slot

/-! ## What edges lead to -/

/-- The end of an edge. -/
inductive Verdict where
  /-- It is what the edge expects. -/
  | accepted
  /-- It is not there, for a reason that is reported elsewhere. -/
  | broken
  /-- There is no artifact with the number that the edge was led to. -/
  | astray (id : ArtifactId)
  /-- It is something else. -/
  | refused (e : LinkError)

/-- Follows references from `id` and compares the end with what is expected. -/
def check (v : View) (expects : Expectation) (origin : Location) (id : ArtifactId) : Verdict :=
  match v.follow id with
  | .error (.absent missing) => .astray missing
  | .error _ => .broken
  | .ok target =>
    match v.catalog.get? target with
    | none => .astray target
    | some a =>
      if expects.accepts a then .accepted
      else .refused (.narrowing origin a.location expects.text a.body.labelText)

/-- What a raw target becomes through a promise's transform. -/
def transformed (v : View) (p : PromiseCell) (raw : ArtifactId) : Except LinkError ArtifactId :=
  match p.transform with
  | none => .ok raw
  | some f =>
    match f v raw with
    | .ok id => .ok id
    | .error reason => .error (.transform p.origin reason)

/-- The target of an edge if it was accepted; none where it broke off elsewhere. -/
def judged (verdict : Verdict) (id : ArtifactId) : Option (Except LinkError ArtifactId) :=
  match verdict with
  | .accepted => some (.ok id)
  | .broken => none
  | .astray _ => none
  | .refused e => some (.error e)

/-- The targets of the reference slots that have a raw target. -/
def narrowReferences (v : View) (s : ArtifactStore) : List (Finding ArtifactId) :=
  s.references.filterMap fun (cell, slot) => do
    let raw ← v.bound cell
    let target ← judged (check v slot.expects slot.origin raw) raw
    return (cell, target)

/-- The targets of the promises that have a raw target. -/
def narrowPromises (v : View) (s : ArtifactStore) : List (Finding ArtifactId) :=
  s.promises.filterMap fun (cell, p) => do
    let raw ← ask v p.query
    match transformed v p raw with
    | .error e => return (cell, .error e)
    | .ok candidate =>
      let target ← judged (check v p.expects p.origin candidate) candidate
      return (cell, target)

/-- The targets of the promises of several artifacts. -/
def narrowLists (v : View) (s : ArtifactStore) : List (Finding ArtifactId) :=
  s.lists.flatMap fun (cell, l) =>
    (v.catalog.select l.accepts).filterMap fun id =>
      (judged (check v l.expects l.origin id) id).map (cell, ·)

/-- The verdicts on the ends of all edges that have one, in the order of the run. -/
def verdicts (v : View) (s : ArtifactStore) : List Verdict :=
  s.references.filterMap (fun (cell, slot) =>
      (v.bound cell).map (check v slot.expects slot.origin)) ++
    s.promises.filterMap (fun (_, p) =>
      (ask v p.query).bind fun raw =>
        (transformed v p raw).toOption.map (check v p.expects p.origin)) ++
    s.lists.flatMap fun (_, l) =>
      (v.catalog.select l.accepts).map (check v l.expects l.origin)

/-- The number without an artifact that an edge is led to first. -/
def astray? (v : View) (s : ArtifactStore) : Option ArtifactId :=
  (verdicts v s).findSome? fun
    | .astray id => some id
    | _ => none

/-! ## The run -/

/-- What a run finds before anything is bound. -/
structure Findings where
  /-- The number without an artifact where the run breaks down. -/
  astray : Option ArtifactId
  /-- Every error, phase by phase. -/
  errors : List LinkError
  /-- The targets of the reference slots. -/
  references : List (CellId × ArtifactId)
  /-- The targets of the promises. -/
  promises : List (CellId × ArtifactId)
  /-- The targets of the promises of several artifacts, one after the other. -/
  lists : List (CellId × ArtifactId)

/-- Looks at every cell. -/
def findings (s : ArtifactStore) : Findings :=
  let v := view s
  let references := narrowReferences v s
  let promises := narrowPromises v s
  let lists := narrowLists v s
  { astray := astray? v s
    errors := missingReferences v s ++ missingPromises v s ++ cycles v s ++
      errors references ++ errors promises ++ errors lists
    references := results references
    promises := results promises
    lists := results lists }

/-- Writes the binding of every cell of a document that has a target. -/
def assignDocument (f : Findings) (d : DocumentStore) : DocumentStore :=
  { d with
    references := d.references.mapIdx fun i slot =>
      { slot with binding := (lookup f.references ⟨d.index, i⟩).or slot.binding }
    promises := d.promises.mapIdx fun i p =>
      { p with binding := (lookup f.promises ⟨d.index, i⟩).or p.binding }
    lists := d.lists.mapIdx fun i l =>
      { l with binding := some (lookupAll f.lists ⟨d.index, i⟩) } }

/-- Where a cell begins that would be bound a second time. -/
def boundBefore? (f : Findings) (s : ArtifactStore) : Option Location :=
  (s.references.findSome? fun (cell, slot) =>
      if slot.binding.isSome && (lookup f.references cell).isSome then some slot.origin
      else none).or
    ((s.promises.findSome? fun (cell, p) =>
        if p.binding.isSome && (lookup f.promises cell).isSome then some p.origin else none).or
      (s.lists.findSome? fun (_, l) => if l.binding.isSome then some l.origin else none))

/-- What a run leads to. -/
inductive Outcome where
  /-- Every cell is bound. -/
  | linked (s : ArtifactStore)
  /-- Nothing is bound. -/
  | failed (errors : List LinkError)
  /-- A cell was bound before. -/
  | boundTwice (origin : Location)
  /-- An edge was led to a number that no artifact has. -/
  | astray (id : ArtifactId)

/-- Links a store. -/
def run (s : ArtifactStore) : Outcome :=
  let f := findings s
  match f.astray with
  | some id => .astray id
  | none =>
    match f.errors with
    | [] =>
      match boundBefore? f s with
      | some origin => .boundTwice origin
      | none => .linked ⟨s.documents.map (assignDocument f)⟩
    | errors => .failed errors

end Linking
end ApiGraph
