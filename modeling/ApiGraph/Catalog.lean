/-
# Catalogs

The artifacts of all documents of a project, document by document in the order of
compilation: where an artifact is found by its number or by its location, and how
references are followed.

A chain of references ends at an artifact that is no reference, at a reference
that leads nowhere, or runs in a circle.  It visits no artifact twice before it
ends, so it is at most as long as the catalog.
-/

import ApiGraph.Artifact
import Std.Data.HashMap
import Std.Data.HashSet

namespace ApiGraph

/-- The artifacts of one document, in the order in which they were added. -/
structure Shelf where
  /-- The number of the document. -/
  index : Nat
  /-- The name of the document. -/
  document : String
  artifacts : Array Artifact := #[]

/-- The number of the artifact at a location. -/
def Shelf.find? (s : Shelf) (l : Location) : Option ArtifactId :=
  (s.artifacts.toList.findIdx? (·.location == l)).map (⟨s.index, ·⟩)

/-- The positions of artifacts by their locations, counted from `n`; of several at one
location the first, and before all of them what the table has already. -/
def placesFrom (m : Std.HashMap Location Nat) : (n : Nat) → List Artifact → Std.HashMap Location Nat
  | _, [] => m
  | n, a :: rest => placesFrom (m.insertIfNew a.location n) (n + 1) rest

theorem getElem?_placesFrom (m : Std.HashMap Location Nat) (n : Nat) (as : List Artifact)
    (l : Location) : (placesFrom m n as)[l]? =
      (m[l]?).or ((as.findIdx? (·.location == l)).map (· + n)) := by
  induction as generalizing m n with
  | nil => simp [placesFrom]
  | cons a rest ih =>
    rw [placesFrom, ih, Std.HashMap.getElem?_insertIfNew, List.findIdx?_cons]
    cases found : m[l]? with
    | some i =>
      have known : l ∈ m := by
        rw [Std.HashMap.mem_iff_isSome_getElem?, found]; rfl
      by_cases h : a.location = l
      · simp [h, known]
      · simp [h]
    | none =>
      have unknown : l ∉ m := by
        rw [Std.HashMap.mem_iff_isSome_getElem?, found]; simp
      by_cases h : a.location = l
      · simp [h, unknown]
      · simp only [beq_iff_eq, h, false_and, if_false, Option.none_or, Option.map_map]
        congr 1
        funext i
        simp only [Function.comp]
        omega

/-- The positions of the artifacts by their locations. -/
def Shelf.places (s : Shelf) : Std.HashMap Location Nat :=
  placesFrom ∅ 0 s.artifacts.toList

theorem Shelf.getElem?_places (s : Shelf) (l : Location) :
    s.places[l]? = s.artifacts.toList.findIdx? (·.location == l) := by
  simp [Shelf.places, getElem?_placesFrom]

/-- The artifacts with their numbers. -/
def Shelf.entries (s : Shelf) : List (ArtifactId × Artifact) :=
  s.artifacts.toList.zipIdx.map fun (a, i) => (⟨s.index, i⟩, a)

/-- The artifacts of all documents. -/
abbrev Catalog := List Shelf

namespace Catalog

/-- The artifact with a number. -/
def get? (shelves : Catalog) (id : ArtifactId) : Option Artifact :=
  (shelves[id.document]?).bind (·.artifacts[id.index]?)

/-- The number of the artifact at a location. -/
def find? (c : Catalog) (l : Location) : Option ArtifactId :=
  (List.find? (fun s : Shelf => s.document == l.document) c).bind (·.find? l)

/-- The shelves with the places of their artifacts. -/
def indexed (c : Catalog) : List (Shelf × Std.HashMap Location Nat) :=
  c.map fun s => (s, s.places)

/-- The number of the artifact at a location, from shelves with their places. -/
def findIndexed (shelves : List (Shelf × Std.HashMap Location Nat)) (l : Location) :
    Option ArtifactId :=
  (shelves.find? (·.1.document == l.document)).bind fun (s, places) =>
    (places[l]?).map (⟨s.index, ·⟩)

theorem findIndexed_indexed (c : Catalog) : findIndexed c.indexed = c.find? := by
  funext l
  simp only [findIndexed, indexed, find?, List.find?_map, Function.comp_def, Option.bind_map,
    Shelf.getElem?_places, Shelf.find?]

/-- Every artifact with its number: document by document, then as it was added. -/
def entries (c : Catalog) : List (ArtifactId × Artifact) :=
  c.flatMap Shelf.entries

/-- How many artifacts there are. -/
def size (c : Catalog) : Nat :=
  c.foldr (·.artifacts.size + ·) 0

/-- The numbers of the artifacts that a condition holds of. -/
def select (c : Catalog) (accepts : Artifact → Bool) : List ArtifactId :=
  (c.entries.filter (accepts ·.2)).map (·.1)

end Catalog

/-- A catalog while it is being linked: the reference slots may be bound already. -/
structure View where
  catalog : Catalog
  /-- What is at a location. -/
  find : Location → Option ArtifactId := catalog.find?
  /-- What a reference slot is bound to. -/
  bound : CellId → Option ArtifactId

/-- Why a chain of references does not end at an entity. -/
inductive FollowError where
  /-- The reference at the place leads nowhere. -/
  | unresolved (place : Location)
  /-- The chain comes back to the reference at the place. -/
  | cycle (place : Location)
  /-- There is no artifact with the number. -/
  | absent (id : ArtifactId)
  deriving DecidableEq, Repr

/-- The wording of a follow error. -/
def FollowError.message : FollowError → String
  | unresolved place => "reference at " ++ place.text ++ " is unresolved"
  | cycle place => "reference at " ++ place.text ++ " is part of a cycle"
  | absent id => "there is no artifact " ++ id.text

namespace View

/-- Follows references for at most so many steps, given those that were seen. -/
def followFrom (v : View) :
    Nat → Std.HashSet ArtifactId → ArtifactId → Except FollowError ArtifactId
  | 0, _, id => .error (.absent id)
  | steps + 1, seen, id =>
    match v.catalog.get? id with
    | none => .error (.absent id)
    | some a =>
      match a.body with
      | .reference r =>
        if seen.contains id then .error (.cycle a.location)
        else
          match v.bound r.slot with
          | some next => followFrom v steps (seen.insert id) next
          | none => .error (.unresolved a.location)
      | _ => .ok id

/-- The artifact at the end of the references that begin here. -/
def follow (v : View) (id : ArtifactId) : Except FollowError ArtifactId :=
  v.followFrom (v.catalog.size + 2) ∅ id

/-- Where a reference leads in one step. -/
def next? (v : View) (id : ArtifactId) : Option ArtifactId :=
  match v.catalog.get? id with
  | some a =>
    match a.body with
    | .reference r => v.bound r.slot
    | _ => none
  | none => none

end View
end ApiGraph
