/-
# Patterns and detours

Conditions on artifacts and transforms of promises, given as data: a pattern says
what the header of an artifact has to look like, and a detour leads from what a
query found to something near it.
-/

import ApiGraph.Store

namespace ApiGraph

/-- Conditions that all have to hold; an absent one holds of everything. -/
structure Pattern where
  kind : Option String := none
  name : Option String := none
  /-- What the body is called. -/
  label : Option String := none
  visible : Option Bool := none
  selectable : Option Bool := none
  /-- A document, and a path in it. -/
  inside : Option (String × List String) := none
  /-- How many segments the location has. -/
  depth : Option Nat := none

namespace Pattern

/-- A condition that is absent or gives the value. -/
def agrees {α : Type} [BEq α] (condition : Option α) (value : α) : Bool :=
  match condition with
  | none => true
  | some expected => expected == value

/-- The conditions hold of an artifact. -/
def accepts (p : Pattern) (a : Artifact) : Bool :=
  agrees p.kind a.kind.text && agrees p.name a.name && agrees p.label a.body.labelText &&
    agrees p.visible a.visible && agrees p.selectable a.selectable &&
    (match p.inside with
      | none => true
      | some (document, path) => a.location.hasPrefix document path) &&
    agrees p.depth a.location.segments.length

end Pattern

/-- A way on from what a query found. -/
inductive Detour where
  /-- To what is at a location. -/
  | locate (place : Location)
  /-- To the end of the references. -/
  | follow
  /-- To what is one step further out. -/
  | parent
  /-- Nowhere else. -/
  | stay
  /-- To an error. -/
  | refuse (reason : String)
  deriving DecidableEq, Repr

namespace Detour

/-- The transform that takes a detour. -/
def transform : Detour → Transform
  | locate place, v, _ =>
    match v.find place with
    | some id => .ok id
    | none => .error ("nothing at " ++ place.text)
  | follow, v, id =>
    match v.follow id with
    | .ok target => .ok target
    | .error e => .error e.message
  | parent, v, id =>
    match ((v.catalog.get? id).bind (·.location.parent?)).bind v.find with
    | some outer => .ok outer
    | none => .error "no parent"
  | stay, _, id => .ok id
  | refuse reason, _, _ => .error reason

end Detour
end ApiGraph
