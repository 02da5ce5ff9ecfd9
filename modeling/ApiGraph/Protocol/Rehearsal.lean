/-
# Builders for rehearsals

A builder whose hooks pass everything through, except those that are told to
refuse or to break down.  It serves to rehearse what a faulty builder does to a
run.  A hook that is told both breaks down.
-/

import ApiGraph.Protocol.Builder

namespace ApiGraph

open Document (BindingsKind)

/-- What a hook says when it breaks down. -/
inductive LastWords where
  /-- Which hook it was, and for what. -/
  | report
  /-- Always the same text. -/
  | fixed
  /-- Nothing that could be shown. -/
  | silent
  deriving DecidableEq, Repr

/-- A builder for a rehearsal. -/
structure Rehearsal where
  protocol : String
  title : String
  /-- The hooks that break down. -/
  breaking : List String := []
  /-- What they say. -/
  words : LastWords := .report
  /-- The hooks that refuse. -/
  failing : List String := []

namespace Rehearsal

/-- The name of the hook for a bindings section. -/
def bindingsHook (kind : BindingsKind) : String :=
  kind.text ++ "_bindings"

/-- The name of the hook for variants. -/
def variantHook : Role → String
  | .server => "server"
  | .channel => "channel"
  | .message => "message"

/-- Runs a hook for a subject. -/
def run {α : Type} (r : Rehearsal) (hook subject : String) (result : α) : Hook α :=
  if r.breaking.contains hook then
    .error (.brokeDown (match r.words with
      | .report => some (hook ++ " panicked for " ++ subject)
      | .fixed => some "static text"
      | .silent => none))
  else if r.failing.contains hook then .error (.rejected (hook ++ " failed for " ++ subject))
  else .ok result

/-- The builder. -/
def builder (r : Rehearsal) : Builder where
  protocol := r.protocol
  title := r.title
  bindings kind raw := r.run (bindingsHook kind) "bindings" { value := raw }
  variant role seed :=
    r.run (variantHook role) seed.address (seed.plainVariant r.protocol r.title)

end Rehearsal
end ApiGraph
