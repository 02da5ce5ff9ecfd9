/-
# Compiling one entity

What the compilation of an entity may do: read the settings, make promises, add
diagnostics and artifacts, and stop.  What was done before a stop stays done.
-/

import ApiGraph.Compilation.Context
import ApiGraph.Text.Identifier

namespace ApiGraph

/-- What a compilation depends on besides the document. -/
structure Settings where
  options : Options := {}
  registry : Registry := []

/-- Why a compilation stops. -/
inductive Stop where
  /-- The document is at fault. -/
  | error (e : CompileError)
  /-- A hook broke down, with its last words if it had any. -/
  | brokeDown (words : Option String)
  deriving DecidableEq, Repr

/-- A computation on the context of a walk. -/
abbrev Compile (α : Type) := ReaderT Settings (ExceptT Stop (StateM Context)) α

namespace Compile

/-- Stops with an error. -/
def fail {α : Type} (e : CompileError) : Compile α :=
  throw (.error e)

/-- A promise of what is at a location. -/
def promiseTo (l : Label) (target : Location) : Compile (Promise l) :=
  modifyGet (·.promiseTo l target)

/-- A promise of what is below the current node. -/
def promiseChild (l : Label) (path : List String) : Compile (Promise l) :=
  modifyGet (·.promiseChild l path)

/-- A promise of the part under a key, if the part is there. -/
def promisePart {α : Type} (l : Label) (key : String) (part : Option α) :
    Compile (Option (Promise l)) :=
  match part with
  | none => pure none
  | some _ => some <$> promiseChild l [key]

/-- Promises of the entries of a table under a key. -/
def promiseEntries {α : Type} (l : Label) (key : String) (entries : Table α) :
    Compile (Table (Promise l)) :=
  entries.mapM fun (name, _) => do
    return (name, ← promiseChild l [key, name])

/-- Promises of as many numbered items below the current node. -/
def promiseItems (l : Label) (path : List String) (count : Nat) : Compile (List (Promise l)) :=
  (List.range count).mapM fun i => promiseChild l (path ++ [toString i])

/-- Promises of the schemes that security requirements name. -/
def promiseSchemes (requirements : Document.Requirements) :
    Compile (List (Promise .securityScheme)) :=
  (requirements.flatMap Table.keys).mapM fun scheme =>
    modifyGet (·.promiseComponent .securityScheme "securitySchemes" scheme)

/-- Adds a diagnostic. -/
def diagnose (d : Diagnostic) : Compile Unit :=
  modify (·.diagnose d)

/-- Adds an artifact at its location, unless there is one. -/
def add (a : Artifact) : Compile Unit := do
  match (← get).add a with
  | .ok (_, c) => set c
  | .error e => fail e

/-- Adds an artifact with the data of an entity at the current location. -/
def addEntity (l : Label) (name : String) (selectable visible : Bool) (body : Body) :
    Compile Unit := do
  add { name, kind := l.kind, selectable, visible, location := (← get).location, body }

/-- Stops because of a fault in the data of a protocol at a place. -/
def failHook {α : Type} (place : Location) (protocol : String) : HookFault → Compile α
  | .rejected reason => fail (.protocolDecode place protocol reason)
  | .brokeDown words => throw (.brokeDown words)

/-- The variants for all protocols of what has a name, an address and bindings. -/
def variants (role : Role) (name address : String) (bindings : Option Document.Bindings) :
    Compile (Table Variant) := do
  let seed (b : Builder) : Seed :=
    { name, address, bindings := bindings.bind (·.protocols.get? b.protocol) }
  match Registry.variants role seed (← read).registry with
  | .ok variants => return variants
  | .error (protocol, fault) => failHook ((← get).location.join "bindings") protocol fault

end Compile

/-- The name of the entity at the current place.  The name that the document shows
wins; definitions and entries of the field `top` of the root keep their keys, and
everything else is named after its place. -/
def Context.entityName (c : Context) (shownAs : Option String) (top : Option String) : String :=
  match shownAs with
  | some name => name
  | none =>
    if c.isDefinition || top.any c.isTopLevel then
      c.location.last?.getD (Text.displayName c.location.segments)
    else Text.displayName c.location.segments

/-- Adds a reference to what is of the kind.  Among definitions it is an alias: it is
shown under its own key and is selectable.  Elsewhere it stands for its target and
is not selected itself. -/
def compileReference (reference : String) (kind : Kind) (shownAs : Option String) :
    Compile Unit := do
  let c ← get
  match Location.ofReference c.store.document reference with
  | .error reason => Compile.fail (.invalidReference c.location reference reason)
  | .ok target =>
    let nameOverride := shownAs.or (if c.isDefinition then c.location.last? else none)
    let name := (nameOverride.or target.last?).getD target.document
    let slot ← modifyGet fun c =>
      let (slot, store) := c.store.reference c.location target kind
      (slot, { c with store })
    Compile.add {
      name, kind, selectable := c.isDefinition, location := c.location
      body := .reference
        { slot, target, nameOverride, selectableOverride := some c.isDefinition } }

end ApiGraph
