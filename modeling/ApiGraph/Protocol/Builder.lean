/-
# Protocol builders

A builder knows one protocol: it normalizes the bindings of the protocol and
derives the protocol's variant of a server, a channel or a message.  Builders may
come from anywhere, so a hook may refuse its input and may also break down.
-/

import ApiGraph.Document
import ApiGraph.Options

namespace ApiGraph

/-- Decoded bindings of one protocol. -/
structure BindingsValue where
  /-- What the protocol knows, in normal form. -/
  value : Json
  /-- The fields of the value that hold data schemas. -/
  schemas : Table Json := []
  deriving Inhabited

/-- The protocol's form of a server, channel or message. -/
structure Variant where
  protocol : String
  name : String
  attributes : Table Json := []
  deriving Inhabited

/-- What has variants. -/
inductive Role where
  | server
  | channel
  | message
  deriving DecidableEq, Repr

/-- What a builder derives a variant from. -/
structure Seed where
  /-- The name of the entity. -/
  name : String
  /-- The address of a channel, the URL of a server, the content type of a message. -/
  address : String
  /-- The bindings for the builder's protocol that are written beside the entity. -/
  bindings : Option Json := none

/-- Why a hook gives no result. -/
inductive HookFault where
  /-- The input is refused, with the reason. -/
  | rejected (message : String)
  /-- The hook broke down, with its last words if it had any. -/
  | brokeDown (words : Option String)
  deriving DecidableEq, Repr

/-- What a hook gives. -/
abbrev Hook (α : Type) := Except HookFault α

/-- The builder of one protocol. -/
structure Builder where
  /-- The name of the protocol. -/
  protocol : String
  /-- What is appended to the names of variants. -/
  title : String
  /-- Normalizes the bindings of a section. -/
  bindings : Document.BindingsKind → Json → Hook BindingsValue
  /-- Derives a variant. -/
  variant : Role → Seed → Hook Variant

/-- A variant without attributes. -/
def Seed.plainVariant (seed : Seed) (protocol title : String) : Variant :=
  { protocol, name := seed.name ++ title }

/-- Builders by the names of their protocols, in order. -/
abbrev Registry := Table Builder

namespace Registry

/-- Adds a builder, in place of one for the same protocol. -/
def register (r : Registry) (b : Builder) : Registry :=
  Table.insert r b.protocol b

/-- Takes the builders with the given names out of those that are left.  A name
that is not left is an error, also if it was taken before. -/
def take : List String → (left taken : Registry) → Except String Registry
  | [], _, taken => .ok taken
  | name :: names, left, taken =>
    match Table.get? left name with
    | some b => take names (Table.erase left name) (Table.insert taken name b)
    | none => .error name

/-- The builders that the options ask for; the error is a name that is unknown. -/
def ofOptions (builtIn : Registry) (o : Options) : Except String Registry :=
  match o.protocols with
  | none => .ok builtIn
  | some names => take names builtIn []

/-- Derives the variants for every protocol, in order.  An error comes with the
protocol whose builder gave it. -/
def variants (role : Role) (seed : Builder → Seed) :
    Registry → Except (String × HookFault) (Table Variant)
  | [] => .ok []
  | (protocol, b) :: rest =>
    match b.variant role (seed b) with
    | .error f => .error (protocol, f)
    | .ok v => do
      let more ← variants role seed rest
      return (protocol, v) :: more

end Registry
end ApiGraph
