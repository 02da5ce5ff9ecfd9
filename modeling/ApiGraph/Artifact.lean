/-
# Artifacts

What a document is compiled to: one artifact for every entity, at the entity's
location.  An artifact has a header and a body, and the body either holds the
entity's own data or refers to another artifact.

Artifacts do not contain each other.  An edge is a promise: the number of a cell
in the store of the document, which is bound to an artifact when all documents
are linked.  The type of a promise says what its target has to turn out to be.
-/

import ApiGraph.Location
import ApiGraph.Protocol.Builder

namespace ApiGraph

/-- An artifact: the number of its document, and its number in the document.  The
numbers have 32 bits in a running program, so a project is taken to have fewer than
`2 ^ 32` documents, and each of them fewer than `2 ^ 32` artifacts. -/
structure ArtifactId where
  document : Nat
  index : Nat
  deriving DecidableEq, Hashable, Repr, Inhabited

/-- The text of an artifact's numbers. -/
def ArtifactId.text (id : ArtifactId) : String :=
  toString id.document ++ ":" ++ toString id.index

/-- Order by document, then by number. -/
def ArtifactId.le (a b : ArtifactId) : Bool :=
  a.document < b.document || (a.document == b.document && a.index ≤ b.index)

/-- A cell: the number of its document, and its number among the cells of its sort, of
which a document is taken to have fewer than `2 ^ 32` as well. -/
structure CellId where
  document : Nat
  index : Nat
  deriving DecidableEq, Repr, Inhabited

/-- The text of a cell's numbers. -/
def CellId.text (id : CellId) : String :=
  toString id.document ++ ":" ++ toString id.index

/-- What artifacts are grouped by. -/
inductive Kind where
  | schema
  | server
  | channel
  | operation
  | message
  | parameter
  | security
  | bindings
  | root
  | other
  deriving DecidableEq, Repr, Inhabited

namespace Kind

/-- The name of a kind. -/
def text : Kind → String
  | schema => "schema"
  | server => "server"
  | channel => "channel"
  | operation => "operation"
  | message => "message"
  | parameter => "parameter"
  | security => "security"
  | bindings => "bindings"
  | root => "root"
  | other => "other"

/-- Every kind. -/
def all : List Kind :=
  [schema, server, channel, operation, message, parameter, security, bindings, root, other]

/-- The kind with a name. -/
def ofText? (s : String) : Option Kind :=
  all.find? (·.text == s)

end Kind

/-- The types of entities that bodies hold. -/
inductive Label where
  | root
  | server
  | serverVariable
  | channel
  | operation
  | message
  | correlationId
  | parameter
  | securityScheme
  | schema
  | bindings
  deriving DecidableEq, Repr, Inhabited

namespace Label

/-- What an entity of the type is called. -/
def text : Label → String
  | root => "document root"
  | server => "server"
  | serverVariable => "server variable"
  | channel => "channel"
  | operation => "operation"
  | message => "message"
  | correlationId => "correlation id"
  | parameter => "parameter"
  | securityScheme => "security scheme"
  | schema => "schema"
  | bindings => "bindings"

/-- Every type. -/
def all : List Label :=
  [root, server, serverVariable, channel, operation, message, correlationId, parameter,
    securityScheme, schema, bindings]

/-- The type that is called so. -/
def ofText? (s : String) : Option Label :=
  all.find? (·.text == s)

/-- The kind of the artifacts that hold an entity of the type. -/
def kind : Label → Kind
  | root => .root
  | server => .server
  | serverVariable => .other
  | channel => .channel
  | operation => .operation
  | message => .message
  | correlationId => .other
  | parameter => .parameter
  | securityScheme => .security
  | schema => .schema
  | bindings => .bindings

end Label

/-- An edge to one artifact that holds an entity of a type. -/
structure Promise (l : Label) where
  cell : CellId
  deriving DecidableEq, Repr, Inhabited

/-- An edge to all artifacts of a description, which hold entities of a type. -/
structure ListPromise (l : Label) where
  cell : CellId
  deriving DecidableEq, Repr, Inhabited

/-- The text of an unbound edge. -/
def Promise.text {l : Label} (p : Promise l) : String :=
  "Promise<" ++ l.text ++ ">(" ++ p.cell.text ++ ")"

/-- The text of an unbound edge to several artifacts. -/
def ListPromise.text {l : Label} (p : ListPromise l) : String :=
  "ListPromise<" ++ l.text ++ ">(" ++ p.cell.text ++ ")"

namespace Body

/-- A document. -/
structure Root where
  title : String
  version : String := ""
  description : Option String := none
  id : Option String := none
  contentType : Option String := none

/-- A server. -/
structure Server where
  url : String
  protocol : String
  protocolVersion : Option String
  description : Option String
  serverVariables : Table (Promise .serverVariable)
  security : List (Promise .securityScheme)
  bindings : Option (Promise .bindings)
  variants : Table Variant

/-- A server variable. -/
structure ServerVariable where
  allowed : List String := []
  default : Option String := none
  description : Option String := none
  examples : List String := []

/-- The servers of a channel. -/
inductive ChannelServers where
  /-- Those that the channel names. -/
  | named (servers : List (Promise .server))
  /-- Every visible server of the document. -/
  | all (servers : ListPromise .server)

/-- A channel. -/
structure Channel where
  address : String
  description : Option String
  serverNames : Option (List String)
  servers : ChannelServers
  parameters : Table (Promise .parameter)
  publish : Option (Promise .operation)
  subscribe : Option (Promise .operation)
  bindings : Option (Promise .bindings)
  variants : Table Variant

/-- The operations of a channel. -/
def Channel.operations (c : Channel) : List (Promise .operation) :=
  c.publish.toList ++ c.subscribe.toList

/-- An operation. -/
structure Operation where
  direction : Direction
  operationId : Option String
  summary : Option String
  description : Option String
  /-- The channel that the operation belongs to. -/
  channel : Promise .channel
  messages : List (Promise .message)
  security : List (Promise .securityScheme)
  bindings : Option (Promise .bindings)

/-- A message. -/
structure Message where
  messageId : Option String
  title : Option String
  summary : Option String
  description : Option String
  contentType : String
  headers : Option (Promise .schema)
  payload : Option (Promise .schema)
  correlationId : Option (Promise .correlationId)
  bindings : Option (Promise .bindings)
  variants : Table Variant

/-- A correlation id. -/
structure CorrelationId where
  description : Option String := none
  location : String := ""

/-- A parameter. -/
structure Parameter where
  description : Option String := none
  schema : Option (Promise .schema) := none
  location : Option String := none

/-- A security scheme. -/
structure SecurityScheme where
  type : String
  description : Option String := none
  name : Option String := none
  place : Option String := none
  scheme : Option String := none
  bearerFormat : Option String := none
  openIdConnectUrl : Option String := none
  flows : Option Json := none

/-- A property of an object. -/
structure Property where
  name : String
  required : Bool
  schema : Promise .schema

/-- What the values of a schema look like. -/
inductive Shape where
  /-- An object with properties, and the schema of further ones. -/
  | object (properties : List Property) (additional : Option (Promise .schema))
  /-- An object without properties whose values follow one schema. -/
  | map (values : Promise .schema)
  /-- An array. -/
  | array (items : Option (Promise .schema))
  /-- A value of one type. -/
  | primitive (type : String) (format : Option String)
  /-- A value of one of several types. -/
  | mixed (types : List String)
  /-- One of several schemas, or at least one of them. -/
  | union (variants : List (Promise .schema)) (exclusive : Bool)
  /-- All of several schemas. -/
  | allOf (parts : List (Promise .schema))
  /-- Anything. -/
  | any

/-- A data schema. -/
structure Schema where
  title : Option String := none
  description : Option String := none
  nullable : Bool := false
  default : Option Json := none
  enumeration : List Json := []
  constant : Option Json := none
  shape : Shape := .any

/-- Decoded bindings by protocol. -/
structure Bindings where
  kind : Document.BindingsKind
  values : Table BindingsValue

/-- A reference: where it points, and what it changes about its target. -/
structure Reference where
  /-- The cell of the reference, among the reference slots of its document. -/
  slot : CellId
  target : Location
  /-- The name to show instead of the target's. -/
  nameOverride : Option String
  /-- The selectability that replaces the target's. -/
  selectableOverride : Option Bool

/-- The data of an entity of a type. -/
abbrev Of : Label → Type
  | .root => Root
  | .server => Server
  | .serverVariable => ServerVariable
  | .channel => Channel
  | .operation => Operation
  | .message => Message
  | .correlationId => CorrelationId
  | .parameter => Parameter
  | .securityScheme => SecurityScheme
  | .schema => Schema
  | .bindings => Bindings

end Body

/-- The body of an artifact: the data of an entity, or a reference. -/
inductive Body where
  | root (b : Body.Root)
  | server (b : Body.Server)
  | serverVariable (b : Body.ServerVariable)
  | channel (b : Body.Channel)
  | operation (b : Body.Operation)
  | message (b : Body.Message)
  | correlationId (b : Body.CorrelationId)
  | parameter (b : Body.Parameter)
  | securityScheme (b : Body.SecurityScheme)
  | schema (b : Body.Schema)
  | bindings (b : Body.Bindings)
  | reference (b : Body.Reference)

namespace Body

/-- The type of the entity; a reference has none of its own. -/
def label? : Body → Option Label
  | root _ => some .root
  | server _ => some .server
  | serverVariable _ => some .serverVariable
  | channel _ => some .channel
  | operation _ => some .operation
  | message _ => some .message
  | correlationId _ => some .correlationId
  | parameter _ => some .parameter
  | securityScheme _ => some .securityScheme
  | schema _ => some .schema
  | bindings _ => some .bindings
  | reference _ => none

/-- What a body is called. -/
def labelText (b : Body) : String :=
  match b.label? with
  | some l => l.text
  | none => "reference"

/-- The body is a reference. -/
def isReference (b : Body) : Bool :=
  b.label?.isNone

/-- The data of the entity, if it is of the type. -/
def narrow? : (l : Label) → Body → Option (Of l)
  | .root, root b => some b
  | .server, server b => some b
  | .serverVariable, serverVariable b => some b
  | .channel, channel b => some b
  | .operation, operation b => some b
  | .message, message b => some b
  | .correlationId, correlationId b => some b
  | .parameter, parameter b => some b
  | .securityScheme, securityScheme b => some b
  | .schema, schema b => some b
  | .bindings, bindings b => some b
  | _, _ => none

theorem isSome_narrow? (l : Label) (b : Body) : (narrow? l b).isSome ↔ b.label? = some l := by
  cases l <;> cases b <;> simp [narrow?, label?]

end Body

/-- An artifact. -/
structure Artifact where
  name : String
  kind : Kind
  /-- The artifact is emitted on its own; a reference may say otherwise of its target. -/
  selectable : Bool := false
  visible : Bool := true
  location : Location
  body : Body

end ApiGraph
