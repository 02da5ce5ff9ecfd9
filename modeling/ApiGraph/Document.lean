/-
# Documents

The content of an API document: servers, channels with their operations and
messages, and components for reuse.  Tables keep the order of the document.

Most entities may be written as a reference to another one; a reference keeps
whatever else stands beside it, but stands for its target.  `shownAs` is the name
that an extension key gives to an entity, and `ignored` hides it.
-/

import ApiGraph.Json

namespace ApiGraph
namespace Document

/-- Which bindings section a section is. -/
inductive BindingsKind where
  | server
  | channel
  | operation
  | message
  deriving DecidableEq, Repr

/-- The name of a kind of bindings section. -/
def BindingsKind.text : BindingsKind → String
  | server => "server"
  | channel => "channel"
  | operation => "operation"
  | message => "message"

/-- Settings by protocol, undecoded. -/
structure Bindings where
  /-- The section that is meant instead. -/
  reference : Option String := none
  /-- Values by protocol. -/
  protocols : Table Json := []
  deriving Inhabited

/-- The title block. -/
structure Info where
  title : String := ""
  version : String := ""
  description : Option String := none
  deriving Inhabited, DecidableEq

/-- A value to be filled into a server's address. -/
structure ServerVariable where
  reference : Option String := none
  /-- The admitted values; any, if there are none. -/
  allowed : List String := []
  default : Option String := none
  description : Option String := none
  examples : List String := []
  deriving Inhabited, DecidableEq

/-- Security requirements: each maps scheme names to scopes. -/
abbrev Requirements := List (Table (List String))

/-- A server that channels are available on. -/
structure Server where
  reference : Option String := none
  url : String := ""
  protocol : String := ""
  protocolVersion : Option String := none
  description : Option String := none
  serverVariables : Table ServerVariable := []
  security : Requirements := []
  bindings : Option Bindings := none
  shownAs : Option String := none
  ignored : Bool := false
  deriving Inhabited

/-- `additionalProperties`: a switch, or the schema of the values. -/
inductive Additional (σ : Type) where
  | flag (b : Bool)
  | schema (s : σ)
  deriving Inhabited

/-- `type`: one name, or a list of names. -/
inductive SchemaType where
  | single (name : String)
  | many (names : List String)
  deriving Inhabited, DecidableEq

/-- The names of a `type`. -/
def SchemaType.names : SchemaType → List String
  | single name => [name]
  | many names => names

/-- A data schema. -/
structure Schema where
  reference : Option String := none
  type : Option SchemaType := none
  format : Option String := none
  title : Option String := none
  description : Option String := none
  properties : List (String × Schema) := []
  required : List String := []
  items : Option Schema := none
  additional : Option (Additional Schema) := none
  enumeration : List Json := []
  constant : Option Json := none
  oneOf : List Schema := []
  anyOf : List Schema := []
  allOf : List Schema := []
  nullable : Bool := false
  default : Option Json := none
  shownAs : Option String := none
  ignored : Bool := false
  deriving Inhabited

/-- Where a message says which conversation it belongs to. -/
structure CorrelationId where
  reference : Option String := none
  description : Option String := none
  location : String := ""
  shownAs : Option String := none
  deriving Inhabited, DecidableEq

/-- A message. -/
structure Message where
  reference : Option String := none
  messageId : Option String := none
  name : Option String := none
  title : Option String := none
  summary : Option String := none
  description : Option String := none
  contentType : Option String := none
  headers : Option Schema := none
  payload : Option Schema := none
  correlationId : Option CorrelationId := none
  bindings : Option Bindings := none
  shownAs : Option String := none
  ignored : Bool := false
  deriving Inhabited

/-- The messages of an operation: alternatives, or a single one. -/
inductive OperationMessage where
  | oneOf (messages : List Message)
  | single (message : Message)
  deriving Inhabited

/-- What is done on a channel in one direction. -/
structure Operation where
  operationId : Option String := none
  summary : Option String := none
  description : Option String := none
  security : Requirements := []
  bindings : Option Bindings := none
  message : Option OperationMessage := none
  shownAs : Option String := none
  ignored : Bool := false
  deriving Inhabited

/-- A parameter of a channel's address. -/
structure Parameter where
  reference : Option String := none
  description : Option String := none
  schema : Option Schema := none
  location : Option String := none
  shownAs : Option String := none
  deriving Inhabited

/-- A channel. -/
structure Channel where
  reference : Option String := none
  description : Option String := none
  /-- The names of its servers; every server, if it names none. -/
  servers : Option (List String) := none
  publish : Option Operation := none
  subscribe : Option Operation := none
  parameters : Table Parameter := []
  bindings : Option Bindings := none
  shownAs : Option String := none
  ignored : Bool := false
  deriving Inhabited

/-- A way to authenticate. -/
structure SecurityScheme where
  reference : Option String := none
  type : String := ""
  description : Option String := none
  /-- The name of the header, query parameter or cookie. -/
  name : Option String := none
  /-- Where the key is sent. -/
  place : Option String := none
  scheme : Option String := none
  bearerFormat : Option String := none
  openIdConnectUrl : Option String := none
  flows : Option Json := none
  shownAs : Option String := none
  ignored : Bool := false
  deriving Inhabited

/-- Definitions for reuse. -/
structure Components where
  schemas : Table Schema := []
  servers : Table Server := []
  serverVariables : Table ServerVariable := []
  channels : Table Channel := []
  messages : Table Message := []
  securitySchemes : Table SecurityScheme := []
  parameters : Table Parameter := []
  correlationIds : Table CorrelationId := []
  serverBindings : Table Bindings := []
  channelBindings : Table Bindings := []
  operationBindings : Table Bindings := []
  messageBindings : Table Bindings := []
  deriving Inhabited

end Document

/-- An API document. -/
structure Document where
  /-- The version of the format. -/
  formatVersion : String := ""
  id : Option String := none
  info : Document.Info := {}
  defaultContentType : Option String := none
  servers : Table Document.Server := []
  channels : Table Document.Channel := []
  components : Option Document.Components := none
  deriving Inhabited

end ApiGraph
