/-
# Reading documents

The fields of every record of a document, in the order in which an array would
give them, under their JSON names.  All fields have defaults; those whose type is
optional admit null.

A schema may contain schemas.  Each of them opens an object or array, so the
number of schemas inside one another is bounded by the nesting limit, and
`schemaWithin` recurses on that number.
-/

import ApiGraph.Document
import ApiGraph.Json.Decoder

namespace ApiGraph
namespace Document

open Decoder

/-- Text that may be null. -/
def optionalText : Decoder (Option String) := optional text

/-- Security requirements. -/
def requirements : Decoder Requirements := list (table (list text))

/-- Reads the members of a bindings section: the reference, and any value under
any other key. -/
def bindingsMembers (depth : Nat) :
    List (Except Fault String × Source) → Bool → Bindings → Except Fault Bindings
  | [], _, b => .ok b
  | (key, value) :: rest, referenced, b => do
    let k ← key
    if k == "$ref" then
      if referenced then throw (.duplicateField k)
      let reference ← optionalText depth value
      bindingsMembers depth rest true { b with reference }
    else
      let v ← raw depth value
      bindingsMembers depth rest referenced { b with protocols := b.protocols.insert k v }

/-- A bindings section, which is always an object. -/
def bindings (name : String) : Decoder Bindings
  | 0, .object _ _ => throw .nestedTooDeep
  | depth + 1, .object members ending => do
    let b ← bindingsMembers depth members false {}
    refuse ending.reading
    return b
  | _, s => mismatch ("struct " ++ name) s

/-- What a bindings section of a kind is called. -/
def BindingsKind.recordName : BindingsKind → String
  | server => "ServerBindings"
  | channel => "ChannelBindings"
  | operation => "OperationBindings"
  | message => "MessageBindings"

/-- A bindings section of a kind. -/
def BindingsKind.decoder (kind : BindingsKind) : Decoder Bindings := bindings kind.recordName

/-- The fields of the title block. -/
def Info.fields : List (FieldReader Info) := [
  .of "title" text fun v r => { r with title := v },
  .of "version" text fun v r => { r with version := v },
  .of "description" optionalText fun v r => { r with description := v }]

/-- The title block. -/
def Info.decoder : Decoder Info :=
  record "Info" Info.fields {}

/-- The fields of a server variable. -/
def ServerVariable.fields : List (FieldReader ServerVariable) := [
  .of "$ref" optionalText fun v r => { r with reference := v },
  .of "enum" (list text) fun v r => { r with allowed := v },
  .of "default" optionalText fun v r => { r with default := v },
  .of "description" optionalText fun v r => { r with description := v },
  .of "examples" (list text) fun v r => { r with examples := v }]

/-- A server variable. -/
def ServerVariable.decoder : Decoder ServerVariable :=
  record "ServerVariable" ServerVariable.fields {}

/-- The fields of a server. -/
def Server.fields : List (FieldReader Server) := [
  .of "$ref" optionalText fun v r => { r with reference := v },
  .of "url" text fun v r => { r with url := v },
  .of "protocol" text fun v r => { r with protocol := v },
  .of "protocolVersion" optionalText fun v r => { r with protocolVersion := v },
  .of "description" optionalText fun v r => { r with description := v },
  .of "variables" (table ServerVariable.decoder) fun v r => { r with serverVariables := v },
  .of "security" requirements fun v r => { r with security := v },
  .of "bindings" (optional (BindingsKind.decoder .server)) fun v r => { r with bindings := v },
  .of "x-name" optionalText fun v r => { r with shownAs := v },
  .of "x-ignore" flag fun v r => { r with ignored := v }]

/-- A server. -/
def Server.decoder : Decoder Server :=
  record "Server" Server.fields {}

/-- The names of a schema's type. -/
def SchemaType.decoder : Decoder SchemaType :=
  union "SchemaType" [
    fun depth s => .single <$> text depth s,
    fun depth s => .many <$> list text depth s]

/-- What a schema says about further properties. -/
def additional (schema : Decoder Schema) : Decoder (Additional Schema) :=
  union "AdditionalProperties" [
    fun depth s => .flag <$> flag depth s,
    fun depth s => .schema <$> schema depth s]

/-- The fields of a schema, given how the schemas inside it are read. -/
def schemaFields (schema : Decoder Schema) : List (FieldReader Schema) := [
  .of "$ref" optionalText fun v r => { r with reference := v },
  .of "type" (optional SchemaType.decoder) fun v r => { r with type := v },
  .of "format" optionalText fun v r => { r with format := v },
  .of "title" optionalText fun v r => { r with title := v },
  .of "description" optionalText fun v r => { r with description := v },
  .of "properties" (table schema) fun v r => { r with properties := v },
  .of "required" (list text) fun v r => { r with required := v },
  .of "items" (optional schema) fun v r => { r with items := v },
  .of "additionalProperties" (optional (additional schema)) fun v r => { r with additional := v },
  .of "enum" (list raw) fun v r => { r with enumeration := v },
  .of "const" (optional raw) fun v r => { r with constant := v },
  .of "oneOf" (list schema) fun v r => { r with oneOf := v },
  .of "anyOf" (list schema) fun v r => { r with anyOf := v },
  .of "allOf" (list schema) fun v r => { r with allOf := v },
  .of "nullable" flag fun v r => { r with nullable := v },
  .of "default" (optional raw) fun v r => { r with default := v },
  .of "x-name" optionalText fun v r => { r with shownAs := v },
  .of "x-ignore" flag fun v r => { r with ignored := v }]

/-- A schema with at most so many schemas inside one another. -/
def schemaWithin : Nat → Decoder Schema
  | 0 => fun _ _ => throw .nestedTooDeep
  | levels + 1 => record "Schema" (schemaFields (schemaWithin levels)) {}

/-- A schema.  Every schema inside another one is also one container further in. -/
def Schema.decoder : Decoder Schema := fun depth s => schemaWithin (depth + 1) depth s

/-- The fields of a correlation id. -/
def CorrelationId.fields : List (FieldReader CorrelationId) := [
  .of "$ref" optionalText fun v r => { r with reference := v },
  .of "description" optionalText fun v r => { r with description := v },
  .of "location" text fun v r => { r with location := v },
  .of "x-name" optionalText fun v r => { r with shownAs := v }]

/-- A correlation id. -/
def CorrelationId.decoder : Decoder CorrelationId :=
  record "CorrelationId" CorrelationId.fields {}

/-- The fields of a message. -/
def Message.fields : List (FieldReader Message) := [
  .of "$ref" optionalText fun v r => { r with reference := v },
  .of "messageId" optionalText fun v r => { r with messageId := v },
  .of "name" optionalText fun v r => { r with name := v },
  .of "title" optionalText fun v r => { r with title := v },
  .of "summary" optionalText fun v r => { r with summary := v },
  .of "description" optionalText fun v r => { r with description := v },
  .of "contentType" optionalText fun v r => { r with contentType := v },
  .of "headers" (optional Schema.decoder) fun v r => { r with headers := v },
  .of "payload" (optional Schema.decoder) fun v r => { r with payload := v },
  .of "correlationId" (optional CorrelationId.decoder) fun v r => { r with correlationId := v },
  .of "bindings" (optional (BindingsKind.decoder .message)) fun v r => { r with bindings := v },
  .of "x-name" optionalText fun v r => { r with shownAs := v },
  .of "x-ignore" flag fun v r => { r with ignored := v }]

/-- A message. -/
def Message.decoder : Decoder Message :=
  record "Message" Message.fields {}

/-- The one field of the object around alternative messages. -/
def alternativesFields : List (FieldReader (Option (List Message))) := [
  .of "oneOf" (list Message.decoder) fun v _ => some v]

/-- The object around alternative messages, whose list has to be given. -/
def alternatives : Decoder (List Message) := fun depth s => do
  let messages ← record "OneOfMessages" alternativesFields none depth s
  match messages with
  | some messages => return messages
  | none => throw (.missingField "oneOf")

/-- The messages of an operation. -/
def OperationMessage.decoder : Decoder OperationMessage :=
  union "OperationMessage" [
    fun depth s => .oneOf <$> alternatives depth s,
    fun depth s => .single <$> Message.decoder depth s]

/-- The fields of an operation. -/
def Operation.fields : List (FieldReader Operation) := [
  .of "operationId" optionalText fun v r => { r with operationId := v },
  .of "summary" optionalText fun v r => { r with summary := v },
  .of "description" optionalText fun v r => { r with description := v },
  .of "security" requirements fun v r => { r with security := v },
  .of "bindings" (optional (BindingsKind.decoder .operation)) fun v r => { r with bindings := v },
  .of "message" (optional OperationMessage.decoder) fun v r => { r with message := v },
  .of "x-name" optionalText fun v r => { r with shownAs := v },
  .of "x-ignore" flag fun v r => { r with ignored := v }]

/-- An operation. -/
def Operation.decoder : Decoder Operation :=
  record "Operation" Operation.fields {}

/-- The fields of a parameter. -/
def Parameter.fields : List (FieldReader Parameter) := [
  .of "$ref" optionalText fun v r => { r with reference := v },
  .of "description" optionalText fun v r => { r with description := v },
  .of "schema" (optional Schema.decoder) fun v r => { r with schema := v },
  .of "location" optionalText fun v r => { r with location := v },
  .of "x-name" optionalText fun v r => { r with shownAs := v }]

/-- A parameter. -/
def Parameter.decoder : Decoder Parameter :=
  record "Parameter" Parameter.fields {}

/-- The fields of a channel. -/
def Channel.fields : List (FieldReader Channel) := [
  .of "$ref" optionalText fun v r => { r with reference := v },
  .of "description" optionalText fun v r => { r with description := v },
  .of "servers" (optional (list text)) fun v r => { r with servers := v },
  .of "publish" (optional Operation.decoder) fun v r => { r with publish := v },
  .of "subscribe" (optional Operation.decoder) fun v r => { r with subscribe := v },
  .of "parameters" (table Parameter.decoder) fun v r => { r with parameters := v },
  .of "bindings" (optional (BindingsKind.decoder .channel)) fun v r => { r with bindings := v },
  .of "x-name" optionalText fun v r => { r with shownAs := v },
  .of "x-ignore" flag fun v r => { r with ignored := v }]

/-- A channel. -/
def Channel.decoder : Decoder Channel :=
  record "Channel" Channel.fields {}

/-- The fields of a security scheme. -/
def SecurityScheme.fields : List (FieldReader SecurityScheme) := [
  .of "$ref" optionalText fun v r => { r with reference := v },
  .of "type" text fun v r => { r with type := v },
  .of "description" optionalText fun v r => { r with description := v },
  .of "name" optionalText fun v r => { r with name := v },
  .of "in" optionalText fun v r => { r with place := v },
  .of "scheme" optionalText fun v r => { r with scheme := v },
  .of "bearerFormat" optionalText fun v r => { r with bearerFormat := v },
  .of "openIdConnectUrl" optionalText fun v r => { r with openIdConnectUrl := v },
  .of "flows" (optional raw) fun v r => { r with flows := v },
  .of "x-name" optionalText fun v r => { r with shownAs := v },
  .of "x-ignore" flag fun v r => { r with ignored := v }]

/-- A security scheme. -/
def SecurityScheme.decoder : Decoder SecurityScheme :=
  record "SecurityScheme" SecurityScheme.fields {}

/-- The fields of the components. -/
def Components.fields : List (FieldReader Components) := [
  .of "schemas" (table Schema.decoder) fun v r => { r with schemas := v },
  .of "servers" (table Server.decoder) fun v r => { r with servers := v },
  .of "serverVariables" (table ServerVariable.decoder) fun v r => { r with serverVariables := v },
  .of "channels" (table Channel.decoder) fun v r => { r with channels := v },
  .of "messages" (table Message.decoder) fun v r => { r with messages := v },
  .of "securitySchemes" (table SecurityScheme.decoder) fun v r => { r with securitySchemes := v },
  .of "parameters" (table Parameter.decoder) fun v r => { r with parameters := v },
  .of "correlationIds" (table CorrelationId.decoder) fun v r => { r with correlationIds := v },
  .of "serverBindings" (table (BindingsKind.decoder .server)) fun v r => { r with serverBindings := v },
  .of "channelBindings" (table (BindingsKind.decoder .channel)) fun v r => { r with channelBindings := v },
  .of "operationBindings" (table (BindingsKind.decoder .operation)) fun v r => { r with operationBindings := v },
  .of "messageBindings" (table (BindingsKind.decoder .message)) fun v r => { r with messageBindings := v }]

/-- The components. -/
def Components.decoder : Decoder Components :=
  record "Components" Components.fields {}

/-- The fields of a document. -/
def fields : List (FieldReader Document) := [
  .of "asyncapi" text fun v r => { r with formatVersion := v },
  .of "id" optionalText fun v r => { r with id := v },
  .of "info" Info.decoder fun v r => { r with info := v },
  .of "defaultContentType" optionalText fun v r => { r with defaultContentType := v },
  .of "servers" (table Server.decoder) fun v r => { r with servers := v },
  .of "channels" (table Channel.decoder) fun v r => { r with channels := v },
  .of "components" (optional Components.decoder) fun v r => { r with components := v }]

/-- A document. -/
def decoder : Decoder Document :=
  record "AsyncApi" fields {}

/-- The document that a text holds. -/
def ofText (text : String) : Except Fault Document :=
  decodeText decoder text

/-- The message about a document that cannot be read from `path`. -/
def unreadable (path : String) (reason : String) : String :=
  "Parse error in " ++ path ++ ": " ++ reason

end Document
end ApiGraph
