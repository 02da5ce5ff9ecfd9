/-
# Writing documents

A document is written with every field of every record, in order, under its JSON
name: null for what is absent, unions as the form that was read, and the
protocols of a bindings section beside its reference.
-/

import ApiGraph.Document

namespace ApiGraph
namespace Document

/-- A table as an object. -/
def tableJson {α : Type} (write : α → Json) (t : Table α) : Json :=
  .object (t.map fun (key, value) => (key, write value))

/-- A list as an array. -/
def listJson {α : Type} (write : α → Json) (xs : List α) : Json :=
  .array (xs.map write)

/-- An optional value, null for none. -/
def optionJson {α : Type} (write : α → Json) : Option α → Json
  | none => .null
  | some x => write x

/-- Security requirements. -/
def requirementsJson (rs : Requirements) : Json :=
  listJson (tableJson Json.ofTexts) rs

/-- A bindings section. -/
def Bindings.toJson (b : Bindings) : Json :=
  .object (("$ref", .ofText? b.reference) :: b.protocols)

/-- The title block. -/
def Info.toJson (i : Info) : Json :=
  .object [
    ("title", .string i.title),
    ("version", .string i.version),
    ("description", .ofText? i.description)]

/-- A server variable. -/
def ServerVariable.toJson (v : ServerVariable) : Json :=
  .object [
    ("$ref", .ofText? v.reference),
    ("enum", .ofTexts v.allowed),
    ("default", .ofText? v.default),
    ("description", .ofText? v.description),
    ("examples", .ofTexts v.examples)]

/-- A server. -/
def Server.toJson (s : Server) : Json :=
  .object [
    ("$ref", .ofText? s.reference),
    ("url", .string s.url),
    ("protocol", .string s.protocol),
    ("protocolVersion", .ofText? s.protocolVersion),
    ("description", .ofText? s.description),
    ("variables", tableJson ServerVariable.toJson s.serverVariables),
    ("security", requirementsJson s.security),
    ("bindings", optionJson Bindings.toJson s.bindings),
    ("x-name", .ofText? s.shownAs),
    ("x-ignore", .bool s.ignored)]

/-- The names of a schema's type. -/
def SchemaType.toJson : SchemaType → Json
  | single name => .string name
  | many names => .ofTexts names

mutual

/-- A schema. -/
def Schema.toJson : Schema → Json
  | ⟨reference, type, format, title, description, properties, required, items, additional,
      enumeration, constant, oneOf, anyOf, allOf, nullable, default, shownAs, ignored⟩ =>
    .object [
      ("$ref", .ofText? reference),
      ("type", optionJson SchemaType.toJson type),
      ("format", .ofText? format),
      ("title", .ofText? title),
      ("description", .ofText? description),
      ("properties", .object (propertiesJson properties)),
      ("required", .ofTexts required),
      ("items", optionalSchemaJson items),
      ("additionalProperties", additionalJson additional),
      ("enum", .array enumeration),
      ("const", .ofOption constant),
      ("oneOf", .array (schemasJson oneOf)),
      ("anyOf", .array (schemasJson anyOf)),
      ("allOf", .array (schemasJson allOf)),
      ("nullable", .bool nullable),
      ("default", .ofOption default),
      ("x-name", .ofText? shownAs),
      ("x-ignore", .bool ignored)]

/-- The schemas of properties. -/
def propertiesJson : List (String × Schema) → List (String × Json)
  | [] => []
  | (key, schema) :: rest => (key, Schema.toJson schema) :: propertiesJson rest

/-- The schemas of a combination. -/
def schemasJson : List Schema → List Json
  | [] => []
  | schema :: rest => Schema.toJson schema :: schemasJson rest

/-- A schema, null for none. -/
def optionalSchemaJson : Option Schema → Json
  | none => .null
  | some schema => Schema.toJson schema

/-- What a schema says about further properties, null for nothing. -/
def additionalJson : Option (Additional Schema) → Json
  | none => .null
  | some (.flag b) => .bool b
  | some (.schema schema) => Schema.toJson schema

end

/-- A correlation id. -/
def CorrelationId.toJson (c : CorrelationId) : Json :=
  .object [
    ("$ref", .ofText? c.reference),
    ("description", .ofText? c.description),
    ("location", .string c.location),
    ("x-name", .ofText? c.shownAs)]

/-- A message. -/
def Message.toJson (m : Message) : Json :=
  .object [
    ("$ref", .ofText? m.reference),
    ("messageId", .ofText? m.messageId),
    ("name", .ofText? m.name),
    ("title", .ofText? m.title),
    ("summary", .ofText? m.summary),
    ("description", .ofText? m.description),
    ("contentType", .ofText? m.contentType),
    ("headers", optionJson Schema.toJson m.headers),
    ("payload", optionJson Schema.toJson m.payload),
    ("correlationId", optionJson CorrelationId.toJson m.correlationId),
    ("bindings", optionJson Bindings.toJson m.bindings),
    ("x-name", .ofText? m.shownAs),
    ("x-ignore", .bool m.ignored)]

/-- The messages of an operation. -/
def OperationMessage.toJson : OperationMessage → Json
  | oneOf messages => .object [("oneOf", listJson Message.toJson messages)]
  | single message => message.toJson

/-- An operation. -/
def Operation.toJson (o : Operation) : Json :=
  .object [
    ("operationId", .ofText? o.operationId),
    ("summary", .ofText? o.summary),
    ("description", .ofText? o.description),
    ("security", requirementsJson o.security),
    ("bindings", optionJson Bindings.toJson o.bindings),
    ("message", optionJson OperationMessage.toJson o.message),
    ("x-name", .ofText? o.shownAs),
    ("x-ignore", .bool o.ignored)]

/-- A parameter. -/
def Parameter.toJson (p : Parameter) : Json :=
  .object [
    ("$ref", .ofText? p.reference),
    ("description", .ofText? p.description),
    ("schema", optionJson Schema.toJson p.schema),
    ("location", .ofText? p.location),
    ("x-name", .ofText? p.shownAs)]

/-- A channel. -/
def Channel.toJson (c : Channel) : Json :=
  .object [
    ("$ref", .ofText? c.reference),
    ("description", .ofText? c.description),
    ("servers", optionJson Json.ofTexts c.servers),
    ("publish", optionJson Operation.toJson c.publish),
    ("subscribe", optionJson Operation.toJson c.subscribe),
    ("parameters", tableJson Parameter.toJson c.parameters),
    ("bindings", optionJson Bindings.toJson c.bindings),
    ("x-name", .ofText? c.shownAs),
    ("x-ignore", .bool c.ignored)]

/-- A security scheme. -/
def SecurityScheme.toJson (s : SecurityScheme) : Json :=
  .object [
    ("$ref", .ofText? s.reference),
    ("type", .string s.type),
    ("description", .ofText? s.description),
    ("name", .ofText? s.name),
    ("in", .ofText? s.place),
    ("scheme", .ofText? s.scheme),
    ("bearerFormat", .ofText? s.bearerFormat),
    ("openIdConnectUrl", .ofText? s.openIdConnectUrl),
    ("flows", .ofOption s.flows),
    ("x-name", .ofText? s.shownAs),
    ("x-ignore", .bool s.ignored)]

/-- The components. -/
def Components.toJson (c : Components) : Json :=
  .object [
    ("schemas", tableJson Schema.toJson c.schemas),
    ("servers", tableJson Server.toJson c.servers),
    ("serverVariables", tableJson ServerVariable.toJson c.serverVariables),
    ("channels", tableJson Channel.toJson c.channels),
    ("messages", tableJson Message.toJson c.messages),
    ("securitySchemes", tableJson SecurityScheme.toJson c.securitySchemes),
    ("parameters", tableJson Parameter.toJson c.parameters),
    ("correlationIds", tableJson CorrelationId.toJson c.correlationIds),
    ("serverBindings", tableJson Bindings.toJson c.serverBindings),
    ("channelBindings", tableJson Bindings.toJson c.channelBindings),
    ("operationBindings", tableJson Bindings.toJson c.operationBindings),
    ("messageBindings", tableJson Bindings.toJson c.messageBindings)]

/-- A document. -/
def toJson (d : Document) : Json :=
  .object [
    ("asyncapi", .string d.formatVersion),
    ("id", .ofText? d.id),
    ("info", d.info.toJson),
    ("defaultContentType", .ofText? d.defaultContentType),
    ("servers", tableJson Server.toJson d.servers),
    ("channels", tableJson Channel.toJson d.channels),
    ("components", optionJson Components.toJson d.components)]

end Document
end ApiGraph
