/-
# The outline of a document

A document as a tree of maps, sequences, unions, records and scalars, in which
the nodes that stand for an entity carry it.  Whoever visits a document walks its
outline and needs to know nothing else about the types of its parts.

* An entity written as a reference is a scalar, whatever stands beside the
  reference.
* An optional part is a union without an active form where it is absent.
* The fields of a record carry tags that say what they hold.
-/

import ApiGraph.Document

namespace ApiGraph
namespace Document

/-- What the field of a record holds. -/
structure Tags where
  /-- Data schemas. -/
  dataModel : Bool := false
  /-- Definitions that stand on their own. -/
  definition : Bool := false
  /-- Data schemas that are part of their owner. -/
  inline : Bool := false
  deriving DecidableEq, Repr, Inhabited

namespace Tags

/-- The tags that hold for everything inside. -/
def inherited (t : Tags) : Tags :=
  { t with definition := false }

/-- The tags of both. -/
def union (a b : Tags) : Tags :=
  ⟨a.dataModel || b.dataModel, a.definition || b.definition, a.inline || b.inline⟩

end Tags

/-- A part of a document that is compiled to something of its own. -/
inductive Entity where
  | document (d : Document)
  | server (s : Server)
  | serverVariable (v : ServerVariable)
  | channel (c : Channel)
  | operation (o : Operation)
  | message (m : Message)
  | correlationId (c : CorrelationId)
  | parameter (p : Parameter)
  | securityScheme (s : SecurityScheme)
  | schema (s : Schema)
  | bindings (kind : BindingsKind) (b : Bindings)

/-- A node of the outline. -/
inductive Outline where
  /-- Entries in the order of the document. -/
  | map (entries : List (String × Outline))
  /-- Items in the order of the document. -/
  | sequence (items : List Outline)
  /-- The form that is active, if one is. -/
  | union (active : Option Outline)
  /-- Named fields, behind the entity that they make up. -/
  | record (entity : Option Entity) (fields : List (String × Tags × Outline))
  /-- An entity without parts that are visited. -/
  | scalar (entity : Entity)

namespace Outline

/-- A table, given the outline of its values. -/
def ofTable {α : Type} (outline : α → Outline) (t : Table α) : Outline :=
  .map (t.map fun (key, value) => (key, outline value))

/-- An optional part, given its outline. -/
def ofOption {α : Type} (outline : α → Outline) (x : Option α) : Outline :=
  .union (x.map outline)

/-- An entity with its fields, or a scalar if it is a reference. -/
def unlessReference (reference : Option String) (entity : Entity)
    (fields : List (String × Tags × Outline)) : Outline :=
  match reference with
  | some _ => .scalar entity
  | none => .record (some entity) fields

end Outline

open Outline

/-- A bindings section. -/
def Bindings.outline (kind : BindingsKind) (b : Bindings) : Outline :=
  .scalar (.bindings kind b)

/-- A server variable. -/
def ServerVariable.outline (v : ServerVariable) : Outline :=
  .scalar (.serverVariable v)

/-- A server. -/
def Server.outline (s : Server) : Outline :=
  unlessReference s.reference (.server s) [
    ("variables", {}, ofTable ServerVariable.outline s.serverVariables),
    ("bindings", {}, ofOption (Bindings.outline .server) s.bindings)]

/-- The tags of a field that holds data schemas. -/
def Tags.data : Tags := { dataModel := true }

/-- The tags of a section of definitions. -/
def Tags.definitions : Tags := { definition := true }

mutual

/-- A schema. -/
def Schema.outline : Schema → Outline
  | s@⟨reference, _, _, _, _, properties, _, items, additional, _, _, oneOf, anyOf, allOf,
      _, _, _, _⟩ =>
    unlessReference reference (.schema s) [
      ("properties", .data, .map (propertyOutlines properties)),
      ("items", .data, optionalSchemaOutline items),
      ("additionalProperties", .data, additionalOutline additional),
      ("oneOf", .data, .sequence (schemaOutlines oneOf)),
      ("anyOf", .data, .sequence (schemaOutlines anyOf)),
      ("allOf", .data, .sequence (schemaOutlines allOf))]

/-- The schemas of properties. -/
def propertyOutlines : List (String × Schema) → List (String × Outline)
  | [] => []
  | (key, schema) :: rest => (key, Schema.outline schema) :: propertyOutlines rest

/-- The schemas of a combination. -/
def schemaOutlines : List Schema → List Outline
  | [] => []
  | schema :: rest => Schema.outline schema :: schemaOutlines rest

/-- An optional schema. -/
def optionalSchemaOutline : Option Schema → Outline
  | none => .union none
  | some schema => .union (some (Schema.outline schema))

/-- What a schema says about further properties: a union inside the optional
part, active where it is a schema. -/
def additionalOutline : Option (Additional Schema) → Outline
  | none => .union none
  | some (.flag _) => .union (some (.union none))
  | some (.schema schema) => .union (some (.union (some (Schema.outline schema))))

end

/-- What is said about further properties: active where it is a schema. -/
def Additional.outline : Additional Schema → Outline
  | .flag _ => .union none
  | .schema s => .union (some s.outline)

/-- The walk through a schema enters what is said about further properties as this outline. -/
theorem additionalOutline_some (a : Additional Schema) :
    additionalOutline (some a) = .union (some a.outline) := by
  cases a <;> simp [additionalOutline, Additional.outline]

/-- A correlation id. -/
def CorrelationId.outline (c : CorrelationId) : Outline :=
  .scalar (.correlationId c)

/-- A message. -/
def Message.outline (m : Message) : Outline :=
  unlessReference m.reference (.message m) [
    ("headers", .data, ofOption Schema.outline m.headers),
    ("payload", .data, ofOption Schema.outline m.payload),
    ("correlationId", {}, ofOption CorrelationId.outline m.correlationId),
    ("bindings", {}, ofOption (Bindings.outline .message) m.bindings)]

/-- The messages of an operation. -/
def OperationMessage.outline : OperationMessage → Outline
  | oneOf messages =>
    .union (some (.record none [("oneOf", {}, .sequence (messages.map Message.outline))]))
  | single message => .union (some message.outline)

/-- An operation. -/
def Operation.outline (o : Operation) : Outline :=
  .record (some (.operation o)) [
    ("bindings", {}, ofOption (Bindings.outline .operation) o.bindings),
    ("message", {}, ofOption OperationMessage.outline o.message)]

/-- A parameter. -/
def Parameter.outline (p : Parameter) : Outline :=
  unlessReference p.reference (.parameter p) [
    ("schema", { dataModel := true, inline := true }, ofOption Schema.outline p.schema)]

/-- A channel. -/
def Channel.outline (c : Channel) : Outline :=
  unlessReference c.reference (.channel c) [
    ("publish", {}, ofOption Operation.outline c.publish),
    ("subscribe", {}, ofOption Operation.outline c.subscribe),
    ("parameters", {}, ofTable Parameter.outline c.parameters),
    ("bindings", {}, ofOption (Bindings.outline .channel) c.bindings)]

/-- A security scheme. -/
def SecurityScheme.outline (s : SecurityScheme) : Outline :=
  .scalar (.securityScheme s)

/-- The components. -/
def Components.outline (c : Components) : Outline :=
  .record none [
    ("schemas", { dataModel := true, definition := true }, ofTable Schema.outline c.schemas),
    ("servers", .definitions, ofTable Server.outline c.servers),
    ("serverVariables", .definitions, ofTable ServerVariable.outline c.serverVariables),
    ("channels", .definitions, ofTable Channel.outline c.channels),
    ("messages", .definitions, ofTable Message.outline c.messages),
    ("securitySchemes", .definitions, ofTable SecurityScheme.outline c.securitySchemes),
    ("parameters", .definitions, ofTable Parameter.outline c.parameters),
    ("correlationIds", .definitions, ofTable CorrelationId.outline c.correlationIds),
    ("serverBindings", .definitions, ofTable (Bindings.outline .server) c.serverBindings),
    ("channelBindings", .definitions, ofTable (Bindings.outline .channel) c.channelBindings),
    ("operationBindings", .definitions, ofTable (Bindings.outline .operation) c.operationBindings),
    ("messageBindings", .definitions, ofTable (Bindings.outline .message) c.messageBindings)]

/-- A document. -/
def outline (d : Document) : Outline :=
  .record (some (.document d)) [
    ("servers", {}, ofTable Server.outline d.servers),
    ("channels", {}, ofTable Channel.outline d.channels),
    ("components", {}, ofOption Components.outline d.components)]

/-- The name of an entity's type. -/
def Entity.typeName : Entity → String
  | document _ => "document"
  | server _ => "server"
  | serverVariable _ => "serverVariable"
  | channel _ => "channel"
  | operation _ => "operation"
  | message _ => "message"
  | correlationId _ => "correlationId"
  | parameter _ => "parameter"
  | securityScheme _ => "securityScheme"
  | schema _ => "schema"
  | bindings kind _ => kind.text ++ "Bindings"

namespace Outline

/-- The shape of a node. -/
inductive Shape where
  | map
  | sequence
  | union (active : Bool)
  | record
  | scalar
  deriving DecidableEq, Repr

/-- One node on a visit: where it is, its shape, the tags of its field, its entity. -/
structure Row where
  /-- The keys on the way to the node. -/
  path : List String
  /-- The shape of the node. -/
  shape : Shape
  /-- The tags of the field that the node is in. -/
  tags : Tags
  /-- The entity that the node stands for. -/
  entity : Option Entity

mutual

/-- The nodes in the order of a visit, outermost first.  The active form of a
union is a node of its own at the same place. -/
def rowsFrom (path : List String) (tags : Tags) : Outline → List Row
  | .map entries => ⟨path, .map, tags, none⟩ :: entryRows path entries
  | .sequence items => ⟨path, .sequence, tags, none⟩ :: itemRows path 0 items
  | .union none => [⟨path, .union false, tags, none⟩]
  | .union (some active) => ⟨path, .union true, tags, none⟩ :: rowsFrom path tags active
  | .record entity fields => ⟨path, .record, tags, entity⟩ :: fieldRows path fields
  | .scalar entity => [⟨path, .scalar, tags, some entity⟩]

/-- The nodes inside the entries of a map. -/
def entryRows (path : List String) : List (String × Outline) → List Row
  | [] => []
  | (key, node) :: rest => rowsFrom (path ++ [key]) {} node ++ entryRows path rest

/-- The nodes inside the items of a sequence from an index on. -/
def itemRows (path : List String) (index : Nat) : List Outline → List Row
  | [] => []
  | node :: rest =>
    rowsFrom (path ++ [toString index]) {} node ++ itemRows path (index + 1) rest

/-- The nodes inside the fields of a record. -/
def fieldRows (path : List String) : List (String × Tags × Outline) → List Row
  | [] => []
  | (name, tags, node) :: rest => rowsFrom (path ++ [name]) tags node ++ fieldRows path rest

end

/-- The nodes in the order of a visit. -/
def rows (o : Outline) : List Row :=
  rowsFrom [] {} o

end Outline
end Document
end ApiGraph
