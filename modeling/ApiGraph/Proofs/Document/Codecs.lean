/-
# Documents that are restored

Every record of a document is described by its parts, so that it is restored part by part
(`Slot.record`).  A schema may contain schemas.  It is read with a bound on how many of them stand
inside one another, so what was read with one bound is read again with another
(`undoes_schemaWithin`); a schema is given as many levels as the values around it leave depth.

A document that was read from a text and written back, in one line or indented, is the same
document when it is read again.
-/

import ApiGraph.Proofs.Document.Forms

namespace ApiGraph
namespace Document

open Decoder

variable {n : Nat}

/-! ## Schemas -/

/-- Additional properties are written as anything that may be missing. -/
theorem additionalJson_eq (x : Option (Additional Schema)) :
    additionalJson x = optionJson Additional.toJson x := by
  rcases x with _ | (_ | _) <;> rw [additionalJson, optionJson] <;> rfl

/-- A schema is written as an object. -/
theorem Schema.toJson_ne_null (s : Schema) : s.toJson ≠ .null := by
  obtain ⟨fields, written⟩ := s.exists_toJson_eq_object
  rw [written]
  rintro ⟨⟩

/-- Additional properties are written as a flag or an object. -/
theorem Additional.toJson_ne_null (a : Additional Schema) : a.toJson ≠ .null := by
  cases a with
  | flag b => rintro ⟨⟩
  | schema s => exact s.toJson_ne_null

section Levels

variable {d e : Decoder Schema} (h : Undoes n d e Schema.toJson)

/-- How a schema inside a schema is read and written. -/
def Schema.inner : Codec n Schema := ⟨d, e, Schema.toJson, h⟩

/-- The parts of a schema, given how the schemas inside it are read. -/
def Schema.parts : List (Part n Schema) := [
  .mk "$ref" .optionalText (·.reference) fun v r => { r with reference := v },
  .mk "type" (SchemaType.codec.optional (by rintro (_ | _) ⟨⟩)) (·.type)
    fun v r => { r with type := v },
  .mk "format" .optionalText (·.format) fun v r => { r with format := v },
  .mk "title" .optionalText (·.title) fun v r => { r with title := v },
  .mk "description" .optionalText (·.description) fun v r => { r with description := v },
  .mk "properties" (Schema.inner h).table (·.properties) fun v r => { r with properties := v },
  .mk "required" .texts (·.required) fun v r => { r with required := v },
  .mk "items" ((Schema.inner h).optional Schema.toJson_ne_null) (·.items)
    fun v r => { r with items := v },
  .mk "additionalProperties" ((Additional.codec h).optional Additional.toJson_ne_null)
    (·.additional) fun v r => { r with additional := v },
  .mk "enum" .raws (·.enumeration) fun v r => { r with enumeration := v },
  .mk "const" .optionalRaw (·.constant) fun v r => { r with constant := v },
  .mk "oneOf" (Schema.inner h).list (·.oneOf) fun v r => { r with oneOf := v },
  .mk "anyOf" (Schema.inner h).list (·.anyOf) fun v r => { r with anyOf := v },
  .mk "allOf" (Schema.inner h).list (·.allOf) fun v r => { r with allOf := v },
  .mk "nullable" .flag (·.nullable) fun v r => { r with nullable := v },
  .mk "default" .optionalRaw (·.default) fun v r => { r with default := v },
  .mk "x-name" .optionalText (·.shownAs) fun v r => { r with shownAs := v },
  .mk "x-ignore" .flag (·.ignored) fun v r => { r with ignored := v }]

/-- The parts of a schema are all that it has. -/
theorem Schema.whole : Whole (Schema.parts h) {} where
  names := by simp [Schema.parts]
  apart := by
    refine Part.pairwise_apart ?_
    simp only [Schema.parts, Part.AllApart, List.Forall, and_true]
    and_intros <;> exact fun _ _ => rfl
  total r _ := by cases r; rfl
  starts := by
    simp only [Schema.parts, List.Forall]
    and_intros <;> rfl

/-- A schema is written part by part. -/
theorem Schema.toJson_eq_partsJson : Schema.toJson = partsJson (Schema.parts h) := by
  funext s
  cases s
  rw [Schema.toJson, propertiesJson_eq, optionalSchemaJson_eq, additionalJson_eq, schemasJson_eq,
    schemasJson_eq, schemasJson_eq]
  rfl

end Levels

/-- What was read with one bound on the schemas inside one another is restored with any other, as
deep as that one admits. -/
theorem undoes_schemaWithin (levels : Nat) :
    ∀ n, Undoes n (schemaWithin levels) (schemaWithin n) Schema.toJson := by
  induction levels with
  | zero => exact fun n depth s x _ read => by cases read
  | succ levels ih =>
    have step (n : Nat) :
        Undoes (n + 1) (schemaWithin (levels + 1)) (schemaWithin (n + 1)) Schema.toJson := by
      rw [Schema.toJson_eq_partsJson (ih n)]
      exact undoes_record (Schema.whole (ih n)) "Schema"
    intro n
    cases n with
    -- Without levels nothing is read again, and what is left are the integers of what is written.
    | zero => exact (step 0).mono fun _ restored => ⟨restored.fits, by simp⟩
    | succ n => exact step n

/-- How a schema is read and written. -/
def Schema.codec : Codec n Schema where
  decoder := Schema.decoder
  again := Schema.decoder
  write := Schema.toJson
  undoes := by
    intro depth s x fit read
    have restored (m : Nat) := undoes_schemaWithin (depth + 1) m depth s x fit read
    exact ⟨(restored 0).fits, fun k _ => (restored (k + 1)).read k k.lt_succ_self⟩

/-! ## Records -/

/-- Security requirements. -/
def requirementsSlot : Slot n Requirements :=
  Slot.texts.table.list.writtenAs requirementsJson rfl

/-- The parts of the title block. -/
def Info.parts : List (Part n Info) := [
  .mk "title" .text (·.title) fun v r => { r with title := v },
  .mk "version" .text (·.version) fun v r => { r with version := v },
  .mk "description" .optionalText (·.description) fun v r => { r with description := v }]

/-- The parts of an info are all that it has. -/
theorem Info.whole : Whole (Info.parts (n := n)) {} where
  names := by simp [Info.parts]
  apart := by
    refine Part.pairwise_apart ?_
    simp only [Info.parts, Part.AllApart, List.Forall, and_true]
    and_intros <;> exact fun _ _ => rfl
  total _ _ := rfl
  starts := by
    simp only [Info.parts, List.Forall]
    and_intros <;> rfl

/-- How the title block is read and written. -/
def Info.slot : Slot n Info :=
  .record Info.decoder Info.toJson Info.whole rfl rfl rfl

/-- The parts of a server variable. -/
def ServerVariable.parts : List (Part n ServerVariable) := [
  .mk "$ref" .optionalText (·.reference) fun v r => { r with reference := v },
  .mk "enum" .texts (·.allowed) fun v r => { r with allowed := v },
  .mk "default" .optionalText (·.default) fun v r => { r with default := v },
  .mk "description" .optionalText (·.description) fun v r => { r with description := v },
  .mk "examples" .texts (·.examples) fun v r => { r with examples := v }]

/-- The parts of a server variable are all that it has. -/
theorem ServerVariable.whole : Whole (ServerVariable.parts (n := n)) {} where
  names := by simp [ServerVariable.parts]
  apart := by
    refine Part.pairwise_apart ?_
    simp only [ServerVariable.parts, Part.AllApart, List.Forall, and_true]
    and_intros <;> exact fun _ _ => rfl
  total _ _ := rfl
  starts := by
    simp only [ServerVariable.parts, List.Forall]
    and_intros <;> rfl

/-- How a server variable is read and written. -/
def ServerVariable.slot : Slot n ServerVariable :=
  .record ServerVariable.decoder ServerVariable.toJson ServerVariable.whole rfl rfl rfl

/-- The parts of a server. -/
def Server.parts : List (Part n Server) := [
  .mk "$ref" .optionalText (·.reference) fun v r => { r with reference := v },
  .mk "url" .text (·.url) fun v r => { r with url := v },
  .mk "protocol" .text (·.protocol) fun v r => { r with protocol := v },
  .mk "protocolVersion" .optionalText (·.protocolVersion)
    fun v r => { r with protocolVersion := v },
  .mk "description" .optionalText (·.description) fun v r => { r with description := v },
  .mk "variables" ServerVariable.slot.table (·.serverVariables)
    fun v r => { r with serverVariables := v },
  .mk "security" requirementsSlot (·.security) fun v r => { r with security := v },
  .mk "bindings" ((Bindings.codec .server).optional fun _ => nofun) (·.bindings)
    fun v r => { r with bindings := v },
  .mk "x-name" .optionalText (·.shownAs) fun v r => { r with shownAs := v },
  .mk "x-ignore" .flag (·.ignored) fun v r => { r with ignored := v }]

/-- The parts of a server are all that it has. -/
theorem Server.whole : Whole (Server.parts (n := n)) {} where
  names := by simp [Server.parts]
  apart := by
    refine Part.pairwise_apart ?_
    simp only [Server.parts, Part.AllApart, List.Forall, and_true]
    and_intros <;> exact fun _ _ => rfl
  total _ _ := rfl
  starts := by
    simp only [Server.parts, List.Forall]
    and_intros <;> rfl

/-- How a server is read and written. -/
def Server.slot : Slot n Server :=
  .record Server.decoder Server.toJson Server.whole rfl rfl rfl

/-- The parts of a correlation id. -/
def CorrelationId.parts : List (Part n CorrelationId) := [
  .mk "$ref" .optionalText (·.reference) fun v r => { r with reference := v },
  .mk "description" .optionalText (·.description) fun v r => { r with description := v },
  .mk "location" .text (·.location) fun v r => { r with location := v },
  .mk "x-name" .optionalText (·.shownAs) fun v r => { r with shownAs := v }]

/-- The parts of a correlation id are all that it has. -/
theorem CorrelationId.whole : Whole (CorrelationId.parts (n := n)) {} where
  names := by simp [CorrelationId.parts]
  apart := by
    refine Part.pairwise_apart ?_
    simp only [CorrelationId.parts, Part.AllApart, List.Forall, and_true]
    and_intros <;> exact fun _ _ => rfl
  total _ _ := rfl
  starts := by
    simp only [CorrelationId.parts, List.Forall]
    and_intros <;> rfl

/-- How a correlation id is read and written. -/
def CorrelationId.slot : Slot n CorrelationId :=
  .record CorrelationId.decoder CorrelationId.toJson CorrelationId.whole rfl rfl rfl

/-- The parts of a message. -/
def Message.parts : List (Part n Message) := [
  .mk "$ref" .optionalText (·.reference) fun v r => { r with reference := v },
  .mk "messageId" .optionalText (·.messageId) fun v r => { r with messageId := v },
  .mk "name" .optionalText (·.name) fun v r => { r with name := v },
  .mk "title" .optionalText (·.title) fun v r => { r with title := v },
  .mk "summary" .optionalText (·.summary) fun v r => { r with summary := v },
  .mk "description" .optionalText (·.description) fun v r => { r with description := v },
  .mk "contentType" .optionalText (·.contentType) fun v r => { r with contentType := v },
  .mk "headers" (Schema.codec.optional Schema.toJson_ne_null) (·.headers)
    fun v r => { r with headers := v },
  .mk "payload" (Schema.codec.optional Schema.toJson_ne_null) (·.payload)
    fun v r => { r with payload := v },
  .mk "correlationId" (CorrelationId.slot.optional fun _ => nofun) (·.correlationId)
    fun v r => { r with correlationId := v },
  .mk "bindings" ((Bindings.codec .message).optional fun _ => nofun) (·.bindings)
    fun v r => { r with bindings := v },
  .mk "x-name" .optionalText (·.shownAs) fun v r => { r with shownAs := v },
  .mk "x-ignore" .flag (·.ignored) fun v r => { r with ignored := v }]

/-- The parts of a message are all that it has. -/
theorem Message.whole : Whole (Message.parts (n := n)) {} where
  names := by simp [Message.parts]
  apart := by
    refine Part.pairwise_apart ?_
    simp only [Message.parts, Part.AllApart, List.Forall, and_true]
    and_intros <;> exact fun _ _ => rfl
  total _ _ := rfl
  starts := by
    simp only [Message.parts, List.Forall]
    and_intros <;> rfl

/-- How a message is read and written. -/
def Message.slot : Slot n Message :=
  .record Message.decoder Message.toJson Message.whole rfl rfl rfl

/-- The messages of an operation are written as an object. -/
theorem OperationMessage.toJson_ne_null (m : OperationMessage) : m.toJson ≠ .null := by
  cases m <;> rintro ⟨⟩

/-- The parts of an operation. -/
def Operation.parts : List (Part n Operation) := [
  .mk "operationId" .optionalText (·.operationId) fun v r => { r with operationId := v },
  .mk "summary" .optionalText (·.summary) fun v r => { r with summary := v },
  .mk "description" .optionalText (·.description) fun v r => { r with description := v },
  .mk "security" requirementsSlot (·.security) fun v r => { r with security := v },
  .mk "bindings" ((Bindings.codec .operation).optional fun _ => nofun) (·.bindings)
    fun v r => { r with bindings := v },
  .mk "message" ((OperationMessage.codec Message.slot.undoes).optional
    OperationMessage.toJson_ne_null) (·.message) fun v r => { r with message := v },
  .mk "x-name" .optionalText (·.shownAs) fun v r => { r with shownAs := v },
  .mk "x-ignore" .flag (·.ignored) fun v r => { r with ignored := v }]

/-- The parts of an operation are all that it has. -/
theorem Operation.whole : Whole (Operation.parts (n := n)) {} where
  names := by simp [Operation.parts]
  apart := by
    refine Part.pairwise_apart ?_
    simp only [Operation.parts, Part.AllApart, List.Forall, and_true]
    and_intros <;> exact fun _ _ => rfl
  total _ _ := rfl
  starts := by
    simp only [Operation.parts, List.Forall]
    and_intros <;> rfl

/-- How an operation is read and written. -/
def Operation.slot : Slot n Operation :=
  .record Operation.decoder Operation.toJson Operation.whole rfl rfl rfl

/-- The parts of a parameter. -/
def Parameter.parts : List (Part n Parameter) := [
  .mk "$ref" .optionalText (·.reference) fun v r => { r with reference := v },
  .mk "description" .optionalText (·.description) fun v r => { r with description := v },
  .mk "schema" (Schema.codec.optional Schema.toJson_ne_null) (·.schema)
    fun v r => { r with schema := v },
  .mk "location" .optionalText (·.location) fun v r => { r with location := v },
  .mk "x-name" .optionalText (·.shownAs) fun v r => { r with shownAs := v }]

/-- The parts of a parameter are all that it has. -/
theorem Parameter.whole : Whole (Parameter.parts (n := n)) {} where
  names := by simp [Parameter.parts]
  apart := by
    refine Part.pairwise_apart ?_
    simp only [Parameter.parts, Part.AllApart, List.Forall, and_true]
    and_intros <;> exact fun _ _ => rfl
  total _ _ := rfl
  starts := by
    simp only [Parameter.parts, List.Forall]
    and_intros <;> rfl

/-- How a parameter is read and written. -/
def Parameter.slot : Slot n Parameter :=
  .record Parameter.decoder Parameter.toJson Parameter.whole rfl rfl rfl

/-- The parts of a channel. -/
def Channel.parts : List (Part n Channel) := [
  .mk "$ref" .optionalText (·.reference) fun v r => { r with reference := v },
  .mk "description" .optionalText (·.description) fun v r => { r with description := v },
  .mk "servers" (Slot.texts.optional fun _ => nofun) (·.servers)
    fun v r => { r with servers := v },
  .mk "publish" (Operation.slot.optional fun _ => nofun) (·.publish)
    fun v r => { r with publish := v },
  .mk "subscribe" (Operation.slot.optional fun _ => nofun) (·.subscribe)
    fun v r => { r with subscribe := v },
  .mk "parameters" Parameter.slot.table (·.parameters) fun v r => { r with parameters := v },
  .mk "bindings" ((Bindings.codec .channel).optional fun _ => nofun) (·.bindings)
    fun v r => { r with bindings := v },
  .mk "x-name" .optionalText (·.shownAs) fun v r => { r with shownAs := v },
  .mk "x-ignore" .flag (·.ignored) fun v r => { r with ignored := v }]

/-- The parts of a channel are all that it has. -/
theorem Channel.whole : Whole (Channel.parts (n := n)) {} where
  names := by simp [Channel.parts]
  apart := by
    refine Part.pairwise_apart ?_
    simp only [Channel.parts, Part.AllApart, List.Forall, and_true]
    and_intros <;> exact fun _ _ => rfl
  total _ _ := rfl
  starts := by
    simp only [Channel.parts, List.Forall]
    and_intros <;> rfl

/-- How a channel is read and written. -/
def Channel.slot : Slot n Channel :=
  .record Channel.decoder Channel.toJson Channel.whole rfl rfl rfl

/-- The parts of a security scheme. -/
def SecurityScheme.parts : List (Part n SecurityScheme) := [
  .mk "$ref" .optionalText (·.reference) fun v r => { r with reference := v },
  .mk "type" .text (·.type) fun v r => { r with type := v },
  .mk "description" .optionalText (·.description) fun v r => { r with description := v },
  .mk "name" .optionalText (·.name) fun v r => { r with name := v },
  .mk "in" .optionalText (·.place) fun v r => { r with place := v },
  .mk "scheme" .optionalText (·.scheme) fun v r => { r with scheme := v },
  .mk "bearerFormat" .optionalText (·.bearerFormat) fun v r => { r with bearerFormat := v },
  .mk "openIdConnectUrl" .optionalText (·.openIdConnectUrl)
    fun v r => { r with openIdConnectUrl := v },
  .mk "flows" .optionalRaw (·.flows) fun v r => { r with flows := v },
  .mk "x-name" .optionalText (·.shownAs) fun v r => { r with shownAs := v },
  .mk "x-ignore" .flag (·.ignored) fun v r => { r with ignored := v }]

/-- The parts of a security scheme are all that it has. -/
theorem SecurityScheme.whole : Whole (SecurityScheme.parts (n := n)) {} where
  names := by simp [SecurityScheme.parts]
  apart := by
    refine Part.pairwise_apart ?_
    simp only [SecurityScheme.parts, Part.AllApart, List.Forall, and_true]
    and_intros <;> exact fun _ _ => rfl
  total _ _ := rfl
  starts := by
    simp only [SecurityScheme.parts, List.Forall]
    and_intros <;> rfl

/-- How a security scheme is read and written. -/
def SecurityScheme.slot : Slot n SecurityScheme :=
  .record SecurityScheme.decoder SecurityScheme.toJson SecurityScheme.whole rfl rfl rfl

/-- The parts of the components. -/
def Components.parts : List (Part n Components) := [
  .mk "schemas" Schema.codec.table (·.schemas) fun v r => { r with schemas := v },
  .mk "servers" Server.slot.table (·.servers) fun v r => { r with servers := v },
  .mk "serverVariables" ServerVariable.slot.table (·.serverVariables)
    fun v r => { r with serverVariables := v },
  .mk "channels" Channel.slot.table (·.channels) fun v r => { r with channels := v },
  .mk "messages" Message.slot.table (·.messages) fun v r => { r with messages := v },
  .mk "securitySchemes" SecurityScheme.slot.table (·.securitySchemes)
    fun v r => { r with securitySchemes := v },
  .mk "parameters" Parameter.slot.table (·.parameters) fun v r => { r with parameters := v },
  .mk "correlationIds" CorrelationId.slot.table (·.correlationIds)
    fun v r => { r with correlationIds := v },
  .mk "serverBindings" (Bindings.codec .server).table (·.serverBindings)
    fun v r => { r with serverBindings := v },
  .mk "channelBindings" (Bindings.codec .channel).table (·.channelBindings)
    fun v r => { r with channelBindings := v },
  .mk "operationBindings" (Bindings.codec .operation).table (·.operationBindings)
    fun v r => { r with operationBindings := v },
  .mk "messageBindings" (Bindings.codec .message).table (·.messageBindings)
    fun v r => { r with messageBindings := v }]

/-- The parts of components are all that they have. -/
theorem Components.whole : Whole (Components.parts (n := n)) {} where
  names := by simp [Components.parts]
  apart := by
    refine Part.pairwise_apart ?_
    simp only [Components.parts, Part.AllApart, List.Forall, and_true]
    and_intros <;> exact fun _ _ => rfl
  total _ _ := rfl
  starts := by
    simp only [Components.parts, List.Forall]
    and_intros <;> rfl

/-- How the components are read and written. -/
def Components.slot : Slot n Components :=
  .record Components.decoder Components.toJson Components.whole rfl rfl rfl

/-- The parts of a document. -/
def parts : List (Part n Document) := [
  .mk "asyncapi" .text (·.formatVersion) fun v r => { r with formatVersion := v },
  .mk "id" .optionalText (·.id) fun v r => { r with id := v },
  .mk "info" Info.slot (·.info) fun v r => { r with info := v },
  .mk "defaultContentType" .optionalText (·.defaultContentType)
    fun v r => { r with defaultContentType := v },
  .mk "servers" Server.slot.table (·.servers) fun v r => { r with servers := v },
  .mk "channels" Channel.slot.table (·.channels) fun v r => { r with channels := v },
  .mk "components" (Components.slot.optional fun _ => nofun) (·.components)
    fun v r => { r with components := v }]

/-- The parts of a document are all that it has. -/
theorem whole : Whole (parts (n := n)) {} where
  names := by simp [parts]
  apart := by
    refine Part.pairwise_apart ?_
    simp only [parts, Part.AllApart, List.Forall, and_true]
    and_intros <;> exact fun _ _ => rfl
  total _ _ := rfl
  starts := by
    simp only [parts, List.Forall]
    and_intros <;> rfl

/-- How a document is read and written. -/
def slot : Slot n Document :=
  .record decoder toJson whole rfl rfl rfl

/-! ## Reading again -/

/-- **A document that was read and written back is read as the same document**, from its text in
one line and from the indented one.  Floating-point numbers can only stand in raw values.  What is
written may be nested one level deeper than what was read, since a list or table that was left out
is written as well. -/
theorem ofText_written {text : String} {d : Document} (h : ofText text = .ok d)
    (plain : d.toJson.FloatFree) (shallow : d.toJson.nesting ≤ nestingLimit) :
    ofText d.toJson.compact = .ok d ∧ ofText d.toJson.pretty = .ok d := by
  have restored : Restores (nestingLimit + 1) decoder toJson d := slot.undoes.of_decodeText h
  exact restored.ofText (Nat.lt_succ_self _) plain shallow

/-- A payload of which some types are listed. -/
def listed : Schema :=
  { type := some (.many ["x"]), constant := some (.array [.integer (-1)]) }

/-- A document with a channel on which a message with this payload is published, as one of
several. -/
def alternative : Document where
  info := { title := "T" }
  channels := [("c", { publish := some { message := some (.oneOf [{ payload := listed }]) } })]

/-- The document, with its title block as an array and its channel twice. -/
def alternativeSource : Json :=
  .object [("info", .array [.string "T"]), ("channels", .object [
    ("c", .object []),
    ("c", .object [("publish", .object [("message", .object [("oneOf", .array [
      .object [("payload", .object [("type", .array [.string "x"]),
        ("const", .array [.integer (-1)])])]])])])])])]

/-- It is read, written back and read again. -/
theorem ofText_written_alternative :
    ofText alternativeSource.compact = .ok alternative ∧
      alternative.toJson.FloatFree ∧ alternative.toJson.nesting ≤ nestingLimit ∧
      ofText alternative.toJson.compact = .ok alternative ∧
      ofText alternative.toJson.pretty = .ok alternative := by
  have plain : alternative.toJson.FloatFree := by decide
  have shallow : alternative.toJson.nesting ≤ nestingLimit := by decide +kernel
  refine ⟨?read, plain, shallow, ofText_written ?read plain shallow⟩
  exact decodeText_eq_ok (Source.ofText_compact (by decide)) rfl

end Document
end ApiGraph
