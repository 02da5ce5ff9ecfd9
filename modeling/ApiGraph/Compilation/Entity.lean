/-
# Compiling entities

Every entity gives one artifact at its place, and promises for its edges.  Nothing
is looked up while a document is compiled, so the order of entities does not
matter to them.
-/

import ApiGraph.Compilation.Schema

namespace ApiGraph
namespace Document

open Compile

/-- Compiles a server. -/
def Server.compile (s : Server) : Compile Unit := do
  match s.reference with
  | some reference => compileReference reference .server s.shownAs
  | none =>
    let c ← get
    let name := c.entityName s.shownAs (some "servers")
    let serverVariables ← promiseEntries .serverVariable "variables" s.serverVariables
    let security ← promiseSchemes s.security
    let bindings ← promisePart .bindings "bindings" s.bindings
    unless (← read).registry.contains s.protocol do
      diagnose {
        location := c.location, protocol := some s.protocol
        message := "no builder registered for this protocol" }
    let variants ← variants .server name s.url s.bindings
    addEntity .server name true (!s.ignored) (.server {
      url := s.url, protocol := s.protocol, protocolVersion := s.protocolVersion
      description := s.description, serverVariables, security, bindings, variants })

/-- Compiles a server variable. -/
def ServerVariable.compile (v : ServerVariable) : Compile Unit := do
  match v.reference with
  | some reference => compileReference reference .other none
  | none =>
    let c ← get
    addEntity .serverVariable (c.entityName none none) c.isDefinition true (.serverVariable {
      allowed := v.allowed, default := v.default
      description := v.description, examples := v.examples })

/-- An artifact is a visible server at the top level of a document. -/
def isVisibleServer (document : String) (a : Artifact) : Bool :=
  a.kind == .server && a.visible && a.location.hasPrefix document ["servers"] &&
    a.location.segments.length == 2

/-- The servers of a channel: those that it names, else every visible one. -/
def Channel.compileServers (ch : Channel) : Compile Body.ChannelServers := do
  let c ← get
  match ch.servers with
  | some names =>
    return .named (← names.mapM fun name => promiseTo .server ⟨c.store.document, ["servers", name]⟩)
  | none =>
    let servers ← modifyGet fun c =>
      let (servers, store) := c.store.listPromise .server c.location "every visible server"
        (isVisibleServer c.store.document)
      (servers, { c with store })
    return .all servers

/-- Compiles a channel. -/
def Channel.compile (ch : Channel) : Compile Unit := do
  match ch.reference with
  | some reference => compileReference reference .channel ch.shownAs
  | none =>
    let c ← get
    let name := c.entityName ch.shownAs (some "channels")
    let address := c.location.last?.getD ""
    let servers ← ch.compileServers
    let parameters ← promiseEntries .parameter "parameters" ch.parameters
    let publish ← promisePart .operation "publish" ch.publish
    let subscribe ← promisePart .operation "subscribe" ch.subscribe
    let bindings ← promisePart .bindings "bindings" ch.bindings
    let variants ← variants .channel name address ch.bindings
    addEntity .channel name true (!ch.ignored) (.channel {
      address, description := ch.description, serverNames := ch.servers, servers
      parameters, publish, subscribe, bindings, variants })

/-- Compiles a parameter. -/
def Parameter.compile (p : Parameter) : Compile Unit := do
  match p.reference with
  | some reference => compileReference reference .parameter p.shownAs
  | none =>
    let c ← get
    let schema ← promisePart .schema "schema" p.schema
    addEntity .parameter (c.entityName p.shownAs none) c.isDefinition true
      (.parameter { description := p.description, schema, location := p.location })

/-- Promises of the messages of an operation. -/
def Operation.compileMessages (o : Operation) : Compile (List (Promise .message)) :=
  match o.message with
  | none => return []
  | some (.single _) => return [← promiseChild .message ["message"]]
  | some (.oneOf messages) => promiseItems .message ["message", "oneOf"] messages.length

/-- The name of an operation: as it is shown, else after its id, else after its place. -/
def Operation.entityName (o : Operation) (c : Context) : String :=
  match o.shownAs, o.operationId with
  | some name, _ => name
  | none, some id => Text.pascalCase id
  | none, none => c.entityName none none

/-- Compiles an operation, which stands in one of the two slots of a channel. -/
def Operation.compile (o : Operation) : Compile Unit := do
  let c ← get
  let some direction := c.key?.bind Direction.ofKey?
    | fail (.malformed c.location "operation outside a publish or subscribe slot")
  let some owner := c.location.parent?
    | fail (.malformed c.location "operation without an owning channel")
  let channel ← promiseTo .channel owner
  let messages ← o.compileMessages
  let security ← promiseSchemes o.security
  let bindings ← promisePart .bindings "bindings" o.bindings
  addEntity .operation (o.entityName c) true (!o.ignored && (← read).options.enables direction)
    (.operation {
      direction, operationId := o.operationId, summary := o.summary
      description := o.description, channel, messages, security, bindings })

/-- Compiles a message. -/
def Message.compile (m : Message) : Compile Unit := do
  match m.reference with
  | some reference => compileReference reference .message m.shownAs
  | none =>
    let c ← get
    let name := c.entityName (m.shownAs.or m.name) none
    let contentType := m.contentType.getD (c.messageContentType (← read).options)
    let headers ← promisePart .schema "headers" m.headers
    let payload ← promisePart .schema "payload" m.payload
    let correlationId ← promisePart .correlationId "correlationId" m.correlationId
    let bindings ← promisePart .bindings "bindings" m.bindings
    let variants ← variants .message name contentType m.bindings
    addEntity .message name true (!m.ignored) (.message {
      messageId := m.messageId, title := m.title, summary := m.summary
      description := m.description, contentType, headers, payload, correlationId
      bindings, variants })

/-- Compiles a correlation id. -/
def CorrelationId.compile (i : CorrelationId) : Compile Unit := do
  match i.reference with
  | some reference => compileReference reference .other i.shownAs
  | none =>
    let c ← get
    addEntity .correlationId (c.entityName i.shownAs none) c.isDefinition true
      (.correlationId { description := i.description, location := i.location })

/-- Compiles a security scheme. -/
def SecurityScheme.compile (s : SecurityScheme) : Compile Unit := do
  match s.reference with
  | some reference => compileReference reference .security s.shownAs
  | none =>
    let c ← get
    addEntity .securityScheme (c.entityName s.shownAs none) c.isDefinition (!s.ignored)
      (.securityScheme {
        type := s.type, description := s.description, name := s.name, place := s.place
        scheme := s.scheme, bearerFormat := s.bearerFormat
        openIdConnectUrl := s.openIdConnectUrl, flows := s.flows })

/-- Decodes the entries of a bindings section.  Extension keys are skipped, and an
entry for a protocol without a builder is left out with a warning. -/
def decodeBindings (kind : BindingsKind) : Table Json → Compile (Table BindingsValue)
  | [] => return []
  | (protocol, raw) :: rest => do
    if "x-".isPrefixOf protocol then decodeBindings kind rest
    else
      let place := (← get).location
      match (← read).registry.get? protocol with
      | none =>
        diagnose {
          location := place, protocol := some protocol
          message := "bindings for an unknown protocol were ignored" }
        decodeBindings kind rest
      | some builder =>
        match builder.bindings kind raw with
        | .error fault => failHook place protocol fault
        | .ok value => return (protocol, value) :: (← decodeBindings kind rest)

/-- Compiles a bindings section. -/
def Bindings.compile (kind : BindingsKind) (b : Bindings) : Compile Unit := do
  match b.reference with
  | some reference => compileReference reference .bindings none
  | none =>
    let c ← get
    let values ← decodeBindings kind b.protocols
    addEntity .bindings (c.entityName none none) c.isDefinition true (.bindings { kind, values })

/-- Compiles the root of a document, which sets the content type of its messages. -/
def compileRoot (d : Document) : Compile Unit := do
  modify fun c => { c with contentType := d.defaultContentType }
  let c ← get
  let name := if d.info.title.isEmpty then c.store.document else d.info.title
  addEntity .root name false true (.root {
    title := d.info.title, version := d.info.version, description := d.info.description
    id := d.id, contentType := d.defaultContentType })

/-- Compiles an entity. -/
def Entity.compile : Entity → Compile Unit
  | document d => d.compileRoot
  | server s => s.compile
  | serverVariable v => v.compile
  | channel c => c.compile
  | operation o => o.compile
  | message m => m.compile
  | correlationId c => c.compile
  | parameter p => p.compile
  | securityScheme s => s.compile
  | schema s => s.compile
  | bindings kind b => b.compile kind

end Document
end ApiGraph
