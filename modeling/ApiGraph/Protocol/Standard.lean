/-
# The built-in protocols

AMQP, HTTP, Kafka, MQTT and WebSocket.  A standard protocol is given by the
formats of its four bindings sections, the fields among them that hold data
schemas, and what its variants derive from where.

A derivation that looks at bindings reads them in normal form, through the format
of the section of the same kind, so it accepts exactly what the section accepts.
-/

import ApiGraph.Protocol.Builder
import ApiGraph.Protocol.Format

namespace ApiGraph

open Document (BindingsKind)

/-- What the attributes of a variant are derived from. -/
inductive Derivation where
  /-- There are none. -/
  | plain
  /-- From the name and the address. -/
  | fromSeed (attributes : Seed → Table Json)
  /-- From the normal form of the bindings as well. -/
  | fromBindings (attributes : Json → Seed → Table Json)

/-- A protocol given by tables. -/
structure StandardProtocol where
  /-- The name of the protocol. -/
  protocol : String
  /-- What is appended to the names of variants. -/
  title : String
  /-- The format of each bindings section. -/
  format : BindingsKind → Format
  /-- The fields of each section that hold data schemas. -/
  schemaFields : BindingsKind → List String := fun _ => []
  /-- What the variants derive from. -/
  derivation : Role → Derivation

/-- The bindings section that belongs to what has variants. -/
def Role.bindingsKind : Role → BindingsKind
  | server => .server
  | channel => .channel
  | message => .message

namespace StandardProtocol

/-- Normalizes a value through the format of a section. -/
def normalize (p : StandardProtocol) (kind : BindingsKind) (raw : Json) : Hook Json :=
  match (p.format kind).normalize raw with
  | .ok value => .ok value
  | .error f => .error (.rejected f.message)

/-- The bindings of a section, with the schemas among them. -/
def bindings (p : StandardProtocol) (kind : BindingsKind) (raw : Json) : Hook BindingsValue := do
  let value ← p.normalize kind raw
  let schemas := (p.schemaFields kind).filterMap fun field =>
    (value.get? field).map fun schema => (field, schema)
  return { value, schemas }

/-- The variant of what a seed stands for.  Absent bindings count as empty ones. -/
def variant (p : StandardProtocol) (role : Role) (seed : Seed) : Hook Variant := do
  let plain := seed.plainVariant p.protocol p.title
  match p.derivation role with
  | .plain => return plain
  | .fromSeed attributes => return { plain with attributes := attributes seed }
  | .fromBindings attributes =>
    let value ←
      match seed.bindings with
      | some raw => p.normalize role.bindingsKind raw
      | none => pure (.object [])
    return { plain with attributes := attributes value seed }

/-- The builder of a standard protocol. -/
def builder (p : StandardProtocol) : Builder :=
  { protocol := p.protocol, title := p.title, bindings := p.bindings, variant := p.variant }

end StandardProtocol

/-- The field that every bindings section of every protocol has. -/
def bindingVersion : String × FieldType := ("bindingVersion", .text)

/-- A format that knows nothing but its version. -/
def versionOnly (name : String) : Format := ⟨name, [bindingVersion]⟩

/-- The attribute, if there is a value for it. -/
def attribute? (name : String) (value : Option Json) : Table Json :=
  match value with
  | some v => [(name, v)]
  | none => []

/-- AMQP.  A channel is a routing key, published to an exchange, or a queue; the
exchange and the queue are named after the address unless the bindings name them. -/
def amqp : StandardProtocol where
  protocol := "amqp"
  title := "Amqp"
  format
    | .server => versionOnly "ServerBindings"
    | .channel => ⟨"ChannelBindings", [
        ("is", .choice ["routingKey", "queue"]),
        ("exchange", .record "Exchange" [
          ("name", .text), ("type", .text), ("durable", .flag), ("autoDelete", .flag),
          ("vhost", .text)]),
        ("queue", .record "Queue" [
          ("name", .text), ("durable", .flag), ("exclusive", .flag), ("autoDelete", .flag),
          ("vhost", .text)]),
        bindingVersion]⟩
    | .operation => ⟨"OperationBindings", [
        ("expiration", .natural 64), ("userId", .text), ("cc", .texts), ("priority", .natural 8),
        ("deliveryMode", .natural 8), ("mandatory", .flag), ("bcc", .texts), ("timestamp", .flag),
        ("ack", .flag), bindingVersion]⟩
    | .message => ⟨"MessageBindings", [
        ("contentEncoding", .text), ("messageType", .text), bindingVersion]⟩
  derivation
    | .channel => .fromBindings fun bindings seed =>
        let nested (record field : String) : Option Json :=
          (bindings.get? record).bind (·.get? field)
        match bindings.get? "is" with
        | some (.string "queue") => [
            ("is", .string "queue"),
            ("queue", (nested "queue" "name").getD (.string seed.address))]
        | _ => [
            ("is", .string "routingKey"),
            ("exchange", (nested "exchange" "name").getD (.string seed.address))] ++
            attribute? "exchangeType" (nested "exchange" "type")
    | _ => .plain

/-- HTTP. -/
def http : StandardProtocol where
  protocol := "http"
  title := "Http"
  format
    | .server => versionOnly "Empty"
    | .channel => versionOnly "Empty"
    | .operation => ⟨"OperationBindings", [("method", .text), ("query", .any), bindingVersion]⟩
    | .message => ⟨"MessageBindings", [
        ("headers", .any), ("statusCode", .natural 16), bindingVersion]⟩
  schemaFields
    | .operation => ["query"]
    | .message => ["headers"]
    | _ => []
  derivation
    | .server => .plain
    | .channel => .fromSeed fun seed => [("path", .string seed.address)]
    | .message => .fromBindings fun bindings seed =>
        ("contentType", .string seed.address) ::
          attribute? "statusCode" (bindings.get? "statusCode")

/-- Kafka.  The topic of a channel is its address unless the bindings name one. -/
def kafka : StandardProtocol where
  protocol := "kafka"
  title := "Kafka"
  format
    | .server => ⟨"ServerBindings", [
        ("schemaRegistryUrl", .text), ("schemaRegistryVendor", .text), bindingVersion]⟩
    | .channel => ⟨"ChannelBindings", [
        ("topic", .text), ("partitions", .natural 32), ("replicas", .natural 32),
        ("topicConfiguration", .record "TopicConfiguration" [
          ("cleanup.policy", .texts), ("retention.ms", .integer), ("retention.bytes", .integer),
          ("delete.retention.ms", .integer), ("max.message.bytes", .integer)]),
        bindingVersion]⟩
    | .operation => ⟨"OperationBindings", [
        ("groupId", .any), ("clientId", .any), bindingVersion]⟩
    | .message => ⟨"MessageBindings", [
        ("key", .any), ("schemaIdLocation", .text), ("schemaIdPayloadEncoding", .text),
        ("schemaLookupStrategy", .text), bindingVersion]⟩
  schemaFields
    | .operation => ["groupId", "clientId"]
    | .message => ["key"]
    | _ => []
  derivation
    | .server => .fromBindings fun bindings seed =>
        ("bootstrap", .string seed.address) ::
          attribute? "schemaRegistryUrl" (bindings.get? "schemaRegistryUrl")
    | .channel => .fromBindings fun bindings seed =>
        ("topic", (bindings.get? "topic").getD (.string seed.address)) ::
          (attribute? "partitions" (bindings.get? "partitions") ++
            attribute? "replicas" (bindings.get? "replicas"))
    | .message => .fromBindings fun bindings _ =>
        [("keyed", .bool (bindings.get? "key").isSome)]

/-- MQTT. -/
def mqtt : StandardProtocol where
  protocol := "mqtt"
  title := "Mqtt"
  format
    | .server => ⟨"ServerBindings", [
        ("clientId", .text), ("cleanSession", .flag),
        ("lastWill", .record "LastWill" [
          ("topic", .text), ("qos", .natural 8), ("message", .text), ("retain", .flag)]),
        ("keepAlive", .natural 32), ("sessionExpiryInterval", .any), ("maximumPacketSize", .any),
        bindingVersion]⟩
    | .channel => versionOnly "ChannelBindings"
    | .operation => ⟨"OperationBindings", [
        ("qos", .natural 8), ("retain", .flag), ("messageExpiryInterval", .any), bindingVersion]⟩
    | .message => ⟨"MessageBindings", [
        ("payloadFormatIndicator", .natural 8), ("correlationData", .any), ("contentType", .text),
        ("responseTopic", .any), bindingVersion]⟩
  schemaFields
    | .message => ["correlationData"]
    | _ => []
  derivation
    | .server => .fromBindings fun bindings seed =>
        ("broker", .string seed.address) ::
          (attribute? "clientId" (bindings.get? "clientId") ++
            attribute? "cleanSession" (bindings.get? "cleanSession") ++
            attribute? "keepAlive" (bindings.get? "keepAlive"))
    | .channel => .fromSeed fun seed => [("topic", .string seed.address)]
    | .message => .plain

/-- WebSocket.  The method of the handshake is GET unless the bindings name one. -/
def webSocket : StandardProtocol where
  protocol := "ws"
  title := "WebSocket"
  format
    | .server => versionOnly "Empty"
    | .channel => ⟨"ChannelBindings", [
        ("method", .text), ("query", .any), ("headers", .any), bindingVersion]⟩
    | .operation => versionOnly "Empty"
    | .message => versionOnly "Empty"
  schemaFields
    | .channel => ["query", "headers"]
    | _ => []
  derivation
    | .channel => .fromBindings fun bindings seed => [
        ("path", .string seed.address),
        ("method", (bindings.get? "method").getD (.string "GET"))]
    | _ => .plain

/-- The built-in protocols, in order. -/
def standardProtocols : List StandardProtocol := [amqp, http, kafka, mqtt, webSocket]

/-- The builders of the built-in protocols. -/
def Registry.standard : Registry :=
  (standardProtocols.map StandardProtocol.builder).foldl Registry.register []

end ApiGraph
