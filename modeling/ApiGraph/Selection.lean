/-
# Selections

Which protocols apply to what, in a linked graph.  Servers, channels and messages
carry variants for every protocol; which of them apply is known only after linking:
a channel speaks the protocols of its visible servers, and a message those of all
channels whose operations carry it.

All answers come from the routes of the graph, one for each channel that is no
reference.  An answer about a reference is the answer about its final target.
-/

import ApiGraph.Graph

namespace ApiGraph

/-- Where a channel leads. -/
structure Route where
  channel : ArtifactId
  /-- The servers that carry the channel. -/
  servers : List ArtifactId
  /-- The protocols of those that are visible, each once. -/
  protocols : List String
  /-- The messages of the channel's operations. -/
  messages : List ArtifactId
  deriving DecidableEq, Repr

namespace Graph

/-- The servers of a channel. -/
def servers (g : Graph) (c : Body.Channel) : Except Defect (List (ArtifactId × Body.Server)) :=
  match c.servers with
  | .named promises => promises.mapM g.resolve
  | .all promise => g.resolveList promise

/-- The protocols of the servers that are visible. -/
def visibleProtocols (g : Graph) :
    List (ArtifactId × Body.Server) → Except Defect (List String)
  | [] => return []
  | (id, server) :: rest => do
    if ← g.isVisible id then return server.protocol :: (← g.visibleProtocols rest)
    else g.visibleProtocols rest

/-- The messages of operations. -/
def messages (g : Graph) (operations : List (Promise .operation)) :
    Except Defect (List ArtifactId) := do
  let found ← operations.mapM fun promise => do
    let (_, operation) ← g.resolve promise
    operation.messages.mapM fun m => return (← g.resolve m).1
  return found.flatten

/-- The route of a channel. -/
def route (g : Graph) (id : ArtifactId) (c : Body.Channel) : Except Defect Route := do
  let servers ← g.servers c
  return {
    channel := id
    servers := servers.map (·.1)
    protocols := (← g.visibleProtocols servers).eraseDups
    messages := ← g.messages c.operations }

/-- The channels that are no references. -/
def channels (g : Graph) : List (ArtifactId × Body.Channel) :=
  g.artifacts.filterMap fun (id, a) => (a.body.narrow? .channel).map (id, ·)

/-- The routes of all channels, in the order of the store. -/
def routes (g : Graph) : Except Defect (List Route) :=
  g.channels.mapM fun (id, c) => g.route id c

end Graph

/-- A graph with its routes. -/
structure Selection where
  graph : Graph
  routes : List Route

namespace Selection

/-- The selection of a graph. -/
def ofGraph (g : Graph) : Except Defect Selection := do
  return ⟨g, ← g.routes⟩

/-- The protocols that a channel is served over, in the order of its servers. -/
def channelProtocols (s : Selection) (id : ArtifactId) : Except Defect (List String) := do
  let target ← s.graph.follow id
  return ((s.routes.find? (·.channel == target)).map (·.protocols)).getD []

/-- The channels that a server carries, in the order of the store. -/
def serverChannels (s : Selection) (id : ArtifactId) : Except Defect (List ArtifactId) := do
  let target ← s.graph.follow id
  return (s.routes.filter (·.servers.contains target)).map (·.channel)

/-- The protocols that a message travels over, in the order of the channels. -/
def messageProtocols (s : Selection) (id : ArtifactId) : Except Defect (List String) := do
  let target ← s.graph.follow id
  return ((s.routes.filter (·.messages.contains target)).flatMap (·.protocols)).eraseDups

/-- The protocols that apply to an artifact; none, if it has no variants. -/
def protocols (s : Selection) (id : ArtifactId) : Except Defect (List String) := do
  let target ← s.graph.follow id
  match (← s.graph.artifact target).body with
  | .server server => return [server.protocol]
  | .channel _ => s.channelProtocols target
  | .message _ => s.messageProtocols target
  | _ => return []

/-- The variants that an artifact carries. -/
def variants (s : Selection) (id : ArtifactId) : Except Defect (Table Variant) := do
  match (← s.graph.artifact (← s.graph.follow id)).body with
  | .server server => return server.variants
  | .channel channel => return channel.variants
  | .message message => return message.variants
  | _ => return []

/-- The variant of an artifact for a protocol. -/
def variant? (s : Selection) (id : ArtifactId) (protocol : String) :
    Except Defect (Option Variant) := do
  return (← s.variants id).get? protocol

/-- There is a variant for the protocol, and the protocol applies. -/
def applies (s : Selection) (id : ArtifactId) (protocol : String) : Except Defect Bool := do
  return (← s.variant? id protocol).isSome && (← s.protocols id).contains protocol

/-- What is emitted on its own: the artifacts of a kind that are selectable, visible
and no references. -/
def units (s : Selection) (kind : Kind) : List ArtifactId :=
  s.graph.catalog.select fun a =>
    a.kind == kind && !a.body.isReference && a.visible && a.selectable

/-- The units of a kind that a protocol applies to, with their variants. -/
def protocolUnits (s : Selection) (kind : Kind) (protocol : String) :
    Except Defect (List (ArtifactId × Variant)) := do
  let found ← (s.units kind).mapM fun id => do
    if ← s.applies id protocol then return (← s.variant? id protocol).map (id, ·)
    else return none
  return found.filterMap id

end Selection
end ApiGraph
