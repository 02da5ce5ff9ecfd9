/-
# The edges of entities

What an entity asks for when it is compiled, said without speaking of the run: a promise
for each of its edges, at the place of the entity (`Entity.edges`), a promise of all
servers for a channel that names none (`Entity.lists`), and a slot if the entity is written
as a reference (`Entity.slots`).

The edges of an entity lead to its parts, to its owner, to the servers that it names and
to the security schemes that it names (`Edge.Sort`).  What leads to parts and owners is
*structural*: it is the document that these are in, and no name, that says where they are.
-/

import ApiGraph.Proofs.Document.Parts

namespace ApiGraph

/-! ## Edges -/

/-- What an edge leads to, as seen from the entity where it begins. -/
inductive Edge.Sort where
  /-- A part of the entity. -/
  | part
  /-- The entity that it is a part of. -/
  | owner
  /-- A server that it names. -/
  | server
  /-- A security scheme that it names. -/
  | scheme
  deriving DecidableEq, Repr

/-- An edge to one artifact. -/
structure Edge where
  label : Label
  target : Location
  sort : Edge.Sort
  deriving DecidableEq, Repr

namespace Edge

/-- The edge leads to a part or to an owner. -/
def Structural (e : Edge) : Prop :=
  e.sort = .part ∨ e.sort = .owner

/-- The cell of an edge that begins at `origin`. -/
def cell (origin : Location) (e : Edge) : PromiseCell where
  origin := origin
  query := .path e.target
  expects := .entity e.label

/-- The edge to what is below a place. -/
def part (l : Label) (place : Location) (path : List String) : Edge :=
  ⟨l, place.descend path, .part⟩

variable {α : Type}

/-- The edge to the part under a key, if the part is there. -/
def ofPart (l : Label) (place : Location) (key : String) (x : Option α) : List Edge :=
  x.toList.map fun _ => part l place [key]

/-- The edges to the entries of a table under a key. -/
def ofEntries (l : Label) (place : Location) (key : String) (t : Table α) : List Edge :=
  t.map fun (name, _) => part l place [key, name]

/-- The edges to numbered items. -/
def ofItems (l : Label) (place : Location) (path : List String) (count : Nat) : List Edge :=
  (List.range count).map fun i => part l place (path ++ [toString i])

/-- The edges to the security schemes that are named. -/
def ofSchemes (document : String) (names : List String) : List Edge :=
  names.map fun name =>
    ⟨.securityScheme, ⟨document, ["components", "securitySchemes", name]⟩, .scheme⟩

/-- The edges to the servers of a document that are named. -/
def ofServers (document : String) (names : List String) : List Edge :=
  names.map fun name => ⟨.server, ⟨document, ["servers", name]⟩, .server⟩

end Edge

namespace Document

/-- The edges of a schema: those that its form lets count. -/
def Schema.edges (place : Location) (s : Schema) : List Edge :=
  match s.form with
  | .oneOf => Edge.ofItems .schema place ["oneOf"] s.oneOf.length
  | .anyOf => Edge.ofItems .schema place ["anyOf"] s.anyOf.length
  | .allOf => Edge.ofItems .schema place ["allOf"] s.allOf.length
  | .object =>
    Edge.ofPart .schema place "additionalProperties" s.additionalSchema? ++
      Edge.ofEntries .schema place "properties" s.properties
  | .array => Edge.ofPart .schema place "items" s.items
  | _ => []

/-- The edges of an operation to its messages. -/
def Operation.messageEdges (place : Location) (o : Operation) : List Edge :=
  match o.message with
  | none => []
  | some (.single _) => [Edge.part .message place ["message"]]
  | some (.oneOf messages) => Edge.ofItems .message place ["message", "oneOf"] messages.length

/-- The edges of a channel to its parts. -/
def Channel.partEdges (place : Location) (c : Channel) : List Edge :=
  Edge.ofEntries .parameter place "parameters" c.parameters ++
    Edge.ofPart .operation place "publish" c.publish ++
    Edge.ofPart .operation place "subscribe" c.subscribe ++
    Edge.ofPart .bindings place "bindings" c.bindings

namespace Entity

/-- The type of an entity. -/
def label : Entity → Label
  | document _ => .root
  | server _ => .server
  | serverVariable _ => .serverVariable
  | channel _ => .channel
  | operation _ => .operation
  | message _ => .message
  | correlationId _ => .correlationId
  | parameter _ => .parameter
  | securityScheme _ => .securityScheme
  | schema _ => .schema
  | bindings _ _ => .bindings

/-- The names of security schemes that an entity requires. -/
def schemes : Entity → List String
  | server s => s.security.flatMap Table.keys
  | operation o => o.security.flatMap Table.keys
  | _ => []

/-- The names of servers that an entity lists. -/
def serverNames : Entity → List String
  | channel c => c.servers.getD []
  | _ => []

/-- The edges of what is no reference, in the order in which they are made. -/
def ownEdges (place : Location) : Entity → List Edge
  | server s =>
    Edge.ofEntries .serverVariable place "variables" s.serverVariables ++
      Edge.ofSchemes place.document (server s).schemes ++ Edge.ofPart .bindings place "bindings" s.bindings
  | channel c =>
    Edge.ofServers place.document (channel c).serverNames ++ c.partEdges place
  | operation o =>
    place.parent?.toList.map (⟨.channel, ·, .owner⟩) ++ o.messageEdges place ++
      Edge.ofSchemes place.document (operation o).schemes ++ Edge.ofPart .bindings place "bindings" o.bindings
  | message m =>
    Edge.ofPart .schema place "headers" m.headers ++
      Edge.ofPart .schema place "payload" m.payload ++
      Edge.ofPart .correlationId place "correlationId" m.correlationId ++
      Edge.ofPart .bindings place "bindings" m.bindings
  | parameter p => Edge.ofPart .schema place "schema" p.schema
  | schema s => s.edges place
  | _ => []

/-- The edges of an entity to one artifact each; a reference has none. -/
def edges (place : Location) (e : Entity) : List Edge :=
  match e.reference? with
  | some _ => []
  | none => e.ownEdges place

/-- The cells of an entity's edges. -/
def promises (place : Location) (e : Entity) : List PromiseCell :=
  (e.edges place).map (Edge.cell place)

/-- The cells of an entity's edges to several artifacts. -/
def lists (place : Location) : Entity → List ListCell
  | channel c =>
    match c.reference, c.servers with
    | none, none => [{
        origin := place, description := "every visible server"
        accepts := isVisibleServer place.document, expects := .entity .server }]
    | _, _ => []
  | _ => []

/-- An entity has at most one promise of several artifacts, which is one of servers. -/
theorem lists_eq (place : Location) (e : Entity) :
    e.lists place = [] ∨ ∃ l, e.lists place = [l] ∧ l.expects = .entity .server := by
  cases e with
  | channel c =>
    simp only [lists]
    split
    · exact .inr ⟨_, rfl, rfl⟩
    · exact .inl rfl
  | _ => exact .inl rfl

/-- It is one of all servers of its document that are visible, and not bound yet. -/
theorem of_mem_lists {place : Location} {e : Entity} {l : ListCell} (h : l ∈ e.lists place) :
    l.accepts = isVisibleServer place.document ∧ l.expects = .entity .server ∧
      l.binding = none := by
  cases e with
  | channel c =>
    simp only [lists] at h
    split at h
    · obtain rfl := List.mem_singleton.1 h
      exact ⟨rfl, rfl, rfl⟩
    · cases h
  | _ => cases h

/-- The slot of an entity that is written as a reference. -/
def slots (place : Location) (e : Entity) : List ReferenceSlot :=
  match e.reference? with
  | none => []
  | some reference =>
    match Location.ofReference place.document reference with
    | .ok target => [{ origin := place, target, expects := .kind e.label.kind }]
    | .error _ => []

theorem slots_of_reference (place : Location) {target : Location} {e : Entity} {reference : String}
    (href : e.reference? = some reference)
    (ht : Location.ofReference place.document reference = .ok target) :
    e.slots place = [{ origin := place, target, expects := .kind e.label.kind }] := by
  simp only [slots, href, ht]

/-- An entity has promises or a slot, not both. -/
theorem promises_or_slots_eq_nil (place : Location) (e : Entity) :
    e.promises place = [] ∨ e.slots place = [] := by
  cases href : e.reference? with
  | none => exact .inr (by rw [slots, href])
  | some reference => exact .inl (by rw [promises, edges, href, List.map_nil])

/-- A slot begins at the reference that it is made for, and is not bound yet. -/
theorem of_mem_slots {place : Location} {e : Entity} {slot : ReferenceSlot}
    (h : slot ∈ e.slots place) : slot.origin = place ∧ slot.binding = none ∧
      ∃ reference, e.reference? = some reference ∧
        Location.ofReference place.document reference = .ok slot.target := by
  rw [slots] at h
  split at h
  · cases h
  · rename_i reference href
    split at h
    · rename_i target ht
      obtain rfl := List.mem_singleton.1 h
      exact ⟨rfl, rfl, reference, href, ht⟩
    · cases h

end Entity
end Document

/-! ## Handles -/

/-- A promise together with the type of what it promises. -/
abbrev Handle := (l : Label) × Promise l

/-- A promise of several artifacts together with their type. -/
abbrev ListHandle := (l : Label) × ListPromise l

namespace Body

/-- Promises of one type. -/
def handlesOf {l : Label} (ps : List (Promise l)) : List Handle :=
  ps.map (⟨l, ·⟩)

/-- The promises of a shape. -/
def Shape.handles : Shape → List Handle
  | object properties additional =>
    handlesOf additional.toList ++ handlesOf (properties.map (·.schema))
  | map values => handlesOf [values]
  | array items => handlesOf items.toList
  | union variants _ => handlesOf variants
  | allOf parts => handlesOf parts
  | _ => []

/-- The promises of the servers of a channel, if it names them. -/
def ChannelServers.handles : ChannelServers → List Handle
  | named servers => handlesOf servers
  | all _ => []

/-- Every promise of one artifact that a body holds. -/
def handles : Body → List Handle
  | server b =>
    handlesOf (b.serverVariables.map (·.2)) ++ handlesOf b.security ++ handlesOf b.bindings.toList
  | channel b =>
    b.servers.handles ++ handlesOf (b.parameters.map (·.2)) ++ handlesOf b.publish.toList ++
      handlesOf b.subscribe.toList ++ handlesOf b.bindings.toList
  | operation b =>
    handlesOf [b.channel] ++ handlesOf b.messages ++ handlesOf b.security ++
      handlesOf b.bindings.toList
  | message b =>
    handlesOf b.headers.toList ++ handlesOf b.payload.toList ++
      handlesOf b.correlationId.toList ++ handlesOf b.bindings.toList
  | parameter b => handlesOf b.schema.toList
  | schema b => b.shape.handles
  | _ => []

/-- Every promise of several artifacts that a body holds. -/
def listHandles : Body → List ListHandle
  | channel b =>
    match b.servers with
    | .named _ => []
    | .all servers => [⟨.server, servers⟩]
  | _ => []

end Body
end ApiGraph
