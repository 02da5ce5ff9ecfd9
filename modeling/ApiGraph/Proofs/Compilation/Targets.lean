/-
# Where edges lead

An edge is made by hand, from a key and the place of an entity, and where the entities are is
up to the walk.  Both agree: an edge to a part leads to a part of the entity, of the type that
is promised, and the edge of an operation to its owner leads to the channel around it.  All
other edges lead to servers and security schemes that are named (`Entity.leads_of_mem_edges`).

So in a document every structural edge leads to an entity (`Entity.Contains.exists_target`).
-/

import ApiGraph.Proofs.Compilation.Edges

namespace ApiGraph

namespace Document

variable {α : Type} {place : Location} {edge : Edge} {l : Label} {key : String}

/-! ## Edges and parts -/

/-- The edge leads to one of the parts in a field of an entity. -/
def Entity.Reaches (place : Location) (e : Entity) (edge : Edge) : Prop :=
  ∃ key parts rel e', (key, parts) ∈ e.partFields ∧ (rel, e') ∈ parts ∧
    edge = ⟨e'.label, place.descend (key :: rel), .part⟩

section Reaches

variable {e : Entity} (entity : α → Entity) (typed : ∀ x, (entity x).label = l)

include typed

/-- The edges to the entries of a table reach them. -/
theorem reaches_of_mem_ofEntries {t : Table α} (field : (key, entryParts entity t) ∈ e.partFields)
    (h : edge ∈ Edge.ofEntries l place key t) : e.Reaches place edge := by
  obtain ⟨⟨name, x⟩, hx, rfl⟩ := List.mem_map.1 h
  exact ⟨key, _, [name], entity x, field,
    List.mem_map.2 ⟨_, hx, rfl⟩, by rw [typed]; rfl⟩

/-- The edge to a part reaches it. -/
theorem reaches_of_mem_ofPart {x : Option α} (field : (key, optionParts entity x) ∈ e.partFields)
    (h : edge ∈ Edge.ofPart l place key x) : e.Reaches place edge := by
  obtain ⟨x, hx, rfl⟩ := List.mem_map.1 h
  exact ⟨key, _, [], entity x, field, List.mem_map_of_mem (f := fun x => ([], entity x)) hx,
    by rw [typed]; rfl⟩

/-- The edges to the items of a list reach them. -/
theorem reaches_of_mem_ofItems {xs : List α} (field : (key, itemParts entity xs) ∈ e.partFields)
    (h : edge ∈ Edge.ofItems l place [key] xs.length) : e.Reaches place edge := by
  obtain ⟨i, hi, rfl⟩ := List.mem_map.1 h
  rw [List.mem_range] at hi
  have hx : (xs[i], i) ∈ xs.zipIdx :=
    List.mem_zipIdx_iff_getElem?.2 (List.getElem?_eq_getElem hi)
  exact ⟨key, _, [toString i], entity xs[i], field,
    List.mem_map.2 ⟨_, hx, rfl⟩, by rw [typed]; rfl⟩

end Reaches

/-- The form of a schema decides which parts count, but they all are parts. -/
theorem reaches_schema {s : Schema} (h : edge ∈ s.edges place) :
    (Entity.schema s).Reaches place edge := by
  simp only [Schema.edges] at h
  split at h
  · exact reaches_of_mem_ofItems .schema (fun _ => rfl) (by simp [Entity.partFields]) h
  · exact reaches_of_mem_ofItems .schema (fun _ => rfl) (by simp [Entity.partFields]) h
  · exact reaches_of_mem_ofItems .schema (fun _ => rfl) (by simp [Entity.partFields]) h
  · rcases List.mem_append.1 h with h | h
    · exact reaches_of_mem_ofPart .schema (fun _ => rfl) (by simp [Entity.partFields]) h
    · exact reaches_of_mem_ofEntries .schema (fun _ => rfl) (by simp [Entity.partFields]) h
  · exact reaches_of_mem_ofPart .schema (fun _ => rfl) (by simp [Entity.partFields]) h
  · cases h

/-- The edges to messages reach them. -/
theorem reaches_message {o : Operation} (h : edge ∈ o.messageEdges place) :
    (Entity.operation o).Reaches place edge := by
  rw [Operation.messageEdges] at h
  split at h
  · cases h
  · rename_i m hm
    obtain rfl := List.mem_singleton.1 h
    exact ⟨"message", OperationMessage.parts (.single m), [], .message m,
      by simp [Entity.partFields, hm], List.mem_singleton_self _, rfl⟩
  · rename_i messages hm
    obtain ⟨i, hi, rfl⟩ := List.mem_map.1 h
    rw [List.mem_range] at hi
    have hx : (messages[i], i) ∈ messages.zipIdx :=
      List.mem_zipIdx_iff_getElem?.2 (List.getElem?_eq_getElem hi)
    refine ⟨"message", OperationMessage.parts (.oneOf messages), ["oneOf", toString i],
      .message messages[i], by simp [Entity.partFields, hm], ?_, rfl⟩
    simp only [OperationMessage.parts, Placed.under, itemParts, List.map_map]
    exact List.mem_map.2 ⟨_, hx, rfl⟩

/-- The edges of a channel to its parts reach them. -/
theorem reaches_channel {c : Channel} (h : edge ∈ c.partEdges place) :
    (Entity.channel c).Reaches place edge := by
  simp only [Channel.partEdges, List.mem_append] at h
  rcases h with ((h | h) | h) | h
  · exact reaches_of_mem_ofEntries .parameter (fun _ => rfl) (by simp [Entity.partFields]) h
  · exact reaches_of_mem_ofPart .operation (fun _ => rfl) (by simp [Entity.partFields]) h
  · exact reaches_of_mem_ofPart .operation (fun _ => rfl) (by simp [Entity.partFields]) h
  · exact reaches_of_mem_ofPart (.bindings .channel) (fun _ => rfl) (by simp [Entity.partFields]) h

/-- Where an edge may lead: to a part, to the channel around an operation, to a server that a
channel names, or to a security scheme that is required. -/
inductive Entity.Leads (place : Location) (e : Entity) (edge : Edge) : Prop
  | part (rel : List String) (e' : Entity) : (rel, e') ∈ e.parts →
      edge = ⟨e'.label, place.descend rel, .part⟩ → Leads place e edge
  | owner (o : Operation) (owner : Location) : e = .operation o → place.parent? = some owner →
      edge = ⟨.channel, owner, .owner⟩ → Leads place e edge
  | server (name : String) : name ∈ e.serverNames →
      edge = ⟨.server, ⟨place.document, ["servers", name]⟩, .server⟩ → Leads place e edge
  | scheme (name : String) : name ∈ e.schemes →
      edge = ⟨.securityScheme, ⟨place.document, ["components", "securitySchemes", name]⟩, .scheme⟩ →
      Leads place e edge

/-- An edge that reaches a part leads somewhere. -/
theorem Entity.Reaches.leads {e : Entity} (h : e.Reaches place edge)
    (plain : e.reference? = none) : e.Leads place edge := by
  obtain ⟨key, parts, rel, e', field, he, rfl⟩ := h
  refine .part (key :: rel) e' ?_ rfl
  rw [Entity.parts, plain]
  exact List.mem_flatMap.2 ⟨(key, parts), field,
    List.mem_map.2 ⟨_, he, rfl⟩⟩

/-- The edges to security schemes lead to the components' ones, if there are any of the name. -/
theorem leads_of_mem_ofSchemes {e : Entity} (h : edge ∈ Edge.ofSchemes place.document e.schemes) :
    e.Leads place edge := by
  obtain ⟨name, hname, rfl⟩ := List.mem_map.1 h
  exact .scheme name hname rfl

/-- **Where edges lead.** -/
theorem Entity.leads_of_mem_edges {e : Entity} (h : edge ∈ e.edges place) :
    e.Leads place edge := by
  rw [Entity.edges] at h
  split at h
  · cases h
  rename_i plain
  cases e with
  | document d => cases h
  | server s =>
    simp only [ownEdges, List.mem_append] at h
    rcases h with (h | h) | h
    · exact (reaches_of_mem_ofEntries .serverVariable (fun _ => rfl) (by simp [partFields]) h).leads
        plain
    · exact leads_of_mem_ofSchemes h
    · exact (reaches_of_mem_ofPart (.bindings .server) (fun _ => rfl) (by simp [partFields]) h).leads
        plain
  | serverVariable v => cases h
  | channel c =>
    rcases List.mem_append.1 h with h | h
    · obtain ⟨name, hname, rfl⟩ := List.mem_map.1 h
      exact .server name hname rfl
    · exact (reaches_channel h).leads plain
  | operation o =>
    simp only [ownEdges, List.mem_append] at h
    rcases h with ((h | h) | h) | h
    · obtain ⟨owner, howner, rfl⟩ := List.mem_map.1 h
      exact .owner o owner rfl (Option.mem_toList.1 howner) rfl
    · exact (reaches_message h).leads plain
    · exact leads_of_mem_ofSchemes h
    · exact (reaches_of_mem_ofPart (.bindings .operation) (fun _ => rfl)
        (by simp [partFields]) h).leads plain
  | message m =>
    refine Reaches.leads ?_ plain
    simp only [ownEdges, List.mem_append] at h
    rcases h with ((h | h) | h) | h
    · exact reaches_of_mem_ofPart .schema (fun _ => rfl) (by simp [partFields]) h
    · exact reaches_of_mem_ofPart .schema (fun _ => rfl) (by simp [partFields]) h
    · exact reaches_of_mem_ofPart .correlationId (fun _ => rfl) (by simp [partFields]) h
    · exact reaches_of_mem_ofPart (.bindings .message) (fun _ => rfl) (by simp [partFields]) h
  | correlationId c => cases h
  | parameter p =>
    exact (reaches_of_mem_ofPart .schema (fun _ => rfl) (by simp [partFields]) h).leads plain
  | securityScheme s => cases h
  | schema s => exact (reaches_schema h).leads plain
  | bindings kind b => cases h

/-- Operations are parts of channels. -/
theorem exists_channel_of_operation {e : Entity} {o : Operation} {rel : List String}
    (h : (rel, .operation o) ∈ e.parts) : (∃ c, e = .channel c) ∧ ∃ key, rel = [key] := by
  rw [Entity.parts] at h
  split at h
  · cases h
  cases e with
  | channel c =>
    refine ⟨⟨c, rfl⟩, ?_⟩
    simp only [Entity.ownParts, Entity.partFields, Placed.ofFields, Placed.under, optionParts,
      entryParts, List.flatMap_cons, List.mem_append, List.map_map, List.mem_map] at h
    rcases h with ⟨x, -, h⟩ | ⟨x, -, h⟩ | ⟨x, -, h⟩ | ⟨x, -, h⟩ | h <;> cases h <;> exact ⟨_, rfl⟩
  | document d =>
    simp [Entity.ownParts, Entity.partFields, Placed.ofFields, Placed.under, entryParts,
      Components.partFields] at h
  | operation o' =>
    rcases hm : o'.message with _ | (messages | m) <;>
    simp [Entity.ownParts, Entity.partFields, Placed.ofFields, Placed.under, optionParts,
      itemParts, OperationMessage.parts, hm] at h
  | _ =>
    simp [Entity.ownParts, Entity.partFields, Placed.ofFields, Placed.under, entryParts,
      optionParts, itemParts] at h

/-! ## Edges in a document -/

/-- **Structural edges lead to entities** of the type that is promised, in every document. -/
theorem Entity.Contains.exists_target {root : Document} {name : String} {path : List String}
    {e : Entity} {edge : Edge} (h : (Entity.document root).Contains path e)
    (he : edge ∈ e.edges ⟨name, path⟩) (structural : edge.Structural) :
    ∃ path' e', (Entity.document root).Contains path' e' ∧ edge.target = ⟨name, path'⟩ ∧
      edge.label = e'.label := by
  rcases Entity.leads_of_mem_edges he with ⟨rel, e', hp, rfl⟩ | ⟨o, owner, rfl, howner, rfl⟩ |
    ⟨server, hserver, rfl⟩ | ⟨scheme, hscheme, rfl⟩
  · exact ⟨path ++ rel, e', h.tail hp, rfl, rfl⟩
  · rcases h.cases_tail with ⟨-, top⟩ | ⟨outer, rel, e', rfl, contains, hp⟩
    · cases top
    · obtain ⟨⟨c, rfl⟩, key, rfl⟩ := exists_channel_of_operation hp
      refine ⟨outer, .channel c, contains, ?_, rfl⟩
      simpa [Location.parent?] using howner.symm
  · rcases structural with h | h <;> cases h
  · rcases structural with h | h <;> cases h

end Document

end ApiGraph
