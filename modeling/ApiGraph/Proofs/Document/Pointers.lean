/-
# The parts of a document in its JSON

A document that is written as JSON has its parts where the keys say that lead to them: the names
of the fields of a record, the keys of a table, the numbers in a list (`Placed.Fits`).  This is so
if no key stands twice in a table (`Entity.Distinct`), as it is in all documents that were read.

So what an entity contains is found in its JSON at the end of the path (`Contains.at?_eq`), and no
path leads to two entities (`nodup_entities`).
-/

import ApiGraph.Document.Writing
import ApiGraph.Proofs.Document.Parts
import ApiGraph.Proofs.Json.Pointers
import Mathlib.Data.List.Nodup

namespace ApiGraph

/-- Where no key stands twice, an entry is found under its key. -/
theorem Table.get?_eq_some_of_mem {α : Type} {t : Table α} (distinct : t.Distinct) {key : String}
    {x : α} (h : (key, x) ∈ t) : t.get? key = some x := by
  induction t with
  | nil => cases h
  | cons entry rest ih =>
    obtain ⟨k, y⟩ := entry
    obtain ⟨fresh, distinct⟩ := List.nodup_cons.1 distinct
    rw [Table.get?]
    rcases List.mem_cons.1 h with same | h
    · obtain ⟨rfl, rfl⟩ := Prod.mk.inj same
      exact if_pos rfl
    · rw [if_neg, ih distinct h]
      rintro rfl
      exact fresh (List.mem_map.2 ⟨_, h, rfl⟩)

namespace Document

/-! ## Entities as JSON -/

namespace Entity

/-- An entity as JSON. -/
def toJson : Entity → Json
  | document d => d.toJson
  | server s => s.toJson
  | serverVariable v => v.toJson
  | channel c => c.toJson
  | operation o => o.toJson
  | message m => m.toJson
  | correlationId c => c.toJson
  | parameter p => p.toJson
  | securityScheme s => s.toJson
  | schema s => s.toJson
  | bindings _ b => b.toJson

end Entity

/-- Every table of the components has the property, which may speak of what is in it. -/
structure Components.Each (P : {α : Type} → (α → Entity) → Table α → Prop) (c : Components) :
    Prop where
  schemas : P .schema c.schemas
  servers : P .server c.servers
  serverVariables : P .serverVariable c.serverVariables
  channels : P .channel c.channels
  messages : P .message c.messages
  securitySchemes : P .securityScheme c.securitySchemes
  parameters : P .parameter c.parameters
  correlationIds : P .correlationId c.correlationIds
  serverBindings : P (.bindings .server) c.serverBindings
  channelBindings : P (.bindings .channel) c.channelBindings
  operationBindings : P (.bindings .operation) c.operationBindings
  messageBindings : P (.bindings .message) c.messageBindings

/-- No key stands twice in a table of the components. -/
def Components.Distinct (c : Components) : Prop :=
  c.Each fun _ t => t.Distinct

/-- No key stands twice in a table of the entity. -/
def Entity.Distinct : Entity → Prop
  | document d =>
    d.servers.Distinct ∧ d.channels.Distinct ∧ ∀ c ∈ d.components, c.Distinct
  | server s => s.serverVariables.Distinct
  | channel c => c.parameters.Distinct
  | schema s => Table.Distinct s.properties
  | _ => True

/-! ## Parts in a value -/

/-- No path continues both. -/
def Diverge (path path' : List String) : Prop :=
  ∀ rest rest', path ++ rest ≠ path' ++ rest'

/-- Paths that part behind a common key diverge. -/
theorem diverge_cons {key : String} {path path' : List String} (h : Diverge path path') :
    Diverge (key :: path) (key :: path') :=
  fun rest rest' same => h rest rest' (List.cons.inj same).2

/-- Paths with different first keys diverge. -/
theorem diverge_of_ne {key key' : String} (h : key ≠ key') (path path' : List String) :
    Diverge (key :: path) (key' :: path') :=
  fun _ _ same => h (List.cons.inj same).1

/-- The parts stand in the value where the keys lead, and apart from each other. -/
structure Placed.Fits (v : Json) (parts : List Placed) : Prop where
  leads : ∀ p ∈ parts, v.at? p.1 = some p.2.toJson
  apart : parts.Pairwise fun p q => Diverge p.1 q.1

section Fits

variable {α : Type} (entity : α → Entity)

/-- No parts fit any value. -/
theorem Placed.fits_nil (v : Json) : Placed.Fits v [] :=
  ⟨by simp, .nil⟩

/-- The entries of a table stand under their keys, if no key stands twice. -/
theorem fits_entryParts {t : Table α} (distinct : t.Distinct) :
    Placed.Fits (tableJson (fun x => (entity x).toJson) t) (entryParts entity t) where
  leads := by
    intro p hp
    obtain ⟨⟨name, x⟩, hx, rfl⟩ := List.mem_map.1 hp
    have written : Table.Distinct (t.map fun entry => (entry.1, (entity entry.2).toJson)) := by
      rw [Table.Distinct, Table.keys, List.map_map]
      exact distinct
    have found := Table.get?_eq_some_of_mem written (List.mem_map.2 ⟨(name, x), hx, rfl⟩)
    rw [Json.at?_cons, tableJson, Json.child?, show Table.get? _ _ = _ from found]
    rfl
  apart := by
    rw [entryParts, List.pairwise_map]
    refine (List.pairwise_map.1 distinct).imp fun different => ?_
    exact diverge_of_ne different [] []

/-- The items of a list stand under their numbers. -/
theorem fits_itemParts (xs : List α) :
    Placed.Fits (listJson (fun x => (entity x).toJson) xs) (itemParts entity xs) where
  leads := by
    intro p hp
    obtain ⟨⟨x, i⟩, hx, rfl⟩ := List.mem_map.1 hp
    rw [List.mem_zipIdx_iff_getElem?] at hx
    rw [Json.at?_cons, listJson, Json.child?_array, List.getElem?_map, hx]
    rfl
  apart := by
    have numbers : (xs.zipIdx.map Prod.snd).Nodup := by
      rw [List.zipIdx_map_snd]
      exact List.nodup_range'
    rw [itemParts, List.pairwise_map]
    refine (List.pairwise_map.1 numbers).imp fun different => ?_
    exact diverge_of_ne (fun same => different (Nat.repr_injective same)) [] []

/-- What is there is written as itself. -/
theorem fits_optionParts (x : Option α) :
    Placed.Fits (optionJson (fun x => (entity x).toJson) x) (optionParts entity x) := by
  cases x with
  | none => exact Placed.fits_nil _
  | some x => exact ⟨by simp [optionParts, optionJson, Json.at?], List.pairwise_singleton ..⟩

/-- Parts in one field. -/
theorem fits_under {v w : Json} {key : String} {parts : List Placed}
    (child : v.child? key = some w) (fits : Placed.Fits w parts) :
    Placed.Fits v (Placed.under key parts) where
  leads := by
    intro p hp
    obtain ⟨q, hq, rfl⟩ := List.mem_map.1 hp
    rw [Json.at?_cons, child]
    exact fits.leads q hq
  apart := List.pairwise_map.2 (fits.apart.imp diverge_cons)

/-- Parts in fields with different names. -/
theorem fits_ofFields {v : Json} {fields : List (String × List Placed)}
    (names : (fields.map Prod.fst).Nodup)
    (each : ∀ f ∈ fields, ∃ w, v.child? f.1 = some w ∧ Placed.Fits w f.2) :
    Placed.Fits v (Placed.ofFields fields) where
  leads := by
    intro p hp
    obtain ⟨f, hf, hp⟩ := List.mem_flatMap.1 hp
    obtain ⟨w, child, fits⟩ := each f hf
    exact (fits_under child fits).leads p hp
  apart := by
    rw [Placed.ofFields, List.pairwise_flatMap]
    constructor
    · intro f hf
      obtain ⟨w, child, fits⟩ := each f hf
      exact (fits_under child fits).apart
    · refine (List.pairwise_map.1 names).imp fun {f g} different => ?_
      intro p hp q hq
      obtain ⟨p, -, rfl⟩ := List.mem_map.1 hp
      obtain ⟨q, -, rfl⟩ := List.mem_map.1 hq
      exact diverge_of_ne different _ _

end Fits

/-! ## Parts of entities -/

/-- Properties are written one by one, which the schema has to say by recursion. -/
theorem propertiesJson_eq (properties : List (String × Schema)) :
    propertiesJson properties = properties.map fun (key, s) => (key, s.toJson) := by
  induction properties with
  | nil => rfl
  | cons entry rest ih =>
    obtain ⟨key, s⟩ := entry
    rw [propertiesJson, ih, List.map_cons]

/-- The same of schemas in a list. -/
theorem schemasJson_eq (schemas : List Schema) :
    schemasJson schemas = schemas.map Schema.toJson := by
  induction schemas with
  | nil => rfl
  | cons s rest ih => rw [schemasJson, ih, List.map_cons]

/-- The same of a schema that may be missing. -/
theorem optionalSchemaJson_eq (x : Option Schema) :
    optionalSchemaJson x = optionJson Schema.toJson x := by
  cases x <;> rfl

/-- The schema of additional properties is written as itself. -/
theorem fits_additional (s : Schema) :
    Placed.Fits (additionalJson s.additional) (optionParts .schema s.additionalSchema?) := by
  rw [Schema.additionalSchema?]
  rcases s.additional with _ | (_ | s')
  · exact Placed.fits_nil _
  · exact Placed.fits_nil _
  · exact fits_optionParts .schema (some s')

/-- The sections of components fit. -/
theorem fits_components {c : Components} (h : c.Distinct) :
    Placed.Fits c.toJson (Placed.ofFields c.partFields) := by
  refine fits_ofFields (by simp [Components.partFields]) ?_
  simp only [Components.partFields, List.forall_mem_cons, List.not_mem_nil, false_imp_iff,
    implies_true, and_true]
  exact ⟨⟨_, rfl, fits_entryParts .schema h.schemas⟩,
    ⟨_, rfl, fits_entryParts .server h.servers⟩,
    ⟨_, rfl, fits_entryParts .serverVariable h.serverVariables⟩,
    ⟨_, rfl, fits_entryParts .channel h.channels⟩,
    ⟨_, rfl, fits_entryParts .message h.messages⟩,
    ⟨_, rfl, fits_entryParts .securityScheme h.securitySchemes⟩,
    ⟨_, rfl, fits_entryParts .parameter h.parameters⟩,
    ⟨_, rfl, fits_entryParts .correlationId h.correlationIds⟩,
    ⟨_, rfl, fits_entryParts (.bindings .server) h.serverBindings⟩,
    ⟨_, rfl, fits_entryParts (.bindings .channel) h.channelBindings⟩,
    ⟨_, rfl, fits_entryParts (.bindings .operation) h.operationBindings⟩,
    ⟨_, rfl, fits_entryParts (.bindings .message) h.messageBindings⟩⟩

/-- The messages of an operation fit, be it one or a list. -/
theorem fits_message (m : Option OperationMessage) :
    Placed.Fits (optionJson OperationMessage.toJson m)
      (m.toList.flatMap OperationMessage.parts) := by
  rcases m with _ | (messages | message)
  · exact Placed.fits_nil _
  · rw [Option.toList_some, List.flatMap_singleton]
    exact fits_under rfl (fits_itemParts .message messages)
  · exact fits_optionParts .message (some message)

/-- The fields of an entity are fields of its JSON. -/
theorem Entity.exists_child {e : Entity} (h : e.Distinct) :
    ∀ f ∈ e.partFields, ∃ w, e.toJson.child? f.1 = some w ∧ Placed.Fits w f.2 := by
  cases e <;> simp only [partFields, List.forall_mem_cons, List.not_mem_nil, false_imp_iff,
    implies_true, and_true]
  case document d =>
    obtain ⟨servers, channels, components⟩ := h
    refine ⟨⟨_, rfl, fits_entryParts .server servers⟩, ⟨_, rfl, fits_entryParts .channel channels⟩,
      ⟨_, rfl, ?_⟩⟩
    cases hc : d.components with
    | none => exact Placed.fits_nil _
    | some c => simpa [optionJson] using fits_components (components c hc)
  case server s =>
    exact ⟨⟨_, rfl, fits_entryParts .serverVariable h⟩,
      ⟨_, rfl, fits_optionParts (.bindings .server) s.bindings⟩⟩
  case channel c =>
    exact ⟨⟨_, rfl, fits_optionParts .operation c.publish⟩,
      ⟨_, rfl, fits_optionParts .operation c.subscribe⟩,
      ⟨_, rfl, fits_entryParts .parameter h⟩,
      ⟨_, rfl, fits_optionParts (.bindings .channel) c.bindings⟩⟩
  case operation o =>
    exact ⟨⟨_, rfl, fits_optionParts (.bindings .operation) o.bindings⟩,
      ⟨_, rfl, fits_message o.message⟩⟩
  case message m =>
    exact ⟨⟨_, rfl, fits_optionParts .schema m.headers⟩,
      ⟨_, rfl, fits_optionParts .schema m.payload⟩,
      ⟨_, rfl, fits_optionParts .correlationId m.correlationId⟩,
      ⟨_, rfl, fits_optionParts (.bindings .message) m.bindings⟩⟩
  case parameter p => exact ⟨_, rfl, fits_optionParts .schema p.schema⟩
  case schema s =>
    have additional := fits_additional s
    obtain ⟨reference, type, format, title, description, properties, required, items, further,
      enumeration, constant, oneOf, anyOf, allOf, nullable, default, shownAs, ignored⟩ := s
    simp only [toJson, Schema.toJson, propertiesJson_eq, optionalSchemaJson_eq, schemasJson_eq]
    exact ⟨⟨_, rfl, fits_entryParts .schema h⟩, ⟨_, rfl, fits_optionParts .schema items⟩,
      ⟨_, rfl, additional⟩, ⟨_, rfl, fits_itemParts .schema oneOf⟩,
      ⟨_, rfl, fits_itemParts .schema anyOf⟩, ⟨_, rfl, fits_itemParts .schema allOf⟩⟩

/-- **The parts of an entity stand in its JSON** where their keys lead. -/
theorem Entity.fits_parts {e : Entity} (h : e.Distinct) : Placed.Fits e.toJson e.parts := by
  rw [parts]
  split
  · exact Placed.fits_nil _
  · refine fits_ofFields ?_ (exists_child h)
    cases e <;> simp [partFields]

/-! ## What an entity contains -/

/-- No key stands twice in a table of what the entity contains. -/
def Entity.Neat (e : Entity) : Prop :=
  ∀ path e', e.Contains path e' → e'.Distinct

variable {e e' : Entity} {path : List String}

/-- The parts of a neat entity are neat. -/
theorem Entity.Neat.of_mem_parts (h : e.Neat) (hp : (path, e') ∈ e.parts) : e'.Neat :=
  fun _ _ contains => h _ _ (.part hp contains)

/-- **What an entity contains is found** in its JSON at the end of the path. -/
theorem Entity.Contains.at?_eq (h : e.Contains path e') (neat : e.Neat) :
    e.toJson.at? path = some e'.toJson := by
  induction h with
  | self => rfl
  | @part e part e' path path' hp _ ih =>
    rw [Json.at?_append, (fits_parts (neat [] e .self)).leads _ hp]
    exact ih (neat.of_mem_parts hp)

/-- A part is below its entity. -/
theorem ne_nil_of_mem_parts (h : (path, e') ∈ e.parts) : path ≠ [] := by
  rw [Entity.parts] at h
  split at h
  · cases h
  · obtain ⟨⟨key, parts⟩, -, h⟩ := List.mem_flatMap.1 h
    obtain ⟨⟨rest, part⟩, -, same⟩ := List.mem_map.1 h
    obtain ⟨rfl, -⟩ := Prod.mk.inj same
    exact List.cons_ne_nil key rest

/-- **No path leads to two entities.** -/
theorem nodup_entities (neat : e.Neat) (path : List String) :
    ((e.outline.entities path).map Prod.fst).Nodup := by
  induction n : (e.outline.entities path).length using Nat.strongRecOn generalizing e path with
  | ind n ih => ?_
  -- A walk through a part stays below it.
  have below : ∀ (part : Placed) (x : List String),
      x ∈ (part.2.outline.entities (path ++ part.1)).map Prod.fst →
        ∃ rest, x = path ++ (part.1 ++ rest) := by
    intro part x hx
    obtain ⟨⟨_, e'⟩, mem, rfl⟩ := List.mem_map.1 hx
    obtain ⟨rest, hrest, -⟩ := mem_entities_iff.1 mem
    exact ⟨rest, by rw [hrest, List.append_assoc]⟩
  rw [entities_outline, List.map_cons, List.map_flatMap, List.nodup_cons]
  constructor
  · intro again
    obtain ⟨part, hp, hx⟩ := List.mem_flatMap.1 again
    obtain ⟨rest, hrest⟩ := below part _ hx
    have empty : part.1 ++ rest = [] := List.self_eq_append_right.1 hrest
    exact ne_nil_of_mem_parts hp (List.append_eq_nil_iff.1 empty).1
  · rw [List.Nodup, List.pairwise_flatMap]
    constructor
    · intro part hp
      exact ih _ (n ▸ length_entities_part_lt hp) (neat.of_mem_parts hp) _ rfl
    · refine (Entity.fits_parts (neat [] e .self)).apart.imp fun {p q} diverge => ?_
      intro x hx y hy same
      obtain ⟨rest, rfl⟩ := below p x hx
      obtain ⟨rest', rfl⟩ := below q y hy
      exact diverge rest rest' (List.append_cancel_left same)

end Document
end ApiGraph
