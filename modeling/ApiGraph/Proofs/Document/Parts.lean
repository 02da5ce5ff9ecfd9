/-
# The parts of a document

Which entities a document contains, and where, said by the types of the document alone:
`Entity.parts` lists the entities that are parts of another one, in order, each under the keys
that lead to it.  What is written as a reference has no parts.  `Entity.Contains` is what parts
of parts of an entity are.

A walk through the outline of an entity visits the entity, and then the outlines of its parts,
one after the other (`entities_outline`).  So it visits exactly what the entity contains
(`mem_entities_iff`).
-/

import ApiGraph.Compilation.Walk

namespace ApiGraph
namespace Document

/-! ## Parts -/

/-- An entity and the keys that lead to it. -/
abbrev Placed := List String × Entity

section Listing

variable {α : Type} (entity : α → Entity)

/-- The entries of a table. -/
def entryParts (t : Table α) : List Placed :=
  t.map fun (name, x) => ([name], entity x)

/-- The items of a list. -/
def itemParts (xs : List α) : List Placed :=
  xs.zipIdx.map fun (x, i) => ([toString i], entity x)

/-- An optional part. -/
def optionParts (x : Option α) : List Placed :=
  x.toList.map fun x => ([], entity x)

end Listing

/-- Parts one level further in. -/
def Placed.under (key : String) (parts : List Placed) : List Placed :=
  parts.map fun (path, e) => (key :: path, e)

/-- The parts that are in the fields of a record. -/
def Placed.ofFields (fields : List (String × List Placed)) : List Placed :=
  fields.flatMap fun (key, parts) => Placed.under key parts

/-- The definitions of the components. -/
def Components.partFields (c : Components) : List (String × List Placed) := [
  ("schemas", entryParts .schema c.schemas),
  ("servers", entryParts .server c.servers),
  ("serverVariables", entryParts .serverVariable c.serverVariables),
  ("channels", entryParts .channel c.channels),
  ("messages", entryParts .message c.messages),
  ("securitySchemes", entryParts .securityScheme c.securitySchemes),
  ("parameters", entryParts .parameter c.parameters),
  ("correlationIds", entryParts .correlationId c.correlationIds),
  ("serverBindings", entryParts (.bindings .server) c.serverBindings),
  ("channelBindings", entryParts (.bindings .channel) c.channelBindings),
  ("operationBindings", entryParts (.bindings .operation) c.operationBindings),
  ("messageBindings", entryParts (.bindings .message) c.messageBindings)]

/-- The messages of an operation. -/
def OperationMessage.parts : OperationMessage → List Placed
  | oneOf messages => Placed.under "oneOf" (itemParts .message messages)
  | single message => [([], .message message)]

namespace Entity

/-- The reference that an entity is written as. -/
def reference? : Entity → Option String
  | document _ => none
  | server s => s.reference
  | serverVariable v => v.reference
  | channel c => c.reference
  | operation _ => none
  | message m => m.reference
  | correlationId c => c.reference
  | parameter p => p.reference
  | securityScheme s => s.reference
  | schema s => s.reference
  | bindings _ b => b.reference

/-- The fields of an entity that hold parts, in order. -/
def partFields : Entity → List (String × List Placed)
  | document d => [
    ("servers", entryParts server d.servers),
    ("channels", entryParts channel d.channels),
    ("components", d.components.toList.flatMap fun c => Placed.ofFields c.partFields)]
  | server s => [
    ("variables", entryParts serverVariable s.serverVariables),
    ("bindings", optionParts (bindings .server) s.bindings)]
  | channel c => [
    ("publish", optionParts operation c.publish),
    ("subscribe", optionParts operation c.subscribe),
    ("parameters", entryParts parameter c.parameters),
    ("bindings", optionParts (bindings .channel) c.bindings)]
  | operation o => [
    ("bindings", optionParts (bindings .operation) o.bindings),
    ("message", o.message.toList.flatMap OperationMessage.parts)]
  | message m => [
    ("headers", optionParts schema m.headers),
    ("payload", optionParts schema m.payload),
    ("correlationId", optionParts correlationId m.correlationId),
    ("bindings", optionParts (bindings .message) m.bindings)]
  | parameter p => [("schema", optionParts schema p.schema)]
  | schema s => [
    ("properties", entryParts schema s.properties),
    ("items", optionParts schema s.items),
    ("additionalProperties", optionParts schema s.additionalSchema?),
    ("oneOf", itemParts schema s.oneOf),
    ("anyOf", itemParts schema s.anyOf),
    ("allOf", itemParts schema s.allOf)]
  | _ => []

/-- The parts of what is no reference, in order. -/
def ownParts (e : Entity) : List Placed :=
  Placed.ofFields e.partFields

/-- The entities that are parts of an entity, in order; a reference has none. -/
def parts (e : Entity) : List Placed :=
  match e.reference? with
  | some _ => []
  | none => e.ownParts

/-- The entity `e` contains `e'`, at the end of the path. -/
inductive Contains : Entity → List String → Entity → Prop
  | self {e : Entity} : Contains e [] e
  | part {e e' e'' : Entity} {path path' : List String} :
      (path, e') ∈ e.parts → Contains e' path' e'' → Contains e (path ++ path') e''

/-- An entity contains its parts. -/
theorem Contains.of_part {e e' : Entity} {path : List String} (h : (path, e') ∈ e.parts) :
    e.Contains path e' := by
  simpa using Contains.part h .self

/-- The outline of an entity. -/
def outline : Entity → Outline
  | document d => d.outline
  | server s => s.outline
  | serverVariable v => v.outline
  | channel c => c.outline
  | operation o => o.outline
  | message m => m.outline
  | correlationId c => c.outline
  | parameter p => p.outline
  | securityScheme s => s.outline
  | schema s => s.outline
  | bindings kind b => b.outline kind

end Entity
end Document

/-! ## What a walk visits -/

open Document

/-- Frames without tags that lead along a path. -/
def Frame.ofPath (path : List String) : List Frame :=
  (path.map fun key => ⟨key, {}⟩).reverse

/-- The frames along a path lead along this path. -/
@[simp] theorem Frame.path_ofPath (path : List String) : Frame.path (Frame.ofPath path) = path := by
  simp [Frame.path, Frame.ofPath, Function.comp_def]

/-- Entering an entity adds a key to the path. -/
@[simp] theorem Frame.path_enter (frames : List Frame) (key : String) (tags : Tags) :
    Frame.path (Frame.enter frames key tags) = Frame.path frames ++ [key] := by
  simp [Frame.path, Frame.enter]

/-- Frames with one path still have one when both walks enter by the same key. -/
theorem Frame.path_enter_congr {frames frames' : List Frame}
    (h : Frame.path frames = Frame.path frames') (key : String) (tags : Tags) :
    Frame.path (Frame.enter frames key tags) = Frame.path (Frame.enter frames' key tags) := by
  rw [path_enter, path_enter, h]

/-- The visited entity and the keys on the way to it. -/
def Visit.placed (v : Visit) : Placed :=
  (Frame.path v.frames, v.entity)

namespace Document
namespace Outline

/-- The entities of an outline at a path, in the order of a walk. -/
def entities (path : List String) (o : Outline) : List Placed :=
  (o.visits (Frame.ofPath path)).map Visit.placed

mutual

/-- Where a walk finds entities depends on the keys on the way to it, and not on the tags. -/
theorem placed_visits_congr {frames frames' : List Frame}
    (h : Frame.path frames = Frame.path frames') :
    ∀ o : Outline, (o.visits frames).map Visit.placed = (o.visits frames').map Visit.placed
  | .map entries => placed_entryVisits_congr h entries
  | .sequence items => placed_itemVisits_congr h 0 items
  | .union none => rfl
  | .union (some active) => placed_visits_congr h active
  | .record none fields => placed_fieldVisits_congr h fields
  | .record (some entity) fields => by
    rw [visits, visits, List.map_cons, List.map_cons, placed_fieldVisits_congr h fields,
      Visit.placed, Visit.placed, h]
  | .scalar entity => by simp [visits, Visit.placed, h]

/-- The same of the entries of a map. -/
theorem placed_entryVisits_congr {frames frames' : List Frame}
    (h : Frame.path frames = Frame.path frames') : ∀ entries : List (String × Outline),
      (entryVisits frames entries).map Visit.placed =
        (entryVisits frames' entries).map Visit.placed
  | [] => rfl
  | (key, node) :: rest => by
    rw [entryVisits, entryVisits, List.map_append, List.map_append,
      placed_entryVisits_congr h rest, placed_visits_congr (Frame.path_enter_congr h key {}) node]

/-- The same of the items of a sequence. -/
theorem placed_itemVisits_congr {frames frames' : List Frame}
    (h : Frame.path frames = Frame.path frames') : ∀ (index : Nat) (items : List Outline),
      (itemVisits frames index items).map Visit.placed =
        (itemVisits frames' index items).map Visit.placed
  | _, [] => rfl
  | index, node :: rest => by
    rw [itemVisits, itemVisits, List.map_append, List.map_append,
      placed_itemVisits_congr h (index + 1) rest,
      placed_visits_congr (Frame.path_enter_congr h (toString index) {}) node]

/-- The same of the fields of a record. -/
theorem placed_fieldVisits_congr {frames frames' : List Frame}
    (h : Frame.path frames = Frame.path frames') : ∀ fields : List (String × Tags × Outline),
      (fieldVisits frames fields).map Visit.placed = (fieldVisits frames' fields).map Visit.placed
  | [] => rfl
  | (name, tags, node) :: rest => by
    rw [fieldVisits, fieldVisits, List.map_append, List.map_append,
      placed_fieldVisits_congr h rest, placed_visits_congr (Frame.path_enter_congr h name tags) node]

end

/-- A walk finds the entities of an outline at the path that led there. -/
theorem placed_visits (frames : List Frame) (o : Outline) :
    (o.visits frames).map Visit.placed = o.entities (Frame.path frames) :=
  placed_visits_congr (by simp) o

section Equations

variable {α : Type} {path : List String}

/-- An outline without fields has its one entity. -/
@[simp] theorem entities_scalar (e : Entity) : (Outline.scalar e).entities path = [(path, e)] := by
  simp [entities, visits, Visit.placed]

/-- A record has its entity, and then the entities of its fields. -/
@[simp] theorem entities_record (e : Entity) (fields : List (String × Tags × Outline)) :
    (Outline.record (some e) fields).entities path =
      (path, e) :: fields.flatMap fun (name, _, node) => node.entities (path ++ [name]) := by
  rw [entities, visits, List.map_cons]
  congr 1
  · simp [Visit.placed]
  · induction fields with
    | nil => rfl
    | cons field rest ih =>
      obtain ⟨name, tags, node⟩ := field
      rw [fieldVisits, List.map_append, ih, List.flatMap_cons, placed_visits]
      simp

/-- A group has the entities of its fields. -/
@[simp] theorem entities_group (fields : List (String × Tags × Outline)) :
    (Outline.record none fields).entities path =
      fields.flatMap fun (name, _, node) => node.entities (path ++ [name]) := by
  rw [entities, visits]
  induction fields with
  | nil => rfl
  | cons field rest ih =>
    obtain ⟨name, tags, node⟩ := field
    rw [fieldVisits, List.map_append, ih, List.flatMap_cons, placed_visits]
    simp

/-- A union has the entities of the form that was read. -/
@[simp] theorem entities_union (active : Option Outline) :
    (Outline.union active).entities path = active.toList.flatMap (·.entities path) := by
  cases active with
  | none => rfl
  | some o => simp [entities, visits]

/-- A map has the entities of its entries, below their keys. -/
@[simp] theorem entities_map (entries : List (String × Outline)) :
    (Outline.map entries).entities path =
      entries.flatMap fun (key, node) => node.entities (path ++ [key]) := by
  rw [entities, visits]
  induction entries with
  | nil => rfl
  | cons entry rest ih =>
    obtain ⟨key, node⟩ := entry
    rw [entryVisits, List.map_append, ih, List.flatMap_cons, placed_visits]
    simp

/-- Items are numbered from `index` on. -/
theorem placed_itemVisits (items : List Outline) (index : Nat) :
    (itemVisits (Frame.ofPath path) index items).map Visit.placed =
      (items.zipIdx index).flatMap fun (node, i) => node.entities (path ++ [toString i]) := by
  induction items generalizing index with
  | nil => rfl
  | cons node rest ih =>
    rw [itemVisits, List.map_append, ih, List.zipIdx_cons, List.flatMap_cons, placed_visits]
    simp

/-- A sequence has the entities of its items, below their numbers. -/
@[simp] theorem entities_sequence (items : List Outline) :
    (Outline.sequence items).entities path =
      items.zipIdx.flatMap fun (node, i) => node.entities (path ++ [toString i]) :=
  placed_itemVisits items 0

/-- A table has the entities of its entries. -/
@[simp] theorem entities_ofTable (outline : α → Outline) (t : Table α) :
    (ofTable outline t).entities path =
      t.flatMap fun (key, x) => (outline x).entities (path ++ [key]) := by
  rw [ofTable, entities_map, List.flatMap_map]

/-- What may be missing has the entities of what is there. -/
@[simp] theorem entities_ofOption (outline : α → Outline) (x : Option α) :
    (ofOption outline x).entities path = x.toList.flatMap fun x => (outline x).entities path := by
  cases x <;> simp [ofOption]

end Equations

end Outline

/-! ## A walk visits an entity and its parts -/

section Listing

variable {α β : Type} (entity : α → Entity) (f : Placed → List β)

/-- Going through the parts of a table is going through its entries. -/
theorem flatMap_entryParts (t : Table α) :
    (entryParts entity t).flatMap f = t.flatMap fun (name, x) => f ([name], entity x) := by
  rw [entryParts, List.flatMap_map]

/-- Going through the parts of a list is going through its items, with their numbers. -/
theorem flatMap_itemParts (xs : List α) :
    (itemParts entity xs).flatMap f = xs.zipIdx.flatMap fun (x, i) => f ([toString i], entity x) := by
  rw [itemParts, List.flatMap_map]

/-- Going through the part that may be missing is going through what is there. -/
theorem flatMap_optionParts (x : Option α) :
    (optionParts entity x).flatMap f = x.toList.flatMap fun x => f ([], entity x) := by
  rw [optionParts, List.flatMap_map]

/-- Going through parts under a key adds the key to each of them. -/
theorem flatMap_under (key : String) (parts : List Placed) :
    (Placed.under key parts).flatMap f = parts.flatMap fun (path, e) => f (key :: path, e) := by
  rw [Placed.under, List.flatMap_map]

/-- Going through the parts of fields is going through each field, with its key. -/
theorem flatMap_ofFields (fields : List (String × List Placed)) :
    (Placed.ofFields fields).flatMap f =
      fields.flatMap fun (key, parts) => parts.flatMap fun (path, e) => f (key :: path, e) := by
  rw [Placed.ofFields, List.flatMap_assoc]
  simp only [flatMap_under]

end Listing

/-- The outlines of properties are those of the schemas, which the walk has to say by recursion. -/
theorem propertyOutlines_eq (properties : List (String × Schema)) :
    propertyOutlines properties = properties.map fun (key, s) => (key, s.outline) := by
  induction properties with
  | nil => rfl
  | cons entry rest ih =>
    obtain ⟨key, s⟩ := entry
    rw [propertyOutlines, ih, List.map_cons]

/-- The same of the schemas in a list. -/
theorem schemaOutlines_eq (schemas : List Schema) :
    schemaOutlines schemas = schemas.map Schema.outline := by
  induction schemas with
  | nil => rfl
  | cons s rest ih => rw [schemaOutlines, ih, List.map_cons]

/-- The same of a schema that may be missing. -/
theorem optionalSchemaOutline_eq (x : Option Schema) :
    optionalSchemaOutline x = Outline.ofOption Schema.outline x := by
  cases x <;> rfl

/-- A schema of additional properties has its entities where there is one. -/
theorem entities_additionalOutline (s : Schema) (path : List String) :
    (additionalOutline s.additional).entities path =
      s.additionalSchema?.toList.flatMap fun s => s.outline.entities path := by
  rw [Schema.additionalSchema?]
  rcases s.additional with _ | (_ | _) <;> simp [additionalOutline]

/-- The outline of a schema without the recursion: its parts are in the outlines of tables,
lists and options like those of any other entity. -/
theorem Schema.outline_eq (s : Schema) :
    s.outline = Outline.unlessReference s.reference (.schema s) [
      ("properties", .data, .map (propertyOutlines s.properties)),
      ("items", .data, optionalSchemaOutline s.items),
      ("additionalProperties", .data, additionalOutline s.additional),
      ("oneOf", .data, .sequence (schemaOutlines s.oneOf)),
      ("anyOf", .data, .sequence (schemaOutlines s.anyOf)),
      ("allOf", .data, .sequence (schemaOutlines s.allOf))] := by
  cases s
  rw [Schema.outline]

/-- An entity whose outline depends on whether it is written as a reference. -/
theorem entities_unlessReference {e : Entity} {fields : List (String × Tags × Outline)}
    (h : e.outline = Outline.unlessReference e.reference? e fields) {path : List String}
    (own : (fields.flatMap fun (name, _, node) => node.entities (path ++ [name])) =
      e.partFields.flatMap fun (key, parts) =>
        parts.flatMap fun (rel, e') => e'.outline.entities (path ++ key :: rel)) :
    e.outline.entities path =
      (path, e) :: e.parts.flatMap fun (rel, e') => e'.outline.entities (path ++ rel) := by
  rw [h, Entity.parts]
  cases e.reference? with
  | some reference => simp [Outline.unlessReference]
  | none => simp only [Outline.unlessReference, Outline.entities_record, own, Entity.ownParts,
      flatMap_ofFields]

/-- An entity without parts. -/
theorem entities_of_scalar {e : Entity} (h : e.outline = .scalar e) (none : e.partFields = [])
    (path : List String) : e.outline.entities path =
      (path, e) :: e.parts.flatMap fun (rel, e') => e'.outline.entities (path ++ rel) := by
  have parts : e.parts = [] := by
    rw [Entity.parts, Entity.ownParts, none]
    split <;> rfl
  simp [h, parts]

/-- **A walk through an entity** visits the entity, and then walks through its parts. -/
theorem entities_outline (e : Entity) (path : List String) :
    e.outline.entities path =
      (path, e) :: e.parts.flatMap fun (rel, e') => e'.outline.entities (path ++ rel) := by
  cases e with
  | document d =>
    rw [Entity.outline, Document.outline, Outline.entities_record]
    cases hc : d.components <;>
    simp [Entity.parts, Entity.reference?, Entity.ownParts, Entity.partFields, flatMap_ofFields,
      flatMap_entryParts, Entity.outline, hc, Components.outline, Components.partFields]
  | server s =>
    refine entities_unlessReference rfl ?_
    simp [Entity.partFields, flatMap_entryParts, flatMap_optionParts, Entity.outline]
  | serverVariable v => exact entities_of_scalar rfl rfl path
  | channel c =>
    refine entities_unlessReference rfl ?_
    simp [Entity.partFields, flatMap_entryParts, flatMap_optionParts, Entity.outline]
  | operation o =>
    rw [Entity.outline, Operation.outline, Outline.entities_record]
    rcases hm : o.message with _ | (messages | message) <;>
    simp [Entity.parts, Entity.reference?, Entity.ownParts, Entity.partFields, flatMap_ofFields,
      flatMap_itemParts, flatMap_optionParts, flatMap_under, Entity.outline, hm,
      OperationMessage.outline, OperationMessage.parts, List.zipIdx_map, List.flatMap_map]
  | message m =>
    refine entities_unlessReference rfl ?_
    simp [Entity.partFields, flatMap_optionParts, Entity.outline]
  | correlationId c => exact entities_of_scalar rfl rfl path
  | parameter p =>
    refine entities_unlessReference rfl ?_
    simp [Entity.partFields, flatMap_optionParts, Entity.outline]
  | securityScheme s => exact entities_of_scalar rfl rfl path
  | schema s =>
    refine entities_unlessReference (e := .schema s) s.outline_eq ?_
    simp [Entity.partFields, flatMap_entryParts, flatMap_optionParts, flatMap_itemParts,
      Entity.outline, propertyOutlines_eq, schemaOutlines_eq, optionalSchemaOutline_eq,
      entities_additionalOutline, List.flatMap_map, List.zipIdx_map]
  | bindings kind b => exact entities_of_scalar rfl rfl path

/-- The walk through a part is shorter than the one through the whole. -/
theorem length_entities_part_lt {e e' : Entity} {rel path : List String}
    (h : (rel, e') ∈ e.parts) :
    (e'.outline.entities (path ++ rel)).length < (e.outline.entities path).length := by
  rw [entities_outline e, List.length_cons, List.flatMap_def]
  refine Nat.lt_succ_of_le (List.Sublist.length_le (List.sublist_flatten_of_mem ?_))
  exact List.mem_map.2 ⟨(rel, e'), h, rfl⟩

/-- **A walk visits what is contained**, and nothing else. -/
theorem mem_entities_iff {e e' : Entity} {path path' : List String} :
    (path', e') ∈ e.outline.entities path ↔ ∃ rel, path' = path ++ rel ∧ e.Contains rel e' := by
  constructor
  · intro h
    induction n : (e.outline.entities path).length using Nat.strongRecOn generalizing e path with
    | ind n ih => ?_
    rw [entities_outline, List.mem_cons, List.mem_flatMap] at h
    rcases h with h | ⟨⟨rel, part⟩, hp, h⟩
    · obtain ⟨rfl, rfl⟩ := Prod.mk.inj h
      exact ⟨[], by simp, .self⟩
    · obtain ⟨rel', rfl, contains⟩ := ih _ (n ▸ length_entities_part_lt hp) h rfl
      exact ⟨rel ++ rel', by simp, .part hp contains⟩
  · rintro ⟨rel, rfl, h⟩
    induction h generalizing path with
    | self =>
      rw [entities_outline, List.append_nil]
      exact List.mem_cons_self ..
    | @part e part e' rel rel' hp _ ih =>
      rw [entities_outline, ← List.append_assoc]
      exact List.mem_cons_of_mem _ (List.mem_flatMap.2 ⟨(rel, part), hp, ih⟩)

/-- A walk through a document visits what the document contains. -/
theorem mem_entities_document_iff {d : Document} {e : Entity} {path : List String} :
    (path, e) ∈ d.outline.entities [] ↔ (Entity.document d).Contains path e :=
  (mem_entities_iff (e := .document d)).trans (by simp)

/-- A walk through a document starts at its root. -/
theorem map_placed_visits (d : Document) :
    (d.outline.visits []).map Visit.placed = d.outline.entities [] :=
  Outline.placed_visits [] d.outline

/-- **A walk through a document visits what the document contains**, and nothing else. -/
theorem exists_visit_iff {d : Document} {e : Entity} {path : List String} :
    (∃ v ∈ d.outline.visits [], v.placed = (path, e)) ↔ (Entity.document d).Contains path e := by
  rw [← List.mem_map, map_placed_visits, mem_entities_document_iff]

/-- What is contained in what is contained is contained. -/
theorem Entity.Contains.trans {e e' e'' : Entity} {path path' : List String}
    (h : e.Contains path e') (h' : e'.Contains path' e'') : e.Contains (path ++ path') e'' := by
  induction h with
  | self => exact h'
  | part hp _ ih =>
    rw [List.append_assoc]
    exact .part hp (ih h')

/-- Parts of what is contained are contained. -/
theorem Entity.Contains.tail {e e' e'' : Entity} {path path' : List String}
    (h : e.Contains path e') (hp : (path', e'') ∈ e'.parts) : e.Contains (path ++ path') e'' :=
  h.trans (.of_part hp)

/-- What is contained is the entity itself, or a part of something that is contained. -/
theorem Entity.Contains.cases_tail {e e'' : Entity} {path : List String}
    (h : e.Contains path e'') : (path = [] ∧ e'' = e) ∨
      ∃ path' rel e', path = path' ++ rel ∧ e.Contains path' e' ∧ (rel, e'') ∈ e'.parts := by
  induction h with
  | self => exact .inl ⟨rfl, rfl⟩
  | @part e part e'' rel rel' hp contains ih =>
    rcases ih with ⟨rfl, rfl⟩ | ⟨path', last, e', rfl, contains', hlast⟩
    · exact .inr ⟨[], rel, e, by simp, .self, hp⟩
    · exact .inr ⟨rel ++ path', last, e', by simp, .part hp contains', hlast⟩

/-- Documents are parts of nothing. -/
theorem document_notMem_parts {e : Entity} {d : Document} {rel : List String} :
    (rel, .document d) ∉ e.parts := by
  intro h
  rw [Entity.parts] at h
  split at h
  · cases h
  cases e with
  | operation o =>
    rcases hm : o.message with _ | (messages | m) <;>
    simp [Entity.ownParts, Entity.partFields, Placed.ofFields, Placed.under, optionParts,
      itemParts, OperationMessage.parts, hm] at h
  | _ =>
    simp [Entity.ownParts, Entity.partFields, Placed.ofFields, Placed.under, entryParts,
      optionParts, itemParts, Components.partFields] at h

/-- A document contains no document but itself. -/
theorem eq_of_contains_document {d d' : Document} {path : List String}
    (h : (Entity.document d).Contains path (.document d')) : d' = d := by
  rcases h.cases_tail with ⟨-, same⟩ | ⟨_, rel, e, -, -, part⟩
  · exact Entity.document.inj same
  · exact absurd part document_notMem_parts

end Document
end ApiGraph
