/-
# Changing the bindings sections of a document

A change of the bindings sections of a document is told where a section stands, and leaves
everything else alone: `Document.mapSections` goes through the document along the types of its
parts, as the outline does.  So the changed document is visited where the first one was, and the
entities are changed one by one (`Document.visits_mapSections`).
-/

import ApiGraph.Proofs.Document.Parts
import Mathlib.Data.List.Forall2

namespace ApiGraph
namespace Document

section Changes

variable (f : List String → Bindings → Bindings) (path : List String)

/-- The values of a table are changed, which stand under their keys. -/
def mapEntries {α : Type} (change : List String → α → α) (t : Table α) : Table α :=
  t.map fun (key, x) => (key, change (path ++ [key]) x)

/-- The section beside an entity is changed. -/
def mapSection (bindings : Option Bindings) : Option Bindings :=
  bindings.map (f (path ++ ["bindings"]))

/-- The sections of a server are changed. -/
def Server.mapSections (s : Server) : Server :=
  { s with bindings := mapSection f path s.bindings }

/-- The sections of a message are changed. -/
def Message.mapSections (m : Message) : Message :=
  { m with bindings := mapSection f path m.bindings }

/-- The sections of the messages of an operation are changed. -/
def OperationMessage.mapSections : OperationMessage → OperationMessage
  | oneOf messages =>
    oneOf (messages.mapIdx fun i m => m.mapSections f (path ++ ["oneOf"] ++ [toString i]))
  | single message => single (message.mapSections f path)

/-- The sections of an operation are changed. -/
def Operation.mapSections (o : Operation) : Operation :=
  { o with
    bindings := mapSection f path o.bindings
    message := o.message.map (·.mapSections f (path ++ ["message"])) }

/-- The sections of a channel are changed. -/
def Channel.mapSections (c : Channel) : Channel :=
  { c with
    publish := c.publish.map (·.mapSections f (path ++ ["publish"]))
    subscribe := c.subscribe.map (·.mapSections f (path ++ ["subscribe"]))
    bindings := mapSection f path c.bindings }

/-- The sections of the components are changed. -/
def Components.mapSections (c : Components) : Components :=
  { c with
    servers := mapEntries (path ++ ["servers"]) (Server.mapSections f) c.servers
    channels := mapEntries (path ++ ["channels"]) (Channel.mapSections f) c.channels
    messages := mapEntries (path ++ ["messages"]) (Message.mapSections f) c.messages
    serverBindings := mapEntries (path ++ ["serverBindings"]) f c.serverBindings
    channelBindings := mapEntries (path ++ ["channelBindings"]) f c.channelBindings
    operationBindings := mapEntries (path ++ ["operationBindings"]) f c.operationBindings
    messageBindings := mapEntries (path ++ ["messageBindings"]) f c.messageBindings }

/-- The sections of a document are changed. -/
def mapSections (d : Document) : Document :=
  { d with
    servers := mapEntries ["servers"] (Server.mapSections f) d.servers
    channels := mapEntries ["channels"] (Channel.mapSections f) d.channels
    components := d.components.map (·.mapSections f ["components"]) }

/-- The sections of an entity that stands at the path are changed. -/
def Entity.mapSections : Entity → Entity
  | document d => .document (d.mapSections f)
  | server s => .server (s.mapSections f path)
  | channel c => .channel (c.mapSections f path)
  | operation o => .operation (o.mapSections f path)
  | message m => .message (m.mapSections f path)
  | bindings kind b => .bindings kind (f path b)
  | e => e

end Changes
end Document

/-- The sections of a visited entity are changed. -/
def Visit.mapSections (f : List String → Document.Bindings → Document.Bindings) (v : Visit) :
    Visit :=
  ⟨v.frames, v.entity.mapSections f (Frame.path v.frames)⟩

namespace Document

open Outline

/-! ## The changed outline -/

/-- A walk through `o'` visits what a walk through `o` does, with changed sections. -/
def Outline.Changed (f : List String → Bindings → Bindings) (frames : List Frame)
    (o o' : Outline) : Prop :=
  o'.visits frames = (o.visits frames).map (Visit.mapSections f)

section Changed

variable {f : List String → Bindings → Bindings} {frames : List Frame} {path : List String}

/-- Fields of one name and one kind, with changed outlines. -/
def Outline.FieldChanged (f : List String → Bindings → Bindings) (frames : List Frame)
    (x y : String × Tags × Outline) : Prop :=
  y.1 = x.1 ∧ y.2.1 = x.2.1 ∧ Outline.Changed f (Frame.enter frames x.1 x.2.1) x.2.2 y.2.2

/-- Fields are changed one by one, and so are the visits to them. -/
theorem fieldVisits_changed {fields fields' : List (String × Tags × Outline)}
    (h : List.Forall₂ (FieldChanged f frames) fields fields') :
    fieldVisits frames fields' = (fieldVisits frames fields).map (Visit.mapSections f) := by
  induction h with
  | nil => rfl
  | @cons x y _ _ same _ ih =>
    obtain ⟨name, tags, node⟩ := x
    obtain ⟨_, _, node'⟩ := y
    obtain ⟨rfl, rfl, changed⟩ := same
    rw [fieldVisits, fieldVisits, List.map_append, ih, changed]

/-- A group is changed in its fields. -/
theorem changed_group {fields fields' : List (String × Tags × Outline)}
    (h : List.Forall₂ (FieldChanged f frames) fields fields') :
    Changed f frames (.record none fields) (.record none fields') :=
  fieldVisits_changed h

/-- A record is changed in its entity and in its fields. -/
theorem changed_record {e : Entity} {fields fields' : List (String × Tags × Outline)}
    (h : List.Forall₂ (FieldChanged f frames) fields fields') :
    Changed f frames (.record (some e) fields)
      (.record (some (e.mapSections f (Frame.path frames))) fields') := by
  rw [Changed, visits, visits, List.map_cons, fieldVisits_changed h]
  rfl

/-- An outline without fields is changed in its entity. -/
theorem changed_scalar (e : Entity) :
    Changed f frames (.scalar e) (.scalar (e.mapSections f (Frame.path frames))) := rfl

/-- What is written as a reference has no fields to change. -/
theorem changed_unlessReference {reference : Option String} {e : Entity}
    {fields fields' : List (String × Tags × Outline)}
    (h : List.Forall₂ (FieldChanged f frames) fields fields') :
    Changed f frames (unlessReference reference e fields)
      (unlessReference reference (e.mapSections f (Frame.path frames)) fields') := by
  cases reference with
  | some _ => exact changed_scalar e
  | none => exact changed_record h

/-- What may be missing is changed where it is there. -/
theorem changed_ofOption {α : Type} {outline : α → Outline} {change : α → α} {x : Option α}
    (h : ∀ x, Changed f frames (outline x) (outline (change x))) :
    Changed f frames (ofOption outline x) (ofOption outline (x.map change)) := by
  cases x with
  | none => rfl
  | some x => exact h x

/-- The entries of a table are changed, each under its key. -/
theorem changed_ofTable {α : Type} {outline : α → Outline} {change : List String → α → α}
    (at_ : path = Frame.path frames) (t : Table α)
    (h : ∀ frames x, Changed f frames (outline x) (outline (change (Frame.path frames) x))) :
    Changed f frames (ofTable outline t) (ofTable outline (mapEntries path change t)) := by
  subst at_
  rw [Changed, ofTable, ofTable, visits, visits]
  induction t with
  | nil => rfl
  | cons entry rest ih =>
    obtain ⟨key, x⟩ := entry
    rw [mapEntries, List.map_cons, List.map_cons, List.map_cons, entryVisits, entryVisits,
      List.map_append, ← Frame.path_enter frames key {}, h]
    exact congrArg _ ih

/-- A table without sections in it stays as it is. -/
theorem changed_unchangedTable {α : Type} {outline : α → Outline} (t : Table α)
    (h : ∀ frames x, Changed f frames (outline x) (outline x)) :
    Changed f frames (ofTable outline t) (ofTable outline t) := by
  have same : mapEntries (Frame.path frames) (fun _ x => x) t = t := List.map_id _
  have changed : Changed f frames (ofTable outline t)
      (ofTable outline (mapEntries (Frame.path frames) (fun _ x => x) t)) := changed_ofTable rfl t h
  rwa [same] at changed

/-- So does what may be missing. -/
theorem changed_unchangedOption {α : Type} {outline : α → Outline} (x : Option α)
    (h : ∀ x, Changed f frames (outline x) (outline x)) :
    Changed f frames (ofOption outline x) (ofOption outline x) := by
  cases x with
  | none => rfl
  | some x => exact h x

/-- What is not changed is visited as before, if it has no sections. -/
theorem changed_same {o : Outline}
    (h : ∀ v ∈ o.visits frames, v.entity.mapSections f (Frame.path v.frames) = v.entity) :
    Changed f frames o o := by
  rw [Changed]
  refine (List.map_id _).symm.trans (List.map_congr_left fun v hv => ?_)
  rw [Visit.mapSections, h v hv]
  rfl

/-- A schema contains nothing but schemas. -/
theorem Entity.Contains.exists_schema {s : Schema} {e : Entity}
    (h : (Entity.schema s).Contains path e) : ∃ s', e = .schema s' := by
  generalize hs : Entity.schema s = whole at h
  induction h generalizing s with
  | self => exact ⟨s, hs.symm⟩
  | @part _ e' _ rel _ hp _ ih =>
    subst hs
    suffices inner : ∃ s', Entity.schema s' = e' from inner.elim fun s' hs' => ih hs'
    rw [Entity.parts] at hp
    split at hp
    · cases hp
    · simp only [Entity.ownParts, Entity.partFields, Placed.ofFields, Placed.under, entryParts,
        optionParts, itemParts, List.flatMap_cons, List.flatMap_nil, List.map_map, List.mem_append,
        List.mem_map, Function.comp_apply, Prod.mk.injEq, List.not_mem_nil, or_false] at hp
      rcases hp with ⟨x, -, -, hx⟩ | ⟨x, -, -, hx⟩ | ⟨x, -, -, hx⟩ | ⟨x, -, -, hx⟩ |
        ⟨x, -, -, hx⟩ | ⟨x, -, -, hx⟩ <;> exact ⟨_, hx⟩

/-- There are no sections in schemas. -/
theorem changed_schema (s : Schema) : Changed f frames s.outline s.outline := by
  refine changed_same fun v hv => ?_
  have placed : (Frame.path v.frames, v.entity) ∈
      (Entity.schema s).outline.entities (Frame.path frames) := by
    rw [← placed_visits]
    exact List.mem_map_of_mem hv
  obtain ⟨rel, -, contains⟩ := mem_entities_iff.1 placed
  obtain ⟨s', hs'⟩ := contains.exists_schema
  rw [hs']
  rfl

/-- The section beside an entity is changed. -/
theorem changed_section (kind : BindingsKind) (at_ : path = Frame.path frames)
    (b : Option Bindings) :
    FieldChanged f frames ("bindings", {}, ofOption (Bindings.outline kind) b)
      ("bindings", {}, ofOption (Bindings.outline kind) (mapSection f path b)) := by
  subst at_
  refine ⟨rfl, rfl, changed_ofOption fun b => ?_⟩
  rw [← Frame.path_enter frames "bindings" {}]
  exact changed_scalar (.bindings kind b)

/-- A server is changed in its section. -/
theorem changed_server (frames : List Frame) (s : Server) :
    Changed f frames s.outline (s.mapSections f (Frame.path frames)).outline := by
  have values : FieldChanged f frames
      ("variables", {}, ofTable ServerVariable.outline s.serverVariables)
      ("variables", {}, ofTable ServerVariable.outline s.serverVariables) :=
    ⟨rfl, rfl, changed_unchangedTable _ fun _ v => changed_scalar (.serverVariable v)⟩
  exact changed_unlessReference (e := .server s)
    (.cons values (.cons (changed_section .server rfl _) .nil))

/-- A message is changed in its section. -/
theorem changed_message (frames : List Frame) (m : Message) :
    Changed f frames m.outline (m.mapSections f (Frame.path frames)).outline := by
  have schema (name : String) (x : Option Schema) : FieldChanged f frames
      (name, .data, ofOption Schema.outline x) (name, .data, ofOption Schema.outline x) :=
    ⟨rfl, rfl, changed_unchangedOption _ changed_schema⟩
  have correlationId : FieldChanged f frames
      ("correlationId", {}, ofOption CorrelationId.outline m.correlationId)
      ("correlationId", {}, ofOption CorrelationId.outline m.correlationId) :=
    ⟨rfl, rfl, changed_unchangedOption _ fun i => changed_scalar (.correlationId i)⟩
  exact changed_unlessReference (e := .message m) (.cons (schema _ _) (.cons (schema _ _)
    (.cons correlationId (.cons (changed_section .message rfl _) .nil))))

/-- Messages in a list are changed, each under its number. -/
theorem itemVisits_changed (f : List String → Bindings → Bindings) (frames : List Frame)
    (messages : List Message) (index : Nat) :
    itemVisits frames index ((messages.mapIdx fun i m =>
        m.mapSections f (Frame.path frames ++ [toString (index + i)])).map Message.outline) =
      (itemVisits frames index (messages.map Message.outline)).map (Visit.mapSections f) := by
  induction messages generalizing index with
  | nil => rfl
  | cons m rest ih =>
    have next := ih (index + 1)
    simp only [Nat.add_right_comm index 1] at next
    rw [List.mapIdx_cons, List.map_cons, List.map_cons, itemVisits, itemVisits, List.map_append,
      Nat.add_zero, ← Frame.path_enter frames (toString index) {}, changed_message]
    exact congrArg _ next

/-- What an operation says of messages is changed in these. -/
theorem changed_operationMessage (frames : List Frame) (m : OperationMessage) :
    Changed f frames m.outline (m.mapSections f (Frame.path frames)).outline := by
  cases m with
  | oneOf messages =>
    refine changed_group (.cons ⟨rfl, rfl, ?_⟩ .nil)
    have items := itemVisits_changed f (Frame.enter frames "oneOf" {}) messages 0
    simp only [Frame.path_enter, Nat.zero_add] at items
    exact items
  | single message => exact changed_message frames message

/-- An operation is changed in its section and in its messages. -/
theorem changed_operation (frames : List Frame) (o : Operation) :
    Changed f frames o.outline (o.mapSections f (Frame.path frames)).outline := by
  refine changed_record (e := .operation o) (.cons (changed_section .operation rfl _)
    (.cons ⟨rfl, rfl, changed_ofOption fun m => ?_⟩ .nil))
  rw [← Frame.path_enter frames "message" {}]
  exact changed_operationMessage _ m

/-- There are no sections in parameters. -/
theorem changed_parameter (frames : List Frame) (p : Parameter) :
    Changed f frames p.outline p.outline :=
  changed_unlessReference (e := .parameter p)
    (.cons ⟨rfl, rfl, changed_unchangedOption _ changed_schema⟩ .nil)

/-- A channel is changed in its section and in its operations. -/
theorem changed_channel (frames : List Frame) (c : Channel) :
    Changed f frames c.outline (c.mapSections f (Frame.path frames)).outline := by
  have operation (name : String) (x : Option Operation) : FieldChanged f frames
      (name, {}, ofOption Operation.outline x)
      (name, {}, ofOption Operation.outline
        (x.map (·.mapSections f (Frame.path frames ++ [name])))) := by
    refine ⟨rfl, rfl, changed_ofOption fun o => ?_⟩
    rw [← Frame.path_enter frames name {}]
    exact changed_operation _ o
  have parameters : FieldChanged f frames
      ("parameters", {}, ofTable Parameter.outline c.parameters)
      ("parameters", {}, ofTable Parameter.outline c.parameters) :=
    ⟨rfl, rfl, changed_unchangedTable _ changed_parameter⟩
  exact changed_unlessReference (e := .channel c) (.cons (operation _ _) (.cons (operation _ _)
    (.cons parameters (.cons (changed_section .channel rfl _) .nil))))

/-- A table of definitions is changed. -/
theorem changed_definitions {α : Type} {outline : α → Outline} {change : List String → α → α}
    (at_ : path = Frame.path frames) (name : String) (tags : Tags) (t : Table α)
    (h : ∀ frames x, Changed f frames (outline x) (outline (change (Frame.path frames) x))) :
    FieldChanged f frames (name, tags, ofTable outline t)
      (name, tags, ofTable outline (mapEntries (path ++ [name]) change t)) :=
  ⟨rfl, rfl, changed_ofTable (by rw [at_, Frame.path_enter]) t h⟩

/-- Components are changed in each of their tables. -/
theorem changed_components (frames : List Frame) (c : Components) :
    Changed f frames c.outline (c.mapSections f (Frame.path frames)).outline := by
  have same {α : Type} {outline : α → Outline} (name : String) (tags : Tags) (t : Table α)
      (h : ∀ frames x, Changed f frames (outline x) (outline x)) :
      FieldChanged f frames (name, tags, ofTable outline t) (name, tags, ofTable outline t) :=
    ⟨rfl, rfl, changed_unchangedTable t h⟩
  have sections (kind : BindingsKind) (name : String) (t : Table Bindings) :
      FieldChanged f frames (name, .definitions, ofTable (Bindings.outline kind) t)
        (name, .definitions,
          ofTable (Bindings.outline kind) (mapEntries (Frame.path frames ++ [name]) f t)) :=
    changed_definitions rfl name _ t fun _ b => changed_scalar (.bindings kind b)
  exact changed_group
    (.cons (same _ _ _ fun _ => changed_schema)
    (.cons (changed_definitions rfl _ _ _ changed_server)
    (.cons (same _ _ _ fun _ v => changed_scalar (.serverVariable v))
    (.cons (changed_definitions rfl _ _ _ changed_channel)
    (.cons (changed_definitions rfl _ _ _ changed_message)
    (.cons (same _ _ _ fun _ s => changed_scalar (.securityScheme s))
    (.cons (same _ _ _ changed_parameter)
    (.cons (same _ _ _ fun _ i => changed_scalar (.correlationId i))
    (.cons (sections .server _ _) (.cons (sections .channel _ _)
    (.cons (sections .operation _ _) (.cons (sections .message _ _) .nil))))))))))))

end Changed

/-- **A changed document** is visited where the document is, and its sections are changed. -/
theorem visits_mapSections (f : List String → Bindings → Bindings) (d : Document) :
    (d.mapSections f).outline.visits [] = (d.outline.visits []).map (Visit.mapSections f) := by
  refine changed_record (e := .document d) (.cons (changed_definitions rfl _ _ _ changed_server)
    (.cons (changed_definitions rfl _ _ _ changed_channel)
    (.cons ⟨rfl, rfl, changed_ofOption fun c => changed_components _ c⟩ .nil)))

end Document
end ApiGraph
