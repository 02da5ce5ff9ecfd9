/-
# Documents that were read

In a document that was read no key stands twice in a table, however deep the table is: the
document is neat (`neat_of_ofText`).  What has to hold of a record for this is said of its fields
(`Schema.Tidy` and its like), so that reading a record keeps it field by field.
-/

import ApiGraph.Document.Reading
import ApiGraph.Proofs.Document.Pointers
import ApiGraph.Proofs.Json.Decoding

namespace ApiGraph
namespace Document

open Decoder

/-! ## Neat entities -/

namespace Entity

variable {e : Entity}

/-- The parts of fields are neat if those of each field are. -/
theorem neat_ofFields {fields : List (String × List Placed)}
    (h : ∀ f ∈ fields, ∀ p ∈ f.2, p.2.Neat) : ∀ p ∈ Placed.ofFields fields, p.2.Neat := by
  intro p hp
  obtain ⟨f, hf, hp⟩ := List.mem_flatMap.1 hp
  obtain ⟨q, hq, rfl⟩ := List.mem_map.1 hp
  exact h f hf q hq

/-- An entity is neat if its own tables and all its parts are. -/
theorem neat_of_partFields (distinct : e.Distinct)
    (parts : ∀ f ∈ e.partFields, ∀ p ∈ f.2, p.2.Neat) : e.Neat := by
  intro path e' contains
  cases contains with
  | self => exact distinct
  | part hp below =>
    rw [Entity.parts] at hp
    split at hp
    · cases hp
    · exact neat_ofFields parts _ hp _ _ below

/-- A server variable has no tables and no parts. -/
theorem neat_serverVariable (v : ServerVariable) : (serverVariable v).Neat :=
  neat_of_partFields trivial (by simp [partFields])

/-- A correlation id has no tables and no parts. -/
theorem neat_correlationId (c : CorrelationId) : (correlationId c).Neat :=
  neat_of_partFields trivial (by simp [partFields])

/-- A security scheme has no tables and no parts. -/
theorem neat_securityScheme (s : SecurityScheme) : (securityScheme s).Neat :=
  neat_of_partFields trivial (by simp [partFields])

/-- A bindings section has no parts. -/
theorem neat_bindings (kind : BindingsKind) (b : Bindings) : (bindings kind b).Neat :=
  neat_of_partFields trivial (by simp [partFields])

end Entity

/-- A table has no key twice, and its entries are neat. -/
def NeatTable {α : Type} (entity : α → Entity) (t : Table α) : Prop :=
  t.Distinct ∧ ∀ x ∈ t, (entity x.2).Neat

section Parts

variable {α : Type} {entity : α → Entity}

/-- The entries of a neat table are neat. -/
theorem NeatTable.parts {t : Table α} (h : NeatTable entity t) :
    ∀ p ∈ entryParts entity t, p.2.Neat := by
  intro p hp
  obtain ⟨x, hx, rfl⟩ := List.mem_map.1 hp
  exact h.2 x hx

/-- The items of a list are neat parts if they are neat. -/
theorem neat_itemParts {xs : List α} (h : ∀ x ∈ xs, (entity x).Neat) :
    ∀ p ∈ itemParts entity xs, p.2.Neat := by
  intro p hp
  obtain ⟨⟨x, i⟩, hx, rfl⟩ := List.mem_map.1 hp
  exact h x (List.fst_mem_of_mem_zipIdx hx)

/-- What may be missing is a neat part if what is there is neat. -/
theorem neat_optionParts {x : Option α} (h : ∀ y ∈ x, (entity y).Neat) :
    ∀ p ∈ optionParts entity x, p.2.Neat := by
  intro p hp
  obtain ⟨y, hy, rfl⟩ := List.mem_map.1 hp
  exact h y (Option.mem_toList.1 hy)

end Parts

/-! ## Schemas -/

/-- What a schema holds is neat. -/
structure Schema.Tidy (s : Schema) : Prop where
  properties : NeatTable .schema s.properties
  items : ∀ x ∈ s.items, (Entity.schema x).Neat
  additional : ∀ a ∈ s.additional, ∀ x, a = .schema x → (Entity.schema x).Neat
  oneOf : ∀ x ∈ s.oneOf, (Entity.schema x).Neat
  anyOf : ∀ x ∈ s.anyOf, (Entity.schema x).Neat
  allOf : ∀ x ∈ s.allOf, (Entity.schema x).Neat

/-- A tidy schema is neat. -/
theorem Schema.Tidy.neat {s : Schema} (h : s.Tidy) : (Entity.schema s).Neat := by
  refine Entity.neat_of_partFields h.properties.1 ?_
  simp only [Entity.partFields, List.forall_mem_cons, List.not_mem_nil, false_imp_iff,
    implies_true, and_true]
  refine ⟨h.properties.parts, neat_optionParts h.items, neat_optionParts ?_,
    neat_itemParts h.oneOf, neat_itemParts h.anyOf, neat_itemParts h.allOf⟩
  intro x hx
  rw [Schema.additionalSchema?] at hx
  split at hx
  · cases hx
    exact h.additional _ ‹_› _ rfl
  · cases hx

/-- The schema of additional properties is neat if schemas that are read are. -/
theorem ensures_additional {schema : Decoder Schema}
    (h : schema.Ensures fun s => (Entity.schema s).Neat) :
    (additional schema).Ensures fun a => ∀ x, a = .schema x → (Entity.schema x).Neat := by
  refine ensures_union (List.forall_mem_cons.2 ⟨?_, List.forall_mem_singleton.2 ?_⟩)
  · exact Ensures.map (.of_forall fun _ => trivial) (by rintro b - x ⟨⟩)
  · exact h.map (by rintro s hs x ⟨⟩; exact hs)

/-- Schemas that are read are neat, by induction on the levels that are left. -/
theorem ensures_schemaWithin (levels : Nat) :
    (schemaWithin levels).Ensures fun s => (Entity.schema s).Neat := by
  induction levels with
  | zero => exact fun depth s x _ h => by cases h
  | succ levels ih =>
    have tidy : (schemaWithin (levels + 1)).Ensures Schema.Tidy := by
      refine ensures_record ?_ ?_
      · constructor <;> simp [NeatTable, Table.Distinct, Table.keys]
      · simp only [schemaFields, List.forall_mem_cons, List.not_mem_nil, false_imp_iff,
          implies_true, and_true]
        and_intros
        all_goals try exact .other fun _ _ h => { h with }
        · exact .of (ensures_table ih) fun _ _ hv h => { h with properties := hv }
        · exact .of (ensures_optional ih) fun _ _ hv h => { h with items := hv }
        · exact .of (ensures_optional (ensures_additional ih)) fun _ _ hv h =>
            { h with additional := hv }
        · exact .of (ensures_list ih) fun _ _ hv h => { h with oneOf := hv }
        · exact .of (ensures_list ih) fun _ _ hv h => { h with anyOf := hv }
        · exact .of (ensures_list ih) fun _ _ hv h => { h with allOf := hv }
    exact tidy.mono fun _ h => h.neat

/-- Every schema that is read is neat. -/
theorem ensures_schema : Schema.decoder.Ensures fun s => (Entity.schema s).Neat :=
  fun depth => ensures_schemaWithin (depth + 1) depth

/-! ## Other records -/

/-- What a message holds is neat. -/
structure Message.Tidy (m : Message) : Prop where
  headers : ∀ x ∈ m.headers, (Entity.schema x).Neat
  payload : ∀ x ∈ m.payload, (Entity.schema x).Neat

/-- A tidy message is neat. -/
theorem Message.Tidy.neat {m : Message} (h : m.Tidy) : (Entity.message m).Neat := by
  refine Entity.neat_of_partFields trivial ?_
  simp only [Entity.partFields, List.forall_mem_cons, List.not_mem_nil, false_imp_iff,
    implies_true, and_true]
  exact ⟨neat_optionParts h.headers, neat_optionParts h.payload,
    neat_optionParts fun c _ => Entity.neat_correlationId c,
    neat_optionParts fun b _ => Entity.neat_bindings _ b⟩

/-- Every message that is read is neat. -/
theorem ensures_message : Message.decoder.Ensures fun m => (Entity.message m).Neat := by
  have tidy : Message.decoder.Ensures Message.Tidy := by
    refine ensures_record (by constructor <;> simp) ?_
    simp only [Message.fields, List.forall_mem_cons, List.not_mem_nil, false_imp_iff,
      implies_true, and_true]
    and_intros
    all_goals try exact .other fun _ _ h => { h with }
    · exact .of (ensures_optional ensures_schema) fun _ _ hv h => { h with headers := hv }
    · exact .of (ensures_optional ensures_schema) fun _ _ hv h => { h with payload := hv }
  exact tidy.mono fun _ h => h.neat

/-- There are alternatives where the field with their list is given. -/
theorem alternatives_eq_ok_iff_record {depth : Nat} {s : Source} {messages : List Message} :
    alternatives depth s = .ok messages ↔
      record "OneOfMessages" alternativesFields none depth s = .ok (some messages) := by
  constructor
  · intro h
    obtain ⟨given, read, h⟩ := bind_eq_ok_iff.1 h
    split at h <;> cases h
    exact read
  · exact fun h => bind_eq_ok_iff.2 ⟨_, h, rfl⟩

/-- What holds of every message that is read holds of all alternatives. -/
theorem ensures_alternatives {Q : Message → Prop} (h : Message.decoder.Ensures Q) :
    alternatives.Ensures fun messages => ∀ m ∈ messages, Q m := by
  intro depth s messages fit read
  refine ensures_record (I := fun given => ∀ ms ∈ given, ∀ m ∈ ms, Q m)
    (by rintro _ ⟨⟩) (List.forall_mem_singleton.2 ?_) _ _ _ fit
    (alternatives_eq_ok_iff_record.1 read) messages rfl
  exact .of (ensures_list h) fun v _ hv _ => by rintro _ ⟨⟩; exact hv

/-- The messages of an operation that was read are neat, be it one or a list. -/
theorem ensures_operationMessage :
    OperationMessage.decoder.Ensures fun m => ∀ p ∈ m.parts, p.2.Neat := by
  refine ensures_union (List.forall_mem_cons.2 ⟨?_, List.forall_mem_singleton.2 ?_⟩)
  · refine (ensures_alternatives ensures_message).map fun ms neat p hp => ?_
    obtain ⟨q, hq, rfl⟩ := List.mem_map.1 hp
    exact neat_itemParts neat q hq
  · exact ensures_message.map fun m neat => List.forall_mem_singleton.2 neat

/-- Every operation that is read is neat. -/
theorem ensures_operation : Operation.decoder.Ensures fun o => (Entity.operation o).Neat := by
  have tidy : Operation.decoder.Ensures fun o => ∀ m ∈ o.message, ∀ p ∈ m.parts, p.2.Neat := by
    refine ensures_record (by rintro _ ⟨⟩) ?_
    simp only [Operation.fields, List.forall_mem_cons, List.not_mem_nil, false_imp_iff,
      implies_true, and_true]
    and_intros
    all_goals try exact .other fun _ _ h => h
    exact .of (ensures_optional ensures_operationMessage) fun _ _ hv _ => hv
  refine tidy.mono fun o tidy => ?_
  refine Entity.neat_of_partFields trivial ?_
  simp only [Entity.partFields, List.forall_mem_cons, List.not_mem_nil, false_imp_iff,
    implies_true, and_true]
  refine ⟨neat_optionParts fun b _ => Entity.neat_bindings _ b, fun p hp => ?_⟩
  obtain ⟨m, hm, hp⟩ := List.mem_flatMap.1 hp
  exact tidy m (Option.mem_toList.1 hm) p hp

/-- Every parameter that is read is neat. -/
theorem ensures_parameter : Parameter.decoder.Ensures fun p => (Entity.parameter p).Neat := by
  have tidy : Parameter.decoder.Ensures fun p => ∀ x ∈ p.schema, (Entity.schema x).Neat := by
    refine ensures_record (by rintro _ ⟨⟩) ?_
    simp only [Parameter.fields, List.forall_mem_cons, List.not_mem_nil, false_imp_iff,
      implies_true, and_true]
    and_intros
    all_goals try exact .other fun _ _ h => h
    exact .of (ensures_optional ensures_schema) fun _ _ hv _ => hv
  refine tidy.mono fun p tidy => ?_
  refine Entity.neat_of_partFields trivial ?_
  exact List.forall_mem_singleton.2 (neat_optionParts tidy)

/-- What a channel holds is neat. -/
structure Channel.Tidy (c : Channel) : Prop where
  publish : ∀ o ∈ c.publish, (Entity.operation o).Neat
  subscribe : ∀ o ∈ c.subscribe, (Entity.operation o).Neat
  parameters : NeatTable .parameter c.parameters

/-- A tidy channel is neat. -/
theorem Channel.Tidy.neat {c : Channel} (h : c.Tidy) : (Entity.channel c).Neat := by
  refine Entity.neat_of_partFields h.parameters.1 ?_
  simp only [Entity.partFields, List.forall_mem_cons, List.not_mem_nil, false_imp_iff,
    implies_true, and_true]
  exact ⟨neat_optionParts h.publish, neat_optionParts h.subscribe, h.parameters.parts,
    neat_optionParts fun b _ => Entity.neat_bindings _ b⟩

theorem neatTable_nil {α : Type} (entity : α → Entity) : NeatTable entity [] :=
  ⟨List.nodup_nil, by simp⟩

/-- Every channel that is read is neat. -/
theorem ensures_channel : Channel.decoder.Ensures fun c => (Entity.channel c).Neat := by
  have tidy : Channel.decoder.Ensures Channel.Tidy := by
    refine ensures_record ⟨by simp, by simp, neatTable_nil _⟩ ?_
    simp only [Channel.fields, List.forall_mem_cons, List.not_mem_nil, false_imp_iff,
      implies_true, and_true]
    and_intros
    all_goals try exact .other fun _ _ h => { h with }
    · exact .of (ensures_optional ensures_operation) fun _ _ hv h => { h with publish := hv }
    · exact .of (ensures_optional ensures_operation) fun _ _ hv h => { h with subscribe := hv }
    · exact .of (ensures_table ensures_parameter) fun _ _ hv h => { h with parameters := hv }
  exact tidy.mono fun _ h => h.neat

/-- Every server that is read is neat. -/
theorem ensures_server : Server.decoder.Ensures fun s => (Entity.server s).Neat := by
  have tidy : Server.decoder.Ensures fun s => s.serverVariables.Distinct := by
    refine ensures_record List.nodup_nil ?_
    simp only [Server.fields, List.forall_mem_cons, List.not_mem_nil, false_imp_iff,
      implies_true, and_true]
    and_intros
    all_goals try exact .other fun _ _ h => h
    exact .of (ensures_table (Q := fun _ => True) (.of_forall fun _ => trivial)) fun _ _ hv _ => hv.1
  refine tidy.mono fun s distinct => ?_
  refine Entity.neat_of_partFields distinct ?_
  simp only [Entity.partFields, List.forall_mem_cons, List.not_mem_nil, false_imp_iff,
    implies_true, and_true]
  refine ⟨fun p hp => ?_, neat_optionParts fun b _ => Entity.neat_bindings _ b⟩
  obtain ⟨x, -, rfl⟩ := List.mem_map.1 hp
  exact Entity.neat_serverVariable x.2

/-! ## Documents -/

/-- All sections of components that were read are neat tables. -/
theorem ensures_components : Components.decoder.Ensures (·.Each NeatTable) := by
  refine ensures_record (by constructor <;> exact neatTable_nil _) ?_
  simp only [Components.fields, List.forall_mem_cons, List.not_mem_nil, false_imp_iff,
    implies_true, and_true]
  and_intros
  · exact .of (ensures_table ensures_schema) fun _ _ hv h => { h with schemas := hv }
  · exact .of (ensures_table ensures_server) fun _ _ hv h => { h with servers := hv }
  · exact .of (ensures_table (.of_forall Entity.neat_serverVariable)) fun _ _ hv h =>
      { h with serverVariables := hv }
  · exact .of (ensures_table ensures_channel) fun _ _ hv h => { h with channels := hv }
  · exact .of (ensures_table ensures_message) fun _ _ hv h => { h with messages := hv }
  · exact .of (ensures_table (.of_forall Entity.neat_securityScheme)) fun _ _ hv h =>
      { h with securitySchemes := hv }
  · exact .of (ensures_table ensures_parameter) fun _ _ hv h => { h with parameters := hv }
  · exact .of (ensures_table (.of_forall Entity.neat_correlationId)) fun _ _ hv h =>
      { h with correlationIds := hv }
  · exact .of (ensures_table (.of_forall (Entity.neat_bindings _))) fun _ _ hv h =>
      { h with serverBindings := hv }
  · exact .of (ensures_table (.of_forall (Entity.neat_bindings _))) fun _ _ hv h =>
      { h with channelBindings := hv }
  · exact .of (ensures_table (.of_forall (Entity.neat_bindings _))) fun _ _ hv h =>
      { h with operationBindings := hv }
  · exact .of (ensures_table (.of_forall (Entity.neat_bindings _))) fun _ _ hv h =>
      { h with messageBindings := hv }

/-- Components with neat tables have different keys in each section, and neat parts. -/
theorem neat_components {c : Components} (h : c.Each NeatTable) :
    c.Distinct ∧ ∀ p ∈ Placed.ofFields c.partFields, p.2.Neat := by
  constructor
  · exact ⟨h.schemas.1, h.servers.1, h.serverVariables.1, h.channels.1, h.messages.1,
      h.securitySchemes.1, h.parameters.1, h.correlationIds.1, h.serverBindings.1,
      h.channelBindings.1, h.operationBindings.1, h.messageBindings.1⟩
  · refine Entity.neat_ofFields ?_
    simp only [Components.partFields, List.forall_mem_cons, List.not_mem_nil, false_imp_iff,
      implies_true, and_true]
    exact ⟨h.schemas.parts, h.servers.parts, h.serverVariables.parts, h.channels.parts,
      h.messages.parts, h.securitySchemes.parts, h.parameters.parts, h.correlationIds.parts,
      h.serverBindings.parts, h.channelBindings.parts, h.operationBindings.parts,
      h.messageBindings.parts⟩

/-- What a document holds is neat. -/
structure Tidy (d : Document) : Prop where
  servers : NeatTable .server d.servers
  channels : NeatTable .channel d.channels
  components : ∀ c ∈ d.components, c.Each NeatTable

/-- A tidy document is neat. -/
theorem Tidy.neat {d : Document} (h : d.Tidy) : (Entity.document d).Neat := by
  refine Entity.neat_of_partFields
    ⟨h.servers.1, h.channels.1, fun c hc => (neat_components (h.components c hc)).1⟩ ?_
  simp only [Entity.partFields, List.forall_mem_cons, List.not_mem_nil, false_imp_iff,
    implies_true, and_true]
  refine ⟨h.servers.parts, h.channels.parts, fun p hp => ?_⟩
  obtain ⟨c, hc, hp⟩ := List.mem_flatMap.1 hp
  exact (neat_components (h.components c (Option.mem_toList.1 hc))).2 p hp

/-- **A document that was read is neat.** -/
theorem neat_of_ofText {text : String} {d : Document} (h : ofText text = .ok d) :
    (Entity.document d).Neat := by
  have tidy : decoder.Ensures Tidy := by
    refine ensures_record ⟨neatTable_nil _, neatTable_nil _, by rintro _ ⟨⟩⟩ ?_
    simp only [fields, List.forall_mem_cons, List.not_mem_nil, false_imp_iff, implies_true,
      and_true]
    and_intros
    all_goals try exact .other fun _ _ h => { h with }
    · exact .of (ensures_table ensures_server) fun _ _ hv h => { h with servers := hv }
    · exact .of (ensures_table ensures_channel) fun _ _ hv h => { h with channels := hv }
    · exact .of (ensures_optional ensures_components) fun _ _ hv h => { h with components := hv }
  exact (tidy.of_decodeText h).neat

end Document
end ApiGraph
