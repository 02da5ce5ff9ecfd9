/-
# What objects are read as

In most places of a document an object is read as a struct, which knows some keys.  Elsewhere it is
a map, or stands in a bindings section, in a raw value, or under a key that a struct does not know
(`ReadAs`).

Every object of a document that is read is one or the other (`exists_readAs`): a decoder that gives
a value for a tree accounts for all objects in it (`Covers`).
-/

import ApiGraph.Proofs.Document.Decoding
import ApiGraph.Proofs.Json.Records

namespace ApiGraph

open Source (fill)

/-! ## Arrays and objects -/

/-- The value is an array or an object. -/
def Source.Container : Source → Prop
  | .array _ _ => True
  | .object _ _ => True
  | _ => False

/-- Whatever place a container is put at, the outcome is a container. -/
theorem Source.container_fill {s : Source} (h : s.Container) (place : List Source.Step) :
    (fill place s).Container := by
  cases place with
  | nil => exact h
  | cons step place => cases step <;> exact trivial

/-- A container is not `null`, so an optional decoder reads it as its inner one does. -/
theorem Source.Container.ne_null {s : Source} (h : s.Container) : s ≠ .scalar (.ok .null) := by
  rintro rfl
  cases h

namespace Document

open Decoder

variable {α σ : Type} {d : Decoder α} {depth k : Nat} {s : Source} {place : List Source.Step}
  {members : List (Except Fault String × Source)} {ending : ObjectEnd}

/-- A container is not read as a text. -/
theorem text_ne_ok (h : s.Container) (t : String) : text depth s ≠ .ok t := by
  cases s with
  | array | object => exact mismatch_ne_ok
  | _ => cases h

/-- A container is not read as a flag. -/
theorem flag_ne_ok (h : s.Container) (b : Bool) : flag depth s ≠ .ok b := by
  cases s with
  | array | object => exact mismatch_ne_ok
  | _ => cases h

/-- A container is not read as a text that may be missing. -/
theorem optionalText_ne_ok (h : s.Container) (x : Option String) :
    optionalText depth s ≠ .ok x := by
  rw [optionalText, optional_eq_map h.ne_null]
  intro read
  obtain ⟨t, ht, -⟩ := map_eq_ok_iff.1 read
  exact text_ne_ok h t ht

/-! ## Structs -/

/-- The fields of a struct of a document. -/
inductive Struct : {σ : Type} → List (FieldReader σ) → Prop
  | document : Struct fields
  | info : Struct Info.fields
  | serverVariable : Struct ServerVariable.fields
  | server : Struct Server.fields
  | schema (levels : Nat) : Struct (schemaFields (schemaWithin levels))
  | correlationId : Struct CorrelationId.fields
  | message : Struct Message.fields
  | alternatives : Struct alternativesFields
  | operation : Struct Operation.fields
  | parameter : Struct Parameter.fields
  | channel : Struct Channel.fields
  | securityScheme : Struct SecurityScheme.fields
  | components : Struct Components.fields

/-- The names of fields. -/
def names (fields : List (FieldReader σ)) : List String := fields.map (·.name)

/-- Every field's name is among the names of the fields. -/
theorem mem_names {fields : List (FieldReader σ)} : ∀ f ∈ fields, f.name ∈ names fields :=
  fun _ hf => List.mem_map_of_mem hf

/-- What an object can be read as. -/
inductive Meaning where
  /-- A struct.  Of the keys it could have, these are the ones that mean something. -/
  | struct (keys : List String)
  /-- Something whose keys are free. -/
  | free

/-- What a decoder reads a value as, in the tree around it.  The place of the value is told by the
steps that lead to it. -/
inductive ReadAs (value : Source) :
    {α : Type} → Decoder α → Nat → List Source.Step → Meaning → Prop
  /-- A struct. -/
  | struct {σ : Type} {name : String} {fields : List (FieldReader σ)} {defaults : σ} {depth : Nat}
    (struct : Struct fields) :
    ReadAs value (record name fields defaults) (depth + 1) [] (.struct (names fields))
  /-- In a field of a struct. -/
  | field {σ α : Type} {name : String} {fields : List (FieldReader σ)} {defaults : σ}
    {d : Decoder α} {depth : Nat} {step : Source.Step} {place : List Source.Step}
    {meaning : Meaning} (struct : Struct fields) (enters : Enters fields d step)
    (inside : ReadAs value d depth place meaning) :
    ReadAs value (record name fields defaults) (depth + 1) (step :: place) meaning
  /-- Under a key that the struct does not know. -/
  | unknown {σ : Type} {name key : String} {fields : List (FieldReader σ)} {defaults : σ}
    {depth : Nat} {before after : List (Except Fault String × Source)} {ending : ObjectEnd}
    {place : List Source.Step} (struct : Struct fields)
    (unknown : fields.find? (·.name == key) = none) :
    ReadAs value (record name fields defaults) (depth + 1)
      (.member before (.ok key) after ending :: place) .free
  /-- In an item of a list. -/
  | item {α : Type} {d : Decoder α} {depth : Nat} {place : List Source.Step} {meaning : Meaning}
    (before after : List Source) (ending : ArrayEnd) (inside : ReadAs value d depth place meaning) :
    ReadAs value (list d) (depth + 1) (.item before after ending :: place) meaning
  /-- A map. -/
  | map {α : Type} {d : Decoder α} {depth : Nat} : ReadAs value (table d) depth [] .free
  /-- In the value of an entry of a map. -/
  | entry {α : Type} {d : Decoder α} {depth : Nat} {place : List Source.Step} {meaning : Meaning}
    (before after : List (Except Fault String × Source)) (key : Except Fault String)
    (ending : ObjectEnd) (inside : ReadAs value d depth place meaning) :
    ReadAs value (table d) (depth + 1) (.member before key after ending :: place) meaning
  /-- Where null could stand. -/
  | optional {α : Type} {d : Decoder α} {depth : Nat} {place : List Source.Step}
    {meaning : Meaning} (inside : ReadAs value d depth place meaning) :
    ReadAs value (optional d) depth place meaning
  /-- A raw value, or something in one. -/
  | raw {depth : Nat} {place : List Source.Step} : ReadAs value Decoder.raw depth place .free
  /-- A bindings section, or something in one. -/
  | bindings {depth : Nat} {place : List Source.Step} (kind : BindingsKind) :
    ReadAs value kind.decoder depth place .free
  /-- In a schema, which is given as many levels as there is depth. -/
  | schema {depth : Nat} {place : List Source.Step} {meaning : Meaning}
    (inside : ReadAs value (schemaWithin (depth + 1)) depth place meaning) :
    ReadAs value Schema.decoder depth place meaning
  /-- In the schema of further properties. -/
  | additional {d : Decoder Schema} {depth : Nat} {place : List Source.Step} {meaning : Meaning}
    (inside : ReadAs value d depth place meaning) :
    ReadAs value (additional d) depth place meaning
  /-- In the messages of an operation that are read as alternatives. -/
  | oneOf {depth : Nat} {place : List Source.Step} {meaning : Meaning} {messages : List Message}
    (taken : alternatives depth (fill place value) = .ok messages)
    (inside : ReadAs value (record "OneOfMessages" alternativesFields none) depth place meaning) :
    ReadAs value OperationMessage.decoder depth place meaning
  /-- The single message of an operation, where `oneOf` would mean something as well. -/
  | single {depth : Nat} (only : ∀ messages, alternatives (depth + 1) value ≠ .ok messages) :
    ReadAs value OperationMessage.decoder (depth + 1) [] (.struct ("oneOf" :: names Message.fields))
  /-- In a field of the single message of an operation. -/
  | inSingle {α : Type} {d : Decoder α} {depth : Nat} {step : Source.Step}
    {place : List Source.Step} {meaning : Meaning}
    (only : ∀ messages, alternatives (depth + 1) (fill (step :: place) value) ≠ .ok messages)
    (enters : Enters Message.fields d step) (inside : ReadAs value d depth place meaning) :
    ReadAs value OperationMessage.decoder (depth + 1) (step :: place) meaning
  /-- Under a key that the single message of an operation does not know. -/
  | unknownInSingle {key : String} {depth : Nat}
    {before after : List (Except Fault String × Source)} {ending : ObjectEnd}
    {place : List Source.Step}
    (only : ∀ messages, alternatives (depth + 1)
      (fill (.member before (.ok key) after ending :: place) value) ≠ .ok messages)
    (unknown : Message.fields.find? (·.name == key) = none) :
    ReadAs value OperationMessage.decoder (depth + 1)
      (.member before (.ok key) after ending :: place) .free

/-! ## Nothing else is read -/

/-- Every object in a tree for which the decoder gives a value is read as something. -/
def Covers (d : Decoder α) : Prop :=
  ∀ depth place members ending x, d depth (fill place (.object members ending)) = .ok x →
    ∃ meaning, ReadAs (.object members ending) d depth place meaning

/-- The decoder gives values only for trees without objects. -/
def Plain (d : Decoder α) : Prop :=
  ∀ depth place members ending x, d depth (fill place (.object members ending)) ≠ .ok x

/-- Where there is no object, nothing is left to account for. -/
theorem Plain.covers (h : Plain d) : Covers d :=
  fun depth place members ending x read => absurd read (h depth place members ending x)

/-- An object at any place makes a container of the whole. -/
theorem container_fill_object (place : List Source.Step) :
    (fill place (.object members ending)).Container :=
  Source.container_fill (by exact trivial) place

/-- A text has no objects in it. -/
theorem plain_text : Plain text :=
  fun _ place _ _ => text_ne_ok (container_fill_object place)

/-- A flag has no objects in it. -/
theorem plain_flag : Plain flag :=
  fun _ place _ _ => flag_ne_ok (container_fill_object place)

/-- What is read as an item of a list is an item of the array. -/
theorem exists_item_of_list {step : Source.Step} {xs : List α}
    (h : list d depth (step.around s) = .ok xs) :
    ∃ k before after ending x, depth = k + 1 ∧ step = .item before after ending ∧
      d k s = .ok x := by
  obtain ⟨k, items, close, rfl, array⟩ := exists_array_of_list h
  cases step with
  | member before key after ending => cases array
  | item before after ending =>
    obtain ⟨_, x, _, -, -, hx, -⟩ := exists_append_of_forall₂ (list_array_eq_ok_iff.1 h).1
    exact ⟨k, before, after, ending, x, rfl, rfl, hx⟩

/-- What is read as an entry of a map is a member of the object. -/
theorem exists_member_of_table {step : Source.Step} {t : Table α}
    (h : table d depth (step.around s) = .ok t) :
    ∃ k before key after ending x, depth = k + 1 ∧ step = .member before key after ending ∧
      d k s = .ok x := by
  obtain ⟨k, members, close, rfl, object⟩ := exists_object_of_table h
  cases step with
  | item before after ending => cases object
  | member before key after ending =>
    obtain ⟨⟨es, each, -⟩, -⟩ := table_object_eq_ok_iff.1 h
    obtain ⟨_, e, _, -, -, ⟨-, he⟩, -⟩ := exists_append_of_forall₂ (entries_eq_ok_iff.1 each)
    exact ⟨k, before, key, after, ending, e.2, rfl, rfl, he⟩

/-- An object is not read as a list. -/
theorem not_list_object {xs : List α} : list d depth (.object members ending) ≠ .ok xs := by
  intro read
  obtain ⟨_, _, _, -, array⟩ := exists_array_of_list read
  cases array

/-- A list of values without objects has none in it. -/
theorem plain_list (h : Plain d) : Plain (list d) := by
  intro depth place members ending xs read
  cases place with
  | nil => exact not_list_object read
  | cons step place =>
    obtain ⟨k, _, _, _, x, -, -, hx⟩ := exists_item_of_list read
    exact h _ _ _ _ _ hx

/-- The type of a schema is a text or a list of texts. -/
theorem plain_schemaType : Plain SchemaType.decoder := by
  intro depth place members ending x read
  rw [SchemaType.decoder, union_pair_eq_ok_iff] at read
  obtain ⟨-, ⟨t, ht, -⟩ | ⟨-, ts, hts, -⟩⟩ := read
  · exact plain_text _ _ _ _ _ ht
  · exact plain_list plain_text _ _ _ _ _ hts

@[simp] theorem covers_text : Covers text := plain_text.covers

@[simp] theorem covers_flag : Covers flag := plain_flag.covers

@[simp] theorem covers_schemaType : Covers SchemaType.decoder := plain_schemaType.covers

/-- An object in a raw value is read as a raw value. -/
@[simp] theorem covers_raw : Covers raw := fun _ _ _ _ _ _ => ⟨_, .raw⟩

/-- An object in a bindings section is read as a part of the section. -/
@[simp] theorem covers_bindings (kind : BindingsKind) : Covers kind.decoder :=
  fun _ _ _ _ _ _ => ⟨_, .bindings kind⟩

/-- An object in a list stands in an item, and the item's decoder accounts for it. -/
@[simp] theorem covers_list (h : Covers d) : Covers (list d) := by
  intro depth place members ending xs read
  cases place with
  | nil => exact absurd read not_list_object
  | cons step place =>
    obtain ⟨k, before, after, close, x, rfl, rfl, hx⟩ := exists_item_of_list read
    obtain ⟨meaning, inside⟩ := h _ _ _ _ _ hx
    exact ⟨meaning, .item before after close inside⟩

/-- An object in a map is the map, or stands in an entry, for which the entry's decoder
accounts. -/
@[simp] theorem covers_table (h : Covers d) : Covers (table d) := by
  intro depth place members ending t read
  cases place with
  | nil => exact ⟨_, .map⟩
  | cons step place =>
    obtain ⟨k, before, key, after, close, x, rfl, rfl, hx⟩ := exists_member_of_table read
    obtain ⟨meaning, inside⟩ := h _ _ _ _ _ hx
    exact ⟨meaning, .entry before after key close inside⟩

/-- An object in a value that may be missing stands in one that is there. -/
@[simp] theorem covers_optional (h : Covers d) : Covers (optional d) := by
  intro depth place members ending x read
  rw [optional_eq_map (container_fill_object place).ne_null] at read
  obtain ⟨y, hy, -⟩ := map_eq_ok_iff.1 read
  obtain ⟨meaning, inside⟩ := h _ _ _ _ _ hy
  exact ⟨meaning, .optional inside⟩

@[simp] theorem covers_optionalText : Covers optionalText := covers_optional covers_text

@[simp] theorem covers_requirements : Covers requirements :=
  covers_list (covers_table (covers_list covers_text))

/-! ## Records -/

/-- The value of a field is read by a decoder that accounts for all objects in it. -/
def FieldCovers (f : FieldReader σ) : Prop :=
  ∃ (α : Type) (key : String) (d : Decoder α) (set : α → σ → σ), f = .of key d set ∧ Covers d

/-- A field accounts for what the decoder of its value accounts for. -/
@[simp] theorem fieldCovers_of {key : String} {set : α → σ → σ} (h : Covers d) :
    FieldCovers (.of key d set) :=
  ⟨_, _, _, _, rfl, h⟩

section Record

variable {fields : List (FieldReader σ)} {name : String} {defaults r x : σ}

/-- What stands in an object is read for a field, or under a key that is no field's. -/
theorem exists_of_recordMembers {before after : List (Except Fault String × Source)}
    {key : Except Fault String} {seen : List String}
    (h : recordMembers fields depth (before ++ (key, s) :: after) seen r = .ok x) :
    ∃ written, key = .ok written ∧
      ((∃ f ∈ fields.find? (·.name == written), ∃ c, f.read depth s = .ok c) ∨
        fields.find? (·.name == written) = none) := by
  induction before generalizing seen r with
  | nil =>
    obtain ⟨written, rfl, ⟨f, c, found, -, read, -⟩ | ⟨unknown, -, -⟩⟩ :=
      recordMembers_cons_eq_ok h
    · exact ⟨written, rfl, .inl ⟨f, found, c, read⟩⟩
    · exact ⟨written, rfl, .inr unknown⟩
  | cons m before ih =>
    obtain ⟨key', value⟩ := m
    obtain ⟨_, -, ⟨_, _, -, -, -, h⟩ | ⟨-, -, h⟩⟩ := recordMembers_cons_eq_ok h
    · exact ih h
    · exact ih h

/-- What stands in an array is read for the field that has its place. -/
theorem exists_of_recordItems {before after : List Source} {ending : ArrayEnd}
    (h : recordItems depth ending fields (before ++ s :: after) r = .ok x) :
    ∃ f ∈ fields[before.length]?, ∃ c, f.read depth s = .ok c := by
  induction before generalizing fields r with
  | nil =>
    cases fields with
    | nil => cases h
    | cons f fields =>
      obtain ⟨c, read, -⟩ := bind_eq_ok_iff.1 h
      exact ⟨f, rfl, c, read⟩
  | cons item before ih =>
    cases fields with
    | nil => cases h
    | cons f fields =>
      obtain ⟨_, -, h⟩ := bind_eq_ok_iff.1 h
      exact ih h

/-- What stands in a struct is in a field, or under a key that the struct does not know. -/
theorem exists_of_record {step : Source.Step} {place : List Source.Step}
    (each : ∀ f ∈ fields, FieldCovers f)
    (h : record name fields defaults (k + 1)
      (step.around (fill place (.object members ending))) = .ok x) :
    (∃ (α : Type) (d : Decoder α) (meaning : Meaning), Enters fields d step ∧
        ReadAs (.object members ending) d k place meaning) ∨
      ∃ before key after close, step = .member before (.ok key) after close ∧
        fields.find? (·.name == key) = none := by
  cases step with
  | member before key after close =>
    obtain ⟨written, rfl, ⟨f, found, c, read⟩ | unknown⟩ :=
      exists_of_recordMembers (record_object_eq_ok_iff.1 h).1
    · obtain ⟨_, _, d, _, rfl, covers⟩ := each f (List.mem_of_find?_eq_some found)
      obtain rfl := name_of_find? found
      obtain ⟨v, hv, -⟩ := map_eq_ok_iff.1 read
      obtain ⟨meaning, inside⟩ := covers _ _ _ _ _ hv
      exact .inl ⟨_, d, meaning, .member found, inside⟩
    · exact .inr ⟨before, written, after, close, rfl, unknown⟩
  | item before after close =>
    obtain ⟨f, found, c, read⟩ := exists_of_recordItems h
    obtain ⟨_, _, d, _, rfl, covers⟩ := each f (List.mem_of_getElem? found)
    obtain ⟨v, hv, -⟩ := map_eq_ok_iff.1 read
    obtain ⟨meaning, inside⟩ := covers _ _ _ _ _ hv
    exact .inl ⟨_, d, meaning, .item found, inside⟩

/-- A record enters the array or object that it reads. -/
theorem exists_depth_of_record (container : s.Container)
    (h : record name fields defaults depth s = .ok x) : ∃ k, depth = k + 1 := by
  cases depth with
  | succ k => exact ⟨k, rfl⟩
  | zero =>
    cases s with
    | array | object => cases h
    | _ => cases container

/-- **A struct's decoder accounts for all objects** if the decoders of its fields do: an object
is the struct, or stands in the value of a field, or under a key that the struct does not know. -/
theorem covers_record (struct : Struct fields) (each : ∀ f ∈ fields, FieldCovers f) :
    Covers (record name fields defaults) := by
  intro depth place members ending x read
  obtain ⟨k, rfl⟩ := exists_depth_of_record (container_fill_object place) read
  cases place with
  | nil => exact ⟨_, .struct struct⟩
  | cons step place =>
    obtain ⟨_, d, meaning, enters, inside⟩ | ⟨before, key, after, close, rfl, unknown⟩ :=
      exists_of_record each read
    · exact ⟨meaning, .field struct enters inside⟩
    · exact ⟨_, .unknown struct unknown⟩

end Record

/-! ## Structs of a document -/

/-- What is given where an object could stand for the schema of further properties. -/
theorem additional_eq_ok_iff {d : Decoder Schema} {a : Additional Schema} (h : s.Container) :
    additional d depth s = .ok a ↔ Readable depth s ∧ ∃ v, d depth s = .ok v ∧ a = .schema v := by
  rw [additional, union_pair_eq_ok_iff]
  constructor
  · rintro ⟨readable, ⟨b, flag, -⟩ | ⟨-, schema⟩⟩
    · exact absurd flag (flag_ne_ok h b)
    · exact ⟨readable, schema⟩
  · rintro ⟨readable, schema⟩
    exact ⟨readable, .inr ⟨flag_ne_ok h, schema⟩⟩

/-- Additional properties are a flag or a schema, and only the schema has objects in it. -/
theorem covers_additional {d : Decoder Schema} (h : Covers d) : Covers (additional d) := by
  intro depth place members ending a read
  obtain ⟨-, v, hv, -⟩ := (additional_eq_ok_iff (container_fill_object place)).1 read
  obtain ⟨meaning, inside⟩ := h _ _ _ _ _ hv
  exact ⟨meaning, .additional inside⟩

/-- Schemas account for all objects, by induction on the levels that are left. -/
theorem covers_schemaWithin (levels : Nat) : Covers (schemaWithin levels) := by
  induction levels with
  | zero => exact fun _ _ _ _ _ read => by cases read
  | succ levels ih =>
    exact covers_record (.schema levels) (by simp [schemaFields, ih, covers_additional ih])

@[simp] theorem covers_schema : Covers Schema.decoder := by
  intro depth place members ending s read
  obtain ⟨meaning, inside⟩ := covers_schemaWithin (depth + 1) depth place members ending s read
  exact ⟨meaning, .schema inside⟩

@[simp] theorem covers_info : Covers Info.decoder :=
  covers_record .info (by simp [Info.fields])

@[simp] theorem covers_serverVariable : Covers ServerVariable.decoder :=
  covers_record .serverVariable (by simp [ServerVariable.fields])

@[simp] theorem covers_server : Covers Server.decoder :=
  covers_record .server (by simp [Server.fields])

@[simp] theorem covers_correlationId : Covers CorrelationId.decoder :=
  covers_record .correlationId (by simp [CorrelationId.fields])

/-- The fields of a message account for all objects in them. -/
theorem fieldCovers_message : ∀ f ∈ Message.fields, FieldCovers f := by
  simp [Message.fields]

@[simp] theorem covers_message : Covers Message.decoder :=
  covers_record .message fieldCovers_message

/-- The struct around the alternatives of a message accounts for all objects in it. -/
theorem covers_alternatives : Covers (record "OneOfMessages" alternativesFields none) :=
  covers_record .alternatives (by simp [alternativesFields])

/-- What an operation says of messages is read as alternatives where it can be, and as a single
message elsewhere. -/
@[simp] theorem covers_operationMessage : Covers OperationMessage.decoder := by
  intro depth place members ending x read
  rw [OperationMessage.decoder, union_pair_eq_ok_iff] at read
  obtain ⟨-, ⟨messages, taken, -⟩ | ⟨only, m, read, -⟩⟩ := read
  · obtain ⟨meaning, inside⟩ :=
      covers_alternatives _ _ _ _ _ (alternatives_eq_ok_iff_record.1 taken)
    exact ⟨meaning, .oneOf taken inside⟩
  · obtain ⟨k, rfl⟩ := exists_depth_of_record (container_fill_object place) read
    cases place with
    | nil => exact ⟨_, .single only⟩
    | cons step place =>
      obtain ⟨_, d, meaning, enters, inside⟩ | ⟨before, key, after, close, rfl, unknown⟩ :=
        exists_of_record fieldCovers_message read
      · exact ⟨meaning, .inSingle only enters inside⟩
      · exact ⟨_, .unknownInSingle only unknown⟩

@[simp] theorem covers_operation : Covers Operation.decoder :=
  covers_record .operation (by simp [Operation.fields])

@[simp] theorem covers_parameter : Covers Parameter.decoder :=
  covers_record .parameter (by simp [Parameter.fields])

@[simp] theorem covers_channel : Covers Channel.decoder :=
  covers_record .channel (by simp [Channel.fields, covers_list covers_text])

@[simp] theorem covers_securityScheme : Covers SecurityScheme.decoder :=
  covers_record .securityScheme (by simp [SecurityScheme.fields])

@[simp] theorem covers_components : Covers Components.decoder :=
  covers_record .components (by simp [Components.fields])

/-- **A document's decoder accounts for all objects in it.** -/
theorem covers_decoder : Covers decoder :=
  covers_record .document (by simp [fields])

/-- **Every object of a document that is read is read as something.** -/
theorem exists_readAs {text : String} {d : Document} (read : ofText text = .ok d)
    (source : (Source.ofText text).1 = fill place (.object members ending)) :
    ∃ meaning, ReadAs (.object members ending) decoder nestingLimit place meaning := by
  obtain ⟨s, whole, reads⟩ := decodeText_eq_ok_iff.1 read
  obtain rfl : s = fill place (.object members ending) := by
    rw [← source, whole]
  exact covers_decoder _ _ _ _ _ reads

end Document
end ApiGraph
