/-
# Bindings and unions that are restored

A bindings section has its protocols beside its reference; they stay apart, since no protocol is
called `$ref`.  A union is written as the form that was read, and no form before it takes what is
written: a text is no list, an object is no truth value, and a single message has no key `oneOf`
(`restores_single`).
-/

import ApiGraph.Proofs.Document.Decoding
import ApiGraph.Proofs.Json.Codecs

namespace ApiGraph
namespace Document

open Decoder

variable {n : Nat}

/-! ## Bindings -/

/-- The protocols of a bindings section can be written beside its reference. -/
structure Bindings.Flat (n : Nat) (b : Bindings) : Prop where
  distinct : b.protocols.Distinct
  unreferenced : "$ref" ∉ b.protocols.keys
  restored : ∀ x ∈ b.protocols, (Codec.raw (n := n)).Restores x.2

/-- An empty section is flat. -/
theorem Bindings.flat_default : Bindings.Flat n {} where
  distinct := List.nodup_nil
  unreferenced := List.not_mem_nil
  restored := by simp

/-- A section stays flat with an entry that can be restored. -/
theorem Bindings.Flat.insert {b : Bindings} (h : b.Flat n) {key : String} {v : Json}
    (other : key ≠ "$ref") (hv : (Codec.raw (n := n)).Restores v) :
    Bindings.Flat n { b with protocols := b.protocols.insert key v } where
  distinct := h.distinct.insert key v
  unreferenced := by
    rw [Table.keys_insert]
    split_ifs
    · exact h.unreferenced
    · simp [h.unreferenced, other.symm]
  restored x hx := by
    rcases Table.mem_insert hx with hx | rfl
    · exact h.restored x hx
    · exact hv

/-- A section that is read is flat, member by member. -/
theorem flat_bindingsMembers {depth : Nat} :
    ∀ (members : List (Except Fault String × Source)) (referenced : Bool) (b b' : Bindings),
      (∀ m ∈ members, m.2.Fits) → b.Flat n →
        bindingsMembers depth members referenced b = .ok b' → b'.Flat n
  | [], _, _, _, _, flat, h => by
    cases h
    exact flat
  | (key, value) :: rest, referenced, b, b', fits, flat, h => by
    obtain ⟨first, others⟩ := List.forall_mem_cons.1 fits
    obtain ⟨k, -, h⟩ := bind_eq_ok_iff.1 h
    split at h
    · split at h
      · cases h
      · obtain ⟨reference, -, h⟩ := bind_eq_ok_iff.1 h
        exact flat_bindingsMembers rest true { b with reference } _ others { flat with } h
    · rename_i other
      obtain ⟨v, hv, h⟩ := bind_eq_ok_iff.1 h
      exact flat_bindingsMembers rest _ _ _ others
        (flat.insert (by simpa using other) (undoes_raw _ _ _ first hv)) h

/-- The protocols that were written are put into the section one after the other. -/
theorem bindingsMembers_protocols {k : Nat} :
    ∀ (ps : Table Json) (b : Bindings), "$ref" ∉ ps.keys →
      (∀ x ∈ ps, raw k x.2.toSource = .ok x.2) →
      bindingsMembers k (ps.map Json.fieldSource) true b =
        .ok { b with protocols := ps.foldl (fun t (key, v) => Table.insert t key v) b.protocols }
  | [], _, _, _ => rfl
  | (key, v) :: ps, b, unreferenced, each => by
    obtain ⟨other, unreferenced⟩ := not_or.1 (List.mem_cons.not.1 unreferenced)
    obtain ⟨first, others⟩ := List.forall_mem_cons.1 each
    have later := bindingsMembers_protocols ps { b with protocols := b.protocols.insert key v }
      unreferenced others
    have plain : (key == "$ref") = false := beq_eq_false_iff_ne.2 (Ne.symm other)
    rw [List.map_cons, Json.fieldSource, bindingsMembers]
    simp only [bind, Except.bind, plain, Bool.false_eq_true, if_false]
    rw [first]
    exact later

/-- A flat section is restored. -/
theorem Bindings.Flat.restores {b : Bindings} (h : b.Flat n) (name : String) :
    Restores n (bindings name) Bindings.toJson b := by
  have written : b.toJson = .object (("$ref", .ofText? b.reference) :: b.protocols) := rfl
  have reference : (Slot.optionalText (n := n)).Restores b.reference :=
    restores_optionalText b.reference
  constructor
  · intro x hx
    obtain ⟨m, hm, hx⟩ := Json.mem_scalars_object.1 hx
    rcases List.mem_cons.1 hm with rfl | hm
    · exact reference.fits x hx
    · exact (h.restored m hm).fits x hx
  · intro depth small room
    obtain ⟨k, rfl, inner⟩ := Json.nesting_object_le_iff.1 room
    obtain ⟨first, others⟩ := List.forall_mem_cons.1 inner
    have below := Nat.lt_of_succ_lt small
    have members : bindingsMembers k (b.protocols.map Json.fieldSource) true
        { reference := b.reference } = .ok b := by
      rw [bindingsMembers_protocols _ _ h.unreferenced fun x hx =>
        (h.restored x hx).read k below (others x hx)]
      exact congrArg (fun t => Except.ok { b with protocols := t })
        (Table.ofEntries_eq_self h.distinct)
    have text : optionalText k (Json.ofText? b.reference).toSource = .ok b.reference :=
      reference.read k below first
    have all : bindingsMembers k
        ((("$ref", Json.ofText? b.reference) :: b.protocols).map Json.fieldSource) false {} =
          .ok b := by
      rw [List.map_cons, Json.fieldSource, bindingsMembers]
      simp only [bind, Except.bind, beq_self_eq_true, if_true, Bool.false_eq_true, if_false]
      rw [text]
      exact members
    rw [written, Json.toSource_object, bindings]
    exact bind_eq_ok_iff.2 ⟨b, all, rfl⟩

/-- How a bindings section is read and written. -/
def Bindings.codec (kind : BindingsKind) : Codec n Bindings where
  decoder := kind.decoder
  again := kind.decoder
  write := Bindings.toJson
  undoes := by
    refine Ensures.mono (fun depth s b fit h => ?_) fun b (flat : b.Flat n) =>
      flat.restores kind.recordName
    unfold BindingsKind.decoder bindings at h
    split at h
    · cases h
    · obtain ⟨b', hb, h⟩ := bind_eq_ok_iff.1 h
      obtain ⟨-, -, h⟩ := bind_eq_ok_iff.1 h
      cases h
      cases fit with
      | object fits =>
        exact flat_bindingsMembers _ _ _ _ fits Bindings.flat_default hb
    · exact absurd h mismatch_ne_ok

/-! ## Schema types -/

/-- The type of a schema is restored, be it one text or a list. -/
theorem restores_schemaType (t : SchemaType) :
    Restores n SchemaType.decoder SchemaType.toJson t := by
  cases t with
  | single name =>
    exact restores_union_first ((restores_text name).map rfl)
  | many names =>
    refine restores_union_second
      ((restores_list fun s _ => restores_text s).map rfl) fun depth y => ?_
    rw [SchemaType.toJson, Json.ofTexts, Json.toSource_array]
    exact mismatch_ne_ok

/-- How the type of a schema is read and written. -/
def SchemaType.codec : Codec n SchemaType :=
  ⟨SchemaType.decoder, SchemaType.decoder, SchemaType.toJson, .of_forall restores_schemaType⟩

/-! ## Further properties -/

/-- A schema is written as an object. -/
theorem Schema.exists_toJson_eq_object (s : Schema) : ∃ fields, s.toJson = .object fields := by
  cases s
  exact ⟨_, Schema.toJson.eq_1 ..⟩

/-- What a schema says about further properties, as it is written. -/
def Additional.toJson : Additional Schema → Json
  | .flag b => .bool b
  | .schema s => s.toJson

/-- Additional properties are restored if their schema is. -/
theorem restores_additional {e : Decoder Schema} (a : Additional Schema)
    (h : ∀ s, a = .schema s → Restores n e Schema.toJson s) :
    Restores n (additional e) Additional.toJson a := by
  cases a with
  | flag b => exact restores_union_first ((restores_flag b).map rfl)
  | schema s =>
    refine restores_union_second ((h s rfl).map rfl) fun depth y => ?_
    obtain ⟨fields, written⟩ := s.exists_toJson_eq_object
    rw [Additional.toJson, written, Json.toSource_object]
    exact mismatch_ne_ok

/-- How it is read and written what a schema says about further properties. -/
def Additional.codec {d e : Decoder Schema} (h : Undoes n d e Schema.toJson) :
    Codec n (Additional Schema) where
  decoder := additional d
  again := additional e
  write := Additional.toJson
  undoes := by
    refine ensures_union (List.forall_mem_cons.2 ⟨?_, List.forall_mem_singleton.2 ?_⟩)
    · exact Ensures.map (.of_forall fun _ => trivial) fun b _ =>
        restores_additional (.flag b) (by rintro _ ⟨⟩)
    · exact h.map fun s hs => restores_additional (.schema s) (by rintro _ ⟨⟩; exact hs)

/-! ## Messages of an operation -/

/-- Alternative messages, as they are written. -/
def alternativesJson (messages : List Message) : Json :=
  .object [("oneOf", listJson Message.toJson messages)]

/-- Alternatives are restored if each of them is. -/
theorem restores_alternatives {messages : List Message}
    (h : ∀ m ∈ messages, Restores n Message.decoder Message.toJson m) :
    Restores n alternatives alternativesJson messages where
  fits x hx := by
    obtain ⟨m, hm, hx⟩ := Json.mem_scalars_object.1 hx
    rw [List.mem_singleton.1 hm] at hx
    exact (restores_list h).fits x hx
  read depth small room := by
    obtain ⟨k, rfl, inner⟩ := Json.nesting_object_le_iff.1 room
    have items := (restores_list h).read k (Nat.lt_of_succ_lt small)
      (inner _ List.mem_cons_self)
    obtain ⟨field, found, change⟩ : ∃ field, alternativesFields.find? (·.name == "oneOf") =
        some field ∧ field.read k (listJson Message.toJson messages).toSource =
          .ok fun _ => some messages :=
      ⟨_, rfl, map_eq_ok_iff.2 ⟨messages, items, rfl⟩⟩
    have members := recordMembers_cons found List.not_mem_nil change [] none
    rw [alternativesJson, Json.toSource_object]
    exact alternatives_eq_ok_iff_record.2 (record_object_eq_ok_iff.2 ⟨members, rfl⟩)

/-- Members whose keys are no fields leave the record as it is. -/
theorem eq_of_recordMembers {σ : Type} {fields : List (FieldReader σ)} {depth : Nat} :
    ∀ (members : List (String × Json)) (seen : List String) (r r' : σ),
      (∀ m ∈ members, fields.find? (·.name == m.1) = none) →
        recordMembers fields depth (members.map Json.fieldSource) seen r = .ok r' → r' = r
  | [], _, _, _, _, h => by
    cases h
    rfl
  | (key, v) :: members, seen, r, r', unknown, h => by
    obtain ⟨first, others⟩ := List.forall_mem_cons.1 unknown
    obtain ⟨_, ⟨⟩, ⟨_, _, found, -⟩ | ⟨-, -, h⟩⟩ := recordMembers_cons_eq_ok h
    · cases first.symm.trans found
    · exact eq_of_recordMembers members seen r r' others h

/-- A message is written as an object without alternatives. -/
theorem exists_toJson_eq_object (m : Message) :
    ∃ fields, m.toJson = .object fields ∧
      ∀ f ∈ fields, alternativesFields.find? (·.name == f.1) = none := by
  refine ⟨_, rfl, ?_⟩
  simp [alternativesFields, FieldReader.of]

/-- A single message is not taken for alternatives. -/
theorem alternatives_ne_ok (m : Message) (depth : Nat) (messages : List Message) :
    alternatives depth m.toJson.toSource ≠ .ok messages := by
  obtain ⟨fields, written, unknown⟩ := exists_toJson_eq_object m
  rw [written, Json.toSource_object]
  intro h
  have given := alternatives_eq_ok_iff_record.1 h
  cases depth with
  | zero => cases given
  | succ k => cases eq_of_recordMembers _ _ _ _ unknown (record_object_eq_ok_iff.1 given).1

/-- A list of messages is restored as such a list. -/
theorem restores_oneOf {messages : List Message}
    (h : ∀ m ∈ messages, Restores n Message.decoder Message.toJson m) :
    Restores n OperationMessage.decoder OperationMessage.toJson (.oneOf messages) :=
  restores_union_first ((restores_alternatives h).map rfl)

/-- A single message is restored as one, since it has no alternatives that would fit first. -/
theorem restores_single {m : Message} (h : Restores n Message.decoder Message.toJson m) :
    Restores n OperationMessage.decoder OperationMessage.toJson (.single m) :=
  restores_union_second (h.map rfl) (alternatives_ne_ok m)

/-- How the messages of an operation are read and written. -/
def OperationMessage.codec (h : Undoes n Message.decoder Message.decoder Message.toJson) :
    Codec n OperationMessage where
  decoder := OperationMessage.decoder
  again := OperationMessage.decoder
  write := OperationMessage.toJson
  undoes := by
    refine ensures_union (List.forall_mem_cons.2 ⟨?_, List.forall_mem_singleton.2 ?_⟩)
    · exact (ensures_alternatives h).map fun _ => restores_oneOf
    · exact h.map fun _ => restores_single

end Document
end ApiGraph
