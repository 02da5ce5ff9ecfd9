/-
# What bindings are read for

A format reads a value for the fields that it knows.  What it gives has no key besides those
fields, on no level that the format describes, and no null under any of them (`FieldType.Kept`).
And what it gives, or why it gives nothing, does not depend on members under other keys: one more
or less of them, in the record or in a record that is one of its fields, changes nothing
(`FieldType.Pads`, `Format.normalize_of_pads`).

So the bindings that a built-in builder decodes are decoded to themselves, and the schemas among
them are those that they hold (`StandardProtocol.bindings_normalized`).
-/

import ApiGraph.Proofs.Protocol.Builders
import Mathlib.Logic.Relation

namespace ApiGraph

open Document (BindingsKind)

/-- In a table of what is known of some keys, a key is found with what is known of it. -/
theorem Table.get?_filterMap {β : Type} (keys : List String) (known : String → Option β)
    (key : String) : Table.get? (keys.filterMap fun k => (known k).map fun x => (k, x)) key =
      if key ∈ keys then known key else none := by
  induction keys with
  | nil => rfl
  | cons k rest ih =>
    by_cases same : k = key
    · subst same
      cases held : known k with
      | none => simp [held, ih]
      | some x => simp [held, Table.get?]
    · have others : key ≠ k := Ne.symm same
      cases held : known k with
      | none => simp [held, ih, others]
      | some x => simp [held, ih, others, same, Table.get?]

namespace FieldType

variable {t : FieldType} {fields : List (String × FieldType)} {key : String} {v w : Json}

/-! ## What is kept -/

/-- A value as it is kept for a type.  It is not null.  For a record it is an object with names of
fields as keys, in their order, and what is under a key is kept for the type of the field. -/
inductive Kept : FieldType → Json → Prop
  | plain {t : FieldType} {v : Json} :
      (∀ name fields, t ≠ .record name fields) → v ≠ .null → Kept t v
  | record {name : String} {fields : List (String × FieldType)} {members : Table Json} :
      (Table.keys members).Sublist (Table.keys fields) →
      (∀ key v t, (key, v) ∈ members → Table.get? fields key = some t → Kept t v) →
      Kept (.record name fields) (.object members)

/-- No type gives null. -/
theorem Normal.ne_null (h : t.Normal w) : w ≠ .null := by
  rintro rfl
  cases t with
  | texts => cases h
  | _ =>
    rw [Normal, normalize] at h
    · cases h
    · rintro ⟨⟩

/-- A record that gives a value for itself assembled it of normal values. -/
theorem Normal.exists_kept {name : String} (h : (FieldType.record name fields).Normal w) :
    ∃ values, AllNormal fields values ∧ w = .object (kept fields values) := by
  obtain ⟨-, items_normal, members_normal⟩ := normal_of_normalize
  have given := h
  rw [Normal] at given
  cases w with
  | object members =>
    rw [normalize] at given
    obtain ⟨values, hm, assembled⟩ := bind_eq_ok_iff.1 given
    exact ⟨values, members_normal _ _ _ hm, (Option.some.inj (Except.ok.inj assembled)).symm⟩
  | array items =>
    rw [normalize] at given
    obtain ⟨values, -, assembled⟩ := bind_eq_ok_iff.1 given
    cases Option.some.inj (Except.ok.inj assembled)
  | null => exact absurd rfl h.ne_null
  | _ =>
    rw [normalize] at given <;> cases given

/-- **What is normal is kept.**  The induction is on the value: what is under the keys of a record
is normal again, and a part of it. -/
theorem kept_of_normal (t : FieldType) (w : Json) (h : t.Normal w) : t.Kept w := by
  cases t with
  | record name fields =>
    obtain ⟨values, normal, object⟩ := h.exists_kept
    rw [object]
    refine .record ?_ fun key v t hv ht => ?_
    · refine keys_filterMap_sublist Prod.fst Prod.fst (fun f x hx => ?_) fields
      obtain ⟨v, -, rfl⟩ := Option.map_eq_some_iff.1 hx
      rfl
    · obtain ⟨t', ht', hn⟩ := normal key v (Option.join_eq_some_iff.1 (mem_kept_iff.1 hv).2)
      obtain rfl := Option.some.inj (ht.symm.trans ht')
      exact kept_of_normal t v hn
  | _ => exact .plain (fun _ _ same => by cases same) h.ne_null
termination_by sizeOf w
decreasing_by
  have part := List.sizeOf_lt_of_mem hv
  rw [Prod.mk.sizeOf_spec] at part
  rw [object, Json.object.sizeOf_spec]
  omega

/-! ## What is passed over -/

/-- The second object is the first one with one more member.  Its key is no field of the record,
or it is in a member that is a record itself, and its key is no field of that. -/
inductive Pads : List (String × FieldType) → Json → Json → Prop
  | here {fields : List (String × FieldType)} {before after : Table Json} {key : String}
      {v : Json} : key ∉ Table.keys fields →
      Pads fields (.object (before ++ after)) (.object (before ++ (key, v) :: after))
  | inside {fields inner : List (String × FieldType)} {before after : Table Json}
      {key name : String} {v v' : Json} :
      Table.get? fields key = some (.record name inner) → Pads inner v v' →
      Pads fields (.object (before ++ (key, v) :: after)) (.object (before ++ (key, v') :: after))

/-- A member under a key that is no field is passed over. -/
theorem normalizeMembers_of_notMem {before after : Table Json} (h : key ∉ Table.keys fields) :
    normalizeMembers fields (before ++ (key, v) :: after) =
      normalizeMembers fields (before ++ after) := by
  have unknown : Table.get? fields key = none :=
    Option.eq_none_iff_forall_ne_some.2 fun t ht => h (Table.mem_keys_of_get? ht)
  induction before with
  | nil => rw [List.nil_append, normalizeMembers, unknown, List.nil_append]
  | cons x rest ih =>
    obtain ⟨k, u⟩ := x
    rw [List.cons_append, List.cons_append, normalizeMembers, normalizeMembers, ih]

/-- Of the value under a key it matters only what it is normalized to. -/
theorem normalizeMembers_congr {before after : Table Json} {v' : Json}
    (ht : Table.get? fields key = some t) (same : normalize v t = normalize v' t) :
    normalizeMembers fields (before ++ (key, v) :: after) =
      normalizeMembers fields (before ++ (key, v') :: after) := by
  induction before with
  | nil => simp only [List.nil_append, normalizeMembers, ht, same]
  | cons x rest ih =>
    obtain ⟨k, u⟩ := x
    rw [List.cons_append, List.cons_append, normalizeMembers, normalizeMembers, ih]

/-- An object with one more member has the same members under the names of fields. -/
theorem Pads.exists_members {v' : Json} (h : Pads fields v v') : ∃ members members',
    v = .object members ∧ v' = .object members' ∧
      normalizeMembers fields members = normalizeMembers fields members' := by
  induction h with
  | here unknown => exact ⟨_, _, rfl, rfl, (normalizeMembers_of_notMem unknown).symm⟩
  | @inside fields inner before after key name v v' ht _ ih =>
    obtain ⟨members, members', rfl, rfl, same⟩ := ih
    refine ⟨_, _, rfl, rfl, normalizeMembers_congr ht ?_⟩
    rw [normalize, normalize, same]

end FieldType

namespace Format

variable {f : Format} {raw raw' w : Json}

/-- A value as it is kept for a format. -/
def Kept (f : Format) (v : Json) : Prop :=
  (FieldType.record f.name f.fields).Kept v

/-- What a format gives is kept for it. -/
theorem kept_of_normalize (h : f.normalize raw = .ok w) : f.Kept w := by
  refine FieldType.kept_of_normal _ w ((FieldType.normal_of_normalize).1 raw _ w ?_)
  cases raw with
  | object members =>
    obtain ⟨values, hm, h⟩ := bind_eq_ok_iff.1 h
    cases h
    rw [FieldType.normalize, hm]
    rfl
  | array items =>
    obtain ⟨values, hi, h⟩ := bind_eq_ok_iff.1 h
    cases h
    rw [FieldType.normalize, hi]
    rfl
  | _ => cases h

/-- **Members that a format does not know** change neither what it gives nor why it gives
nothing. -/
theorem normalize_of_pads (h : Relation.EqvGen (FieldType.Pads f.fields) raw raw') :
    f.normalize raw = f.normalize raw' := by
  induction h with
  | rel _ _ pads =>
    obtain ⟨members, members', rfl, rfl, same⟩ := pads.exists_members
    rw [normalize, normalize, same]
  | refl => rfl
  | symm _ _ _ ih => exact ih.symm
  | trans _ _ _ _ _ first second => exact first.trans second

end Format

/-! ## The built-in builders -/

namespace StandardProtocol

variable {p : StandardProtocol} {kind : BindingsKind} {raw raw' value : Json}

/-- The schemas among the bindings that a value holds. -/
def schemasOf (p : StandardProtocol) (kind : BindingsKind) (value : Json) : Table Json :=
  (p.schemaFields kind).filterMap fun field =>
    (value.get? field).map fun schema => (field, schema)

theorem bindings_eq_ok_iff {b : BindingsValue} : p.bindings kind raw = .ok b ↔
    (p.format kind).normalize raw = .ok b.value ∧ b.schemas = p.schemasOf kind b.value := by
  rw [← normalize_eq_ok_iff]
  constructor
  · intro h
    obtain ⟨value, hv, h⟩ := bind_eq_ok_iff.1 h
    cases h
    exact ⟨hv, rfl⟩
  · rintro ⟨hv, hs⟩
    refine bind_eq_ok_iff.2 ⟨b.value, hv, ?_⟩
    rw [schemasOf] at hs
    rw [← hs]
    rfl

theorem nodup_schemaFields (hp : p ∈ standardProtocols) (kind : BindingsKind) :
    (p.schemaFields kind).Nodup := by
  simp only [standardProtocols, List.mem_cons, List.not_mem_nil, or_false] at hp
  rcases hp with rfl | rfl | rfl | rfl | rfl <;> cases kind <;> decide +kernel

/-- The schemas are under the names of the fields that hold one, at most once each. -/
theorem distinct_schemasOf (hp : p ∈ standardProtocols) (kind : BindingsKind) (value : Json) :
    Table.Distinct (p.schemasOf kind value) := by
  have names : List.Sublist ((p.schemasOf kind value).map Prod.fst)
      ((p.schemaFields kind).map id) :=
    keys_filterMap_sublist id Prod.fst (fun field x hx => by
      obtain ⟨schema, -, rfl⟩ := Option.map_eq_some_iff.1 hx
      rfl) _
  rw [List.map_id] at names
  exact (nodup_schemaFields hp kind).sublist names

/-- What is found among the schemas is what the value holds under the field. -/
theorem get?_schemasOf (p : StandardProtocol) (kind : BindingsKind) (value : Json)
    (field : String) : Table.get? (p.schemasOf kind value) field =
      if field ∈ p.schemaFields kind then value.get? field else none :=
  Table.get?_filterMap (p.schemaFields kind) value.get? field

/-- **Decoding bindings normalizes.**  What a built-in builder decodes it decodes to itself again;
it is as the format of the section keeps it; and the schemas are what it holds under the fields
that hold one.  Members that the format does not know make no difference, neither to what is
decoded nor to the fault. -/
theorem bindings_normalized (hp : p ∈ standardProtocols) (kind : BindingsKind) (raw : Json) :
    (∀ b, p.builder.bindings kind raw = .ok b →
      p.builder.bindings kind b.value = .ok b ∧ (p.format kind).Kept b.value ∧
      Table.Distinct b.schemas ∧ ∀ field, Table.get? b.schemas field =
        if field ∈ p.schemaFields kind then b.value.get? field else none) ∧
    ∀ raw', Relation.EqvGen (FieldType.Pads (p.format kind).fields) raw raw' →
      p.builder.bindings kind raw = p.builder.bindings kind raw' := by
  constructor
  · intro b hb
    obtain ⟨normal, schemas⟩ := bindings_eq_ok_iff.1 hb
    refine ⟨bindings_eq_ok_iff.2 ⟨Format.normalize_normal normal, schemas⟩,
      Format.kept_of_normalize normal, ?_, fun field => ?_⟩
    · rw [schemas]
      exact distinct_schemasOf hp kind b.value
    · rw [schemas, get?_schemasOf]
  · intro raw' pads
    have same := Format.normalize_of_pads pads
    change p.bindings kind raw = p.bindings kind raw'
    rw [bindings, bindings, normalize, normalize, same]

/-- Bindings of a Kafka channel, with a null and with some more members on each level. -/
def topicWith (more moreConfiguration : Table Json) : Json :=
  .object (("topic", .string "orders") :: (more ++ [("topicConfiguration",
    .object (("retention.ms", .null) ::
      ("cleanup.policy", .array [.string "compact"]) :: moreConfiguration))]))

/-- What is decoded of them. -/
def compacted : Json :=
  .object [("topic", .string "orders"),
    ("topicConfiguration", .object [("cleanup.policy", .array [.string "compact"])])]

theorem bindings_normalized_topicWith :
    kafka.builder.bindings .channel (topicWith [] []) = .ok ⟨compacted, []⟩ ∧
    kafka.builder.bindings .channel compacted = .ok ⟨compacted, []⟩ ∧
    (kafka.format .channel).Kept compacted ∧
    kafka.builder.bindings .channel (topicWith [] []) = kafka.builder.bindings .channel
      (topicWith [("note", .integer 1)] [("owner", .string "sales")]) := by
  have known : kafka ∈ standardProtocols := by simp [standardProtocols]
  obtain ⟨decodes, ignores⟩ := bindings_normalized known .channel (topicWith [] [])
  have decoded : kafka.builder.bindings .channel (topicWith [] []) = .ok ⟨compacted, []⟩ := rfl
  have noted : FieldType.Pads (kafka.format .channel).fields (topicWith [] [])
      (topicWith [("note", .integer 1)] []) :=
    @FieldType.Pads.here _ [_] [_] "note" _ (by decide)
  have owned : FieldType.Pads (kafka.format .channel).fields (topicWith [("note", .integer 1)] [])
      (topicWith [("note", .integer 1)] [("owner", .string "sales")]) :=
    @FieldType.Pads.inside _ _ [_, _] [] "topicConfiguration" _ _ _ rfl
      (@FieldType.Pads.here _ [_, _] [] "owner" _ (by decide))
  exact ⟨decoded, (decodes _ decoded).1, (decodes _ decoded).2.1,
    ignores _ (.trans _ _ _ (.rel _ _ noted) (.rel _ _ owned))⟩

end StandardProtocol
end ApiGraph
