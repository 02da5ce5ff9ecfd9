/-
# The tags of a walk

A walk carries tags along with the keys on its way: those of the field that a key stands for, and
those that it inherits.  `Entity.way` says for every part of an entity which tags its keys have, and
so a walk through an entity visits the entity, and then its parts at the frames that come of these
tags (`visits_outline`).  What one part keeps, the whole walk keeps (`visits_induction`).
-/

import ApiGraph.Proofs.Document.Parts

namespace ApiGraph

open Document

/-! ## Frames along a way -/

namespace Frame

/-- The tags of the innermost frame. -/
def top (frames : List Frame) : Tags :=
  (frames.head?.map (·.tags)).getD {}

/-- The tags of the frame around the innermost one. -/
def outer (frames : List Frame) : Tags :=
  (frames[1]?.map (·.tags)).getD {}

@[simp] theorem top_nil : top [] = {} := rfl

@[simp] theorem top_enter (frames : List Frame) (key : String) (tags : Tags) :
    top (enter frames key tags) = tags.union (top frames).inherited := by
  cases frames <;> rfl

@[simp] theorem outer_enter (frames : List Frame) (key : String) (tags : Tags) :
    outer (enter frames key tags) = top frames := by
  cases frames <;> rfl

/-- The frames after entering keys, whose fields have tags, one after the other. -/
def along (frames : List Frame) (way : List (String × Tags)) : List Frame :=
  way.foldl (fun frames step => enter frames step.1 step.2) frames

@[simp] theorem along_nil (frames : List Frame) : along frames [] = frames := rfl

@[simp] theorem along_cons (frames : List Frame) (key : String) (tags : Tags)
    (way : List (String × Tags)) :
    along frames ((key, tags) :: way) = along (enter frames key tags) way := rfl

/-- Going along a way adds its keys to the path. -/
@[simp] theorem path_along (frames : List Frame) (way : List (String × Tags)) :
    path (along frames way) = path frames ++ way.map (·.1) := by
  induction way generalizing frames with
  | nil => simp
  | cons step rest ih =>
    obtain ⟨key, tags⟩ := step
    simp [ih]

end Frame

namespace Document

/-- Keys without tags. -/
def untagged (keys : List String) : List (String × Tags) :=
  keys.map fun key => (key, {})

@[simp] theorem untagged_nil : untagged [] = [] := rfl

@[simp] theorem untagged_cons (key : String) (keys : List String) :
    untagged (key :: keys) = (key, {}) :: untagged keys := rfl

/-- A way without tags has the keys that it is made of. -/
@[simp] theorem map_fst_untagged (keys : List String) : (untagged keys).map (·.1) = keys := by
  simp [untagged, Function.comp_def]

/-- The keys that lead to a part of an entity, with the tags of the fields that they stand for. -/
def Entity.way : Entity → List String → List (String × Tags)
  | .document _, "components" :: "schemas" :: rest =>
    ("components", {}) :: ("schemas", { dataModel := true, definition := true }) :: untagged rest
  | .document _, "components" :: section_ :: rest =>
    ("components", {}) :: (section_, .definitions) :: untagged rest
  | .message _, "headers" :: rest => ("headers", .data) :: untagged rest
  | .message _, "payload" :: rest => ("payload", .data) :: untagged rest
  | .parameter _, key :: rest => (key, { dataModel := true, inline := true }) :: untagged rest
  | .schema _, key :: rest => (key, .data) :: untagged rest
  | _, keys => untagged keys

/-- The tags of a way leave its keys alone. -/
@[simp] theorem Entity.map_fst_way (e : Entity) (keys : List String) :
    (e.way keys).map (·.1) = keys := by
  rw [Entity.way.eq_def]
  split <;> simp

namespace Outline

/-! ## The visits of an outline, part by part -/

section Equations

variable {α : Type} {frames : List Frame}

/-- An outline without fields is one visit. -/
@[simp] theorem visits_scalar (e : Entity) : (Outline.scalar e).visits frames = [⟨frames, e⟩] := by
  rw [visits]

/-- Fields are visited one after the other, each behind its key and its tags. -/
theorem fieldVisits_eq (fields : List (String × Tags × Outline)) : fieldVisits frames fields =
    fields.flatMap fun (name, tags, node) => node.visits (Frame.enter frames name tags) := by
  induction fields with
  | nil => rfl
  | cons field rest ih =>
    obtain ⟨name, tags, node⟩ := field
    rw [fieldVisits, ih, List.flatMap_cons]

/-- A record is visited, and then its fields. -/
@[simp] theorem visits_record (e : Entity) (fields : List (String × Tags × Outline)) :
    (Outline.record (some e) fields).visits frames = ⟨frames, e⟩ ::
      fields.flatMap fun (name, tags, node) => node.visits (Frame.enter frames name tags) := by
  rw [visits, fieldVisits_eq]

/-- A group is visited in its fields only. -/
@[simp] theorem visits_group (fields : List (String × Tags × Outline)) :
    (Outline.record none fields).visits frames =
      fields.flatMap fun (name, tags, node) => node.visits (Frame.enter frames name tags) := by
  rw [visits, fieldVisits_eq]

/-- A union is visited in the form that was read. -/
@[simp] theorem visits_union (active : Option Outline) :
    (Outline.union active).visits frames = active.toList.flatMap (·.visits frames) := by
  cases active <;> simp [visits]

/-- A map is visited entry by entry, without tags. -/
@[simp] theorem visits_map (entries : List (String × Outline)) :
    (Outline.map entries).visits frames =
      entries.flatMap fun (key, node) => node.visits (Frame.enter frames key {}) := by
  rw [visits]
  induction entries with
  | nil => rfl
  | cons entry rest ih =>
    obtain ⟨key, node⟩ := entry
    rw [entryVisits, ih, List.flatMap_cons]

/-- Items are visited one after the other, numbered from `index` on. -/
theorem itemVisits_eq (items : List Outline) (index : Nat) : itemVisits frames index items =
    (items.zipIdx index).flatMap fun (node, i) =>
      node.visits (Frame.enter frames (toString i) {}) := by
  induction items generalizing index with
  | nil => rfl
  | cons node rest ih => rw [itemVisits, ih, List.zipIdx_cons, List.flatMap_cons]

/-- A sequence is visited item by item, without tags. -/
@[simp] theorem visits_sequence (items : List Outline) :
    (Outline.sequence items).visits frames =
      items.zipIdx.flatMap fun (node, i) => node.visits (Frame.enter frames (toString i) {}) := by
  rw [visits, itemVisits_eq]

/-- A table is visited entry by entry, without tags. -/
@[simp] theorem visits_ofTable (outline : α → Outline) (t : Table α) :
    (ofTable outline t).visits frames =
      t.flatMap fun (key, x) => (outline x).visits (Frame.enter frames key {}) := by
  rw [ofTable, visits_map, List.flatMap_map]

/-- What may be missing is visited if it is there. -/
@[simp] theorem visits_ofOption (outline : α → Outline) (x : Option α) :
    (ofOption outline x).visits frames = x.toList.flatMap fun x => (outline x).visits frames := by
  cases x <;> simp [ofOption]

end Equations

end Outline

/-- Further properties are visited where they are described by a schema. -/
theorem visits_additionalOutline (s : Schema) (frames : List Frame) :
    (additionalOutline s.additional).visits frames =
      s.additionalSchema?.toList.flatMap fun s => s.outline.visits frames := by
  rw [Schema.additionalSchema?]
  rcases s.additional with _ | (_ | _) <;> simp [additionalOutline]

/-- A walk through what may be written as a reference. -/
theorem visits_unlessReference {e : Entity} {fields : List (String × Tags × Outline)}
    (h : e.outline = Outline.unlessReference e.reference? e fields) {frames : List Frame}
    (own : (fields.flatMap fun (name, tags, node) => node.visits (Frame.enter frames name tags)) =
      e.partFields.flatMap fun (key, parts) => parts.flatMap fun (rel, e') =>
        e'.outline.visits (Frame.along frames (e.way (key :: rel)))) :
    e.outline.visits frames = ⟨frames, e⟩ :: e.parts.flatMap fun (rel, e') =>
      e'.outline.visits (Frame.along frames (e.way rel)) := by
  rw [h, Entity.parts]
  cases e.reference? with
  | some reference => simp [Outline.unlessReference]
  | none => simp only [Outline.unlessReference, Outline.visits_record, own, Entity.ownParts,
      flatMap_ofFields]

/-- A walk through what has no parts. -/
theorem visits_of_scalar {e : Entity} (h : e.outline = .scalar e) (none : e.partFields = [])
    (frames : List Frame) : e.outline.visits frames =
      ⟨frames, e⟩ :: e.parts.flatMap fun (rel, e') =>
        e'.outline.visits (Frame.along frames (e.way rel)) := by
  have parts : e.parts = [] := by
    rw [Entity.parts, Entity.ownParts, none]
    split <;> rfl
  simp [h, parts]

/-- **A walk through an entity** visits the entity, and then walks through its parts, along their
ways. -/
theorem visits_outline (e : Entity) (frames : List Frame) :
    e.outline.visits frames = ⟨frames, e⟩ :: e.parts.flatMap fun (rel, e') =>
      e'.outline.visits (Frame.along frames (e.way rel)) := by
  cases e with
  | document d =>
    rw [Entity.outline, Document.outline, Outline.visits_record]
    cases hc : d.components <;>
    simp [Entity.parts, Entity.reference?, Entity.ownParts, Entity.partFields, flatMap_ofFields,
      flatMap_entryParts, Entity.outline, hc, Components.outline, Components.partFields, Entity.way]
  | server s =>
    refine visits_unlessReference rfl ?_
    simp [Entity.partFields, flatMap_entryParts, flatMap_optionParts, Entity.outline, Entity.way]
  | serverVariable v => exact visits_of_scalar rfl rfl frames
  | channel c =>
    refine visits_unlessReference rfl ?_
    simp [Entity.partFields, flatMap_entryParts, flatMap_optionParts, Entity.outline, Entity.way]
  | operation o =>
    rw [Entity.outline, Operation.outline, Outline.visits_record]
    rcases hm : o.message with _ | (messages | message) <;>
    simp [Entity.parts, Entity.reference?, Entity.ownParts, Entity.partFields, flatMap_ofFields,
      flatMap_itemParts, flatMap_optionParts, flatMap_under, Entity.outline, hm, Entity.way,
      OperationMessage.outline, OperationMessage.parts, List.zipIdx_map, List.flatMap_map]
  | message m =>
    refine visits_unlessReference rfl ?_
    simp [Entity.partFields, flatMap_optionParts, Entity.outline, Entity.way]
  | correlationId c => exact visits_of_scalar rfl rfl frames
  | parameter p =>
    refine visits_unlessReference rfl ?_
    simp [Entity.partFields, flatMap_optionParts, Entity.outline, Entity.way]
  | securityScheme s => exact visits_of_scalar rfl rfl frames
  | schema s =>
    refine visits_unlessReference (e := .schema s) s.outline_eq ?_
    simp [Entity.partFields, flatMap_entryParts, flatMap_optionParts, flatMap_itemParts,
      Entity.outline, propertyOutlines_eq, schemaOutlines_eq, optionalSchemaOutline_eq,
      visits_additionalOutline, List.flatMap_map, List.zipIdx_map, Entity.way]
  | bindings kind b => exact visits_of_scalar rfl rfl frames

/-! ## What a walk keeps -/

/-- The walk through a part is shorter than the one through the whole. -/
theorem length_visits_part_lt {e e' : Entity} {rel : List String} {frames : List Frame}
    (h : (rel, e') ∈ e.parts) : (e'.outline.visits (Frame.along frames (e.way rel))).length <
      (e.outline.visits frames).length := by
  rw [visits_outline e, List.length_cons, List.flatMap_def]
  refine Nat.lt_succ_of_le (List.Sublist.length_le (List.sublist_flatten_of_mem ?_))
  exact List.mem_map.2 ⟨(rel, e'), h, rfl⟩

/-- **What holds where a walk begins, and of every part if it holds of its owner,** holds of all
that is visited. -/
theorem visits_induction {P : List Frame → Entity → Prop}
    (part : ∀ frames e rel e', P frames e → (rel, e') ∈ e.parts →
      P (Frame.along frames (e.way rel)) e') {frames : List Frame} {e : Entity}
    (start : P frames e) : ∀ v ∈ e.outline.visits frames, P v.frames v.entity := by
  induction n : (e.outline.visits frames).length using Nat.strongRecOn generalizing e frames with
  | ind n ih => ?_
  intro v hv
  rw [visits_outline, List.mem_cons, List.mem_flatMap] at hv
  rcases hv with rfl | ⟨⟨rel, e'⟩, hp, hv⟩
  · exact start
  · exact ih _ (n ▸ length_visits_part_lt hp) (part _ _ _ _ start hp) rfl v hv

/-- What is visited inside of what is visited is visited. -/
theorem visits_trans {frames : List Frame} {e : Entity} {v w : Visit}
    (hv : v ∈ e.outline.visits frames) (hw : w ∈ v.entity.outline.visits v.frames) :
    w ∈ e.outline.visits frames := by
  refine visits_induction (P := fun frames' e' => ∀ w ∈ e'.outline.visits frames',
    w ∈ e.outline.visits frames) (fun frames' e' rel e'' inside hp w hw => ?_)
    (fun _ h => h) v hv w hw
  refine inside w ?_
  rw [visits_outline]
  exact List.mem_cons_of_mem _ (List.mem_flatMap.2 ⟨(rel, e''), hp, hw⟩)

/-- A part of what is visited is visited. -/
theorem visits_part {frames : List Frame} {e e' : Entity} {rel : List String} {v : Visit}
    (hv : v ∈ e.outline.visits frames) (hp : (rel, e') ∈ v.entity.parts) :
    ⟨Frame.along v.frames (v.entity.way rel), e'⟩ ∈ e.outline.visits frames := by
  have first : ∀ frames, ⟨frames, e'⟩ ∈ e'.outline.visits frames := by
    intro frames
    rw [visits_outline]
    exact List.mem_cons_self
  refine visits_trans hv ?_
  rw [visits_outline]
  exact List.mem_cons_of_mem _ (List.mem_flatMap.2 ⟨(rel, e'), hp, first _⟩)

/-- What is contained in an entity is visited by a walk through it. -/
theorem exists_visit_of_contains {frames : List Frame} {e e' : Entity} {rel : List String}
    (h : e.Contains rel e') : ∃ v ∈ e.outline.visits frames,
      v.placed = (Frame.path frames ++ rel, e') := by
  rw [← List.mem_map, Outline.placed_visits]
  exact mem_entities_iff.2 ⟨rel, rfl, h⟩

end Document
end ApiGraph
