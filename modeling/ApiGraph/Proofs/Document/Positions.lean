/-
# Where schemas stand

A schema of a document is a definition of the components, the headers or the payload of a message,
the schema of a parameter, or part of another schema (`SchemaPart`).  Which of these it is, and
whether it is inside of a parameter at all, is what the tags of a walk say where the walk stands at
the schema (`Document.Positioned`): they are inherited from the owner, so this goes from one part to
the next (`positioned_of_visit`).

The keys on the way are of no account to this, only the entities that they lead to.
-/

import ApiGraph.Proofs.Document.Tags

namespace ApiGraph
namespace Document

/-! ## Schemas as parts -/

/-- A schema as a part of its owner. -/
inductive SchemaPart : Entity → List String → Schema → Prop
  | definition {d : Document} {c : Components} {name : String} {s : Schema} :
      d.components = some c → (name, s) ∈ c.schemas →
      SchemaPart (.document d) ["components", "schemas", name] s
  | headers {m : Message} {s : Schema} : m.reference = none → m.headers = some s →
      SchemaPart (.message m) ["headers"] s
  | payload {m : Message} {s : Schema} : m.reference = none → m.payload = some s →
      SchemaPart (.message m) ["payload"] s
  | parameter {p : Parameter} {s : Schema} : p.reference = none → p.schema = some s →
      SchemaPart (.parameter p) ["schema"] s
  | keyword {t : Schema} {key : String} {s : Schema} : SchemaPart (.schema t) [key] s
  | entry {t : Schema} {key name : String} {s : Schema} : SchemaPart (.schema t) [key, name] s

variable {d : Document} {e e' : Entity} {rel path : List String} {s : Schema} {frames : List Frame}

/-- A part of fields is a part of one of them, below its key. -/
theorem mem_ofFields_iff {fields : List (String × List Placed)} :
    (rel, e) ∈ Placed.ofFields fields ↔ ∃ field parts, (field, parts) ∈ fields ∧
      ∃ below, (below, e) ∈ parts ∧ field :: below = rel := by
  simp [Placed.ofFields, Placed.under]

/-- What is part of something is in one of its fields, and that is no reference. -/
theorem exists_field_of_mem (h : (rel, e') ∈ e.parts) : e.reference? = none ∧
    ∃ field parts, (field, parts) ∈ e.partFields ∧
      ∃ below, (below, e') ∈ parts ∧ field :: below = rel := by
  rw [Entity.parts] at h
  split at h
  · cases h
  · exact ⟨‹_›, mem_ofFields_iff.1 h⟩

/-- The parts in a field of components are the entries of a table: schemas in the field of that
name, and nothing else in any other. -/
theorem definitions_of_mem {c : Components} {field : String} {parts : List Placed}
    (h : (field, parts) ∈ c.partFields) :
    field = "schemas" ∧ parts = entryParts .schema c.schemas ∨
      field ≠ "schemas" ∧ ∃ (α : Type) (entity : α → Entity) (t : Table α),
        parts = entryParts entity t ∧ ∀ x s, entity x ≠ .schema s := by
  rw [Components.partFields, List.mem_cons] at h
  rcases h with same | h
  · exact .inl (Prod.mk.inj same)
  · right
    simp only [List.mem_cons, Prod.mk.injEq, List.not_mem_nil, or_false] at h
    rcases h with ⟨rfl, rfl⟩ | ⟨rfl, rfl⟩ | ⟨rfl, rfl⟩ | ⟨rfl, rfl⟩ | ⟨rfl, rfl⟩ | ⟨rfl, rfl⟩ |
      ⟨rfl, rfl⟩ | ⟨rfl, rfl⟩ | ⟨rfl, rfl⟩ | ⟨rfl, rfl⟩ | ⟨rfl, rfl⟩ <;>
    exact ⟨by decide, _, _, _, rfl, fun _ _ same => (by cases same)⟩

/-- A schema that is part of something is so in one of these ways. -/
theorem schemaPart_of_mem (h : (rel, .schema s) ∈ e.parts) : SchemaPart e rel s := by
  obtain ⟨own, field, parts, hf, below, hb, rfl⟩ := exists_field_of_mem h
  cases e with
  | document d =>
    simp only [Entity.partFields, List.mem_cons, Prod.mk.injEq, List.not_mem_nil, or_false] at hf
    rcases hf with ⟨rfl, rfl⟩ | ⟨rfl, rfl⟩ | ⟨rfl, rfl⟩
    · simp [entryParts] at hb
    · simp [entryParts] at hb
    · obtain ⟨c, hc, hb⟩ := List.mem_flatMap.1 hb
      obtain ⟨field, parts, hf, below, hb, rfl⟩ := mem_ofFields_iff.1 hb
      rcases definitions_of_mem hf with ⟨rfl, rfl⟩ | ⟨-, α, entity, t, rfl, other⟩
      · obtain ⟨⟨name, s⟩, hs, same⟩ := List.mem_map.1 hb
        cases same
        exact .definition (Option.mem_toList.1 hc) hs
      · obtain ⟨⟨name, x⟩, -, same⟩ := List.mem_map.1 hb
        exact absurd (Prod.mk.inj same).2 (other x s)
  | message m =>
    simp only [Entity.partFields, List.mem_cons, Prod.mk.injEq, List.not_mem_nil, or_false] at hf
    rcases hf with ⟨rfl, rfl⟩ | ⟨rfl, rfl⟩ | ⟨rfl, rfl⟩ | ⟨rfl, rfl⟩ <;>
    simp [optionParts] at hb
    · obtain ⟨hs, rfl⟩ := hb
      exact .headers own hs
    · obtain ⟨hs, rfl⟩ := hb
      exact .payload own hs
  | parameter p =>
    obtain ⟨rfl, rfl⟩ := Prod.mk.inj (List.mem_singleton.1 hf)
    simp [optionParts] at hb
    obtain ⟨hs, rfl⟩ := hb
    exact .parameter own hs
  | schema t =>
    simp only [Entity.partFields, List.mem_cons, Prod.mk.injEq, List.not_mem_nil, or_false] at hf
    rcases hf with ⟨rfl, rfl⟩ | ⟨rfl, rfl⟩ | ⟨rfl, rfl⟩ | ⟨rfl, rfl⟩ | ⟨rfl, rfl⟩ | ⟨rfl, rfl⟩ <;>
    obtain ⟨x, -, same⟩ := List.mem_map.1 hb <;>
    cases same <;>
    first
    | exact .keyword
    | exact .entry
  | operation o =>
    simp only [Entity.partFields, List.mem_cons, Prod.mk.injEq, List.not_mem_nil, or_false] at hf
    rcases hf with ⟨rfl, rfl⟩ | ⟨rfl, rfl⟩
    · simp [optionParts] at hb
    · rcases hm : o.message with _ | (messages | m) <;>
      simp [OperationMessage.parts, Placed.under, itemParts, hm] at hb
  | server v =>
    simp only [Entity.partFields, List.mem_cons, Prod.mk.injEq, List.not_mem_nil, or_false] at hf
    rcases hf with ⟨rfl, rfl⟩ | ⟨rfl, rfl⟩ <;>
    simp [entryParts, optionParts] at hb
  | channel c =>
    simp only [Entity.partFields, List.mem_cons, Prod.mk.injEq, List.not_mem_nil, or_false] at hf
    rcases hf with ⟨rfl, rfl⟩ | ⟨rfl, rfl⟩ | ⟨rfl, rfl⟩ | ⟨rfl, rfl⟩ <;>
    simp [entryParts, optionParts] at hb
  | _ => cases hf

/-- A schema of the components is a part of the document. -/
theorem mem_parts_definition {c : Components} {name : String} (hc : d.components = some c)
    (hs : (name, s) ∈ c.schemas) :
    (["components", "schemas", name], .schema s) ∈ (Entity.document d).parts := by
  simp [Entity.parts, Entity.reference?, Entity.ownParts, Entity.partFields, Placed.ofFields,
    Placed.under, entryParts, Components.partFields, hc, hs]

/-- The schemas of a message are its headers and its payload. -/
theorem mem_parts_message {m : Message} {key : String} (own : m.reference = none)
    (h : key = "headers" ∧ m.headers = some s ∨ key = "payload" ∧ m.payload = some s) :
    ([key], .schema s) ∈ (Entity.message m).parts := by
  rcases h with ⟨rfl, hs⟩ | ⟨rfl, hs⟩ <;>
  simp [Entity.parts, Entity.reference?, Entity.ownParts, Entity.partFields, Placed.ofFields,
    Placed.under, optionParts, own, hs]

/-- A parameter has no part but its schema. -/
theorem eq_of_mem_parts_parameter {p : Parameter} (h : (rel, e') ∈ (Entity.parameter p).parts) :
    rel = ["schema"] ∧ ∃ s, e' = .schema s := by
  obtain ⟨-, field, parts, hf, below, hb, rfl⟩ := exists_field_of_mem h
  obtain ⟨rfl, rfl⟩ := Prod.mk.inj (List.mem_singleton.1 hf)
  obtain ⟨s, -, same⟩ := List.mem_map.1 hb
  cases same
  exact ⟨rfl, s, rfl⟩

/-- All that is part of a schema is one. -/
theorem eq_schema_of_mem_parts {t : Schema} (h : (rel, e') ∈ (Entity.schema t).parts) :
    ∃ s, e' = .schema s := by
  obtain ⟨-, field, parts, hf, below, hb, -⟩ := exists_field_of_mem h
  simp only [Entity.partFields, List.mem_cons, Prod.mk.injEq, List.not_mem_nil, or_false] at hf
  rcases hf with ⟨-, rfl⟩ | ⟨-, rfl⟩ | ⟨-, rfl⟩ | ⟨-, rfl⟩ | ⟨-, rfl⟩ | ⟨-, rfl⟩ <;>
  obtain ⟨x, -, same⟩ := List.mem_map.1 hb <;>
  cases same <;>
  exact ⟨_, rfl⟩

/-- No part that is no schema is part of one, and there are no tags of data on the way to it. -/
theorem way_of_mem (h : (rel, e') ∈ e.parts) (other : ∀ s, e' ≠ .schema s) :
    (∀ t, e ≠ .schema t) ∧ (e.way rel = untagged rel ∨ ∃ field name,
      e.way rel = [("components", {}), (field, .definitions), (name, {})]) := by
  obtain ⟨-, field, parts, hf, below, hb, rfl⟩ := exists_field_of_mem h
  cases e with
  | document d =>
    refine ⟨fun t same => (by cases same), ?_⟩
    simp only [Entity.partFields, List.mem_cons, Prod.mk.injEq, List.not_mem_nil, or_false] at hf
    rcases hf with ⟨rfl, rfl⟩ | ⟨rfl, rfl⟩ | ⟨rfl, rfl⟩
    · exact .inl rfl
    · exact .inl rfl
    · obtain ⟨c, -, hb⟩ := List.mem_flatMap.1 hb
      obtain ⟨field, parts, hf, below, hb, rfl⟩ := mem_ofFields_iff.1 hb
      rcases definitions_of_mem hf with ⟨rfl, rfl⟩ | ⟨different, α, entity, t, rfl, -⟩ <;>
      obtain ⟨⟨name, x⟩, -, same⟩ := List.mem_map.1 hb <;>
      obtain ⟨rfl, rfl⟩ := Prod.mk.inj same
      · exact absurd rfl (other x)
      · refine .inr ⟨field, name, ?_⟩
        rw [Entity.way]
        · rfl
        · exact different
  | schema t =>
    obtain ⟨s, rfl⟩ := eq_schema_of_mem_parts h
    exact absurd rfl (other s)
  | message m =>
    refine ⟨fun t same => (by cases same), .inl ?_⟩
    simp only [Entity.partFields, List.mem_cons, Prod.mk.injEq, List.not_mem_nil, or_false] at hf
    rcases hf with ⟨rfl, rfl⟩ | ⟨rfl, rfl⟩ | ⟨rfl, -⟩ | ⟨rfl, -⟩
    · obtain ⟨s, -, same⟩ := List.mem_map.1 hb
      exact absurd (Prod.mk.inj same).2.symm (other s)
    · obtain ⟨s, -, same⟩ := List.mem_map.1 hb
      exact absurd (Prod.mk.inj same).2.symm (other s)
    · rfl
    · rfl
  | parameter p =>
    obtain ⟨-, s, rfl⟩ := eq_of_mem_parts_parameter h
    exact absurd rfl (other s)
  | _ => exact ⟨fun t same => (by cases same), .inl rfl⟩

/-! ## What tags say of a schema -/

/-- The schema at the path is a direct entry of the schemas of the components. -/
def Defines (d : Document) (path : List String) (s : Schema) : Prop :=
  ∃ c name, d.components = some c ∧ (name, s) ∈ c.schemas ∧ path = ["components", "schemas", name]

/-- The schema at the path is the headers or the payload of a message. -/
def Conveys (d : Document) (path : List String) (s : Schema) : Prop :=
  ∃ owner m key, (Entity.document d).Contains owner (.message m) ∧ m.reference = none ∧
    (key = "headers" ∧ m.headers = some s ∨ key = "payload" ∧ m.payload = some s) ∧
      path = owner ++ [key]

/-- The schema at the path is that of a parameter, or somewhere below it. -/
def InParameter (d : Document) (path : List String) (s : Schema) : Prop :=
  ∃ owner p rel, (Entity.document d).Contains owner (.parameter p) ∧
    (Entity.parameter p).Contains rel (.schema s) ∧ path = owner ++ rel

/-- What the tags say where a walk stands at a schema. -/
structure Positioned (d : Document) (frames : List Frame) (s : Schema) : Prop where
  data : (Frame.top frames).dataModel = true
  entry : (Frame.top frames).definition = false
  inline : (Frame.top frames).inline = true → d.InParameter (Frame.path frames) s
  definition : (Frame.outer frames).definition = true → d.Defines (Frame.path frames) s
  outermost : (Frame.outer frames).dataModel = false →
    d.Conveys (Frame.path frames) s ∨ d.InParameter (Frame.path frames) s

/-- What the tags say where a walk stands at an entity: nothing, if it is no schema. -/
def Standing (d : Document) (frames : List Frame) : Entity → Prop
  | .document d' => d' = d ∧ frames = []
  | .schema s => d.Positioned frames s
  | _ => Frame.top frames = {}

/-- At anything but a schema the innermost frame has no tags. -/
theorem Standing.top_eq (h : d.Standing frames e) (other : ∀ s, e ≠ .schema s) :
    Frame.top frames = {} := by
  cases e with
  | document d' =>
    rw [h.2]
    rfl
  | schema s => exact absurd rfl (other s)
  | _ => exact h

/-- Keys without tags inherit none if there are none to inherit. -/
theorem top_along_untagged (plain : Frame.top frames = {}) (keys : List String) :
    Frame.top (Frame.along frames (untagged keys)) = {} := by
  induction keys generalizing frames with
  | nil => exact plain
  | cons key rest ih =>
    refine ih ?_
    rw [Frame.top_enter, plain]
    rfl

/-- What is below a schema of a parameter is so, too. -/
theorem InParameter.part {t : Schema} (h : d.InParameter path t)
    (hp : (rel, .schema s) ∈ (Entity.schema t).parts) : d.InParameter (path ++ rel) s := by
  obtain ⟨owner, p, below, contained, contains, rfl⟩ := h
  exact ⟨owner, p, below ++ rel, contained, contains.tail hp, List.append_assoc ..⟩

/-- Entering a data model leaves nothing of the tags around it but whether it stands inline. -/
theorem top_enter_data (frames : List Frame) (key : String) :
    Frame.top (Frame.enter frames key .data) = ⟨true, false, (Frame.top frames).inline⟩ := by
  rw [Frame.top_enter]
  rfl

/-- The headers or the payload of a message: around it there are no tags. -/
theorem positioned_conveyed {m : Message} {key : String} (plain : Frame.top frames = {})
    (contained : (Entity.document d).Contains (Frame.path frames) (.message m))
    (own : m.reference = none)
    (h : key = "headers" ∧ m.headers = some s ∨ key = "payload" ∧ m.payload = some s) :
    d.Positioned (Frame.enter frames key .data) s where
  data := by rw [top_enter_data]
  entry := by rw [top_enter_data]
  inline inline := by
    rw [top_enter_data, plain] at inline
    cases inline
  definition inside := by
    rw [Frame.outer_enter, plain] at inside
    cases inside
  outermost _ := .inl ⟨_, m, key, contained, own, h, Frame.path_enter ..⟩

/-- The schema of a parameter is inline. -/
theorem positioned_inline {p : Parameter} (plain : Frame.top frames = {})
    (contained : (Entity.document d).Contains (Frame.path frames) (.parameter p))
    (hp : (["schema"], .schema s) ∈ (Entity.parameter p).parts) :
    d.Positioned (Frame.enter frames "schema" { dataModel := true, inline := true }) s := by
  have inParameter : d.InParameter (Frame.path frames ++ ["schema"]) s :=
    ⟨_, p, _, contained, .of_part hp, rfl⟩
  rw [← Frame.path_enter frames "schema" { dataModel := true, inline := true }] at inParameter
  refine ⟨?_, ?_, fun _ => inParameter, fun inside => ?_, fun _ => .inr inParameter⟩
  · rw [Frame.top_enter]
    rfl
  · rw [Frame.top_enter]
    rfl
  · rw [Frame.outer_enter, plain] at inside
    cases inside

/-- A schema in a schema is inline if that is, and it is neither a definition nor the outermost
one. -/
theorem Positioned.inside {t : Schema} (h : d.Positioned frames t) {inner : List Frame}
    (hp : (rel, .schema s) ∈ (Entity.schema t).parts)
    (path : Frame.path inner = Frame.path frames ++ rel)
    (top : Frame.top inner = ⟨true, false, (Frame.top frames).inline⟩)
    (outer : (Frame.outer inner).dataModel = true ∧ (Frame.outer inner).definition = false) :
    d.Positioned inner s where
  data := by rw [top]
  entry := by rw [top]
  inline inline := by
    rw [top] at inline
    rw [path]
    exact (h.inline inline).part hp
  definition inside := by rw [outer.2] at inside; cases inside
  outermost outermost := by rw [outer.1] at outermost; cases outermost

/-- **A schema as a part** is positioned as its owner and its way say. -/
theorem positioned_of_part (contained : (Entity.document d).Contains (Frame.path frames) e)
    (h : d.Standing frames e) (hp : (rel, .schema s) ∈ e.parts) :
    d.Positioned (Frame.along frames (e.way rel)) s := by
  have path : Frame.path (Frame.along frames (e.way rel)) = Frame.path frames ++ rel := by simp
  cases schemaPart_of_mem hp with
  | @definition d' c name _ hc hs =>
    obtain ⟨rfl, rfl⟩ := h
    refine ⟨rfl, rfl, fun inline => ?_, fun _ => ⟨c, name, hc, hs, path⟩, fun outer => ?_⟩
    · cases inline
    · cases outer
  | headers own hs => exact positioned_conveyed h contained own (.inl ⟨rfl, hs⟩)
  | payload own hs => exact positioned_conveyed h contained own (.inr ⟨rfl, hs⟩)
  | parameter => exact positioned_inline h contained hp
  | @keyword t key =>
    have outer : Frame.outer (Frame.along frames ((Entity.schema t).way [key])) =
        Frame.top frames := Frame.outer_enter frames key .data
    exact Positioned.inside h hp path (top_enter_data frames key) (outer ▸ ⟨h.data, h.entry⟩)
  | @entry t key name =>
    -- the field of the entries is tagged as data, and its entries inherit that
    have outer : Frame.outer (Frame.along frames ((Entity.schema t).way [key, name])) =
        ⟨true, false, (Frame.top frames).inline⟩ :=
      (Frame.outer_enter _ name {}).trans (top_enter_data frames key)
    have top : Frame.top (Frame.along frames ((Entity.schema t).way [key, name])) =
        ⟨true, false, (Frame.top frames).inline⟩ := by
      refine (Frame.top_enter (Frame.enter frames key .data) name {}).trans ?_
      rw [top_enter_data]
      rfl
    exact Positioned.inside h hp path top (by rw [outer]; exact ⟨rfl, rfl⟩)

/-- **A part stands where the tags say,** if its owner does. -/
theorem Standing.part (h : d.Standing frames e)
    (contained : (Entity.document d).Contains (Frame.path frames) e) (hp : (rel, e') ∈ e.parts) :
    d.Standing (Frame.along frames (e.way rel)) e' := by
  cases e' with
  | schema s => exact positioned_of_part contained h hp
  | document d' => exact absurd hp document_notMem_parts
  | _ =>
    obtain ⟨other, way⟩ := way_of_mem hp (fun s same => (by cases same))
    have plain := h.top_eq other
    rcases way with way | ⟨field, name, way⟩ <;> rw [way]
    · exact top_along_untagged plain rel
    · -- what is tagged as a definition does not inherit that
      change Frame.top (Frame.along frames _) = {}
      simp only [Frame.along_cons, Frame.along_nil, Frame.top_enter, plain]
      rfl

/-- **Where a walk stands,** the tags say. -/
theorem standing_of_visit : ∀ v ∈ d.outline.visits [],
    (Entity.document d).Contains (Frame.path v.frames) v.entity ∧ d.Standing v.frames v.entity :=
  visits_induction (e := .document d) (P := fun frames e =>
      (Entity.document d).Contains (Frame.path frames) e ∧ d.Standing frames e)
    (fun _ _ _ _ ⟨contained, h⟩ hp => ⟨by simpa using contained.tail hp, h.part contained hp⟩)
    ⟨.self, rfl, rfl⟩

/-! ## What a schema's place says of the tags -/

/-- A schema that the document defines is visited below the key of the definitions. -/
theorem exists_visit_of_defines (h : d.Defines path s) : ∃ v ∈ d.outline.visits [],
    v.placed = (path, .schema s) ∧ (Frame.outer v.frames).definition = true := by
  obtain ⟨c, name, hc, hs, rfl⟩ := h
  have root : ⟨[], .document d⟩ ∈ d.outline.visits [] := by
    have walk := visits_outline (.document d) []
    rw [Entity.outline] at walk
    rw [walk]
    exact List.mem_cons_self
  exact ⟨_, visits_part (e := .document d) root (mem_parts_definition hc hs), rfl, rfl⟩

/-- A schema that a message conveys is visited with no data model around it. -/
theorem exists_visit_of_conveys (h : d.Conveys path s) : ∃ v ∈ d.outline.visits [],
    v.placed = (path, .schema s) ∧ (Frame.outer v.frames).dataModel = false := by
  obtain ⟨owner, m, key, contained, own, part, rfl⟩ := h
  obtain ⟨⟨frames, entity⟩, hv, placed⟩ := exists_visit_iff.2 contained
  obtain ⟨rfl, rfl⟩ := Prod.mk.inj placed
  have plain : Frame.top frames = {} := (standing_of_visit _ hv).2
  refine ⟨_, visits_part (e := .document d) hv (mem_parts_message own part),
    by simp [Visit.placed], ?_⟩
  have outer : Frame.outer (Frame.along frames ((Entity.message m).way [key])) =
      Frame.top frames := by
    rcases part with ⟨rfl, -⟩ | ⟨rfl, -⟩ <;> exact Frame.outer_enter frames _ .data
  rw [outer, plain]

/-- All that is visited below something inline is inline. -/
theorem inline_of_visit (inline : (Frame.top frames).inline = true) :
    ∀ v ∈ e.outline.visits frames, (Frame.top v.frames).inline = true := by
  refine visits_induction (P := fun frames _ => (Frame.top frames).inline = true)
    (fun frames e rel e' inline _ => ?_) inline
  generalize e.way rel = way
  induction way generalizing frames with
  | nil => exact inline
  | cons step rest ih =>
    obtain ⟨key, tags⟩ := step
    refine ih _ ?_
    rw [Frame.top_enter]
    simp [Tags.union, Tags.inherited, inline]

/-- A schema inside a parameter is visited inline. -/
theorem exists_visit_of_inParameter (h : d.InParameter path s) : ∃ v ∈ d.outline.visits [],
    v.placed = (path, .schema s) ∧ (Frame.top v.frames).inline = true := by
  obtain ⟨owner, p, rel, contained, below, rfl⟩ := h
  obtain ⟨⟨frames, entity⟩, hv, placed⟩ := exists_visit_iff.2 contained
  obtain ⟨rfl, rfl⟩ := Prod.mk.inj placed
  obtain ⟨w, hw, placed'⟩ := @exists_visit_of_contains frames _ _ _ below
  refine ⟨w, visits_trans (e := .document d) hv hw, placed', ?_⟩
  rw [visits_outline, List.mem_cons, List.mem_flatMap] at hw
  rcases hw with rfl | ⟨⟨rel', e'⟩, hp, hw⟩
  · -- the parameter is no schema
    cases (Prod.mk.inj placed').2
  · obtain ⟨rfl, -⟩ := eq_of_mem_parts_parameter hp
    refine inline_of_visit ?_ w hw
    exact congrArg Tags.inline (Frame.top_enter frames "schema" _)

end Document
end ApiGraph
