/-
# Which schemas are selectable

Whether a schema is emitted on its own is read off the tags of the walk that compiles it.  As these
say where the schema stands, it is selectable exactly if it is not inside of a parameter, and is a
definition, or the headers or the payload of a message, or has properties that its shape lists
(`Document.selectable_iff`).  No name of a key on the way matters to this.
-/

import ApiGraph.Proofs.Compilation.Derivation
import ApiGraph.Proofs.Document.Positions

namespace ApiGraph

open Document (Entity)

namespace Document.Schema

variable {s : Schema}

/-- The schema has properties, no combination hides them, and its types besides `null` are those of
an object, or not said. -/
structure Structured (s : Schema) : Prop where
  properties : s.properties ≠ []
  oneOf : s.oneOf = []
  anyOf : s.anyOf = []
  allOf : s.allOf = []
  types : s.typeNames.filter (· != "null") = ["object"] ∨ s.typeNames.filter (· != "null") = []

/-- Where there are properties, types that are not said are those of an object. -/
theorem formOfTypes_eq_object_iff (h : s.properties ≠ []) (types : List String) :
    s.formOfTypes types = .object ↔ types = ["object"] ∨ types = [] := by
  rcases types with _ | ⟨name, _ | ⟨other, rest⟩⟩
  · simp [formOfTypes, h]
  · rw [formOfTypes]
    by_cases object : name = "object"
    · simp [object]
    · by_cases array : name = "array" <;> simp [object, array]
  · simp [formOfTypes]

/-- A schema has properties that count if it is structured. -/
theorem hasProperties_iff : s.hasProperties = true ↔ s.Structured := by
  rw [hasProperties, Bool.and_eq_true, beq_iff_eq, Bool.not_eq_true', List.isEmpty_eq_false_iff]
  constructor
  · rintro ⟨object, properties⟩
    rw [form] at object
    split at object
    · cases object
    · split at object
      · cases object
      · split at object
        · cases object
        · rename_i oneOf anyOf allOf
          exact ⟨properties, by simpa using oneOf, by simpa using anyOf, by simpa using allOf,
            (formOfTypes_eq_object_iff properties _).1 object⟩
  · rintro ⟨properties, oneOf, anyOf, allOf, types⟩
    refine ⟨?_, properties⟩
    rw [form, oneOf, anyOf, allOf]
    exact (formOfTypes_eq_object_iff properties _).2 types

end Document.Schema

/-- The fields of the shape of an object; no other shape has any. -/
def Body.Shape.fields : Body.Shape → List Body.Property
  | .object fields _ => fields
  | _ => []

/-- The fields of the body of a schema. -/
def Body.fields : Body → List Body.Property
  | .schema data => data.shape.fields
  | _ => []

/-- What is said of the artifact of a schema that is no reference. -/
structure Document.Schema.Yields (frames : List Frame) (s : Schema) (a : Artifact) : Prop where
  selectable : a.selectable = (!(Frame.top frames).inline && ((Frame.outer frames).definition ||
    ((Frame.top frames).dataModel && !(Frame.outer frames).dataModel) || s.hasProperties))
  fields : a.body.fields ≠ [] ↔ s.hasProperties = true

namespace Compile

open Document

variable {settings : Settings} {c : Context}

/-- A schema gets a field for each of its properties. -/
theorem ensures_length_properties (s : Schema) : s.compileProperties.Ensures settings c
    (fun fields _ => fields.length = s.properties.length) AnyStop := by
  refine ensures_mapM (I := fun done fields _ => fields.length = done.length) s.properties rfl
    fun done item fields c' same => .skip fun _ _ => ensures_pure ?_
  rw [List.length_append, List.length_append, same]
  rfl

/-- An object has fields where there are properties. -/
theorem ensures_object_fields (s : Schema) : s.compileObject.Ensures settings c
    (fun shape _ => shape.fields ≠ [] ↔ s.properties ≠ []) AnyStop := by
  have object {c'} (additional : Option (Promise .schema)) :
      (s.compileProperties >>= fun fields => pure (Body.Shape.object fields additional)).Ensures
        settings c' (fun shape _ => shape.fields ≠ [] ↔ s.properties ≠ []) AnyStop := by
    refine (ensures_length_properties s).bind fun fields _ same => ensures_pure ?_
    rw [Body.Shape.fields, ← List.length_pos_iff, ← List.length_pos_iff, same]
  refine .skip fun additional _ => ?_
  cases additional with
  | none => exact object none
  | some values =>
    refine ensures_ite (fun empty => ensures_pure ?_) fun _ => object (some values)
    exact iff_of_false (fun h => h rfl) fun h => h (List.isEmpty_iff.1 empty)

/-- The shape of a schema has fields where the schema has properties that count. -/
theorem ensures_shape_fields (s : Schema) : s.compileShape.Ensures settings c
    (fun shape _ => shape.fields ≠ [] ↔ s.hasProperties = true) AnyStop := by
  rw [Schema.compileShape, Schema.hasProperties]
  cases s.form with
  | object =>
    refine (ensures_object_fields s).mono (fun shape _ h => ?_) fun _ _ h => h
    rw [h]
    simp
  | oneOf | anyOf | allOf | array =>
    exact .skip fun _ _ => ensures_pure (iff_of_false (fun h => h rfl) fun h => by cases h)
  | primitive | mixed | any =>
    exact ensures_pure (iff_of_false (fun h => h rfl) fun h => by cases h)

/-- What a schema yields, its artifact has. -/
theorem ensures_schema_yields (s : Schema) (own : s.reference = none) :
    s.compile.Ensures settings c (fun _ c' => c'.Added (s.Yields c.frames)) AnyStop := by
  rw [Schema.compile, own]
  refine ensures_get_bind ((ensures_shape_fields s).bind fun shape _ h => ?_)
  exact ensures_get_bind (ensures_add_added ⟨rfl, h⟩)

/-- **What every schema yields** that is no reference. -/
theorem grantsAt_yields : GrantsAt settings fun frames e a =>
    ∀ s, e = .schema s → s.reference = none → s.Yields frames a := by
  intro e c
  cases e with
  | schema s =>
    cases own : s.reference with
    | some reference =>
      refine (ensures_compile (.schema s)).mono ?_ fun _ _ _ => trivial
      rintro - c' ⟨a, dep⟩
      refine ⟨a, dep, fun s' same own' => ?_⟩
      cases same
      rw [own] at own'
      cases own'
    | none =>
      refine (ensures_deposited (.schema s) (ensures_schema_yields s own)).mono ?_ fun _ _ h => h
      rintro - c' ⟨a, dep, yields⟩
      refine ⟨a, dep, fun s' same _ => ?_⟩
      cases same
      exact yields
  | _ =>
    refine (ensures_compile _).mono ?_ fun _ _ _ => trivial
    rintro - c' ⟨a, dep⟩
    exact ⟨a, dep, fun s same => by cases same⟩

end Compile

namespace Document

variable {d : Document} {settings : Settings} {index : Nat} {name : String}
  {store : DocumentStore}

/-- The artifact of a schema that is no reference has its visit. -/
theorem exists_visit_of_schema (hc : d.compile settings index name = .ok store) {a : Artifact}
    (ha : a ∈ store.artifacts.toList) (kind : a.kind = .schema)
    (concrete : a.body.isReference = false) : ∃ frames s,
      ⟨frames, .schema s⟩ ∈ d.outline.visits [] ∧ a.location = ⟨name, Frame.path frames⟩ ∧
        s.reference = none ∧ s.Yields frames a := by
  obtain ⟨-, document, compiled⟩ := compiledFrom_of_compile hc
  have each := forall₂_and compiled.artifacts (granted_at_of_compile Compile.grantsAt_yields hc)
  obtain ⟨⟨frames, e⟩, hv, rep, yields⟩ := exists_left_of_forall₂ each ha
  have body := rep.body
  rw [DocumentStore.Embodies] at body
  split at body
  · obtain ⟨r, -, hb, -⟩ := body
    rw [hb] at concrete
    cases concrete
  · rename_i own
    cases e with
    | schema s => exact ⟨frames, s, hv, document ▸ rep.location, own, yields s rfl own⟩
    | bindings kind' b => cases kind.symm.trans rep.kind
    | _ => cases kind.symm.trans rep.kind

/-- There is one visit at a place. -/
theorem visit_unique (hc : d.compile settings index name = .ok store) {v : Visit}
    (hv : v ∈ d.outline.visits []) {w : Visit} (hw : w ∈ d.outline.visits [])
    (same : Frame.path w.frames = Frame.path v.frames) : w = v := by
  obtain ⟨-, -, compiled⟩ := compiledFrom_of_compile hc
  exact compiled.visit_inj hw hv (by rw [Visit.place, Visit.place, same])

/-- **Which schemas are selectable.**  At the place of an artifact of a schema that is no reference
stands one schema.  The artifact is selectable if and only if that is not inside of a parameter, and
is a definition, or the headers or the payload of a message, or has properties that its shape lists
as fields. -/
theorem selectable_iff (hc : d.compile settings index name = .ok store) {a : Artifact}
    (ha : a ∈ store.artifacts.toList) (kind : a.kind = .schema)
    (concrete : a.body.isReference = false) : ∃ s,
      (∀ e, (Entity.document d).Contains a.location.segments e ↔ e = .schema s) ∧
      s.reference = none ∧ (a.body.fields ≠ [] ↔ s.Structured) ∧
      (a.selectable = true ↔ ¬ d.InParameter a.location.segments s ∧
        (d.Defines a.location.segments s ∨ d.Conveys a.location.segments s ∨ s.Structured)) := by
  obtain ⟨frames, s, hv, located, own, yields⟩ := exists_visit_of_schema hc ha kind concrete
  have path : a.location.segments = Frame.path frames := by rw [located]
  rw [path]
  have positioned : d.Positioned frames s := (standing_of_visit _ hv).2
  -- the tags at the place are those of the one visit there
  have here : ∀ w ∈ d.outline.visits [], ∀ e, w.placed = (Frame.path frames, e) →
      w = ⟨frames, .schema s⟩ := by
    intro w hw e placed
    exact visit_unique hc hv hw (Prod.mk.inj placed).1
  have inline : (Frame.top frames).inline = true ↔ d.InParameter (Frame.path frames) s := by
    refine ⟨positioned.inline, fun h => ?_⟩
    obtain ⟨w, hw, placed, inline⟩ := exists_visit_of_inParameter h
    rwa [here w hw _ placed] at inline
  have definition : (Frame.outer frames).definition = true ↔ d.Defines (Frame.path frames) s := by
    refine ⟨positioned.definition, fun h => ?_⟩
    obtain ⟨w, hw, placed, definition⟩ := exists_visit_of_defines h
    rwa [here w hw _ placed] at definition
  have outermost : d.Conveys (Frame.path frames) s → (Frame.outer frames).dataModel = false := by
    intro h
    obtain ⟨w, hw, placed, outermost⟩ := exists_visit_of_conveys h
    rwa [here w hw _ placed] at outermost
  refine ⟨s, fun e => ⟨fun contains => ?_, ?_⟩, own, ?_, ?_⟩
  · obtain ⟨w, hw, placed⟩ := exists_visit_iff.2 contains
    rw [here w hw e placed] at placed
    exact (Prod.mk.inj placed).2.symm
  · rintro rfl
    exact (standing_of_visit _ hv).1
  · rw [yields.fields, Schema.hasProperties_iff]
  · rw [yields.selectable, positioned.data, ← inline, ← definition, ← Schema.hasProperties_iff]
    simp only [Bool.and_eq_true, Bool.not_eq_true', Bool.or_eq_true, Bool.true_and, or_assoc,
      Bool.not_eq_true]
    refine and_congr_right fun free => or_congr_right (or_congr_left ⟨fun h => ?_, outermost⟩)
    refine (positioned.outermost h).resolve_right fun inside => ?_
    rw [inline.2 inside] at free
    cases free

/-- A schema with a property that has one itself. -/
def nest (outer inner : String) : Schema where
  properties := [(outer, { properties := [(inner, {})] })]

/-- A document with keys on the way to its schemas that read like fields of something else. -/
def misnamed : Document where
  channels := [("payload",
    { parameters := [("schemas", { schema := some (nest "headers" "x") })] })]
  components := some { schemas := [("parameters", nest "schema" "components")] }

/-- Of two properties with properties of their own the one in a parameter is not selectable. -/
theorem selectable_iff_misnamed : ∃ store a b, misnamed.compile {} 0 "a" = .ok store ∧
    a ∈ store.artifacts.toList ∧ b ∈ store.artifacts.toList ∧ a.selectable = true ∧
    a.location.segments = ["components", "schemas", "parameters", "properties", "schema"] ∧
    b.location.segments =
      ["channels", "payload", "parameters", "schemas", "schema", "properties", "headers"] ∧
    (∃ s, s.Structured ∧ ¬ misnamed.InParameter a.location.segments s) ∧
    ∃ s, s.Structured ∧ misnamed.InParameter b.location.segments s := by
  have evaluated : (misnamed.compile {} 0 "a").toOption.map (fun store =>
      (store.artifacts.toList[7]?.map fun a => (a.kind == .schema && !a.body.isReference &&
          !a.body.fields.isEmpty && a.selectable, a.location.segments),
        store.artifacts.toList[4]?.map fun b => (b.kind == .schema && !b.body.isReference &&
          !b.body.fields.isEmpty && !b.selectable, b.location.segments))) =
      some (some (true, ["components", "schemas", "parameters", "properties", "schema"]),
        some (true, ["channels", "payload", "parameters", "schemas", "schema", "properties",
          "headers"])) := by
    decide +kernel
  obtain ⟨store, hc, found⟩ := Option.map_eq_some_iff.1 evaluated
  rw [toOption_eq_some_iff] at hc
  simp only [Prod.mk.injEq, Option.map_eq_some_iff, Bool.and_eq_true, beq_iff_eq,
    Bool.not_eq_true', List.isEmpty_eq_false_iff] at found
  obtain ⟨⟨a, ha, ⟨⟨⟨kind, concrete⟩, fields⟩, selectable⟩, path⟩,
    b, hb, ⟨⟨⟨kind', concrete'⟩, fields'⟩, selectable'⟩, path'⟩ := found
  have ha := List.mem_of_getElem? ha
  have hb := List.mem_of_getElem? hb
  obtain ⟨s, -, -, shape, iff⟩ := selectable_iff hc ha kind concrete
  obtain ⟨s', -, -, shape', iff'⟩ := selectable_iff hc hb kind' concrete'
  have structured := shape.1 fields
  have structured' := shape'.1 fields'
  refine ⟨store, a, b, hc, ha, hb, selectable, path, path', ⟨s, structured, (iff.1 selectable).1⟩,
    s', structured', ?_⟩
  by_contra free
  rw [iff'.2 ⟨free, .inr (.inr structured')⟩] at selectable'
  cases selectable'

end Document
end ApiGraph
