/-
# Where artifacts are located

Compiling a document that was read gives one artifact for every entity that it contains, in the
order of a walk that visits an entity before its parts.  The artifact is located where the entity
is in the document: the pointer of its location, evaluated on the document as JSON, leads to the
entity as JSON.  No two artifacts have one location, so no compilation stops for that
(`artifacts_at_pointers`).
-/

import ApiGraph.Proofs.Compilation.Stores
import ApiGraph.Proofs.Document.Decoding

namespace ApiGraph
namespace Document

variable {d : Document} {text : String}

/-- No two visits have one place. -/
theorem nodup_places (neat : (Entity.document d).Neat) (name : String) :
    ((d.outline.visits []).map (Visit.place name)).Nodup := by
  have places : (d.outline.visits []).map (Visit.place name) =
      ((d.outline.entities []).map Prod.fst).map (Location.mk name) := by
    rw [← map_placed_visits, List.map_map, List.map_map]
    rfl
  rw [places]
  exact (nodup_entities neat []).map fun _ _ same => (Location.mk.inj same).2

/-- What is visited is found in the JSON of the document. -/
theorem at?_of_visit (neat : (Entity.document d).Neat) {v : Visit}
    (hv : v ∈ d.outline.visits []) :
    d.toJson.at? (Frame.path v.frames) = some v.entity.toJson :=
  (exists_visit_iff.1 ⟨v, hv, rfl⟩).at?_eq neat

/-- The artifacts of a compiled document, entity by entity. -/
theorem forall₂_artifacts (neat : (Entity.document d).Neat) {settings : Settings} {index : Nat}
    {name : String} {store : DocumentStore} (h : d.compile settings index name = .ok store) :
    List.Forall₂ (fun p a => a.Depicts ⟨name, p.1⟩ p.2 ∧
        d.toJson.evaluate? a.location.pointer = some p.2.toJson)
      (d.outline.entities []) store.artifacts.toList := by
  obtain ⟨-, rfl, compiled⟩ := compiledFrom_of_compile h
  rw [← map_placed_visits, List.forall₂_map_left_iff]
  have each := (List.forall₂_and_left _ _).2
    ⟨fun v hv => at?_of_visit (v := v) neat hv, compiled.artifacts⟩
  refine each.imp ?_
  rintro v a ⟨found, rep⟩
  refine ⟨rep.depicts, ?_⟩
  rw [Json.evaluate?_pointer, rep.location]
  exact found

/-- **One artifact for every entity, at its pointer.** -/
theorem artifacts_at_pointers (h : ofText text = .ok d) :
    (∀ settings index name store, d.compile settings index name = .ok store →
      List.Forall₂ (fun p a => a.Depicts ⟨name, p.1⟩ p.2 ∧
          d.toJson.evaluate? a.location.pointer = some p.2.toJson)
        (d.outline.entities []) store.artifacts.toList ∧
      (store.artifacts.toList.map Artifact.location).Nodup) ∧
    (∀ path e, (path, e) ∈ d.outline.entities [] ↔ (Entity.document d).Contains path e) ∧
    ((d.outline.entities []).map Prod.fst).Nodup ∧
    (∀ (e : Entity) (path : List String), e.outline.entities path =
      (path, e) :: e.parts.flatMap fun (rel, e') => e'.outline.entities (path ++ rel)) ∧
    ∀ settings index name l, d.compile settings index name ≠ .error (.duplicateLocation l) := by
  have neat := neat_of_ofText h
  refine ⟨fun settings index name store hc => ⟨forall₂_artifacts neat hc, ?_⟩,
    fun path e => mem_entities_document_iff, nodup_entities neat [], entities_outline,
    fun settings index name l => ?_⟩
  · exact (compiledFrom_of_compile hc).2.2.places_nodup
  · exact compile_ne_duplicateLocation (nodup_places neat name) l

/-- A document with alternative messages for a channel whose name has a slash in it. -/
def alternativesText : String :=
  "\x7b\"channels\":\x7b\"a/b\":\x7b\"publish\":\x7b\"message\":\x7b\"oneOf\":[\x7b\x7d]\x7d\x7d\x7d\x7d\x7d"

/-- It is read and compiled. -/
theorem exists_compile_alternatives : ∃ d store, ofText alternativesText = .ok d ∧
    d.compile {} 0 "a" = .ok store := by
  have compiled : ((ofText alternativesText).toOption.bind fun d =>
      (d.compile {} 0 "a").toOption).isSome := by decide +kernel
  cases h : ofText alternativesText with
  | error e => rw [h] at compiled; cases compiled
  | ok d =>
    cases hc : d.compile {} 0 "a" with
    | error e => rw [h] at compiled; simp [Except.toOption, hc] at compiled
    | ok store => exact ⟨d, store, rfl, hc⟩

/-- Its artifacts are at their pointers. -/
theorem artifacts_at_pointers_alternatives : ∃ d store, ofText alternativesText = .ok d ∧
    d.compile {} 0 "a" = .ok store ∧
    List.Forall₂ (fun p a => a.Depicts ⟨"a", p.1⟩ p.2 ∧
        d.toJson.evaluate? a.location.pointer = some p.2.toJson)
      (d.outline.entities []) store.artifacts.toList ∧
    (store.artifacts.toList.map Artifact.location).Nodup := by
  obtain ⟨d, store, h, hc⟩ := exists_compile_alternatives
  exact ⟨d, store, h, hc, (artifacts_at_pointers h).1 _ _ _ _ hc⟩

end Document
end ApiGraph
