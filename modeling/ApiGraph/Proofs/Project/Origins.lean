/-
# Where artifacts come from

At a place of a project stands at most one entity (`Sources.stands_unique`), and the artifact at
the place is the one that it was compiled to: it represents the entity and has what the entity
grants to its artifact (`Sources.exists_origin`, `Sources.origin`).
-/

import ApiGraph.Proofs.Compilation.Derivation
import ApiGraph.Proofs.Project.Structure

namespace ApiGraph
namespace Project

open Document (Entity)
open Compile (Grants)

variable {p : Project} {rootId : String} {root : Document} {s : ArtifactStore}
  {place : Location} {e e' : Entity} {id : ArtifactId} {a : Artifact}
  {P : Entity → Artifact → Prop}

/-- The artifacts of a document, with what they represent and what was granted to them. -/
theorem Sources.granted (h : p.Sources rootId root s) (grants : Grants p.settings P) {i : Nat}
    {store : DocumentStore} (hi : s.documents[i]? = some store) :
    ∃ d, p.Source rootId root i store.document d ∧ store.index = i ∧
      List.Forall₂ (fun v a => store.Represents v a ∧ P v.entity a) (d.outline.visits [])
        store.artifacts.toList := by
  obtain ⟨d, source, hc⟩ := h.compiled i store hi
  obtain ⟨index, -, compiled⟩ := Document.compiledFrom_of_compile hc
  exact ⟨d, source, index, forall₂_and compiled.artifacts (Document.granted_of_compile grants hc)⟩

/-- The artifact of an entity has what the entity grants. -/
theorem Sources.exists_granted (h : p.Sources rootId root s) (grants : Grants p.settings P)
    (hp : p.Stands rootId root s place e) :
    ∃ id a, s.catalog.get? id = some a ∧ a.Depicts place e ∧ P e a := by
  obtain ⟨i, store, d, hi, name, source, contains⟩ := hp
  obtain ⟨d', source', -, each⟩ := h.granted grants hi
  obtain rfl := source.unique (name ▸ source')
  obtain ⟨v, hv, placed⟩ := Document.exists_visit_iff.2 contains
  obtain ⟨hpath, rfl⟩ := Prod.mk.inj placed
  obtain ⟨a, ha, rep, granted⟩ := exists_right_of_forall₂ each hv
  obtain ⟨n, hn⟩ := List.mem_iff_getElem?.1 ha
  rw [Array.getElem?_toList] at hn
  have at_ : v.place store.document = place := by rw [Visit.place, hpath, name]
  exact ⟨⟨i, n⟩, a, ArtifactStore.get?_eq_some_iff.2 ⟨store, hi, hn⟩, at_ ▸ rep.depicts, granted⟩

/-- Every artifact has an entity that it represents and that granted to it what it has. -/
theorem Sources.exists_origin (h : p.Sources rootId root s) (grants : Grants p.settings P)
    (ha : s.catalog.get? id = some a) :
    ∃ d v, s.documents[id.document]? = some d ∧ d.index = id.document ∧ d.Represents v a ∧
      p.Stands rootId root s a.location v.entity ∧ P v.entity a := by
  obtain ⟨store, hi, hn⟩ := ArtifactStore.get?_eq_some_iff.1 ha
  obtain ⟨d, source, index, each⟩ := h.granted grants hi
  obtain ⟨v, hv, rep, granted⟩ := exists_left_of_forall₂ each
    (Array.mem_toList_iff.2 (Array.mem_of_getElem? hn))
  refine ⟨store, v, hi, index, rep, ?_, granted⟩
  rw [rep.location]
  exact ⟨_, store, d, hi, rfl, source, Document.exists_visit_iff.1 ⟨v, hv, rfl⟩⟩

/-- A document stands under its name in one place of the store. -/
theorem Sources.index_inj (h : p.Sources rootId root s) {i j : Nat} {store store' : DocumentStore}
    (hi : s.documents[i]? = some store) (hj : s.documents[j]? = some store')
    (same : store.document = store'.document) : i = j := by
  have short : i < (s.documents.map (·.document)).length := by
    rw [List.length_map]
    exact (List.getElem?_eq_some_iff.1 hi).1
  refine (List.getElem?_inj short h.names_nodup).1 ?_
  rw [List.getElem?_map, List.getElem?_map, hi, hj, Option.map_some, Option.map_some, same]

/-- What stands in a document is what its source contains. -/
theorem Sources.stands_iff (h : p.Sources rootId root s) {i : Nat} {store : DocumentStore}
    {d : Document} (hi : s.documents[i]? = some store) (named : store.document = place.document)
    (source : p.Source rootId root i place.document d) :
    p.Stands rootId root s place e ↔ (Entity.document d).Contains place.segments e := by
  constructor
  · rintro ⟨j, store', d', hj, named', source', contains⟩
    obtain rfl := h.index_inj hi hj (named.trans named'.symm)
    obtain rfl := source.unique source'
    exact contains
  · exact fun contains => ⟨i, store, d, hi, named, source, contains⟩

/-- **One entity stands at a place.** -/
theorem Sources.stands_unique (h : p.Sources rootId root s)
    (hp : p.Stands rootId root s place e) (hp' : p.Stands rootId root s place e') : e = e' := by
  obtain ⟨i, store, d, hi, named, source, contains⟩ := hp
  have contains' := (h.stands_iff hi named source).1 hp'
  obtain ⟨d', source', -, compiled⟩ := h.compiledFrom hi
  obtain rfl := source.unique (named ▸ source')
  obtain ⟨v, hv, placed⟩ := Document.exists_visit_iff.2 contains
  obtain ⟨v', hv', placed'⟩ := Document.exists_visit_iff.2 contains'
  obtain ⟨path, rfl⟩ := Prod.mk.inj placed
  obtain ⟨path', rfl⟩ := Prod.mk.inj placed'
  rw [compiled.visit_inj hv hv' (by rw [Visit.place, Visit.place, path, path'])]

/-- The artifact at the place of an entity is the one that the entity was compiled to. -/
theorem Sources.origin (h : p.Sources rootId root s) (grants : Grants p.settings P)
    (ha : s.catalog.get? id = some a) (hp : p.Stands rootId root s a.location e) :
    ∃ d, s.documents[id.document]? = some d ∧ d.index = id.document ∧
      d.Embodies a.location e a.body ∧ a.kind = e.label.kind ∧ P e a := by
  obtain ⟨d, v, hd, index, rep, stands, granted⟩ := h.exists_origin grants ha
  obtain rfl := h.stands_unique hp stands
  exact ⟨d, hd, index, rep.location ▸ rep.body, rep.kind, granted⟩

/-- A part of what stands somewhere stands below it. -/
theorem Stands.part (hp : p.Stands rootId root s place e) {rel : List String}
    (h : (rel, e') ∈ e.parts) : p.Stands rootId root s (place.descend rel) e' := by
  obtain ⟨i, store, d, hi, name, source, contains⟩ := hp
  exact ⟨i, store, d, hi, name, source, contains.tail h⟩

end Project
end ApiGraph
