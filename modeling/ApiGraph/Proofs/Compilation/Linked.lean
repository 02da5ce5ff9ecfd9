/-
# Compiled stores are ready to be linked

A store whose documents were compiled, each under its own number and name, is well-formed and
unbound: what linking relies on (`ArtifactStore.Compiled.wellFormed`).  Moreover every promise
that the body of an artifact holds has a cell that expects what the promise promises, and the
cell of a reference expects the kind of its artifact (`ArtifactStore.Holding`).
-/

import ApiGraph.Proofs.Compilation.Stores
import ApiGraph.Proofs.Linking.WellFormed

namespace ApiGraph

open Document (Entity)

namespace ArtifactStore

/-- The documents were compiled under different names, each under the number of its place. -/
structure Compiled (s : ArtifactStore) : Prop where
  numbered : s.Numbered
  names_nodup : (s.documents.map (·.document)).Nodup
  compiled : ∀ d ∈ s.documents, ∃ vs, d.CompiledFrom vs

variable {s : ArtifactStore} {d : DocumentStore} {id : ArtifactId} {a : Artifact}

/-- An artifact is one of its document. -/
theorem get?_eq_some_iff : s.catalog.get? id = some a ↔
    ∃ d, s.documents[id.document]? = some d ∧ d.artifacts[id.index]? = some a := by
  simp only [catalog, Catalog.get?, List.getElem?_map, Option.bind_eq_some_iff,
    Option.map_eq_some_iff]
  constructor
  · rintro ⟨_, ⟨d, hd, rfl⟩, ha⟩
    exact ⟨d, hd, ha⟩
  · rintro ⟨d, hd, ha⟩
    exact ⟨_, ⟨d, hd, rfl⟩, ha⟩

/-- What an artifact was compiled from. -/
theorem Compiled.exists_represents (hs : s.Compiled) (ha : s.catalog.get? id = some a) :
    ∃ d v, s.documents[id.document]? = some d ∧ d.index = id.document ∧ d.Represents v a := by
  obtain ⟨d, hd, hi⟩ := get?_eq_some_iff.1 ha
  obtain ⟨vs, compiled⟩ := hs.compiled d (List.mem_of_getElem? hd)
  obtain ⟨v, -, rep⟩ := compiled.exists_visit hi
  exact ⟨d, v, hd, hs.numbered _ _ hd, rep⟩

/-- The cell of a promise was made for an edge of a document. -/
theorem Compiled.promise_eq_cell (hs : s.Compiled) {cell : CellId} {p : PromiseCell}
    (hp : s.promise? cell = some p) : ∃ d ∈ s.documents, ∃ v vs e, d.CompiledFrom vs ∧ v ∈ vs ∧
      e ∈ v.edges d.document ∧ p = e.cell (v.place d.document) := by
  obtain ⟨d, hd, hi⟩ := Option.bind_eq_some_iff.1 hp
  have hd' := List.mem_of_getElem? hd
  obtain ⟨vs, compiled⟩ := hs.compiled d hd'
  obtain ⟨v, hv, e, he, rfl⟩ := compiled.exists_edge hi
  exact ⟨d, hd', v, vs, e, compiled, hv, he, rfl⟩

/-- The artifacts of compiled documents stand in their own ones, each at a place of its own. -/
theorem Compiled.located (hs : s.Compiled) : s.catalog.Located where
  names_nodup := by
    rw [catalog, List.map_map]
    exact hs.names_nodup
  own_document t ht a ha := by
    obtain ⟨d, hd, rfl⟩ := List.mem_map.1 ht
    obtain ⟨vs, compiled⟩ := hs.compiled d hd
    obtain ⟨v, -, rep⟩ := exists_left_of_forall₂ compiled.artifacts ha
    rw [rep.location]
    rfl
  places_nodup t ht := by
    obtain ⟨d, hd, rfl⟩ := List.mem_map.1 ht
    obtain ⟨vs, compiled⟩ := hs.compiled d hd
    exact compiled.places_nodup

/-- An artifact that is a reference has a slot that begins where it stands and expects its
kind. -/
theorem Compiled.slot_of_reference (hs : s.Compiled) {r : Body.Reference}
    (ha : s.catalog.get? id = some a) (hr : a.body = .reference r) :
    ∃ slot, s.reference? r.slot = some slot ∧ slot.origin = a.location ∧
      slot.expects = .kind a.kind := by
  obtain ⟨d, v, hd, index, rep⟩ := hs.exists_represents ha
  have body := rep.body
  rw [DocumentStore.Embodies] at body
  split at body
  · obtain ⟨r', slot, hb, -, hdoc, hi, horigin, -, hexp⟩ := body
    obtain rfl := Body.reference.inj (hr.symm.trans hb)
    refine ⟨slot, ?_, horigin.trans rep.location.symm, by rw [hexp, rep.kind]⟩
    rw [reference?, hdoc, index, hd]
    exact hi
  · rw [hr] at body
    cases body.1

/-- **Compiled documents are well formed.** -/
theorem Compiled.wellFormed (hs : s.Compiled) : s.WellFormed where
  numbered := hs.numbered
  located := hs.located
  slot_of_reference id a r ha hr := by
    obtain ⟨slot, hslot, horigin, -⟩ := hs.slot_of_reference ha hr
    exact ⟨slot, hslot, horigin⟩
  reference_of_slot cell slot hslot := by
    obtain ⟨d, hd, hi⟩ := Option.bind_eq_some_iff.1 hslot
    obtain ⟨vs, compiled⟩ := hs.compiled d (List.mem_of_getElem? hd)
    obtain ⟨a, ha, r, hr, hcell, hl⟩ := compiled.owned _ _ hi
    obtain ⟨n, hn⟩ := List.mem_iff_getElem?.1 ha
    rw [Array.getElem?_toList] at hn
    refine ⟨⟨cell.document, n⟩, a, r, get?_eq_some_iff.2 ⟨d, hd, hn⟩, hr, ?_, hl⟩
    rw [hcell, hs.numbered _ _ hd]

/-- What is compiled is not transformed, so nothing leads out of the store. -/
theorem Compiled.not_astray (hs : s.Compiled) : ¬ s.Astray id := by
  refine not_astray_of_untransformed fun cell p hp => ?_
  obtain ⟨d, -, v, vs, e, -, -, -, rfl⟩ := hs.promise_eq_cell hp
  rfl

/-- None of their cells is bound. -/
theorem Compiled.unbound (hs : s.Compiled) : s.Unbound where
  references cell slot hslot := by
    obtain ⟨d, hd, hi⟩ := Option.bind_eq_some_iff.1 hslot
    obtain ⟨vs, compiled⟩ := hs.compiled d (List.mem_of_getElem? hd)
    obtain ⟨v, -, hv⟩ := compiled.exists_slot hi
    exact (Entity.of_mem_slots hv).2.1
  promises cell p hp := by
    obtain ⟨d, -, v, vs, e, -, -, -, rfl⟩ := hs.promise_eq_cell hp
    rfl
  lists cell l hl := by
    obtain ⟨d, hd, hi⟩ := Option.bind_eq_some_iff.1 hl
    obtain ⟨vs, compiled⟩ := hs.compiled d (List.mem_of_getElem? hd)
    obtain ⟨v, -, hv⟩ := compiled.exists_list hi
    exact (Entity.of_mem_lists hv).2.2

/-- What the body of an artifact holds has cells that expect what it promises. -/
structure Holding (s : ArtifactStore) (a : Artifact) : Prop where
  promises : ∀ h ∈ a.body.handles, ∃ p, s.promise? h.2.cell = some p ∧ p.expects = .entity h.1
  lists : ∀ h ∈ a.body.listHandles, ∃ l, s.list? h.2.cell = some l ∧ l.expects = .entity h.1
  reference : ∀ r, a.body = .reference r → ∃ slot, s.reference? r.slot = some slot ∧
    slot.expects = .kind a.kind

/-- The promises that an artifact holds have their cells. -/
theorem Compiled.holding (hs : s.Compiled) (ha : s.catalog.get? id = some a) : s.Holding a := by
  obtain ⟨d, v, hd, index, rep⟩ := hs.exists_represents ha
  have body := rep.body
  rw [DocumentStore.Embodies] at body
  split at body
  · obtain ⟨r, slot, hb, -⟩ := body
    refine ⟨by rw [hb]; simp [Body.handles], by rw [hb]; simp [Body.listHandles], ?_⟩
    intro r' hr
    obtain ⟨slot, hslot, -, hexp⟩ := hs.slot_of_reference ha hr
    exact ⟨slot, hslot, hexp⟩
  · obtain ⟨label, wired, listWired⟩ := body
    constructor
    · intro h hh
      obtain ⟨e, -, hl, hdoc, hi⟩ := exists_right_of_forall₂ wired hh
      refine ⟨e.cell (v.place d.document), ?_, by rw [hl]; rfl⟩
      rw [promise?, hdoc, index, hd]
      exact hi
    · intro h hh
      obtain ⟨l, -, hl, hdoc, hi⟩ := exists_right_of_forall₂ listWired hh
      refine ⟨l, ?_, hl⟩
      rw [list?, hdoc, index, hd]
      exact hi
    · intro r hr
      rw [hr] at label
      cases label

end ArtifactStore
end ApiGraph
