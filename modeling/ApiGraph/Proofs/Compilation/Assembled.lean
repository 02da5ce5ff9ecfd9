/-
# Stores with promises of their own

Promises may be added to the store of a compiled document, of one artifact or of several, before
all documents are linked (`ArtifactStore.Assembled`).  A promise that is added is a cell behind
those that are there, and nothing else of the store changes but the documents that it notes
(`DocumentStore.Made.exists_compiled`).  So such a store is, but for the cells that were added, one
of compiled documents, and it is as ready to be linked as that (`Extends.wellFormed`,
`Extends.unbound`).
-/

import ApiGraph.Proofs.Compilation.Linked

namespace ApiGraph

open Linking (view)

namespace DocumentStore

/-- What a document was compiled to, with promises added to it. -/
inductive Made : DocumentStore → Prop
  | compiled {d : Document} {settings : Settings} {index : Nat} {name : String}
      {store : DocumentStore} : d.compile settings index name = .ok store → Made store
  | promise {d : DocumentStore} (l : Label) (origin : Location) (query : Query)
      (transform : Option Transform) : Made d → Made (d.promise l origin query transform).2
  | listPromise {d : DocumentStore} (l : Label) (origin : Location) (description : String)
      (accepts : Artifact → Bool) : Made d →
      Made (d.listPromise l origin description accepts).2

/-- `d` is `d₀`, with further promises behind those of `d₀`, which are not bound. -/
structure Extends (d₀ d : DocumentStore) : Prop where
  shelf : d₀.toShelf = d.toShelf
  references : d₀.references = d.references
  promises : ∃ more, d.promises.toList = d₀.promises.toList ++ more ∧
    ∀ p ∈ more, p.binding = none
  lists : ∃ more, d.lists.toList = d₀.lists.toList ++ more ∧ ∀ l ∈ more, l.binding = none

/-- A store extends itself. -/
theorem Extends.refl (d : DocumentStore) : d.Extends d :=
  ⟨rfl, rfl, ⟨[], by simp⟩, ⟨[], by simp⟩⟩

/-- Noting where a query leads to touches no artifact. -/
theorem toShelf_noteQuery (d : DocumentStore) (query : Query) :
    (d.noteQuery query).toShelf = d.toShelf := by
  cases query with
  | path target =>
    rw [noteQuery, noteExternal]
    split <;> rfl
  | condition description accepts => rfl

/-- It touches no reference. -/
theorem references_noteQuery (d : DocumentStore) (query : Query) :
    (d.noteQuery query).references = d.references := by
  cases query with
  | path target => exact references_noteExternal d target
  | condition description accepts => rfl

/-- It touches no list. -/
theorem lists_noteQuery (d : DocumentStore) (query : Query) :
    (d.noteQuery query).lists = d.lists := by
  cases query with
  | path target => exact lists_noteExternal d target
  | condition description accepts => rfl

/-- A store with added promises is that of a compiled document but for these. -/
theorem Made.exists_compiled {d : DocumentStore} (h : d.Made) :
    ∃ d₀ : DocumentStore, (∃ vs, d₀.CompiledFrom vs) ∧ d₀.Extends d := by
  induction h with
  | compiled hc => exact ⟨_, ⟨_, (Document.compiledFrom_of_compile hc).2.2⟩, .refl _⟩
  | @promise d l origin query transform _ ih =>
    obtain ⟨d₀, compiled, ext⟩ := ih
    obtain ⟨more, hmore, unbound⟩ := ext.promises
    refine ⟨d₀, compiled, ?_, ?_, ⟨more ++ [?_], ?_, ?_⟩, ?_⟩
    · exact ext.shelf.trans (toShelf_noteQuery d query).symm
    · exact ext.references.trans (references_noteQuery d query).symm
    · exact { origin, query, expects := .entity l, transform }
    · rw [DocumentStore.promise, Array.toList_push, hmore, List.append_assoc]
    · intro p hp
      rcases List.mem_append.1 hp with hp | hp
      · exact unbound p hp
      · rw [List.mem_singleton.1 hp]
    · change ∃ more, (d.noteQuery query).lists.toList = _ ∧ _
      rw [lists_noteQuery]
      exact ext.lists
  | @listPromise d l origin description accepts _ ih =>
    obtain ⟨d₀, compiled, ext⟩ := ih
    obtain ⟨more, hmore, unbound⟩ := ext.lists
    refine ⟨d₀, compiled, ext.shelf, ext.references, ext.promises, ⟨more ++ [?_], ?_, ?_⟩⟩
    · exact { origin, description, accepts, expects := .entity l }
    · rw [DocumentStore.listPromise, Array.toList_push, hmore, List.append_assoc]
    · intro p hp
      rcases List.mem_append.1 hp with hp | hp
      · exact unbound p hp
      · rw [List.mem_singleton.1 hp]

end DocumentStore

namespace ArtifactStore

/-- Documents that were compiled under different names, each under the number of its place, with
promises added to them. -/
structure Assembled (s : ArtifactStore) : Prop where
  numbered : s.Numbered
  names_nodup : (s.documents.map (·.document)).Nodup
  made : ∀ d ∈ s.documents, d.Made

/-- `s` is `s₀`, with further promises in its documents. -/
structure Extends (s₀ s : ArtifactStore) : Prop where
  documents : List.Forall₂ DocumentStore.Extends s₀.documents s.documents

variable {s s₀ : ArtifactStore} {cell : CellId} {id : ArtifactId} {a : Artifact}

namespace Extends

variable (h : s₀.Extends s)

include h

/-- The artifacts are those of the compiled documents. -/
theorem catalog : s₀.catalog = s.catalog :=
  map_eq_of_forall₂ h.documents fun _ _ ext => ext.shelf

/-- The references are those of the compiled documents. -/
theorem reference? (cell : CellId) : s₀.reference? cell = s.reference? cell := by
  have same : s₀.documents.map (·.references) = s.documents.map (·.references) :=
    map_eq_of_forall₂ h.documents fun _ _ ext => ext.references
  have at_ : ∀ t : ArtifactStore, t.reference? cell =
      ((t.documents.map (·.references))[cell.document]?).bind (·[cell.index]?) := by
    intro t
    rw [ArtifactStore.reference?, List.getElem?_map, Option.bind_map]
    rfl
  rw [at_, at_, same]

/-- A promise of the store is one of before, or it is not bound. -/
theorem promise? {p : PromiseCell} (hp : s.promise? cell = some p) :
    s₀.promise? cell = some p ∨ p.binding = none := by
  obtain ⟨d, hd, hi⟩ := Option.bind_eq_some_iff.1 hp
  obtain ⟨d₀, hd₀, ext⟩ := exists_getElem?_of_forall₂ h.documents hd
  obtain ⟨more, hmore, unbound⟩ := ext.promises
  rw [← Array.getElem?_toList, hmore, List.getElem?_append] at hi
  split at hi
  · rw [Array.getElem?_toList] at hi
    exact .inl (Option.bind_eq_some_iff.2 ⟨d₀, hd₀, hi⟩)
  · exact .inr (unbound p (List.mem_of_getElem? hi))

/-- A list is one of a compiled document, or was added and is not bound. -/
theorem list? {l : ListCell} (hl : s.list? cell = some l) :
    s₀.list? cell = some l ∨ l.binding = none := by
  obtain ⟨d, hd, hi⟩ := Option.bind_eq_some_iff.1 hl
  obtain ⟨d₀, hd₀, ext⟩ := exists_getElem?_of_forall₂ h.documents hd
  obtain ⟨more, hmore, unbound⟩ := ext.lists
  rw [← Array.getElem?_toList, hmore, List.getElem?_append] at hi
  split at hi
  · rw [Array.getElem?_toList] at hi
    exact .inl (Option.bind_eq_some_iff.2 ⟨d₀, hd₀, hi⟩)
  · exact .inr (unbound l (List.mem_of_getElem? hi))

/-- The cells of before are there. -/
theorem promise?_of_promise? {p : PromiseCell} (hp : s₀.promise? cell = some p) :
    s.promise? cell = some p := by
  obtain ⟨d₀, hd₀, hi⟩ := Option.bind_eq_some_iff.1 hp
  obtain ⟨d, hd, ext⟩ := exists_getElem?_of_forall₂ h.documents.flip hd₀
  obtain ⟨more, hmore, -⟩ := ext.promises
  exact Option.bind_eq_some_iff.2 ⟨d, hd, DocumentStore.getElem?_of_toList_append hmore hi⟩

/-- The lists of the compiled documents are still there. -/
theorem list?_of_list? {l : ListCell} (hl : s₀.list? cell = some l) :
    s.list? cell = some l := by
  obtain ⟨d₀, hd₀, hi⟩ := Option.bind_eq_some_iff.1 hl
  obtain ⟨d, hd, ext⟩ := exists_getElem?_of_forall₂ h.documents.flip hd₀
  obtain ⟨more, hmore, -⟩ := ext.lists
  exact Option.bind_eq_some_iff.2 ⟨d, hd, DocumentStore.getElem?_of_toList_append hmore hi⟩

/-- Promises that are added leave a store of compiled documents well formed: they have cells of
their own. -/
theorem wellFormed (compiled : s₀.Compiled) (numbered : s.Numbered) : s.WellFormed := by
  have before := compiled.wellFormed
  constructor
  · exact numbered
  · exact h.catalog ▸ before.located
  · intro id a r ha hr
    obtain ⟨slot, hslot, origin⟩ := before.slot_of_reference id a r (h.catalog ▸ ha) hr
    exact ⟨slot, h.reference? _ ▸ hslot, origin⟩
  · intro cell slot hslot
    obtain ⟨id, a, r, ha, rest⟩ := before.reference_of_slot cell slot (h.reference? _ ▸ hslot)
    exact ⟨id, a, r, h.catalog ▸ ha, rest⟩

/-- No cell of such a store is bound. -/
theorem unbound (compiled : s₀.Compiled) : s.Unbound := by
  have before := compiled.unbound
  constructor
  · intro cell slot hslot
    exact before.references cell slot (h.reference? cell ▸ hslot)
  · intro cell p hp
    exact (h.promise? hp).elim (before.promises cell p) id
  · intro cell l hl
    exact (h.list? hl).elim (before.lists cell l) id

end Extends

namespace Assembled

variable (hs : s.Assembled)

include hs

/-- But for the promises that were added, the documents are as they were compiled. -/
theorem exists_compiled : ∃ s₀ : ArtifactStore, s₀.Compiled ∧ s₀.Extends s := by
  obtain ⟨documents, each⟩ := exists_forall₂ fun d hd => (hs.made d hd).exists_compiled
  have ext : ArtifactStore.Extends ⟨documents⟩ s := ⟨each.imp fun _ _ h => h.2⟩
  refine ⟨⟨documents⟩, ⟨?_, ?_, ?_⟩, ext⟩
  · intro i d₀ hd₀
    obtain ⟨d, hd, -, shelf, -⟩ := exists_getElem?_of_forall₂ each.flip hd₀
    rw [← hs.numbered i d hd]
    exact congrArg Shelf.index shelf
  · have names : documents.map (·.document) = s.documents.map (·.document) :=
      map_eq_of_forall₂ each fun _ _ h => congrArg Shelf.document h.2.shelf
    exact names ▸ hs.names_nodup
  · intro d₀ hd₀
    obtain ⟨d, -, compiled, -⟩ := exists_right_of_forall₂ each hd₀
    exact compiled

/-- An assembled store is well formed. -/
theorem wellFormed : s.WellFormed := by
  obtain ⟨s₀, compiled, ext⟩ := hs.exists_compiled
  exact ext.wellFormed compiled hs.numbered

/-- None of its cells is bound. -/
theorem unbound : s.Unbound := by
  obtain ⟨s₀, compiled, ext⟩ := hs.exists_compiled
  exact ext.unbound compiled

/-- The promises that its artifacts hold have their cells. -/
theorem holding (ha : s.catalog.get? id = some a) : s.Holding a := by
  obtain ⟨s₀, compiled, ext⟩ := hs.exists_compiled
  have before := compiled.holding (ext.catalog ▸ ha : s₀.catalog.get? id = some a)
  constructor
  · intro h hh
    obtain ⟨p, hp, expects⟩ := before.promises h hh
    exact ⟨p, ext.promise?_of_promise? hp, expects⟩
  · intro h hh
    obtain ⟨l, hl, expects⟩ := before.lists h hh
    exact ⟨l, ext.list?_of_list? hl, expects⟩
  · intro r hr
    obtain ⟨slot, hslot, expects⟩ := before.reference r hr
    exact ⟨slot, ext.reference? _ ▸ hslot, expects⟩

end Assembled
end ArtifactStore
end ApiGraph
