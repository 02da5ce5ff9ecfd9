/-
# Linking does not depend on the order of documents

The documents of a project are numbered in the order in which they are discovered, and with them
all artifacts and cells.  What linking comes to is a matter of places only: where a reference leads
is said by the place of its slot and the target of it, and a query asks for a place or looks at the
headers of artifacts.  So two stores that hold the same documents under different numbers have the
same steps (`Twin.exists_leads`), chains (`Twin.exists_endsAt`) and answers (`Twin.answers`) at the
same places; one is linkable if the other is (`Within.linkable`), and then all cells are bound to
the same places (`link_reordered`).
-/

import ApiGraph.Proofs.Compilation.Renumbering
import ApiGraph.Proofs.Graph.Linked
import ApiGraph.Proofs.Linking.Evaluation
import ApiGraph.Proofs.Project.Discovery
import ApiGraph.Proofs.Project.Structure

namespace ApiGraph

open Relation (ReflTransGen TransGen)

/-! ## The same documents under different numbers -/

/-- What artifacts have in common that differ in their data only. -/
structure Artifact.SameHeader (a b : Artifact) : Prop where
  name : a.name = b.name
  kind : a.kind = b.kind
  selectable : a.selectable = b.selectable
  visible : a.visible = b.visible
  location : a.location = b.location

/-- A condition on artifacts that looks at headers only. -/
def LooksAtHeader (accepts : Artifact → Bool) : Prop :=
  ∀ a b : Artifact, a.SameHeader b → accepts a = accepts b

/-- The same header and data of the same type. -/
structure Artifact.Alike (a b : Artifact) : Prop extends a.SameHeader b where
  label : a.body.label? = b.body.label?

/-- A new number of the document changes data of an artifact only. -/
theorem Artifact.alike_renumber (n : Nat) (a : Artifact) : a.Alike (a.renumber n) :=
  ⟨⟨rfl, rfl, rfl, rfl, rfl⟩, (Body.label?_renumber a.body).symm⟩

variable {a b : Artifact}

/-- Being alike goes both ways. -/
theorem Artifact.Alike.symm (h : a.Alike b) : b.Alike a :=
  ⟨⟨h.name.symm, h.kind.symm, h.selectable.symm, h.visible.symm, h.location.symm⟩, h.label.symm⟩

/-- What accepts an artifact accepts all that are like it. -/
theorem Artifact.Alike.accepts (h : a.Alike b) {expects : Expectation}
    (accepted : expects.accepts a = true) : expects.accepts b = true := by
  cases expects with
  | entity l => rwa [Expectation.accepts, h.label] at accepted
  | kind k => rwa [Expectation.accepts, h.kind] at accepted

namespace DocumentStore

/-- The stores have the same cells, and artifacts that are alike. -/
structure Alike (d d' : DocumentStore) : Prop where
  document : d.document = d'.document
  promises : d.promises = d'.promises
  lists : d.lists = d'.lists
  references : d.references = d'.references
  artifacts : List.Forall₂ Artifact.Alike d.artifacts.toList d'.artifacts.toList

/-- A new number leaves a document alike. -/
theorem alike_renumber (n : Nat) (d : DocumentStore) : d.Alike (d.renumber n) where
  document := rfl
  promises := rfl
  lists := rfl
  references := rfl
  artifacts := by
    rw [toList_artifacts_renumber, List.forall₂_map_right_iff, List.forall₂_same]
    exact fun a _ => a.alike_renumber n

/-- Being alike goes both ways. -/
theorem Alike.symm {d d' : DocumentStore} (h : d.Alike d') : d'.Alike d :=
  ⟨h.document.symm, h.promises.symm, h.lists.symm, h.references.symm,
    h.artifacts.flip.imp fun _ _ alike => alike.symm⟩

end DocumentStore

namespace ArtifactStore

/-- The documents in this order, each under the number of its place. -/
def ofDocuments (ds : List DocumentStore) : ArtifactStore :=
  ⟨ds.mapIdx fun i d => d.renumber i⟩

/-- The documents of `s` are in `s'`, under whatever number. -/
def Within (s s' : ArtifactStore) : Prop :=
  ∀ d ∈ s.documents, ∃ d' ∈ s'.documents, d.Alike d'

/-- The conditions of a store look at headers only, and there are no transforms. -/
structure Plain (s : ArtifactStore) : Prop where
  conditions : ∀ cell p description accepts, s.promise? cell = some p →
    p.query = .condition description accepts → LooksAtHeader accepts
  lists : ∀ cell l, s.list? cell = some l → LooksAtHeader l.accepts
  untransformed : ∀ cell p, s.promise? cell = some p → p.transform = none

/-- The artifact stands at the place. -/
def IsAt (s : ArtifactStore) (id : ArtifactId) (place : Location) : Prop :=
  ∃ a, s.catalog.get? id = some a ∧ a.location = place

/-- The artifacts are in the order of the store. -/
def InOrder (s : ArtifactStore) (ids : List ArtifactId) : Prop :=
  ids.Sublist (s.catalog.entries.map Prod.fst)

/-- The artifacts of two stores that are alike. -/
def Twin (s s' : ArtifactStore) (id id' : ArtifactId) : Prop :=
  ∃ a a', s.catalog.get? id = some a ∧ s'.catalog.get? id' = some a' ∧ a.Alike a'

variable {s s' : ArtifactStore} {id id' t : ArtifactId} {cell : CellId} {place : Location}

namespace Within

variable (w : s.Within s')

include w

/-- Every document has one like it in the other store. -/
theorem exists_document {k : Nat} {d : DocumentStore} (hd : s.documents[k]? = some d) :
    ∃ (k' : Nat) (d' : DocumentStore), s'.documents[k']? = some d' ∧ d.Alike d' := by
  obtain ⟨d', mem, alike⟩ := w d (List.mem_of_getElem? hd)
  obtain ⟨k', hd'⟩ := List.mem_iff_getElem?.1 mem
  exact ⟨k', d', hd', alike⟩

/-- Every artifact has a twin in the other store. -/
theorem exists_twin (ha : s.catalog.get? id = some a) : ∃ id', s.Twin s' id id' := by
  obtain ⟨d, hd, hi⟩ := get?_eq_some_iff.1 ha
  obtain ⟨k', d', hd', alike⟩ := w.exists_document hd
  rw [← Array.getElem?_toList] at hi
  obtain ⟨a', hi', same⟩ := exists_getElem?_of_forall₂ alike.artifacts.flip hi
  rw [Array.getElem?_toList] at hi'
  exact ⟨⟨k', id.index⟩, a, a', ha, get?_eq_some_iff.2 ⟨d', hd', hi'⟩, same⟩

/-- Every promise stands in a cell of the other store, too. -/
theorem exists_promise {p : PromiseCell} (hp : s.promise? cell = some p) :
    ∃ cell', s'.promise? cell' = some p := by
  obtain ⟨d, hd, hi⟩ := Option.bind_eq_some_iff.1 hp
  obtain ⟨k', d', hd', alike⟩ := w.exists_document hd
  exact ⟨⟨k', cell.index⟩, Option.bind_eq_some_iff.2 ⟨d', hd', alike.promises ▸ hi⟩⟩

/-- Every list stands in a cell of the other store, too. -/
theorem exists_list {l : ListCell} (hl : s.list? cell = some l) :
    ∃ cell', s'.list? cell' = some l := by
  obtain ⟨d, hd, hi⟩ := Option.bind_eq_some_iff.1 hl
  obtain ⟨k', d', hd', alike⟩ := w.exists_document hd
  exact ⟨⟨k', cell.index⟩, Option.bind_eq_some_iff.2 ⟨d', hd', alike.lists ▸ hi⟩⟩

/-- Every reference stands in a cell of the other store, too. -/
theorem exists_reference {slot : ReferenceSlot} (hslot : s.reference? cell = some slot) :
    ∃ cell', s'.reference? cell' = some slot := by
  obtain ⟨d, hd, hi⟩ := Option.bind_eq_some_iff.1 hslot
  obtain ⟨k', d', hd', alike⟩ := w.exists_document hd
  exact ⟨⟨k', cell.index⟩, Option.bind_eq_some_iff.2 ⟨d', hd', alike.references ▸ hi⟩⟩

/-- A store is plain if it is within one that is. -/
theorem plain (h : s'.Plain) : s.Plain where
  conditions cell p description accepts hp hq := by
    obtain ⟨cell', hp'⟩ := w.exists_promise hp
    exact h.conditions cell' p description accepts hp' hq
  lists cell l hl := by
    obtain ⟨cell', hl'⟩ := w.exists_list hl
    exact h.lists cell' l hl'
  untransformed cell p hp := by
    obtain ⟨cell', hp'⟩ := w.exists_promise hp
    exact h.untransformed cell' p hp'

/-- What one store holds, the other one holds. -/
theorem holds (h : s.Holds place) : s'.Holds place := by
  obtain ⟨id, a, ha, rfl⟩ := h
  obtain ⟨id', _, a', ha', hb, alike⟩ := w.exists_twin ha
  obtain rfl := Option.some.inj (ha.symm.trans ha')
  exact ⟨id', a', hb, alike.location.symm⟩

end Within

/-! ## What is at the same places -/

namespace Twin

/-- Twins are twins both ways. -/
theorem symm (h : s.Twin s' id id') : s'.Twin s id' id := by
  obtain ⟨a, a', ha, ha', alike⟩ := h
  exact ⟨a', a, ha', ha, alike.symm⟩

/-- Twins are alike. -/
theorem alike (h : s.Twin s' id id') (ha : s.catalog.get? id = some a)
    (hb : s'.catalog.get? id' = some b) : a.Alike b := by
  obtain ⟨a₁, b₁, ha₁, hb₁, alike⟩ := h
  obtain rfl := Option.some.inj (ha.symm.trans ha₁)
  obtain rfl := Option.some.inj (hb.symm.trans hb₁)
  exact alike

/-- Twins are at one place. -/
theorem isAt (h : s.Twin s' id id') (at_ : s.IsAt id place) : s'.IsAt id' place := by
  obtain ⟨a, ha, rfl⟩ := at_
  obtain ⟨a₁, b, ha₁, hb, alike⟩ := h
  obtain rfl := Option.some.inj (ha.symm.trans ha₁)
  exact ⟨b, hb, alike.location.symm⟩

end Twin

/-- At a place stands one artifact. -/
theorem WellFormed.isAt_unique (hs : s.WellFormed) (h : s.IsAt id place) (h' : s.IsAt t place) :
    id = t := by
  obtain ⟨a, ha, at_⟩ := h
  obtain ⟨b, hb, at_'⟩ := h'
  exact hs.location_inj ha hb (at_.trans at_'.symm)

/-- What stands at one place is alike. -/
theorem Within.twin_of_isAt (w : s.Within s') (hs' : s'.WellFormed) (h : s.IsAt id place)
    (h' : s'.IsAt id' place) : s.Twin s' id id' := by
  obtain ⟨a, ha, at_⟩ := h
  obtain ⟨t, twin⟩ := w.exists_twin ha
  obtain rfl := hs'.isAt_unique h' (twin.isAt ⟨a, ha, at_⟩)
  exact twin

/-- **Queries are answered at the same places.** -/
theorem Twin.answers (w' : s'.Within s) (hs' : s'.WellFormed) (h : s.Twin s' id id') {q : Query}
    (header : ∀ description accepts, q = .condition description accepts → LooksAtHeader accepts)
    (answers : s.Answers q id) : s'.Answers q id' := by
  cases q with
  | path target => exact h.isAt answers
  | condition description accepts =>
    have looks := header description accepts rfl
    intro i'
    constructor
    · rintro rfl
      obtain ⟨a, ha, accepted⟩ := (answers id).1 rfl
      obtain ⟨a₁, a', ha₁, ha', alike⟩ := h
      obtain rfl := Option.some.inj (ha.symm.trans ha₁)
      exact ⟨a', ha', looks a a' alike.toSameHeader ▸ accepted⟩
    · rintro ⟨a', ha', accepted⟩
      obtain ⟨i, twin⟩ := w'.exists_twin ha'
      obtain ⟨a, ha, at_⟩ := twin.isAt ⟨a', ha', rfl⟩
      have same := (twin.alike ha' ha).toSameHeader
      obtain rfl := (answers i).2 ⟨a, ha, looks a' a same ▸ accepted⟩
      exact hs'.isAt_unique ⟨a', ha', rfl⟩ (h.isAt ⟨a, ha, at_⟩)

/-- A query is answered once. -/
theorem WellFormed.answers_unique (hs : s.WellFormed) {q : Query} (h : s.Answers q id)
    (h' : s.Answers q t) : id = t := by
  cases q with
  | path target => exact hs.isAt_unique h h'
  | condition description accepts => exact (h' id).2 ((h id).1 rfl)

section Transfer

variable (w : s.Within s') (hs : s.WellFormed) (hs' : s'.WellFormed)

include w hs hs'

/-- **References lead to the same places.** -/
theorem Twin.exists_leads (h : s.Twin s' id id') {next : ArtifactId} (leads : s.Leads id next) :
    ∃ next', s.Twin s' next next' ∧ s'.Leads id' next' := by
  obtain ⟨a, r, slot, b, ha, hr, hslot, hb, target⟩ := leads
  obtain ⟨slot₁, hslot₁, origin⟩ := hs.slot_of_reference id a r ha hr
  obtain rfl := Option.some.inj (hslot.symm.trans hslot₁)
  obtain ⟨cell', hslot'⟩ := w.exists_reference hslot
  obtain ⟨t, a', r', ha', hr', rfl, at_⟩ := hs'.reference_of_slot cell' slot hslot'
  obtain rfl := hs'.isAt_unique ⟨a', ha', at_.trans origin⟩ (h.isAt ⟨a, ha, rfl⟩)
  obtain ⟨next', twin⟩ := w.exists_twin hb
  obtain ⟨b', hb', target'⟩ := twin.isAt ⟨b, hb, target⟩
  exact ⟨next', twin, a', r', slot, b', ha', hr', hslot', hb', target'⟩

/-- **Whole chains have twins**, step by step. -/
theorem Twin.exists_reaches (h : s.Twin s' id id') (reaches : ReflTransGen s.Leads id t) :
    ∃ t', s.Twin s' t t' ∧ ReflTransGen s'.Leads id' t' := by
  induction reaches with
  | refl => exact ⟨id', h, .refl⟩
  | tail _ leads ih =>
    obtain ⟨t', twin, reaches⟩ := ih
    obtain ⟨next', twin', leads'⟩ := twin.exists_leads w hs hs' leads
    exact ⟨next', twin', reaches.tail leads'⟩

/-- **Chains end at the same places.** -/
theorem Twin.exists_endsAt (h : s.Twin s' id id') (ends : s.EndsAt id t a) :
    ∃ t' a', s'.EndsAt id' t' a' ∧ s.Twin s' t t' ∧ a.Alike a' := by
  obtain ⟨t', twin, reaches⟩ := h.exists_reaches w hs hs' ends.reaches
  obtain ⟨a₁, a', ha₁, ha', alike⟩ := twin
  obtain rfl := Option.some.inj (ends.artifact.symm.trans ha₁)
  refine ⟨t', a', ⟨reaches, ha', ?_⟩, ⟨a, a', ha₁, ha', alike⟩, alike⟩
  have concrete := ends.concrete
  rwa [Body.isReference, alike.label] at concrete

/-- An edge that is accepted in one store is accepted in the other. -/
theorem Twin.accepted (h : s.Twin s' id id') {expects : Expectation}
    (accepted : ∃ t a, s.EndsAt id t a ∧ expects.accepts a = true) :
    ∃ t a, s'.EndsAt id' t a ∧ expects.accepts a = true := by
  obtain ⟨t, a, ends, accepted⟩ := accepted
  obtain ⟨t', a', ends', -, alike⟩ := h.exists_endsAt w hs hs' ends
  exact ⟨t', a', ends', alike.accepts accepted⟩

/-- A cycle is there in both stores. -/
theorem Twin.cycle (h : s.Twin s' id id') (cycle : TransGen s.Leads id id) :
    TransGen s'.Leads id' id' := by
  obtain ⟨last, reaches, leads⟩ := TransGen.tail'_iff.1 cycle
  obtain ⟨last', twin, reaches'⟩ := h.exists_reaches w hs hs' reaches
  obtain ⟨id₁, twin₁, leads'⟩ := twin.exists_leads w hs hs' leads
  obtain ⟨a, a', ha, ha', alike⟩ := h
  obtain rfl := hs'.isAt_unique (twin₁.isAt ⟨a, ha, rfl⟩) ⟨a', ha', alike.location.symm⟩
  exact TransGen.tail' reaches' leads'

/-- **One store is linkable if the other is.** -/
theorem Within.linkable (w' : s'.Within s) (plain : s.Plain) (h : s.Linkable) : s'.Linkable where
  targets_held cell slot hslot := by
    obtain ⟨cell', hslot'⟩ := w'.exists_reference hslot
    exact w.holds (h.targets_held cell' slot hslot')
  paths_held cell p target hp hq := by
    obtain ⟨cell', hp'⟩ := w'.exists_promise hp
    exact w.holds (h.paths_held cell' p target hp' hq)
  conditions_unique cell p description accepts hp hq := by
    obtain ⟨cell', hp'⟩ := w'.exists_promise hp
    obtain ⟨id, ⟨a, ha, accepted⟩, only⟩ := h.conditions_unique cell' p description accepts hp' hq
    obtain ⟨id', twin⟩ := w.exists_twin ha
    have answers : s.Answers p.query id := by
      rw [hq]
      exact fun i => ⟨fun e => e ▸ ⟨a, ha, accepted⟩, only i⟩
    have answers' := twin.answers w' hs' (plain.conditions cell' p · · hp') answers
    rw [hq] at answers'
    exact ⟨id', (answers' id').1 rfl, fun i hi => (answers' i).2 hi⟩
  acyclic id cycle := by
    obtain ⟨next, ⟨a, -, -, -, ha, -⟩, -⟩ := TransGen.head'_iff.1 cycle
    obtain ⟨id', twin⟩ := w'.exists_twin ha
    exact h.acyclic id' (twin.cycle w' hs' hs cycle)
  transforms_succeed cell p f raw hp hf := by
    obtain ⟨cell', hp'⟩ := w'.exists_promise hp
    rw [plain.untransformed cell' p hp'] at hf
    cases hf
  references_accepted cell slot raw hslot hraw := by
    obtain ⟨cell', hslot'⟩ := w'.exists_reference hslot
    obtain ⟨b, hb, at_⟩ := hraw
    obtain ⟨raw', twin⟩ := w'.exists_twin hb
    exact twin.symm.accepted w hs hs'
      (h.references_accepted cell' slot raw' hslot' (twin.isAt ⟨b, hb, at_⟩))
  promises_accepted cell p id hp hcand := by
    obtain ⟨cell', hp'⟩ := w'.exists_promise hp
    obtain ⟨raw, hraw, passes⟩ := hcand
    have untransformed := plain.untransformed cell' p hp'
    rw [untransformed] at passes
    obtain rfl : id = raw := passes
    obtain ⟨a, ha⟩ := Option.isSome_iff_exists.1 hraw.isSome_get?
    obtain ⟨id', twin⟩ := w'.exists_twin ha
    have answers := twin.answers w hs (plain.conditions cell' p · · hp') hraw
    refine twin.symm.accepted w hs hs' (h.promises_accepted cell' p id' hp' ⟨id', answers, ?_⟩)
    rw [untransformed]
  hits_accepted cell l id b hl hb accepted := by
    obtain ⟨cell', hl'⟩ := w'.exists_list hl
    obtain ⟨id', twin⟩ := w'.exists_twin hb
    obtain ⟨a, ha, -⟩ := twin.isAt ⟨b, hb, rfl⟩
    have same := (twin.alike hb ha).toSameHeader
    exact twin.symm.accepted w hs hs' (h.hits_accepted cell' l id' a hl' ha
      (plain.lists cell' l hl' b a same ▸ accepted))

end Transfer

/-! ## Linked stores -/

/-- The promise of a cell is the one that its document has under the number. -/
theorem promise?_of_document {k : Nat} {d : DocumentStore} (hd : s.documents[k]? = some d)
    (i : Nat) : s.promise? ⟨k, i⟩ = d.promises[i]? := by
  rw [promise?, hd]
  rfl

/-- The same of a reference. -/
theorem reference?_of_document {k : Nat} {d : DocumentStore} (hd : s.documents[k]? = some d)
    (i : Nat) : s.reference? ⟨k, i⟩ = d.references[i]? := by
  rw [reference?, hd]
  rfl

/-- The same of a list. -/
theorem list?_of_document {k : Nat} {d : DocumentStore} (hd : s.documents[k]? = some d)
    (i : Nat) : s.list? ⟨k, i⟩ = d.lists[i]? := by
  rw [list?, hd]
  rfl

/-- Two cells are bound to artifacts at one place. -/
def BoundAlike (t t' : ArtifactStore) (binding binding' : Option ArtifactId) : Prop :=
  ∃ id id' place, binding = some id ∧ binding' = some id' ∧ t.IsAt id place ∧ t'.IsAt id' place

/-- Two cells are bound to the artifacts at the same places, in the orders of their stores. -/
def ListBoundAlike (t t' : ArtifactStore) (binding binding' : Option (List ArtifactId)) : Prop :=
  ∃ ids ids', binding = some ids ∧ binding' = some ids' ∧ t.InOrder ids ∧ t'.InOrder ids' ∧
    ∀ place, (∃ id ∈ ids, t.IsAt id place) ↔ ∃ id' ∈ ids', t'.IsAt id' place

/-- Every cell of a document is bound, and one of the other document under the same number is
bound to the same places. -/
structure CellsAgree (t t' : ArtifactStore) (d d' : DocumentStore) : Prop where
  promises : ∀ (i : Nat) (p : PromiseCell), d.promises[i]? = some p →
    ∃ p', d'.promises[i]? = some p' ∧ t.BoundAlike t' p.binding p'.binding
  references : ∀ (i : Nat) (slot : ReferenceSlot), d.references[i]? = some slot →
    ∃ slot', d'.references[i]? = some slot' ∧ t.BoundAlike t' slot.binding slot'.binding
  lists : ∀ (i : Nat) (l : ListCell), d.lists[i]? = some l →
    ∃ l', d'.lists[i]? = some l' ∧ t.ListBoundAlike t' l.binding l'.binding

/-- What a linked store says of places, the other one says as well. -/
structure Agrees (t t' : ArtifactStore) : Prop where
  cells : ∀ d ∈ t.documents, ∃ d' ∈ t'.documents, d'.document = d.document ∧
    t.CellsAgree t' d d'
  /-- The artifacts at a place are followed to artifacts at one place. -/
  targets : ∀ id place, t.IsAt id place → ∃ id' target target' last, t'.IsAt id' place ∧
    Graph.follow ⟨t⟩ id = .ok target ∧ Graph.follow ⟨t'⟩ id' = .ok target' ∧
    t.IsAt target last ∧ t'.IsAt target' last

section Linked

variable {u u' : ArtifactStore} (hs : s.WellFormed) (hs' : s'.WellFormed) (hu : s.Unbound)
  (hu' : s'.Unbound) (h : s.link = .linked u) (h' : s'.link = .linked u')

include hs hu h in
/-- Linking leaves all artifacts at their places. -/
theorem isAt_of_linked : u.IsAt id place ↔ s.IsAt id place := by
  rw [IsAt, IsAt, catalog_of_linked hs hu h]

include hs hu h in
/-- What a list is bound to is in the order of the store. -/
theorem inOrder_select (accepts : Artifact → Bool) : u.InOrder (s.catalog.select accepts) := by
  rw [InOrder, catalog_of_linked hs hu h]
  exact List.filter_sublist.map _

include hs hs' hu hu' h h'

/-- Twins are at one place in the linked stores. -/
theorem Twin.boundAlike {x x' : ArtifactId} (twin : s.Twin s' x x') :
    u.BoundAlike u' (some x) (some x') := by
  obtain ⟨a, a', ha, ha', alike⟩ := twin
  refine ⟨x, x', a.location, rfl, rfl, ?_, ?_⟩
  · rw [isAt_of_linked hs hu h]
    exact ⟨a, ha, rfl⟩
  · rw [isAt_of_linked hs' hu' h']
    exact ⟨a', ha', alike.location.symm⟩

variable (w : s.Within s') (w' : s'.Within s)

include w

/-- The bindings of a reference are at one place. -/
theorem reference_boundAlike {cell cell' : CellId} {slot : ReferenceSlot}
    (hslot : s.reference? cell = some slot) (hslot' : s'.reference? cell' = some slot) :
    ∃ q q', u.reference? cell = some q ∧ u'.reference? cell' = some q' ∧
      u.BoundAlike u' q.binding q'.binding := by
  obtain ⟨x, hx, bound⟩ := exists_binding_reference hs hu h hslot
  obtain ⟨x', hx', bound'⟩ := exists_binding_reference hs' hu' h' hslot'
  exact ⟨_, _, bound, bound', (w.twin_of_isAt hs' hx hx').boundAlike hs hs' hu hu' h h'⟩

include w'

/-- The bindings of a promise are at one place. -/
theorem promise_boundAlike (plain : s.Plain) {cell cell' : CellId} {p : PromiseCell}
    (hp : s.promise? cell = some p) (hp' : s'.promise? cell' = some p) :
    ∃ q q', u.promise? cell = some q ∧ u'.promise? cell' = some q' ∧
      u.BoundAlike u' q.binding q'.binding := by
  obtain ⟨x, ⟨raw, hraw, passes⟩, bound⟩ := exists_binding_promise hs hu h hp
  obtain ⟨x', ⟨raw', hraw', passes'⟩, bound'⟩ := exists_binding_promise hs' hu' h' hp'
  refine ⟨_, _, bound, bound', Twin.boundAlike hs hs' hu hu' h h' ?_⟩
  rw [plain.untransformed cell p hp] at passes passes'
  obtain rfl : x = raw := passes
  obtain rfl : x' = raw' := passes'
  obtain ⟨a, ha⟩ := Option.isSome_iff_exists.1 hraw.isSome_get?
  obtain ⟨y, twin⟩ := w.exists_twin ha
  obtain rfl := hs'.answers_unique (twin.answers w' hs' (plain.conditions cell p · · hp) hraw) hraw'
  exact twin

/-- The bindings of a promise of several artifacts are at the same places. -/
theorem list_boundAlike (plain : s.Plain) {cell cell' : CellId} {l : ListCell}
    (hl : s.list? cell = some l) (hl' : s'.list? cell' = some l) :
    ∃ q q', u.list? cell = some q ∧ u'.list? cell' = some q' ∧
      u.ListBoundAlike u' q.binding q'.binding := by
  refine ⟨_, _, binding_list hs hu h hl, binding_list hs' hu' h' hl', _, _, rfl, rfl,
    inOrder_select hs hu h _, inOrder_select hs' hu' h' _, fun place => ?_⟩
  simp only [Catalog.mem_select_iff hs.numbered.catalog,
    Catalog.mem_select_iff hs'.numbered.catalog, isAt_of_linked hs hu h, isAt_of_linked hs' hu' h']
  have looks := plain.lists cell l hl
  constructor
  · rintro ⟨id, ⟨a, ha, accepted⟩, at_⟩
    obtain ⟨id', twin⟩ := w.exists_twin ha
    obtain ⟨b, hb, -⟩ := twin.isAt ⟨a, ha, rfl⟩
    exact ⟨id', ⟨b, hb, looks a b (twin.alike ha hb).toSameHeader ▸ accepted⟩, twin.isAt at_⟩
  · rintro ⟨id', ⟨b, hb, accepted⟩, at_⟩
    obtain ⟨id, twin⟩ := w'.exists_twin hb
    obtain ⟨a, ha, -⟩ := twin.isAt ⟨b, hb, rfl⟩
    exact ⟨id, ⟨a, ha, looks b a (twin.alike hb ha).toSameHeader ▸ accepted⟩, twin.isAt at_⟩

/-- **Linked stores agree** where they hold the same documents. -/
theorem agrees_of_linked (plain : s.Plain) : u.Agrees u' where
  cells d hd := by
    obtain ⟨k, hk⟩ := List.mem_iff_getElem?.1 hd
    obtain ⟨d₀, hd₀, rfl⟩ := exists_document_of_linked hs hu h hk
    obtain ⟨k', d₀', hd₀', alike⟩ := w.exists_document hd₀
    have hk' : u'.documents[k']? = some (Linking.assignDocument (Linking.findings s') d₀') := by
      rw [documents_of_linked hs' hu' h', List.getElem?_map, hd₀', Option.map_some]
    refine ⟨_, List.mem_of_getElem? hk', alike.document.symm, fun i p hp => ?_,
      fun i slot hslot => ?_, fun i l hl => ?_⟩
    · obtain ⟨p₀, hp₀, -⟩ := Option.map_eq_some_iff.1 (Array.getElem?_mapIdx ▸ hp)
      rw [← promise?_of_document hk] at hp
      rw [← promise?_of_document hd₀] at hp₀
      have hp₀' : s'.promise? ⟨k', i⟩ = some p₀ := by
        rw [promise?_of_document hd₀', ← alike.promises, ← promise?_of_document hd₀, hp₀]
      obtain ⟨q, q', hq, hq', same⟩ := promise_boundAlike hs hs' hu hu' h h' w w' plain hp₀ hp₀'
      obtain rfl := Option.some.inj (hp.symm.trans hq)
      exact ⟨q', promise?_of_document hk' i ▸ hq', same⟩
    · obtain ⟨slot₀, hslot₀, -⟩ := Option.map_eq_some_iff.1 (Array.getElem?_mapIdx ▸ hslot)
      rw [← reference?_of_document hk] at hslot
      rw [← reference?_of_document hd₀] at hslot₀
      have hslot₀' : s'.reference? ⟨k', i⟩ = some slot₀ := by
        rw [reference?_of_document hd₀', ← alike.references, ← reference?_of_document hd₀, hslot₀]
      obtain ⟨q, q', hq, hq', same⟩ := reference_boundAlike hs hs' hu hu' h h' w hslot₀ hslot₀'
      obtain rfl := Option.some.inj (hslot.symm.trans hq)
      exact ⟨q', reference?_of_document hk' i ▸ hq', same⟩
    · obtain ⟨l₀, hl₀, -⟩ := Option.map_eq_some_iff.1 (Array.getElem?_mapIdx ▸ hl)
      rw [← list?_of_document hk] at hl
      rw [← list?_of_document hd₀] at hl₀
      have hl₀' : s'.list? ⟨k', i⟩ = some l₀ := by
        rw [list?_of_document hd₀', ← alike.lists, ← list?_of_document hd₀, hl₀]
      obtain ⟨q, q', hq, hq', same⟩ := list_boundAlike hs hs' hu hu' h h' w w' plain hl₀ hl₀'
      obtain rfl := Option.some.inj (hl.symm.trans hq)
      exact ⟨q', list?_of_document hk' i ▸ hq', same⟩
  targets id place at_ := by
    have clean := (hs.linkable_iff.1 (linkable_of_linked hs hu h)).2
    rw [isAt_of_linked hs hu h] at at_
    obtain ⟨a, ha, rfl⟩ := at_
    obtain ⟨id', twin⟩ := w.exists_twin ha
    obtain ⟨target, b, ends⟩ := hs.exists_endsAt clean (by rw [ha]; rfl)
    obtain ⟨target', b', ends', -, alike⟩ := twin.exists_endsAt w hs hs' ends
    refine ⟨id', target, target', b.location, ?_,
      Graph.follow_of_ends (Graph.ends_of_endsAt hs hu h ends),
      Graph.follow_of_ends (Graph.ends_of_endsAt hs' hu' h' ends'), ?_, ?_⟩
    · rw [isAt_of_linked hs' hu' h']
      exact twin.isAt ⟨a, ha, rfl⟩
    · rw [isAt_of_linked hs hu h]
      exact ⟨b, ends.artifact, rfl⟩
    · rw [isAt_of_linked hs' hu' h']
      exact ⟨b', ends'.artifact, alike.location.symm⟩

end Linked

/-! ## Reordered stores -/

/-- The same documents in any order are within each other, under whatever numbers. -/
theorem within_ofDocuments {ds : List DocumentStore} (order : ds.Perm s.documents) :
    s.Within (ofDocuments ds) ∧ (ofDocuments ds).Within s := by
  constructor
  · intro d hd
    obtain ⟨i, hi⟩ := List.mem_iff_getElem?.1 (order.mem_iff.2 hd)
    refine ⟨d.renumber i, ?_, d.alike_renumber i⟩
    rw [ofDocuments]
    exact List.mem_of_getElem? (i := i) (by rw [List.getElem?_mapIdx, hi, Option.map_some])
  · intro d hd
    obtain ⟨i, hi⟩ := List.mem_iff_getElem?.1 hd
    rw [ofDocuments, List.getElem?_mapIdx] at hi
    obtain ⟨d₀, hd₀, rfl⟩ := Option.map_eq_some_iff.1 hi
    exact ⟨d₀, order.mem_iff.1 (List.mem_of_getElem? hd₀), (d₀.alike_renumber i).symm⟩

/-- Documents that are put in an order have the numbers of their places. -/
theorem numbered_ofDocuments (ds : List DocumentStore) : (ofDocuments ds).Numbered := by
  intro i d hd
  rw [ofDocuments, List.getElem?_mapIdx] at hd
  obtain ⟨d₀, -, rfl⟩ := Option.map_eq_some_iff.1 hd
  rfl

/-- New numbers do not rename documents. -/
theorem names_ofDocuments (ds : List DocumentStore) :
    (ofDocuments ds).documents.map (·.document) = ds.map (·.document) := by
  refine List.ext_getElem? fun i => ?_
  rw [ofDocuments, List.getElem?_map, List.getElem?_mapIdx, List.getElem?_map, Option.map_map]
  rfl

/-- The documents of an assembled store in another order are as ready to be linked. -/
theorem Assembled.wellFormed_ofDocuments (hs : s.Assembled) {ds : List DocumentStore}
    (order : ds.Perm s.documents) : (ofDocuments ds).WellFormed ∧ (ofDocuments ds).Unbound := by
  obtain ⟨ds₀, each⟩ : ∃ ds₀, List.Forall₂ (fun d₀ d : DocumentStore =>
      (∃ vs, d₀.CompiledFrom vs) ∧ d₀.Extends d) ds₀ ds :=
    exists_forall₂ fun d hd => (hs.made d (order.mem_iff.1 hd)).exists_compiled
  have names : ds₀.map (·.document) = ds.map (·.document) :=
    map_eq_of_forall₂ each fun _ _ h => congrArg Shelf.document h.2.shelf
  have compiled : (ofDocuments ds₀).Compiled := by
    refine ⟨numbered_ofDocuments ds₀, ?_, fun d hd => ?_⟩
    · rw [names_ofDocuments, names, (order.map _).nodup_iff]
      exact hs.names_nodup
    · obtain ⟨i, hi⟩ := List.mem_iff_getElem?.1 hd
      rw [ofDocuments, List.getElem?_mapIdx] at hi
      obtain ⟨d₀, hd₀, rfl⟩ := Option.map_eq_some_iff.1 hi
      obtain ⟨d, -, ⟨vs, from_⟩, -⟩ := exists_right_of_forall₂ each (List.mem_of_getElem? hd₀)
      exact ⟨vs, from_.renumber⟩
  have ext : (ofDocuments ds₀).Extends (ofDocuments ds) :=
    ⟨forall₂_mapIdx each fun _ _ _ h => h.2.renumber⟩
  exact ⟨ext.wellFormed compiled (numbered_ofDocuments ds), ext.unbound compiled⟩

/-- **Linking does not depend on the order of documents.**  If the conditions of an assembled store
look at headers only and nothing is transformed, then the documents in any other order are linked
if the store is.  In the linked stores all cells are bound, cells that correspond to the same
places, and the artifacts at one place are followed to the same place. -/
theorem link_reordered (hs : s.Assembled) (plain : s.Plain) {ds : List DocumentStore}
    (order : ds.Perm s.documents) :
    ((∃ u, s.link = .linked u) ↔ ∃ u', (ofDocuments ds).link = .linked u') ∧
      ∀ u u', s.link = .linked u → (ofDocuments ds).link = .linked u' →
        u.Agrees u' ∧ u'.Agrees u := by
  obtain ⟨w, w'⟩ := within_ofDocuments order
  have plain' := w'.plain plain
  have wf := hs.wellFormed
  have unbound := hs.unbound
  obtain ⟨wf', unbound'⟩ := hs.wellFormed_ofDocuments order
  refine ⟨⟨?_, ?_⟩, fun u u' h h' => ⟨?_, ?_⟩⟩
  · rintro ⟨u, h⟩
    exact (w.linkable wf wf' w' plain (linkable_of_linked wf unbound h)).exists_linked wf' unbound'
  · rintro ⟨u', h'⟩
    exact (w'.linkable wf' wf w plain' (linkable_of_linked wf' unbound' h')).exists_linked wf unbound
  · exact agrees_of_linked wf wf' unbound unbound' h h' w w' plain
  · exact agrees_of_linked wf' wf unbound' unbound h' h w' w plain'

end ArtifactStore

/-! ## Two documents -/

/-- Whether an artifact is a visible server of a document is said by its header. -/
theorem looksAtHeader_isVisibleServer (document : String) :
    LooksAtHeader (Document.isVisibleServer document) := by
  intro a b same
  simp only [Document.isVisibleServer, same.kind, same.visible, same.location]

namespace Project

/-- The store of a project looks at headers only. -/
theorem Sources.plain {p : Project} {rootId : String} {root : Document} {s : ArtifactStore}
    (h : p.Sources rootId root s) : s.Plain where
  conditions cell c description accepts hc hq := by
    obtain ⟨place, e, edge, -, -, rfl⟩ := h.exists_edge hc
    cases hq
  lists cell l hl := by
    obtain ⟨document, condition, -⟩ := h.exists_lists hl
    rw [condition]
    exact looksAtHeader_isVisibleServer document
  untransformed cell c hc := by
    obtain ⟨place, e, edge, -, -, rfl⟩ := h.exists_edge hc
    rfl

/-- A document with a server, and with a channel that lists none. -/
def served : Document where
  servers := [("main", {})]
  channels := [("events", {})]

/-- A project with this document beside the root. -/
def paired : Project where
  settings := {}
  library := ofTable [("b", served)]

/-- A document that refers to the channel of the other one. -/
def referring : Document where
  channels := [("events", { reference := some "b#/channels/events" })]

/-- A project of two documents can be linked, the order of discovery being `a` before `b`. -/
theorem exists_linked_paired : ∃ s u, paired.compile "a" referring = .ok s ∧
    s.documents.map (·.document) = ["a", "b"] ∧ s.link = .linked u := by
  have clean : (paired.compile "a" referring).toOption.map
      (fun s => (s.findingsIn s.plainView).errors.isEmpty) = some true := by
    -- following keeps the references that it has seen in a set, which does not evaluate
    simp only [ArtifactStore.findingsIn, Linking.narrowReferences, Linking.narrowPromises,
      Linking.narrowLists, Linking.check, View.follow_eq_chase]
    decide +kernel
  have names : (paired.compile "a" referring).toOption.map
      (fun s => s.documents.map (·.document)) = some ["a", "b"] := by decide +kernel
  obtain ⟨s, hc, hl⟩ := exists_linked_of_clean clean
  rw [hc] at names
  exact ⟨s, _, hc, Option.some.inj names, hl⟩

end Project

/-- The two documents are linked in the other order as well, and the linked stores agree. -/
theorem ArtifactStore.link_reordered_paired : ∃ s u u' : ArtifactStore, s.Assembled ∧ s.Plain ∧
    s.documents.map (·.document) = ["a", "b"] ∧ s.documents.reverse.Perm s.documents ∧
    s.link = .linked u ∧ (ofDocuments s.documents.reverse).link = .linked u' ∧
    u.Agrees u' ∧ u'.Agrees u := by
  obtain ⟨s, u, hc, names, h⟩ := Project.exists_linked_paired
  have sources := Project.sources_of_compile hc
  have order := List.reverse_perm s.documents
  obtain ⟨linked, agree⟩ := link_reordered sources.assembled sources.plain order
  obtain ⟨u', h'⟩ := linked.1 ⟨u, h⟩
  exact ⟨s, u, u', sources.assembled, sources.plain, names, order, h, h', agree u u' h h'⟩

end ApiGraph
