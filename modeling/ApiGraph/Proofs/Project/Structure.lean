/-
# The structure of a project

Which entities stand where in a project is said by its documents (`Stands`), and the store that
is compiled from them has an artifact for every one of them (`Sources.exists_artifact`) and a
cell for every edge (`Sources.exists_promise`), and no others.

So structural edges always bind, and what is not found was named by somebody: by a reference,
by a channel that names its servers, or by an entity that requires a security scheme
(`structural_edges`).  A document that names nothing but what it has itself is linked whenever
it is compiled (`Sources.linkable`).
-/

import ApiGraph.Proofs.Compilation.Targets
import ApiGraph.Proofs.Linking.Outcome
import ApiGraph.Proofs.Project.Sources

namespace ApiGraph

open Document (Entity)
open Linking (view ask)

/-- Only servers have the kind of servers. -/
theorem Label.eq_server_of_kind {l : Label} (h : l.kind = .server) : l = .server := by
  cases l <;> first | rfl | cases h

namespace Document

/-- A document that names nothing but what it has itself: there are no references in it, its
channels name its own servers, and it requires its own security schemes. -/
structure SelfContained (d : Document) : Prop where
  plain : ∀ path e, (Entity.document d).Contains path e → e.reference? = none
  servers : ∀ path e, (Entity.document d).Contains path e → ∀ name ∈ e.serverNames,
    name ∈ d.servers.keys
  schemes : ∀ path e, (Entity.document d).Contains path e → ∀ name ∈ e.schemes,
    name ∈ d.components.toList.flatMap (·.securitySchemes.keys)

/-- Whether a document is self-contained is decided on a walk. -/
theorem selfContained_iff {d : Document} : d.SelfContained ↔
    ∀ x ∈ d.outline.entities [], x.2.reference? = none ∧
      (∀ name ∈ x.2.serverNames, name ∈ d.servers.keys) ∧
      ∀ name ∈ x.2.schemes, name ∈ d.components.toList.flatMap (·.securitySchemes.keys) := by
  constructor
  · rintro h ⟨path, e⟩ he
    rw [mem_entities_document_iff] at he
    exact ⟨h.plain path e he, h.servers path e he, h.schemes path e he⟩
  · intro h
    exact ⟨fun path e he => (h _ (mem_entities_document_iff.2 he)).1,
      fun path e he => (h _ (mem_entities_document_iff.2 he)).2.1,
      fun path e he => (h _ (mem_entities_document_iff.2 he)).2.2⟩

instance (d : Document) : Decidable d.SelfContained :=
  decidable_of_iff _ selfContained_iff.symm

/-- A document contains the servers of its table. -/
theorem contains_server {d : Document} {name : String} {server : Server}
    (h : (name, server) ∈ d.servers) :
    (Entity.document d).Contains ["servers", name] (.server server) := by
  refine .of_part ?_
  simp [Entity.parts, Entity.reference?, Entity.ownParts, Entity.partFields, Placed.ofFields,
    Placed.under, entryParts, h]

/-- A document contains the security schemes of its components. -/
theorem contains_securityScheme {d : Document} {c : Components} {name : String}
    {scheme : SecurityScheme} (hc : d.components = some c)
    (h : (name, scheme) ∈ c.securitySchemes) :
    (Entity.document d).Contains ["components", "securitySchemes", name]
      (.securityScheme scheme) := by
  refine .of_part ?_
  simp [Entity.parts, Entity.reference?, Entity.ownParts, Entity.partFields, Placed.ofFields,
    Placed.under, entryParts, Components.partFields, hc, h]

end Document

namespace Project

variable {p : Project} {rootId : String} {root : Document} {s : ArtifactStore} {e : Entity}
  {place : Location} {edge : Edge}

/-- The entity stands at the place, in a document of the project that the store was compiled
from. -/
def Stands (p : Project) (rootId : String) (root : Document) (s : ArtifactStore)
    (place : Location) (e : Entity) : Prop :=
  ∃ i store d, s.documents[i]? = some store ∧ store.document = place.document ∧
    p.Source rootId root i place.document d ∧ (Entity.document d).Contains place.segments e

/-! ## Entities and their artifacts -/

/-- Under its number a document has one source. -/
theorem Source.unique {i : Nat} {name : String} {d d' : Document}
    (h : p.Source rootId root i name d) (h' : p.Source rootId root i name d') : d = d' := by
  rw [Source] at h h'
  split at h
  · rw [if_pos ‹_›] at h'
    exact h.2.trans h'.2.symm
  · rw [if_neg ‹_›, h] at h'
    exact Except.ok.inj h'

/-- A document of the store was compiled from the visits of its source. -/
theorem Sources.compiledFrom (h : p.Sources rootId root s) {i : Nat} {store : DocumentStore}
    (hi : s.documents[i]? = some store) : ∃ d, p.Source rootId root i store.document d ∧
      store.index = i ∧ store.CompiledFrom (d.outline.visits []) := by
  obtain ⟨d, source, hc⟩ := h.compiled i store hi
  obtain ⟨index, -, compiled⟩ := Document.compiledFrom_of_compile hc
  exact ⟨d, source, index, compiled⟩

/-- What stands at a place was visited. -/
theorem Sources.exists_visit (h : p.Sources rootId root s)
    (hp : p.Stands rootId root s place e) :
    ∃ (i : Nat) (store : DocumentStore) (vs : List Visit) (v : Visit),
      s.documents[i]? = some store ∧ store.index = i ∧ store.CompiledFrom vs ∧ v ∈ vs ∧
      v.entity = e ∧ v.place store.document = place := by
  obtain ⟨i, store, d, hi, name, source, contains⟩ := hp
  obtain ⟨d', source', index, compiled⟩ := h.compiledFrom hi
  obtain rfl := source.unique (name ▸ source')
  obtain ⟨v, hv, placed⟩ := Document.exists_visit_iff.2 contains
  obtain ⟨hpath, he⟩ := Prod.mk.inj placed
  exact ⟨i, store, _, v, hi, index, compiled, hv, he, by rw [Visit.place, hpath, name]⟩

/-- What was visited stands at its place. -/
theorem Sources.stands_of_visit (h : p.Sources rootId root s) {i : Nat} {store : DocumentStore}
    (hi : s.documents[i]? = some store) : ∃ vs, store.index = i ∧ store.CompiledFrom vs ∧
      ∀ v ∈ vs, p.Stands rootId root s (v.place store.document) v.entity := by
  obtain ⟨d, source, index, compiled⟩ := h.compiledFrom hi
  exact ⟨_, index, compiled, fun v hv => ⟨i, store, d, hi, rfl, source,
    Document.exists_visit_iff.1 ⟨v, hv, rfl⟩⟩⟩

/-- Every entity has an artifact. -/
theorem Sources.exists_artifact (h : p.Sources rootId root s)
    (hp : p.Stands rootId root s place e) :
    ∃ id a, s.catalog.get? id = some a ∧ a.Depicts place e := by
  obtain ⟨i, store, vs, v, hi, -, compiled, hv, rfl, rfl⟩ := h.exists_visit hp
  obtain ⟨a, ha, rep⟩ := exists_right_of_forall₂ compiled.artifacts hv
  obtain ⟨n, hn⟩ := List.mem_iff_getElem?.1 ha
  rw [Array.getElem?_toList] at hn
  exact ⟨⟨i, n⟩, a, ArtifactStore.get?_eq_some_iff.2 ⟨store, hi, hn⟩, rep.depicts⟩

/-- Every artifact has its entity. -/
theorem Sources.exists_entity (h : p.Sources rootId root s) {id : ArtifactId} {a : Artifact}
    (ha : s.catalog.get? id = some a) :
    ∃ e, p.Stands rootId root s a.location e ∧ a.Depicts a.location e := by
  obtain ⟨store, hi, hn⟩ := ArtifactStore.get?_eq_some_iff.1 ha
  obtain ⟨vs, -, compiled, stands⟩ := h.stands_of_visit hi
  obtain ⟨v, hv, rep⟩ := compiled.exists_visit hn
  exact ⟨v.entity, rep.location ▸ stands v hv, rep.location ▸ rep.depicts⟩

/-! ## Edges and their cells -/

/-- Every edge has a promise. -/
theorem Sources.exists_promise (h : p.Sources rootId root s)
    (hp : p.Stands rootId root s place e) (he : edge ∈ e.edges place) :
    ∃ cell, s.promise? cell = some (edge.cell place) := by
  obtain ⟨i, store, vs, v, hi, -, compiled, hv, rfl, rfl⟩ := h.exists_visit hp
  have mem : edge.cell (v.place store.document) ∈ store.promises.toList := by
    rw [compiled.promises]
    exact List.mem_flatMap.2 ⟨v, hv, List.mem_map_of_mem he⟩
  obtain ⟨n, hn⟩ := List.mem_iff_getElem?.1 mem
  rw [Array.getElem?_toList] at hn
  refine ⟨⟨i, n⟩, ?_⟩
  rw [ArtifactStore.promise?, hi]
  exact hn

/-- Every promise is that of an edge. -/
theorem Sources.exists_edge (h : p.Sources rootId root s) {cell : CellId} {c : PromiseCell}
    (hc : s.promise? cell = some c) : ∃ place e edge, p.Stands rootId root s place e ∧
      edge ∈ e.edges place ∧ c = edge.cell place := by
  obtain ⟨store, hi, hn⟩ := Option.bind_eq_some_iff.1 hc
  obtain ⟨vs, -, compiled, stands⟩ := h.stands_of_visit hi
  obtain ⟨v, hv, edge, he, rfl⟩ := compiled.exists_edge hn
  exact ⟨_, v.entity, edge, stands v hv, he, rfl⟩

/-- Every slot is that of a reference. -/
theorem Sources.exists_slot (h : p.Sources rootId root s) {cell : CellId} {slot : ReferenceSlot}
    (hc : s.reference? cell = some slot) : ∃ e, p.Stands rootId root s slot.origin e ∧
      ∃ reference, e.reference? = some reference ∧
        Location.ofReference slot.origin.document reference = .ok slot.target := by
  obtain ⟨store, hi, hn⟩ := Option.bind_eq_some_iff.1 hc
  obtain ⟨vs, -, compiled, stands⟩ := h.stands_of_visit hi
  obtain ⟨v, hv, mem⟩ := compiled.exists_slot hn
  obtain ⟨origin, -, reference, href, ht⟩ := Entity.of_mem_slots mem
  rw [origin]
  exact ⟨v.entity, stands v hv, reference, href, ht⟩

/-- Every promise of several artifacts is one of visible servers. -/
theorem Sources.exists_lists (h : p.Sources rootId root s) {cell : CellId} {l : ListCell}
    (hc : s.list? cell = some l) :
    ∃ document, l.accepts = Document.isVisibleServer document ∧ l.expects = .entity .server := by
  obtain ⟨store, hi, hn⟩ := Option.bind_eq_some_iff.1 hc
  obtain ⟨vs, -, compiled, -⟩ := h.stands_of_visit hi
  obtain ⟨v, -, mem⟩ := compiled.exists_list hn
  obtain ⟨accepts, expects, -⟩ := Entity.of_mem_lists mem
  exact ⟨_, accepts, expects⟩

/-- Where structural edges lead, something stands. -/
theorem Stands.exists_target (hp : p.Stands rootId root s place e) (he : edge ∈ e.edges place)
    (structural : edge.Structural) :
    ∃ e', p.Stands rootId root s edge.target e' ∧ edge.label = e'.label := by
  obtain ⟨i, store, d, hi, name, source, contains⟩ := hp
  obtain ⟨path', e', contains', htarget, hlabel⟩ := contains.exists_target he structural
  exact ⟨e', ⟨i, store, d, hi, by rw [htarget, name], by rw [htarget]; exact source,
    by rw [htarget]; exact contains'⟩, hlabel⟩

/-- A structural edge finds an artifact for what it promises. -/
theorem Sources.exists_ask (h : p.Sources rootId root s) (hp : p.Stands rootId root s place e)
    (he : edge ∈ e.edges place) (structural : edge.Structural) :
    ∃ id a e', ask (view s) (edge.cell place).query = some id ∧ s.catalog.get? id = some a ∧
      p.Stands rootId root s edge.target e' ∧ edge.label = e'.label ∧ a.Depicts edge.target e' := by
  obtain ⟨e', hp', hlabel⟩ := hp.exists_target he structural
  obtain ⟨id, a, ha, depicts⟩ := h.exists_artifact hp'
  exact ⟨id, a, e', h.store.wellFormed.ask_eq_some_iff.2 ⟨a, ha, depicts.location⟩, ha, hp',
    hlabel, depicts⟩

/-- Where nothing is found although an entity asks for it, it was named by the entity: as a
reference, as one of the servers of a channel, or as a security scheme. -/
inductive Named (place : Location) (e : Entity) (target : Location) : Prop
  | reference (reference : String) : e.reference? = some reference →
      Location.ofReference place.document reference = .ok target → Named place e target
  | server (name : String) : name ∈ e.serverNames →
      target = ⟨place.document, ["servers", name]⟩ → Named place e target
  | scheme (name : String) : name ∈ e.schemes →
      target = ⟨place.document, ["components", "securitySchemes", name]⟩ → Named place e target

/-- What a link does not find was named. -/
theorem Sources.named_of_notFound (h : p.Sources rootId root s) {errors : List LinkError}
    (hl : s.link = .failed errors) {origin target : Location} {suggestion : Option String}
    (mem : .notFound origin target suggestion ∈ errors) :
    ∃ e, p.Stands rootId root s origin e ∧ Named origin e target := by
  have hs := h.store
  obtain ⟨culprit, reports⟩ := ArtifactStore.exists_reports_of_failed hs.wellFormed hs.unbound hl mem
  cases reports with
  | missing hslot none =>
    obtain ⟨e, hp, reference, plain, ht⟩ := h.exists_slot hslot
    exact ⟨e, hp, .reference reference plain ht⟩
  | notFound hc hq none =>
    obtain ⟨place, e, edge, hp, he, rfl⟩ := h.exists_edge hc
    obtain rfl := Query.path.inj hq
    refine ⟨e, hp, ?_⟩
    rcases Document.Entity.leads_of_mem_edges he with ⟨rel, e', hpart, rfl⟩ |
      ⟨o, owner, rfl, howner, rfl⟩ | ⟨name, hname, rfl⟩ | ⟨name, hname, rfl⟩
    · obtain ⟨id, a, e', asked, ha, -, -, depicts⟩ := h.exists_ask hp he (.inl rfl)
      exact absurd ⟨id, a, ha, depicts.location⟩ none
    · obtain ⟨id, a, e', asked, ha, -, -, depicts⟩ := h.exists_ask hp he (.inr rfl)
      exact absurd ⟨id, a, ha, depicts.location⟩ none
    · exact .server name hname rfl
    · exact .scheme name hname rfl

/-! ## Documents that name nothing but what they have -/

/-- A self-contained document mentions no other one. -/
theorem externals_eq_nil {store : DocumentStore} (hr : root.SelfContained)
    (compiled : store.CompiledFrom (root.outline.visits [])) : store.externals = [] := by
  refine List.eq_nil_iff_forall_not_mem.2 fun name hname => ?_
  rw [compiled.externals, List.mem_eraseDups, mem_otherDocuments] at hname
  obtain ⟨other, target, ht, rfl⟩ := hname
  obtain ⟨v, hv, ht⟩ := List.mem_flatMap.1 ht
  rcases List.mem_append.1 ht with ht | ht
  · obtain ⟨edge, he, rfl⟩ := List.mem_map.1 ht
    refine other ?_
    rcases Document.Entity.leads_of_mem_edges he with ⟨rel, e', hpart, rfl⟩ |
      ⟨o, owner, ho, howner, rfl⟩ | ⟨name, hname, rfl⟩ | ⟨name, hname, rfl⟩
    · rfl
    · rw [Location.parent?] at howner
      split at howner <;> cases howner
      rfl
    · rfl
    · rfl
  · obtain ⟨slot, hslot, rfl⟩ := List.mem_map.1 ht
    obtain ⟨-, -, reference, href, -⟩ := Entity.of_mem_slots hslot
    rw [hr.plain _ _ (Document.exists_visit_iff.1 ⟨v, hv, rfl⟩)] at href
    cases href

/-- Its project has no other document. -/
theorem documents_of_selfContained (hr : root.SelfContained)
    (h : p.compile rootId root = .ok s) : ∃ store, s.documents = [store] := by
  rw [Project.compile] at h
  cases hn : p.compileNext (Path.normalize rootId) root {} ⟨[Path.normalize rootId], []⟩ with
  | error e => rw [hn] at h; cases h
  | ok next =>
    obtain ⟨s₁, a₁⟩ := next
    rw [hn] at h
    obtain ⟨store, hc, rfl, rfl, -⟩ := compileNext_eq_ok hn ⟨by simp, by simp⟩
    have externals := externals_eq_nil hr (Document.compiledFrom_of_compile hc).2.2
    rw [externals] at h
    simp only [Agenda.mentionAll, List.foldl_nil, bind, Except.bind, compilePending] at h
    cases h
    exact ⟨store, rfl⟩

/-- **Where there are no references, and edges lead to entities, everything can be linked.** -/
theorem Sources.linkable (h : p.Sources rootId root s)
    (plain : ∀ place e, p.Stands rootId root s place e → e.reference? = none)
    (targets : ∀ place e edge, p.Stands rootId root s place e → edge ∈ e.edges place →
      ∃ e', p.Stands rootId root s edge.target e' ∧ edge.label = e'.label) : s.Linkable := by
  have hs := h.store
  have concrete : ∀ id a, s.catalog.get? id = some a → ∃ e, a.Depicts a.location e ∧
      a.body.label? = some e.label := by
    intro id a ha
    obtain ⟨e, hp, depicts⟩ := h.exists_entity ha
    exact ⟨e, depicts, by rw [depicts.label, plain _ _ hp]; rfl⟩
  have ends : ∀ id a, s.catalog.get? id = some a → s.EndsAt id id a := by
    intro id a ha
    obtain ⟨e, -, label⟩ := concrete id a ha
    exact ⟨.refl, ha, by rw [Body.isReference, label]; rfl⟩
  have noSlot : ∀ cell slot, s.reference? cell ≠ some slot := by
    intro cell slot hslot
    obtain ⟨e, hp, reference, hr, -⟩ := h.exists_slot hslot
    rw [plain _ _ hp] at hr
    cases hr
  have untransformed : ∀ cell c, s.promise? cell = some c → c.transform = none := by
    intro cell c hc
    obtain ⟨place, e, edge, -, -, rfl⟩ := h.exists_edge hc
    rfl
  constructor
  · exact fun cell slot hslot => absurd hslot (noSlot cell slot)
  · intro cell c target hc hq
    obtain ⟨place, e, edge, hp, he, rfl⟩ := h.exists_edge hc
    obtain ⟨e', hp', -⟩ := targets place e edge hp he
    obtain ⟨id, a, ha, depicts⟩ := h.exists_artifact hp'
    exact ⟨id, a, ha, depicts.location.trans (Query.path.inj hq)⟩
  · intro cell c description accepts hc hq
    obtain ⟨place, e, edge, hp, he, rfl⟩ := h.exists_edge hc
    cases hq
  · intro id cycle
    obtain ⟨next, ⟨_, _, slot, _, -, -, hslot, -⟩, -⟩ := Relation.TransGen.head'_iff.1 cycle
    exact noSlot _ slot hslot
  · intro cell c f raw hc hf
    rw [untransformed cell c hc] at hf
    cases hf
  · exact fun cell slot raw hslot => absurd hslot (noSlot cell slot)
  · intro cell c id hc hcand
    obtain ⟨raw, hraw, passes⟩ := hcand
    rw [untransformed cell c hc] at passes
    obtain rfl : id = raw := passes
    obtain ⟨place, e, edge, hp, he, rfl⟩ := h.exists_edge hc
    obtain ⟨e', hp', hlabel⟩ := targets place e edge hp he
    obtain ⟨a, ha, hl⟩ : ∃ a, s.catalog.get? id = some a ∧ a.location = edge.target := hraw
    obtain ⟨id', a', ha', depicts⟩ := h.exists_artifact hp'
    obtain rfl := hs.wellFormed.location_inj ha ha' (hl.trans depicts.location.symm)
    obtain rfl := Option.some.inj (ha.symm.trans ha')
    refine ⟨id, a, ends id a ha, ?_⟩
    simp [Edge.cell, Expectation.accepts, depicts.label, plain _ _ hp', hlabel]
  · intro cell l id b hl hb accepted
    refine ⟨id, b, ends id b hb, ?_⟩
    obtain ⟨document, condition, expects⟩ := h.exists_lists hl
    obtain ⟨e, depicts, label⟩ := concrete id b hb
    have server : e.label.kind = .server := by
      rw [condition, Document.isVisibleServer] at accepted
      simp only [Bool.and_eq_true, beq_iff_eq] at accepted
      rw [← depicts.kind, accepted.1.1.1]
    simp [expects, Expectation.accepts, label, Label.eq_server_of_kind server]

/-- In the project of a self-contained document stands what the document contains. -/
theorem stands_iff_of_selfContained (hr : root.SelfContained)
    (h : p.compile rootId root = .ok s) : p.Stands rootId root s place e ↔
      place.document = Path.normalize rootId ∧
        (Entity.document root).Contains place.segments e := by
  obtain ⟨store, single⟩ := documents_of_selfContained hr h
  have hstore : s.documents[0]? = some store := by rw [single]; rfl
  constructor
  · rintro ⟨i, store', d, hi, name, source, contains⟩
    have first : i = 0 := by
      have := (List.getElem?_eq_some_iff.1 hi).1
      rw [single, List.length_singleton] at this
      omega
    subst first
    obtain ⟨hname, rfl⟩ : _ ∧ d = root := by simpa [Source] using source
    exact ⟨hname, contains⟩
  · rintro ⟨name, contains⟩
    obtain ⟨d, source, -⟩ := (sources_of_compile h).compiled 0 store hstore
    obtain ⟨hname, -⟩ : store.document = Path.normalize rootId ∧ _ := by
      simpa [Source] using source
    exact ⟨0, store, root, hstore, hname.trans name.symm, by simp [Source, name], contains⟩

/-- **A self-contained document is linked** whenever it is compiled. -/
theorem exists_build_of_selfContained (hr : root.SelfContained)
    (h : p.compile rootId root = .ok s) : ∃ g, p.build rootId root = .ok g := by
  have sources := sources_of_compile h
  have linkable : s.Linkable := by
    refine sources.linkable (fun place e hp =>
      hr.plain _ _ ((stands_iff_of_selfContained hr h).1 hp).2) ?_
    intro place e edge hp he
    obtain ⟨name, contains⟩ := (stands_iff_of_selfContained hr h).1 hp
    rcases Document.Entity.leads_of_mem_edges he with ⟨rel, e', hpart, rfl⟩ |
      ⟨o, owner, rfl, howner, rfl⟩ | ⟨server, hserver, rfl⟩ | ⟨scheme, hscheme, rfl⟩
    · exact hp.exists_target he (.inl rfl)
    · exact hp.exists_target he (.inr rfl)
    · obtain ⟨⟨_, x⟩, hx, rfl⟩ := List.mem_map.1 (hr.servers _ e contains server hserver)
      exact ⟨.server x, (stands_iff_of_selfContained hr h).2 ⟨name, Document.contains_server hx⟩,
        rfl⟩
    · obtain ⟨components, hc, hscheme⟩ :=
        List.mem_flatMap.1 (hr.schemes _ e contains scheme hscheme)
      obtain ⟨⟨_, x⟩, hx, rfl⟩ := List.mem_map.1 hscheme
      exact ⟨.securityScheme x, (stands_iff_of_selfContained hr h).2
        ⟨name, Document.contains_securityScheme (Option.mem_toList.1 hc) hx⟩, rfl⟩
  have hs := sources.store
  obtain ⟨t, ht⟩ := linkable.exists_linked hs.wellFormed hs.unbound
  exact ⟨⟨t⟩, build_of_linked h ht⟩

/-- **Structural edges always bind.**  Every promise of a compiled store is that of an edge, and
every edge has its promise.  What leads to a part of an entity, or to the channel around an
operation, finds an artifact there, of the kind that is promised.  So what is not found was named:
by a reference, by a channel that lists servers, or by a security requirement.  A document that
names nothing but what it has itself is linked whenever it is compiled. -/
theorem structural_edges_bind (h : p.compile rootId root = .ok s) :
    (∀ cell c, s.promise? cell = some c → ∃ place e edge, p.Stands rootId root s place e ∧
      edge ∈ e.edges place ∧ c = edge.cell place) ∧
    (∀ place e edge, p.Stands rootId root s place e → edge ∈ e.edges place →
      (∃ cell, s.promise? cell = some (edge.cell place)) ∧
      (edge.Structural → ∃ id a e', ask (view s) (edge.cell place).query = some id ∧
        s.catalog.get? id = some a ∧ p.Stands rootId root s edge.target e' ∧
        edge.label = e'.label ∧ a.Depicts edge.target e')) ∧
    (∀ errors origin target suggestion, s.link = .failed errors →
      .notFound origin target suggestion ∈ errors →
      ∃ e, p.Stands rootId root s origin e ∧ Named origin e target) ∧
    (root.SelfContained → ∃ g, p.build rootId root = .ok g) := by
  have sources := sources_of_compile h
  refine ⟨fun cell c => sources.exists_edge, fun place e edge hp he => ?_, ?_, ?_⟩
  · exact ⟨sources.exists_promise hp he, sources.exists_ask hp he⟩
  · exact fun errors origin target suggestion hl mem => sources.named_of_notFound hl mem
  · exact fun hr => exists_build_of_selfContained hr h

/-- A project without other documents, options and builders. -/
def plain : Project where
  settings := {}
  library := .empty

/-- An operation that publishes a message with a payload. -/
def greet : Document.Operation where
  message := some (.single { payload := some { type := some (.single "string") } })

/-- A channel for it. -/
def hello : Document.Channel where
  servers := some ["main"]
  publish := some greet

/-- A document with the channel, on a secured server. -/
def greeting : Document where
  servers := [("main", { security := [[("key", [])]] })]
  channels := [("hello", hello)]
  components := some { securitySchemes := [("key", { type := "apiKey" })] }

/-- The document `greeting` refers to nothing outside. -/
theorem selfContained_greeting : greeting.SelfContained := by decide +kernel

/-- Its channel can be published to. -/
theorem contains_greet :
    (Entity.document greeting).Contains ["channels", "hello", "publish"] (.operation greet) := by
  have channel : (["channels", "hello"], .channel hello) ∈ (Entity.document greeting).parts := by
    simp [Entity.parts, Entity.reference?, Entity.ownParts, Entity.partFields,
      Document.Placed.ofFields, Document.Placed.under, Document.entryParts, greeting]
  have operation : (["publish"], .operation greet) ∈ (Entity.channel hello).parts := by
    simp [Entity.parts, Entity.reference?, Entity.ownParts, Entity.partFields,
      Document.Placed.ofFields, Document.Placed.under, Document.optionParts, hello]
  exact .part channel (.of_part operation)

/-- It compiles. -/
theorem exists_store_greeting : ∃ s, plain.compile "a" greeting = .ok s := by
  have compiled : (plain.compile "a" greeting).toOption.isSome := by decide +kernel
  cases h : plain.compile "a" greeting with
  | ok s => exact ⟨s, rfl⟩
  | error e => rw [h] at compiled; cases compiled

/-- The edge of the operation to its channel binds, and the document is linked. -/
theorem structural_edges_bind_greeting : ∃ s id, plain.compile "a" greeting = .ok s ∧
    plain.Stands "a" greeting s ⟨"a", ["channels", "hello", "publish"]⟩ (.operation greet) ∧
    ask (view s) (.path ⟨"a", ["channels", "hello"]⟩) = some id ∧ greeting.SelfContained ∧
    ∃ g, plain.build "a" greeting = .ok g := by
  obtain ⟨s, hs⟩ := exists_store_greeting
  have stands : plain.Stands "a" greeting s ⟨"a", ["channels", "hello", "publish"]⟩
      (.operation greet) :=
    (stands_iff_of_selfContained selfContained_greeting hs).2 ⟨by decide, contains_greet⟩
  have owner : ⟨.channel, ⟨"a", ["channels", "hello"]⟩, .owner⟩ ∈
      (Entity.operation greet).edges ⟨"a", ["channels", "hello", "publish"]⟩ :=
    List.mem_cons_self
  obtain ⟨-, edges, -, linked⟩ := structural_edges_bind hs
  obtain ⟨id, a, e', asked, -⟩ := (edges _ _ _ stands owner).2 (.inr rfl)
  exact ⟨s, id, hs, stands, asked, selfContained_greeting, linked selfContained_greeting⟩

end Project
end ApiGraph
