/-
# Unknown protocols in a project

What it does to a project if one of its documents is changed in a way that its compilation hardly
notices.  The changed project mentions the same documents, so it compiles them in the same order,
and its store has the same stores in it, up to what was noticed (`exists_compile_of_forall₂`).

An entry for an unknown protocol is such a change: only the diagnostics of the one document gain a
warning.  Linking and selection do not read diagnostics, so nothing else comes of it
(`Project.unknown_protocol_tolerated`).
-/

import ApiGraph.Proofs.Compilation.UnknownProtocols
import ApiGraph.Proofs.Graph.Diagnostics
import ApiGraph.Proofs.Linking.Outcome
import ApiGraph.Proofs.Project.Discovery
import ApiGraph.Proofs.Project.Variants

namespace ApiGraph

open Document (Entity Bindings BindingsKind)

/-! ## Changing a document -/

/-- The library with another document under a name that has one. -/
def Library.modify (l : Library) (name : String) (change : Document → Document) : Library where
  resolve n := if n = name then change <$> l.resolve n else l.resolve n
  size := l.size
  length_le_size names distinct found := by
    refine l.length_le_size names distinct fun n hn => ?_
    obtain ⟨d, hd⟩ := found n hn
    split at hd
    · obtain ⟨d', hd', -⟩ := map_eq_ok_iff.1 hd
      exact ⟨d', hd'⟩
    · exact ⟨d, hd⟩

namespace Project

/-- The project and its root document after a change of the document of a name. -/
def modify (p : Project) (rootId : String) (root : Document) (name : String)
    (change : Document → Document) : Project × Document :=
  if name = Path.normalize rootId then (p, change root)
  else ({ p with library := p.library.modify name change }, root)

section Parallel

variable {p p' : Project} {rootId : String} {root root' : Document}
  {R : DocumentStore → DocumentStore → Prop}

/-- The stores that one document compiles to are related to those that the other one does. -/
def Follows (p p' : Project) (R : DocumentStore → DocumentStore → Prop) (name : String)
    (d d' : Document) : Prop :=
  ∀ index store, d.compile p.settings index name = .ok store →
    ∃ store', d'.compile p'.settings index name = .ok store' ∧ R store store'

/-- The next document is compiled in both projects, and the stores stay related. -/
theorem exists_compileNext_of_follows {name : String} {d d' : Document} {s t : ArtifactStore}
    {a b : Agenda} (s' : ArtifactStore) (externals : ∀ x y, R x y → y.externals = x.externals)
    (follows : p.Follows p' R name d d') (stores : List.Forall₂ R s.documents s'.documents)
    (h : p.compileNext name d s a = .ok (t, b)) :
    ∃ t', p'.compileNext name d' s' a = .ok (t', b) ∧
      List.Forall₂ R t.documents t'.documents := by
  obtain ⟨store, hc, h⟩ := bind_eq_ok_iff.1 h
  cases h
  obtain ⟨store', hc', related⟩ := follows _ store hc
  have index : s'.nextIndex = s.nextIndex := stores.length_eq.symm
  refine ⟨⟨s'.documents ++ [store']⟩, bind_eq_ok_iff.2 ⟨store', index ▸ hc', ?_⟩,
    List.rel_append stores (.cons related .nil)⟩
  rw [externals _ _ related]
  rfl

/-- **Documents that follow one by one** are compiled one after the other. -/
theorem exists_compilePending_of_follows (externals : ∀ x y, R x y → y.externals = x.externals)
    (library : ∀ name d, name ≠ Path.normalize rootId → p.library.resolve name = .ok d →
      ∃ d', p'.library.resolve name = .ok d' ∧ p.Follows p' R name d d') :
    ∀ (limit : Nat) (s s' : ArtifactStore) (a : Agenda) {t : ArtifactStore},
      p.Sources rootId root s → Path.normalize rootId ∈ s.documents.map (·.document) →
      a.Fits (s.documents.map (·.document)) → List.Forall₂ R s.documents s'.documents →
      p.compilePending limit s a = .ok t →
      ∃ t', p'.compilePending limit s' a = .ok t' ∧ List.Forall₂ R t.documents t'.documents
  | 0, s, s', a, t, _, _, _, stores, h => by
    cases h
    exact ⟨s', rfl, stores⟩
  | limit + 1, s, s', a, t, sources, started, fits, stores, h => by
    rw [compilePending] at h ⊢
    cases pending : a.pending with
    | nil =>
      rw [pending] at h
      cases h
      exact ⟨s', rfl, stores⟩
    | cons name rest =>
      rw [pending] at h
      simp only at h ⊢
      cases resolved : p.library.resolve name with
      | error e =>
        rw [resolved] at h
        cases h
      | ok d =>
        rw [resolved] at h
        simp only at h
        obtain ⟨⟨s₁, a₁⟩, hn, h⟩ := bind_eq_ok_iff.1 h
        -- the agenda keeps the name of the root from coming up again
        have other : name ≠ Path.normalize rootId := by
          rintro rfl
          have nodup := fits.nodup
          rw [pending, List.nodup_append] at nodup
          exact nodup.2.2 _ started _ List.mem_cons_self rfl
        obtain ⟨d', resolved', follows⟩ := library name d other resolved
        obtain ⟨s₁', hn', stores'⟩ := exists_compileNext_of_follows s' externals follows stores hn
        have started' : s.documents ≠ [] := by
          intro none
          rw [none] at started
          cases started
        obtain ⟨sources₁, fits₁, store, -, rfl, -⟩ :=
          sources.next started' fits pending resolved hn
        have root : Path.normalize rootId ∈ (s.documents ++ [store]).map (·.document) := by
          rw [List.map_append]
          exact List.mem_append_left _ started
        obtain ⟨t', ht, related⟩ := exists_compilePending_of_follows externals library limit _ s₁'
          a₁ sources₁ root fits₁ stores' h
        rw [resolved']
        exact ⟨t', bind_eq_ok_iff.2 ⟨_, hn', ht⟩, related⟩

/-- **Projects whose documents follow one by one** compile to stores that are related. -/
theorem exists_compile_of_follows {s : ArtifactStore}
    (externals : ∀ x y, R x y → y.externals = x.externals)
    (size : p'.library.size = p.library.size)
    (first : p.Follows p' R (Path.normalize rootId) root root')
    (library : ∀ name d, name ≠ Path.normalize rootId → p.library.resolve name = .ok d →
      ∃ d', p'.library.resolve name = .ok d' ∧ p.Follows p' R name d d')
    (h : p.compile rootId root = .ok s) :
    ∃ s', p'.compile rootId root' = .ok s' ∧ List.Forall₂ R s.documents s'.documents := by
  obtain ⟨⟨s₁, a₁⟩, hn, h⟩ := bind_eq_ok_iff.1 h
  obtain ⟨s₁', hn', stores⟩ := exists_compileNext_of_follows {} externals first .nil hn
  obtain ⟨sources, fits, store, hc, rfl, -⟩ := sources_compileNext hn
  have started : Path.normalize rootId ∈ [store].map (·.document) := by
    rw [List.map_singleton, (Document.compiledFrom_of_compile hc).2.1]
    exact List.mem_singleton_self _
  obtain ⟨s', hs', related⟩ := exists_compilePending_of_follows externals library _ _ s₁' a₁
    sources started fits stores h
  refine ⟨s', bind_eq_ok_iff.2 ⟨_, hn', ?_⟩, related⟩
  rw [size]
  exact hs'

end Parallel
end Project

/-! ## One document with more diagnostics -/

/-- The store `s'` is `s`, but for one document: there is `more` among the diagnostics of the
document that has the name. -/
def ArtifactStore.Noted (name : String) (more : List Diagnostic) (s s' : ArtifactStore) : Prop :=
  ∃ before d after ds, s.documents = before ++ d :: after ∧ d.document = name ∧
    Diagnostic.Inserted more d.diagnostics ds ∧
    s'.documents = before ++ { d with diagnostics := ds } :: after

namespace ArtifactStore

variable {name : String} {more : List Diagnostic} {s s' : ArtifactStore}

/-- Stores that differ in diagnostics only are the same without them. -/
theorem Noted.silent (h : s.Noted name more s') : s'.silent = s.silent := by
  obtain ⟨before, d, after, ds, hs, -, -, hs'⟩ := h
  rw [ArtifactStore.silent, ArtifactStore.silent, hs, hs', List.map_append, List.map_append]
  rfl

/-- Linking assigns its findings to the documents. -/
theorem documents_of_link {t : ArtifactStore} (h : s.link = .linked t) :
    t.documents = s.documents.map (Linking.assignDocument (Linking.findings s)) := by
  rw [ArtifactStore.link, Linking.run] at h
  split at h
  · cases h
  · split at h
    · split at h
      · cases h
      · cases h
        rfl
    · cases h

/-- What is linked differs in the same way, and what cannot be linked fails in the same way. -/
theorem Noted.link (h : s.Noted name more s') :
    (∀ t, s.link = .linked t → ∃ t', s'.link = .linked t' ∧ t.Noted name more t') ∧
      ∀ errors, s.link = .failed errors → s'.link = .failed errors := by
  have same : s'.link.silent = s.link.silent := by
    rw [← link_silent, ← link_silent, h.silent]
  constructor
  · intro t ht
    have found : Linking.findings s' = Linking.findings s := by
      rw [← Linking.findings_silent, h.silent, Linking.findings_silent]
    obtain ⟨t', ht'⟩ : ∃ t', s'.link = .linked t' := by
      rw [ht] at same
      cases hl : s'.link with
      | linked t' => exact ⟨t', rfl⟩
      | failed errors => rw [hl] at same; cases same
      | boundTwice origin => rw [hl] at same; cases same
      | astray id => rw [hl] at same; cases same
    obtain ⟨before, d, after, ds, hs, named, inserted, hs'⟩ := h
    let assign := Linking.assignDocument (Linking.findings s)
    refine ⟨t', ht', before.map assign, assign d, after.map assign, ds, ?_, named, inserted, ?_⟩
    · rw [documents_of_link ht, hs, List.map_append]
      rfl
    · rw [documents_of_link ht', found, hs', List.map_append]
      rfl
  · intro errors failed
    rw [failed] at same
    cases hl : s'.link with
    | linked t => rw [hl] at same; cases same
    | failed errors' => rw [hl] at same; cases same; rfl
    | boundTwice origin => rw [hl] at same; cases same
    | astray id => rw [hl] at same; cases same

/-- A document with the name has more diagnostics, and every other one is the same. -/
def NotedIn (name : String) (more : List Diagnostic) (d d' : DocumentStore) : Prop :=
  d' = { d with diagnostics := d'.diagnostics } ∧
    if d.document = name then Diagnostic.Inserted more d.diagnostics d'.diagnostics
    else d'.diagnostics = d.diagnostics

/-- Names are not given twice, so only one document has more diagnostics. -/
theorem noted_of_forall₂ (distinct : (s.documents.map (·.document)).Nodup)
    (named : name ∈ s.documents.map (·.document))
    (h : List.Forall₂ (NotedIn name more) s.documents s'.documents) : s.Noted name more s' := by
  obtain ⟨d, hd, rfl⟩ := List.mem_map.1 named
  obtain ⟨before, after, hs⟩ := List.append_of_mem hd
  rw [hs] at h distinct
  obtain ⟨before', d', after', hs', left, ⟨rest, inserted⟩, right⟩ := exists_append_of_forall₂ h
  rw [if_pos rfl] at inserted
  rw [List.map_append, List.map_cons, List.nodup_middle, ← List.map_append] at distinct
  have others : ∀ x ∈ before ++ after, ∀ y, NotedIn d.document more x y → y = x := by
    rintro x hx y ⟨rest, same⟩
    have other : x.document ≠ d.document := fun same =>
      (List.nodup_cons.1 distinct).1 (same ▸ List.mem_map_of_mem hx)
    rw [if_neg other] at same
    rw [rest, same]
  refine ⟨before, d, after, d'.diagnostics, hs, rfl, inserted, ?_⟩
  rw [hs', ← rest, eq_of_forall₂ left fun x hx => others x (List.mem_append_left _ hx),
    eq_of_forall₂ right fun x hx => others x (List.mem_append_right _ hx)]

end ArtifactStore

/-! ## One entry more in a project -/

namespace Project

variable {p : Project} {rootId : String} {root : Document} {s : ArtifactStore} {place : Location}
  {kind : BindingsKind} {b : Bindings} {key : String}

/-- The project and its root document with one entry more in the bindings section at a place. -/
def insertEntry (p : Project) (rootId : String) (root : Document) (place : Location)
    (position : Nat) (key : String) (value : Json) : Project × Document :=
  p.modify rootId root place.document (Document.insertEntry place.segments position key value)

/-- A document that is not changed follows itself. -/
theorem follows_self {p' : Project} (settings : p'.settings = p.settings) {name other : String}
    (ne : name ≠ other) (more : List Diagnostic) (d : Document) :
    p.Follows p' (ArtifactStore.NotedIn other more) name d d := by
  intro index store h
  have named : store.document ≠ other := (Document.compiledFrom_of_compile h).2.1 ▸ ne
  exact ⟨store, settings ▸ h, rfl, by rw [if_neg named]⟩

/-- The document with one entry more follows the document. -/
theorem follows_insertEntry {p' : Project} (settings : p'.settings = p.settings) {d : Document}
    (contains : (Entity.document d).Contains place.segments (.bindings kind b))
    (own : b.reference = none) (unknown : ¬ p.settings.registry.Knows key) (position : Nat)
    (value : Json) :
    p.Follows p' (ArtifactStore.NotedIn place.document (Diagnostic.ofUnknown place key))
      place.document d (d.insertEntry place.segments position key value) := by
  intro index store h
  obtain ⟨store', h', same⟩ :=
    Document.exists_compile_insertEntry h contains own unknown position value
  have named : store.document = place.document := (Document.compiledFrom_of_compile h).2.1
  have inserted := same.diagnostics
  rw [named] at inserted
  exact ⟨store', settings ▸ h', same.eq, by rw [if_pos named]; exact inserted⟩

/-- A project with one more entry compiles to the same stores, but for the one diagnostic. -/
theorem exists_compile_insertEntry (hc : p.compile rootId root = .ok s)
    (stands : p.Stands rootId root s place (.bindings kind b)) (own : b.reference = none)
    (unknown : ¬ p.settings.registry.Knows key) (position : Nat) (value : Json) :
    ∃ s', (p.insertEntry rootId root place position key value).1.compile rootId
        (p.insertEntry rootId root place position key value).2 = .ok s' ∧
      s.Noted place.document (Diagnostic.ofUnknown place key) s' := by
  have sources := sources_of_compile hc
  obtain ⟨i, store, d, hi, named, source, contains⟩ := stands
  have document : p.document? rootId root place.document = some d :=
    named ▸ sources.document?_eq hi (named.symm ▸ source)
  have mem : place.document ∈ s.documents.map (·.document) :=
    List.mem_map.2 ⟨store, List.mem_of_getElem? hi, named⟩
  have externals (x y : DocumentStore)
      (h : ArtifactStore.NotedIn place.document (Diagnostic.ofUnknown place key) x y) :
      y.externals = x.externals := by
    rw [h.1]
  rw [insertEntry, modify]
  by_cases atRoot : place.document = Path.normalize rootId
  · rw [document?, if_pos atRoot] at document
    obtain rfl := Option.some.inj document
    rw [if_pos atRoot]
    have first : p.Follows p
        (ArtifactStore.NotedIn place.document (Diagnostic.ofUnknown place key))
        (Path.normalize rootId) root (root.insertEntry place.segments position key value) := by
      rw [← atRoot]
      exact follows_insertEntry rfl contains own unknown position value
    obtain ⟨s', hc', related⟩ := exists_compile_of_follows externals rfl first
      (fun name d other resolved => ⟨d, resolved, follows_self rfl (atRoot ▸ other) _ d⟩) hc
    exact ⟨s', hc', ArtifactStore.noted_of_forall₂ sources.names_nodup mem related⟩
  · rw [document?, if_neg atRoot] at document
    have resolves := toOption_eq_some_iff.1 document
    rw [if_neg atRoot]
    let change := Document.insertEntry place.segments position key value
    let p' : Project := { p with library := p.library.modify place.document change }
    have first : p.Follows p'
        (ArtifactStore.NotedIn place.document (Diagnostic.ofUnknown place key))
        (Path.normalize rootId) root root := follows_self rfl (Ne.symm atRoot) _ root
    have library (name : String) (d' : Document) (_ : name ≠ Path.normalize rootId)
        (resolved : p.library.resolve name = .ok d') :
        ∃ d'', p'.library.resolve name = .ok d'' ∧ p.Follows p'
          (ArtifactStore.NotedIn place.document (Diagnostic.ofUnknown place key)) name d' d'' := by
      by_cases same : name = place.document
      · subst same
        obtain rfl := Except.ok.inj (resolves.symm.trans resolved)
        refine ⟨change d, ?_, follows_insertEntry rfl contains own unknown position value⟩
        simp only [p', Library.modify, if_true, resolved]
        rfl
      · refine ⟨d', ?_, follows_self rfl same _ d'⟩
        simp only [p', Library.modify, if_neg same, resolved]
    have size : p'.library.size = p.library.size := rfl
    obtain ⟨s', hc', related⟩ := exists_compile_of_follows externals size first library hc
    exact ⟨s', hc', ArtifactStore.noted_of_forall₂ sources.names_nodup mem related⟩

/-- **Unknown protocols are tolerated.**  If a project compiles, it compiles as well with one entry
more, of any value and at any position, in a bindings section that is written inline, under a key
that names no protocol of the registry.  Its stores are the same, and so are the outcome of linking
and all answers of the selection, but for the diagnostics of the one document: they have a warning
more about the key at the place of the section, and none if the key is an extension. -/
theorem unknown_protocol_tolerated (hc : p.compile rootId root = .ok s)
    (stands : p.Stands rootId root s place (.bindings kind b)) (own : b.reference = none)
    (unknown : ¬ p.settings.registry.Knows key) (position : Nat) (value : Json) :
    ∃ s', (p.insertEntry rootId root place position key value).1.compile rootId
        (p.insertEntry rootId root place position key value).2 = .ok s' ∧
      s.Noted place.document (Diagnostic.ofUnknown place key) s' ∧
      (∀ t, s.link = .linked t → ∃ t', s'.link = .linked t' ∧
        t.Noted place.document (Diagnostic.ofUnknown place key) t' ∧
        ∀ selection, Selection.ofGraph ⟨t⟩ = .ok selection →
          ∃ selection', Selection.ofGraph ⟨t'⟩ = .ok selection' ∧
            selection'.answers = selection.answers) ∧
      ∀ errors, s.link = .failed errors → s'.link = .failed errors := by
  obtain ⟨s', hc', noted⟩ := exists_compile_insertEntry hc stands own unknown position value
  obtain ⟨linked, failed⟩ := noted.link
  refine ⟨s', hc', noted, fun t ht => ?_, failed⟩
  obtain ⟨t', ht', noted'⟩ := linked t ht
  have silent : Graph.silent ⟨t'⟩ = Graph.silent ⟨t⟩ := congrArg Graph.mk noted'.silent
  exact ⟨t', ht', noted', fun selection h => Selection.exists_ofGraph_of_silent silent h⟩

/-- What the root document contains stands in it. -/
theorem stands_of_contains {path : List String} {e : Entity}
    (hc : p.compile rootId root = .ok s) (contains : (Entity.document root).Contains path e) :
    p.Stands rootId root s ⟨Path.normalize rootId, path⟩ e := by
  obtain ⟨asked, run⟩ := exists_runs_compile p rootId root
  rw [hc] at run
  obtain ⟨-, names⟩ := breadthFirst_of_runs run (sources_of_compile hc)
  have top : (s.documents.map (·.document))[0]? = some (Path.normalize rootId) := by
    rw [names]
    rfl
  rw [List.getElem?_map, Option.map_eq_some_iff] at top
  obtain ⟨store, hi, named⟩ := top
  exact ⟨0, store, root, hi, named, ⟨rfl, rfl⟩, contains⟩

/-- The section of the shop that names a topic. -/
theorem contains_orderBindings : (Entity.document shop).Contains
    ["channels", "direct", "bindings"] (.bindings .channel orderBindings) := by
  have channel : (["channels", "direct"], .channel (channelWith orderBindings)) ∈
      (Entity.document shop).parts := by
    simp [Entity.parts, Entity.reference?, Entity.ownParts, Entity.partFields,
      Document.Placed.ofFields, Document.Placed.under, Document.entryParts, shop]
  refine Entity.Contains.tail (.of_part channel) ?_
  simp [Entity.parts, Entity.reference?, Entity.ownParts, Entity.partFields, channelWith,
    Document.Placed.ofFields, Document.Placed.under, Document.entryParts, Document.optionParts]

/-- Builders of built-in protocols look their own names up. -/
theorem knows_iff_of_builtIn {r : Registry} (h : r.BuiltIn) : r.Knows key ↔ key ∈ Table.keys r := by
  constructor
  · rintro ⟨e, he, same⟩
    obtain ⟨protocol, -, rfl⟩ := h e he
    exact List.mem_map.2 ⟨_, he, same.elim id id⟩
  · intro listed
    obtain ⟨e, he, rfl⟩ := List.mem_map.1 listed
    exact ⟨e, he, .inl rfl⟩

/-- A topic for an unknown protocol is warned of, and the shop is linked as before. -/
theorem unknown_protocol_tolerated_shop : ∃ s s' t t', market.compile "a" shop = .ok s ∧
    Project.compile (market.insertEntry "a" shop ⟨"a", ["channels", "direct", "bindings"]⟩ 0
      "pulsar" .null).1 "a" (market.insertEntry "a" shop ⟨"a", ["channels", "direct", "bindings"]⟩ 0
      "pulsar" .null).2 = .ok s' ∧ s.link = .linked t ∧ s'.link = .linked t' ∧
    t.Noted "a" [.unknownProtocol ⟨"a", ["channels", "direct", "bindings"]⟩ "pulsar"] t' := by
  obtain ⟨s, t, hc, hl, -⟩ := exists_linked_shop
  have root : Path.normalize "a" = "a" := by decide +kernel
  have stands : market.Stands "a" shop s ⟨"a", ["channels", "direct", "bindings"]⟩
      (.bindings .channel orderBindings) := by
    have stands := stands_of_contains hc contains_orderBindings
    rwa [root] at stands
  have unknown : ¬ market.settings.registry.Knows "pulsar" := by
    have builtIn : market.settings.registry.BuiltIn := Registry.builtIn_standard
    rw [knows_iff_of_builtIn builtIn]
    decide
  have warned (place : Location) :
      Diagnostic.ofUnknown place "pulsar" = [.unknownProtocol place "pulsar"] :=
    if_neg (by decide +kernel)
  obtain ⟨s', hc', -, linked, -⟩ := unknown_protocol_tolerated hc stands rfl unknown 0 .null
  obtain ⟨t', hl', noted, -⟩ := linked t hl
  rw [warned] at noted
  exact ⟨s, s', t, t', hc, hc', hl, hl', noted⟩

end Project
end ApiGraph
