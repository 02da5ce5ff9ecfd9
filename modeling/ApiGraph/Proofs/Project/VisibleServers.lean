/-
# The servers of channels that list none

A channel that lists no servers is served by the visible ones of its document.  What is visible is
decided twice: the list takes the visible artifacts among the document's servers, and the selection
takes the protocols of the visible ones among those that these finally lead to.

So the protocols of such a channel are those of the servers that are not ignored and that a shown
entry finally leads to (`Project.protocols_of_shown_servers`).  An entry that is written as a
reference is shown whatever it says itself, so it is not hidden by being ignored
(`Project.not_forall_hidesIgnored`).
-/

import ApiGraph.Proofs.Compilation.Visibility
import ApiGraph.Proofs.Graph.Protocols
import ApiGraph.Proofs.Linking.Evaluation
import ApiGraph.Proofs.Project.Origins

namespace ApiGraph

open Document (Entity)

namespace Document

/-- Servers are parts of documents, at the top level or among the components. -/
theorem exists_document_of_server {e : Entity} {x : Server} {rel : List String}
    (h : (rel, .server x) ∈ e.parts) : ∃ d, e = .document d ∧
      ((∃ name, rel = ["servers", name] ∧ (name, x) ∈ d.servers) ∨
        ∃ field rest, rel = "components" :: field :: rest) := by
  rw [Entity.parts] at h
  split at h
  · cases h
  cases e with
  | document d =>
    refine ⟨d, rfl, ?_⟩
    simp only [Entity.ownParts, Entity.partFields, Placed.ofFields, Placed.under, entryParts,
      List.flatMap_cons, List.flatMap_nil, List.append_nil, List.mem_append, List.mem_map,
      List.mem_flatMap] at h
    rcases h with ⟨_, ⟨⟨name, y⟩, hy, rfl⟩, same⟩ | ⟨_, ⟨_, -, rfl⟩, same⟩ |
      ⟨_, ⟨_, -, field, -, part, -, rfl⟩, same⟩
    · cases same
      exact .inl ⟨name, rfl, hy⟩
    · cases same
    · obtain ⟨rfl, -⟩ := Prod.mk.inj same
      exact .inr ⟨field.1, part.1, rfl⟩
  | operation o =>
    rcases hm : o.message with _ | (messages | m) <;>
    simp [Entity.ownParts, Entity.partFields, Placed.ofFields, Placed.under, optionParts,
      itemParts, OperationMessage.parts, hm] at h
  | _ =>
    simp [Entity.ownParts, Entity.partFields, Placed.ofFields, Placed.under, entryParts,
      optionParts, itemParts] at h

/-- What stands below the servers of a document is one of them. -/
theorem mem_servers_of_contains {d : Document} {x : Server} {name : String}
    (h : (Entity.document d).Contains ["servers", name] (.server x)) : (name, x) ∈ d.servers := by
  rcases h.cases_tail with ⟨-, top⟩ | ⟨outer, rel, e, path, contains, hp⟩
  · cases top
  obtain ⟨d', rfl, ⟨name', rfl, hx⟩ | ⟨field, rest, rfl⟩⟩ := exists_document_of_server hp
  · rw [← List.nil_append ["servers", name]] at path
    obtain ⟨rfl, same⟩ := List.append_inj' path rfl
    cases same
    rcases contains.cases_tail with ⟨-, top⟩ | ⟨outer, rel, e, -, -, hp'⟩
    · cases top
      exact hx
    · exact absurd hp' document_notMem_parts
  · -- the path has but two keys
    rcases outer with _ | ⟨key, _ | ⟨key', outer⟩⟩ <;> simp at path

/-- The artifacts that count as servers of a document stand below its servers. -/
theorem isVisibleServer_iff {document : String} {a : Artifact} :
    isVisibleServer document a = true ↔ a.kind = .server ∧ a.visible = true ∧
      ∃ name, a.location = ⟨document, ["servers", name]⟩ := by
  obtain ⟨-, kind, -, visible, ⟨own, segments⟩, -⟩ := a
  simp only [isVisibleServer, Location.hasPrefix, Bool.and_eq_true, beq_iff_eq,
    List.isPrefixOf_iff_prefix, Location.mk.injEq]
  constructor
  · rintro ⟨⟨⟨rfl, rfl⟩, rfl, rest, rfl⟩, two⟩
    obtain ⟨name, rfl⟩ := List.length_eq_one_iff.1 (Nat.succ.inj two)
    exact ⟨rfl, rfl, name, rfl, rfl⟩
  · rintro ⟨rfl, rfl, name, rfl, rfl⟩
    exact ⟨⟨⟨rfl, rfl⟩, rfl, [name], rfl⟩, rfl⟩

end Document

namespace Graph

variable {g : Graph} {id : ArtifactId} {c : Body.Channel} {r : Route}

/-- The protocols of a channel are those of the visible servers that its list finally leads to. -/
theorem Routes.mem_protocols_iff (h : g.Routes id c r) {edges : List ArtifactId}
    (he : g.serverEdges c = .ok edges) {protocol : String} : protocol ∈ r.protocols ↔
      ∃ raw ∈ edges, ∃ target, g.follow raw = .ok target ∧
        g.visibleProtocol? target = some protocol := by
  obtain ⟨edges', he', each⟩ := h.servers
  obtain rfl := Except.ok.inj (he.symm.trans he')
  rw [h.protocols, List.mem_eraseDups, List.mem_filterMap]
  constructor
  · rintro ⟨target, ht, speaks⟩
    obtain ⟨raw, hraw, follows⟩ := exists_left_of_forall₂ each ht
    exact ⟨raw, hraw, target, follows, speaks⟩
  · rintro ⟨raw, hraw, target, follows, speaks⟩
    obtain ⟨target', ht, follows'⟩ := exists_right_of_forall₂ each hraw
    rw [Except.ok.inj (follows.symm.trans follows')] at speaks
    exact ⟨target', ht, speaks⟩

end Graph

namespace Project

variable {p : Project} {rootId : String} {root : Document} {s t : ArtifactStore}
  {id : ArtifactId} {a : Artifact} {protocol : String} {ch : Document.Channel}
  {i : Nat} {store : DocumentStore} {d : Document}

/-- What is at the place finally leads to a server of the protocol, which is not ignored. -/
def Offers (p : Project) (rootId : String) (root : Document) (s : ArtifactStore) (g : Graph)
    (place : Location) (protocol : String) : Prop :=
  ∃ raw entry target b server, g.catalog.get? raw = some entry ∧ entry.location = place ∧
    g.follow raw = .ok target ∧ g.catalog.get? target = some b ∧
    p.Stands rootId root s b.location (.server server) ∧ server.reference = none ∧
    server.ignored = false ∧ server.protocol = protocol

namespace Sources

variable (h : p.Sources rootId root s)

include h

/-- The list of a channel takes the shown entries of its document. -/
theorem isVisibleServer_iff (hi : s.documents[i]? = some store)
    (source : p.Source rootId root i store.document d) (ha : s.catalog.get? id = some a) :
    Document.isVisibleServer store.document a = true ↔ ∃ name x, (name, x) ∈ d.servers ∧
      x.isShown = true ∧ a.location = ⟨store.document, ["servers", name]⟩ := by
  rw [Document.isVisibleServer_iff]
  constructor
  · rintro ⟨kind, visible, name, at_⟩
    obtain ⟨_, v, -, -, rep, stands, shown⟩ := h.exists_origin Compile.grants_shown ha
    have label : v.entity.label = .server := Label.eq_server_of_kind (rep.kind.symm.trans kind)
    obtain ⟨x, entity⟩ : ∃ x, v.entity = .server x := by
      cases he : v.entity <;> rw [he] at label <;> cases label
      exact ⟨_, rfl⟩
    rw [entity, at_, h.stands_iff hi rfl source] at stands
    exact ⟨name, x, Document.mem_servers_of_contains stands,
      (shown x entity).visible.symm.trans visible, at_⟩
  · rintro ⟨name, x, hx, isShown, at_⟩
    have stands : p.Stands rootId root s a.location (.server x) := by
      rw [at_, h.stands_iff hi rfl source]
      exact Document.contains_server hx
    obtain ⟨-, -, -, -, kind, shown⟩ := h.origin Compile.grants_shown ha stands
    exact ⟨kind, (shown x rfl).visible.trans isShown, name, at_⟩

/-- A visible server is one that the documents do not ignore. -/
theorem visibleProtocol?_iff {g : Graph} (catalog : g.catalog = s.catalog) :
    g.visibleProtocol? id = some protocol ↔ ∃ b server, g.catalog.get? id = some b ∧
      p.Stands rootId root s b.location (.server server) ∧ server.reference = none ∧
      server.ignored = false ∧ server.protocol = protocol := by
  rw [Graph.visibleProtocol?_eq_some_iff, catalog]
  constructor
  · rintro ⟨b, body, hb, is, visible, rfl⟩
    obtain ⟨_, v, -, -, rep, stands, shown⟩ := h.exists_origin Compile.grants_shown hb
    have label := rep.depicts.label
    rw [is] at label
    cases href : v.entity.reference? with
    | some reference =>
      rw [href] at label
      cases label
    | none =>
      rw [href] at label
      obtain ⟨server, entity⟩ : ∃ server, v.entity = .server server := by
        cases he : v.entity <;> rw [he] at label <;> cases label
        exact ⟨_, rfl⟩
      have own : server.reference = none := by
        rw [entity] at href
        exact href
      have seen := shown server entity
      refine ⟨b, server, hb, entity ▸ stands, own, ?_, (seen.protocol body is).symm⟩
      exact Document.Server.isShown_iff.1 (seen.visible.symm.trans visible) own
  · rintro ⟨b, server, hb, stands, own, shown, rfl⟩
    obtain ⟨store, -, -, body, -, seen⟩ := h.origin Compile.grants_shown hb stands
    have href : (Entity.server server).reference? = none := own
    rw [DocumentStore.Embodies, href] at body
    obtain ⟨label, -⟩ := body
    cases is : b.body <;> rw [is] at label <;> cases label
    rename_i data
    have seen := seen server rfl
    exact ⟨b, data, hb, is, seen.visible.trans (Document.Server.isShown_iff.2 fun _ => shown),
      seen.protocol data is⟩

/-- A channel that lists no servers has a list of the visible ones of its document. -/
theorem exists_list (ha : s.catalog.get? id = some a)
    (hp : p.Stands rootId root s a.location (.channel ch)) (unlisted : ch.servers = none)
    (concrete : a.body.isReference = false) : ∃ c promise l, a.body = .channel c ∧
      c.servers = .all promise ∧ s.list? promise.cell = some l ∧
      l.accepts = Document.isVisibleServer a.location.document := by
  obtain ⟨store, hstore, index, body, -⟩ := h.origin Compile.grants_shown ha hp
  rw [DocumentStore.Embodies] at body
  split at body
  · obtain ⟨r, -, hb, -⟩ := body
    rw [hb] at concrete
    cases concrete
  · rename_i own
    obtain ⟨label, -, lists⟩ := body
    cases is : a.body <;> rw [is] at label <;> cases label
    rename_i c
    replace own : ch.reference = none := own
    simp only [is, Body.listHandles, Entity.lists, own, unlisted] at lists
    cases servers : c.servers with
    | named promises =>
      rw [servers] at lists
      cases lists
    | all promise =>
      rw [servers] at lists
      obtain ⟨⟨-, document, cell⟩, -⟩ := List.forall₂_cons.1 lists
      have found : s.list? promise.cell = store.lists[promise.cell.index]? := by
        rw [ArtifactStore.list?, document, index, hstore]
        rfl
      exact ⟨c, promise, _, rfl, servers, found.trans cell, rfl⟩

end Sources

/-- **The protocols of a channel that lists no servers** are those that the shown entries of its
document's servers offer.  An entry is shown unless it is no reference and is ignored; it offers the
protocol of the server that it finally leads to, unless that one is ignored. -/
theorem protocols_of_shown_servers (hc : p.compile rootId root = .ok s) (hl : s.link = .linked t) :
    ∃ selection, Selection.ofGraph ⟨t⟩ = .ok selection ∧ ∀ id target a ch,
      Graph.follow ⟨t⟩ id = .ok target → t.catalog.get? target = some a →
      p.Stands rootId root s a.location (.channel ch) → ch.servers = none →
      ∃ i d protocols, p.Source rootId root i a.location.document d ∧
        selection.channelProtocols id = .ok protocols ∧ protocols.Nodup ∧
        ∀ protocol, protocol ∈ protocols ↔ ∃ name entry, (name, entry) ∈ d.servers ∧
          (entry.reference = none → entry.ignored = false) ∧
          p.Offers rootId root s ⟨t⟩ ⟨a.location.document, ["servers", name]⟩ protocol := by
  have sources := sources_of_compile hc
  have wf := sources.store.wellFormed
  have unbound := sources.store.unbound
  have sound := Graph.sound_of_linked sources.store hl
  have catalog : Graph.catalog ⟨t⟩ = s.catalog := Graph.catalog_of_linked wf unbound hl
  have numbered : (Graph.catalog ⟨t⟩).Numbered := catalog ▸ sources.store.numbered.catalog
  obtain ⟨selection, hsel, same⟩ := Selection.exists_ofGraph sound numbered
  obtain ⟨-, routed⟩ := Selection.routed_of_ofGraph numbered hsel
  refine ⟨selection, hsel, fun id target a ch follows ha stands unlisted => ?_⟩
  have ha' : s.catalog.get? target = some a := catalog ▸ ha
  obtain ⟨b, ends⟩ := Graph.ends_of_followFrom follows
  obtain ⟨hb, concrete⟩ := ends.target
  obtain rfl := Option.some.inj (ha.symm.trans hb)
  obtain ⟨c, promise, l, is, servers, hlist, accepts⟩ :=
    sources.exists_list ha' stands unlisted concrete
  obtain ⟨raws, taken, bound⟩ := ArtifactStore.exists_binding_list wf unbound hl hlist
  have edges : Graph.serverEdges ⟨t⟩ c = .ok raws := by
    simp only [Graph.serverEdges, servers, Graph.listBindings, bound]
  obtain ⟨i, store, d, hi, named, source, -⟩ := stands
  rw [← named] at source accepts ⊢
  obtain ⟨r, hr, route⟩ := routed.exists_route (c := target) (by rw [same]; exact ha) is
  have answer : selection.channelProtocols id = .ok r.protocols := by
    have again := Graph.follow_of_concrete (g := ⟨t⟩) ha concrete
    rw [← same] at follows again
    rw [(Selection.answers_at_target follows again).2.1, ← route.channel]
    exact routed.channelProtocols_eq hr
  refine ⟨i, d, r.protocols, source, answer, ?_, fun protocol => ?_⟩
  · rw [route.protocols]
    exact nodup_eraseDups _
  · rw [same] at route
    rw [route.mem_protocols_iff edges]
    constructor
    · rintro ⟨raw, hraw, target, follows, speaks⟩
      obtain ⟨b, hb, accepted⟩ := (taken raw).1 hraw
      rw [accepts, sources.isVisibleServer_iff hi source hb] at accepted
      obtain ⟨name, x, hx, isShown, at_⟩ := accepted
      obtain ⟨e, server, he, speaks⟩ := (sources.visibleProtocol?_iff catalog).1 speaks
      exact ⟨name, x, hx, Document.Server.isShown_iff.1 isShown,
        raw, b, target, e, server, catalog ▸ hb, at_, follows, he, speaks⟩
    · rintro ⟨name, x, hx, isShown, raw, b, target, e, server, hb, at_, follows, he, speaks⟩
      rw [catalog] at hb
      refine ⟨raw, (taken raw).2 ⟨b, hb, ?_⟩, target, follows,
        (sources.visibleProtocol?_iff catalog).2 ⟨e, server, he, speaks⟩⟩
      rw [accepts, sources.isVisibleServer_iff hi source hb]
      exact ⟨name, x, hx, Document.Server.isShown_iff.2 isShown, at_⟩

/-! ## An ignored reference -/

/-- A server of the document that is an ignored reference to one of the components. -/
def aliasServer : Document.Server where
  reference := some "#/components/servers/main"
  ignored := true

/-- A document with this server and a channel that lists none. -/
def aliased : Document where
  servers := [("alias", aliasServer)]
  channels := [("events", {})]
  components := some { servers := [("main", { url := "u", protocol := "kafka" })] }

/-- The protocols of what is at a location, and whether it is at the end of its references. -/
def protocolsAt? (s : ArtifactStore) (id : ArtifactId) : Option (Location × Bool × List String) := do
  let a ← s.catalog.get? id
  let target ← (Graph.follow ⟨s⟩ id).toOption
  let selection ← (Selection.ofGraph ⟨s⟩).toOption
  let protocols ← (selection.channelProtocols id).toOption
  return (a.location, target == id, protocols)

theorem protocolsAt?_aliased :
    (plain.compile "a" aliased).toOption.map (fun s => (s.findingsIn s.plainView).errors.isEmpty) =
      some true ∧
    (plain.compile "a" aliased).toOption.bind (fun s => protocolsAt? s.withBindings ⟨0, 2⟩) =
      some (⟨"a", ["channels", "events"]⟩, true, ["kafka"]) := by
  -- following keeps the references that it has seen in a set, which does not evaluate
  simp only [ArtifactStore.withBindings, ArtifactStore.findingsIn, Linking.narrowReferences,
    Linking.narrowPromises, Linking.narrowLists, Linking.check, View.follow_eq_chase]
  refine ⟨?_, ?_⟩ <;> decide +kernel

/-- The document is linked, and its channel speaks the protocol. -/
theorem exists_linked_aliased : ∃ s t a, plain.compile "a" aliased = .ok s ∧ s.link = .linked t ∧
    Graph.follow ⟨t⟩ ⟨0, 2⟩ = .ok ⟨0, 2⟩ ∧ t.catalog.get? ⟨0, 2⟩ = some a ∧
    a.location = ⟨"a", ["channels", "events"]⟩ ∧
    plain.Stands "a" aliased s a.location (.channel {}) ∧
    ∃ selection, Selection.ofGraph ⟨t⟩ = .ok selection ∧
      selection.channelProtocols ⟨0, 2⟩ = .ok ["kafka"] := by
  obtain ⟨clean, found⟩ := protocolsAt?_aliased
  obtain ⟨s, hc, linked⟩ := exists_linked_of_clean clean
  rw [hc] at found
  have sources := sources_of_compile hc
  simp only [protocolsAt?, Option.bind_eq_bind, Option.bind_eq_some_iff] at found
  obtain ⟨s', hs', a, ha, target, follows, selection, hsel, protocols, spoken, same⟩ := found
  obtain rfl := Option.some.inj hs'
  obtain ⟨at_, rest⟩ := Prod.mk.inj (Option.some.inj same)
  obtain ⟨ends, rfl⟩ := Prod.mk.inj rest
  obtain rfl := eq_of_beq ends
  have catalog : s.withBindings.catalog = s.catalog :=
    Graph.catalog_of_linked sources.store.wellFormed sources.store.unbound linked
  obtain ⟨store, hi, -⟩ := ArtifactStore.get?_eq_some_iff.1 (catalog ▸ ha)
  obtain ⟨d, source, -⟩ := sources.compiled 0 store hi
  rw [Source, if_pos rfl] at source
  have contains : (Entity.document aliased).Contains ["channels", "events"] (.channel {}) := by
    refine .of_part ?_
    simp [Entity.parts, Entity.reference?, Entity.ownParts, Entity.partFields,
      Document.Placed.ofFields, Document.Placed.under, Document.entryParts, aliased]
  have stands : plain.Stands "a" aliased s ⟨"a", ["channels", "events"]⟩ (.channel {}) :=
    ⟨0, store, aliased, hi, source.1, ⟨by decide +kernel, rfl⟩, contains⟩
  exact ⟨s, _, a, hc, linked, toOption_eq_some_iff.1 follows, ha, at_, at_ ▸ stands, selection,
    toOption_eq_some_iff.1 hsel, toOption_eq_some_iff.1 spoken⟩

/-- The channel of the document with the ignored reference speaks the protocol of the server. -/
theorem protocols_of_shown_servers_aliased : ∃ s t, plain.compile "a" aliased = .ok s ∧
    s.link = .linked t ∧ ∃ selection protocols, Selection.ofGraph ⟨t⟩ = .ok selection ∧
      selection.channelProtocols ⟨0, 2⟩ = .ok protocols ∧ protocols.Nodup ∧
      ∃ name entry, (name, entry) ∈ aliased.servers ∧ entry.ignored = true ∧
        plain.Offers "a" aliased s ⟨t⟩ ⟨"a", ["servers", name]⟩ "kafka" := by
  obtain ⟨s, t, a, hc, hl, follows, ha, at_, stands, selection, hsel, spoken⟩ :=
    exists_linked_aliased
  obtain ⟨selection', hsel', each⟩ := protocols_of_shown_servers hc hl
  obtain rfl := Except.ok.inj (hsel.symm.trans hsel')
  obtain ⟨i, d, protocols, source, answer, nodup, mem_iff⟩ := each _ _ a _ follows ha stands rfl
  obtain rfl := Except.ok.inj (spoken.symm.trans answer)
  obtain ⟨name, entry, hentry, -, offers⟩ := (mem_iff "kafka").1 (List.mem_singleton_self _)
  obtain rfl : d = aliased := by
    by_cases first : i = 0
    · rw [Source, if_pos first] at source
      exact source.2
    · rw [Source, if_neg first] at source
      cases source
  obtain ⟨rfl, rfl⟩ := Prod.mk.inj (List.mem_singleton.1 hentry)
  rw [at_] at offers
  exact ⟨s, t, hc, hl, selection, _, hsel, spoken, nodup, _, _, hentry, rfl, offers⟩

/-- Every protocol of a channel that lists no servers is offered by an entry of its document's
servers that is not ignored. -/
def HidesIgnored (p : Project) (rootId : String) (root : Document) : Prop :=
  ∀ s t selection id a ch i d protocols protocol, p.compile rootId root = .ok s →
    s.link = .linked t → Selection.ofGraph ⟨t⟩ = .ok selection → Graph.follow ⟨t⟩ id = .ok id →
    t.catalog.get? id = some a → p.Stands rootId root s a.location (.channel ch) →
    ch.servers = none → p.Source rootId root i a.location.document d →
    selection.channelProtocols id = .ok protocols → protocol ∈ protocols →
    ∃ name entry, (name, entry) ∈ d.servers ∧ entry.ignored = false ∧
      p.Offers rootId root s ⟨t⟩ ⟨a.location.document, ["servers", name]⟩ protocol

/-- **An entry of the servers that is ignored is not always hidden.** -/
theorem not_forall_hidesIgnored :
    ¬ ∀ (p : Project) (rootId : String) (root : Document), p.HidesIgnored rootId root := by
  intro hides
  obtain ⟨s, t, a, hc, hl, follows, ha, at_, stands, selection, hsel, spoken⟩ :=
    exists_linked_aliased
  have source : plain.Source "a" aliased 0 a.location.document aliased := by
    rw [at_]
    exact ⟨by decide +kernel, rfl⟩
  obtain ⟨name, entry, hentry, shown, -⟩ := hides _ _ _ _ _ _ _ _ _ _ _ _ "kafka" hc hl hsel follows
    ha stands rfl source spoken (List.mem_singleton_self _)
  obtain ⟨rfl, rfl⟩ := Prod.mk.inj (List.mem_singleton.1 hentry)
  cases shown

end Project
end ApiGraph
