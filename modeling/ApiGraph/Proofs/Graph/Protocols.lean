/-
# The protocols of servers, channels and messages

A selection answers from the routes of its graph.  What a route says is said here of the edges of
its channel (`Graph.Routes`): its servers are what the edges of the server list finally lead to,
its protocols those of the visible ones among them, and its messages what the message edges of its
operations finally lead to.

From that the answers of a selection agree with the edges and with one another
(`Selection.protocols_agree`): a server carries the channels that lead to it, a channel speaks the
protocols of the visible servers that carry it, and a message travels over those of the channels
that carry it.
-/

import ApiGraph.Proofs.FirstOccurrence
import ApiGraph.Proofs.Graph.Linked
import ApiGraph.Proofs.Project.Graphs

namespace ApiGraph
namespace Graph

/-- What the edges of a channel's server list are bound to, in order; it may be references. -/
def serverEdges (g : Graph) (c : Body.Channel) : Except Defect (List ArtifactId) :=
  match c.servers with
  | .named promises => promises.mapM g.binding
  | .all promise => g.listBindings promise

/-- An edge finally leads to an artifact. -/
def LeadsTo {l : Label} (g : Graph) (p : Promise l) (t : ArtifactId) : Prop :=
  ∃ raw, g.binding p = .ok raw ∧ g.follow raw = .ok t

/-- Some edge of the channel's server list finally leads to the server. -/
def Serves (g : Graph) (server channel : ArtifactId) : Prop :=
  ∃ a c edges, g.catalog.get? channel = some a ∧ a.body = .channel c ∧
    g.serverEdges c = .ok edges ∧ ∃ edge ∈ edges, g.follow edge = .ok server

/-- A message edge of some operation finally leads to the message. -/
def Mentions (g : Graph) (operations : List (Promise .operation)) (message : ArtifactId) : Prop :=
  ∃ o ∈ operations, ∃ id a operation, g.LeadsTo o id ∧ g.catalog.get? id = some a ∧
    a.body = .operation operation ∧ ∃ m ∈ operation.messages, g.LeadsTo m message

/-- An operation of the channel mentions the message. -/
def Carries (g : Graph) (channel message : ArtifactId) : Prop :=
  ∃ a c, g.catalog.get? channel = some a ∧ a.body = .channel c ∧ g.Mentions c.operations message

/-- The protocol of a server that is visible. -/
def visibleProtocol? (g : Graph) (id : ArtifactId) : Option String := do
  let a ← g.catalog.get? id
  let server ← a.body.narrow? .server
  if a.visible then some server.protocol else none

/-- What a route says of its channel. -/
structure Routes (g : Graph) (id : ArtifactId) (c : Body.Channel) (r : Route) : Prop where
  channel : r.channel = id
  servers : ∃ edges, g.serverEdges c = .ok edges ∧
    List.Forall₂ (fun edge server => g.follow edge = .ok server) edges r.servers
  protocols : r.protocols = (r.servers.filterMap g.visibleProtocol?).eraseDups
  messages : ∀ message, message ∈ r.messages ↔ g.Mentions c.operations message

variable {g : Graph} {id t : ArtifactId} {a : Artifact} {l : Label} {c : Body.Channel}

/-- An edge finally leads to one artifact. -/
theorem LeadsTo.unique {p : Promise l} (h : g.LeadsTo p id) (h' : g.LeadsTo p t) : id = t := by
  obtain ⟨raw, hb, hf⟩ := h
  obtain ⟨raw', hb', hf'⟩ := h'
  obtain rfl := Except.ok.inj (hb.symm.trans hb')
  exact Except.ok.inj (hf.symm.trans hf')

/-- What is no reference is followed to itself. -/
theorem follow_of_concrete (ha : g.catalog.get? id = some a)
    (concrete : a.body.isReference = false) : g.follow id = .ok id :=
  follow_of_ends (.here ha concrete)

/-- What is read as data of a type is the body of an artifact. -/
theorem exists_of_narrow {data : Body.Of l} (h : g.narrow l id = .ok data) :
    ∃ a, g.catalog.get? id = some a ∧ a.body = bodyOf l data := by
  rw [narrow] at h
  obtain ⟨a, ha, h⟩ := bind_eq_ok_iff.1 h
  rw [artifact] at ha
  split at ha <;> cases ha
  split at h <;> cases h
  exact ⟨a, ‹_›, body_of_narrow? ‹_›⟩

/-- Following and narrowing gives the data of what is at the end. -/
theorem followed_iff {raw : ArtifactId} {found : ArtifactId × Body.Of l} :
    (do let id ← g.follow raw; return (id, ← g.narrow l id)) =
        (.ok found : Except Defect (ArtifactId × Body.Of l)) ↔
      g.follow raw = .ok found.1 ∧ g.narrow l found.1 = .ok found.2 := by
  simp only [bind_eq_ok_iff]
  constructor
  · rintro ⟨id, hf, data, hn, ⟨⟩⟩
    exact ⟨hf, hn⟩
  · rintro ⟨hf, hn⟩
    exact ⟨_, hf, _, hn, rfl⟩

/-- Resolving a promise finds what its edge finally leads to, and reads it. -/
theorem resolve_iff {p : Promise l} {found : ArtifactId × Body.Of l} :
    g.resolve p = .ok found ↔ g.LeadsTo p found.1 ∧ g.narrow l found.1 = .ok found.2 := by
  rw [Graph.resolve, bind_eq_ok_iff]
  constructor
  · rintro ⟨raw, hb, h⟩
    obtain ⟨hf, hn⟩ := followed_iff.1 h
    exact ⟨⟨raw, hb, hf⟩, hn⟩
  · rintro ⟨⟨raw, hb, hf⟩, hn⟩
    exact ⟨raw, hb, followed_iff.2 ⟨hf, hn⟩⟩

/-- The servers of a channel are what the edges of its server list finally lead to. -/
theorem exists_serverEdges {servers : List (ArtifactId × Body.Server)}
    (h : g.servers c = .ok servers) : ∃ edges, g.serverEdges c = .ok edges ∧
      List.Forall₂ (fun edge x => g.follow edge = .ok x.1 ∧ g.narrow .server x.1 = .ok x.2)
        edges servers := by
  rw [Graph.servers] at h
  rw [serverEdges]
  cases hs : c.servers with
  | named promises =>
    simp only [hs, mapM_eq_ok_iff] at h
    simp only [mapM_eq_ok_iff]
    refine exists_forall₂_between (h.imp fun p x hr => ?_)
    obtain ⟨⟨raw, hb, hf⟩, hn⟩ := resolve_iff.1 hr
    exact ⟨raw, hb, hf, hn⟩
  | all promise =>
    simp only [hs, resolveList] at h
    obtain ⟨edges, hb, h⟩ := bind_eq_ok_iff.1 h
    exact ⟨edges, hb, (mapM_eq_ok_iff.1 h).imp fun _ _ => followed_iff.1⟩

/-- The protocols of servers are those of the visible ones among them, in order. -/
theorem visibleProtocols_eq {servers : List (ArtifactId × Body.Server)}
    (read : ∀ x ∈ servers, g.narrow .server x.1 = .ok x.2) :
    g.visibleProtocols servers = .ok ((servers.map (·.1)).filterMap g.visibleProtocol?) := by
  induction servers with
  | nil => rfl
  | cons x rest ih =>
    obtain ⟨id, server⟩ := x
    obtain ⟨a, ha, body⟩ := exists_of_narrow (read (id, server) (List.mem_cons_self ..))
    have concrete : a.body.isReference = false := by rw [body]; rfl
    have visible : g.isVisible id = .ok a.visible := by
      rw [isVisible, follow_of_concrete ha concrete]
      simp only [bind, Except.bind, artifact_of_get? ha]
      rfl
    have narrow : a.body.narrow? .server = some server := by rw [body]; rfl
    have protocol : g.visibleProtocol? id =
        if a.visible then some server.protocol else none := by
      simp only [visibleProtocol?, ha, narrow, Option.bind_eq_bind, Option.bind_some]
    rw [Graph.visibleProtocols, visible, ih fun x hx => read x (List.mem_cons_of_mem _ hx)]
    rw [List.map_cons, List.filterMap_cons, protocol]
    cases a.visible <;> rfl

/-- A protocol is the one of a visible server. -/
theorem visibleProtocol?_eq_some_iff {protocol : String} :
    g.visibleProtocol? id = some protocol ↔ ∃ a server, g.catalog.get? id = some a ∧
      a.body = .server server ∧ a.visible = true ∧ server.protocol = protocol := by
  simp only [visibleProtocol?, Option.bind_eq_bind, Option.bind_eq_some_iff]
  constructor
  · rintro ⟨a, ha, server, hn, h⟩
    split at h
    · cases h
      exact ⟨a, server, ha, body_of_narrow? hn, ‹_›, rfl⟩
    · cases h
  · rintro ⟨a, server, ha, body, visible, rfl⟩
    refine ⟨a, ha, server, ?_, by rw [if_pos visible]⟩
    rw [body]
    rfl

/-- The messages of operations are those that a message edge of them finally leads to. -/
theorem mem_messages_iff {operations : List (Promise .operation)} {messages : List ArtifactId}
    (h : g.messages operations = .ok messages) {message : ArtifactId} :
    message ∈ messages ↔ g.Mentions operations message := by
  rw [Graph.messages] at h
  obtain ⟨found, hf, h⟩ := bind_eq_ok_iff.1 h
  cases h
  have each := mapM_eq_ok_iff.1 hf
  rw [List.mem_flatten]
  constructor
  · rintro ⟨ids, hids, hm⟩
    obtain ⟨o, ho, h⟩ := exists_left_of_forall₂ each hids
    obtain ⟨⟨id, operation⟩, hr, h⟩ := bind_eq_ok_iff.1 h
    obtain ⟨leads, hn⟩ := resolve_iff.1 hr
    obtain ⟨a, ha, body⟩ := exists_of_narrow hn
    obtain ⟨m, hm', h⟩ := exists_left_of_forall₂ (mapM_eq_ok_iff.1 h) hm
    obtain ⟨x, hr, h⟩ := bind_eq_ok_iff.1 h
    cases h
    exact ⟨o, ho, id, a, operation, leads, ha, body, m, hm', (resolve_iff.1 hr).1⟩
  · rintro ⟨o, ho, id, a, operation, leads, ha, body, m, hm, leads'⟩
    obtain ⟨ids, hids, h⟩ := exists_right_of_forall₂ each ho
    obtain ⟨⟨id', operation'⟩, hr, h⟩ := bind_eq_ok_iff.1 h
    obtain ⟨leads₁, hn⟩ := resolve_iff.1 hr
    obtain rfl := leads.unique leads₁
    obtain ⟨a', ha', body'⟩ := exists_of_narrow hn
    obtain rfl := Option.some.inj (ha.symm.trans ha')
    obtain rfl := Body.operation.inj (body.symm.trans body')
    obtain ⟨x, hx, h⟩ := exists_right_of_forall₂ (mapM_eq_ok_iff.1 h) hm
    obtain ⟨y, hr, h⟩ := bind_eq_ok_iff.1 h
    cases h
    exact ⟨ids, hids, leads'.unique (resolve_iff.1 hr).1 ▸ hx⟩

/-- What is computed as a channel's route is said of the channel's edges. -/
theorem routes_of_route {r : Route} (h : g.route id c = .ok r) : g.Routes id c r := by
  rw [route] at h
  obtain ⟨servers, hs, h⟩ := bind_eq_ok_iff.1 h
  obtain ⟨protocols, hp, h⟩ := bind_eq_ok_iff.1 h
  obtain ⟨messages, hm, h⟩ := bind_eq_ok_iff.1 h
  cases h
  obtain ⟨edges, he, each⟩ := exists_serverEdges hs
  have read : ∀ x ∈ servers, g.narrow .server x.1 = .ok x.2 := by
    intro x hx
    obtain ⟨edge, -, -, hn⟩ := exists_left_of_forall₂ each hx
    exact hn
  refine ⟨rfl, ⟨edges, he, ?_⟩, ?_, fun message => mem_messages_iff hm⟩
  · rw [List.forall₂_map_right_iff]
    exact each.imp fun _ _ h => h.1
  · rw [← Except.ok.inj ((visibleProtocols_eq read).symm.trans hp)]

end Graph

namespace Selection

/-- The routes of a selection are those of the channels of its graph. -/
structure Routed (s : Selection) : Prop where
  numbered : s.graph.catalog.Numbered
  routes : List.Forall₂ (fun x r => s.graph.Routes x.1 x.2 r) s.graph.channels s.routes

variable {g : Graph} {s : Selection} {id t c : ArtifactId} {a : Artifact}
  {channel : Body.Channel} {r : Route} {protocol : String}

/-- A selection keeps its graph, and has a route for each channel. -/
theorem routed_of_ofGraph (numbered : g.catalog.Numbered) (h : ofGraph g = .ok s) :
    s.graph = g ∧ s.Routed := by
  rw [ofGraph] at h
  obtain ⟨routes, hr, h⟩ := bind_eq_ok_iff.1 h
  cases h
  exact ⟨rfl, numbered, (mapM_eq_ok_iff.1 hr).imp fun _ _ => Graph.routes_of_route⟩

/-- The channels of a server are those of the routes that name it. -/
theorem serverChannels_eq (ha : s.graph.catalog.get? t = some a)
    (concrete : a.body.isReference = false) : s.serverChannels t =
      .ok ((s.routes.filter (·.servers.contains t)).map (·.channel)) := by
  rw [serverChannels, Graph.follow_of_concrete ha concrete]
  rfl

/-- The protocols of a message are those of the routes that carry it, each once. -/
theorem messageProtocols_eq (ha : s.graph.catalog.get? t = some a)
    (concrete : a.body.isReference = false) : s.messageProtocols t =
      .ok ((s.routes.filter (·.messages.contains t)).flatMap (·.protocols)).eraseDups := by
  rw [messageProtocols, Graph.follow_of_concrete ha concrete]
  rfl

namespace Routed

variable (hs : s.Routed)

include hs

/-- The channels of a graph are its channel artifacts. -/
theorem mem_channels_iff : (id, channel) ∈ s.graph.channels ↔
    ∃ a, s.graph.catalog.get? id = some a ∧ a.body = .channel channel := by
  simp only [Graph.channels, List.mem_filterMap, Prod.exists, Option.map_eq_some_iff]
  constructor
  · rintro ⟨id, a, ha, c, hc, ⟨⟩⟩
    exact ⟨a, (Catalog.mem_entries_iff hs.numbered).1 ha, Graph.body_of_narrow? hc⟩
  · rintro ⟨a, ha, body⟩
    refine ⟨id, a, (Catalog.mem_entries_iff hs.numbered).2 ha, channel, ?_, rfl⟩
    rw [body]
    rfl

/-- Every channel has a route. -/
theorem exists_route (ha : s.graph.catalog.get? c = some a) (body : a.body = .channel channel) :
    ∃ r ∈ s.routes, s.graph.Routes c channel r :=
  exists_right_of_forall₂ hs.routes (hs.mem_channels_iff.2 ⟨a, ha, body⟩)

/-- Every route is a channel's. -/
theorem exists_channel (hr : r ∈ s.routes) : ∃ a channel,
    s.graph.catalog.get? r.channel = some a ∧ a.body = .channel channel ∧
      s.graph.Routes r.channel channel r := by
  obtain ⟨⟨id, channel⟩, hx, route⟩ := exists_left_of_forall₂ hs.routes hr
  obtain ⟨a, ha, body⟩ := hs.mem_channels_iff.1 hx
  obtain rfl := route.channel
  exact ⟨a, channel, ha, body, route⟩

/-- There is one route for every channel, in the order of the store. -/
theorem sublist : (s.routes.map (·.channel)).Sublist (s.graph.artifacts.map (·.1)) := by
  have channels : s.graph.channels.map (·.1) = s.routes.map (·.channel) :=
    map_eq_of_forall₂ hs.routes fun x r route => route.channel.symm
  rw [← channels]
  refine keys_filterMap_sublist _ _ ?_ s.graph.artifacts
  rintro ⟨id, a⟩ y h
  obtain ⟨channel, -, rfl⟩ := Option.map_eq_some_iff.1 h
  rfl

/-- No channel has two routes. -/
theorem nodup : (s.routes.map (·.channel)).Nodup :=
  (Catalog.nodup_ids hs.numbered).sublist hs.sublist

/-- So a route is known by its channel. -/
theorem unique {r' : Route} (hr : r ∈ s.routes) (hr' : r' ∈ s.routes)
    (same : r.channel = r'.channel) : r = r' :=
  List.inj_on_of_nodup_map hs.nodup hr hr' same

/-! ## Answers -/

/-- The protocols of a channel are those of its route. -/
theorem channelProtocols_eq (hr : r ∈ s.routes) :
    s.channelProtocols r.channel = .ok r.protocols := by
  obtain ⟨a, channel, ha, body, -⟩ := hs.exists_channel hr
  have concrete : a.body.isReference = false := by rw [body]; rfl
  have found : s.routes.find? (·.channel == r.channel) = some r := by
    have present : (s.routes.find? (·.channel == r.channel)).isSome :=
      List.find?_isSome.2 ⟨r, hr, beq_self_eq_true _⟩
    obtain ⟨r', hr'⟩ := Option.isSome_iff_exists.1 present
    have same : r'.channel = r.channel := by simpa using List.find?_some hr'
    rw [hr', hs.unique (List.mem_of_find?_eq_some hr') hr same]
  rw [channelProtocols, Graph.follow_of_concrete ha concrete]
  simp only [bind, Except.bind, found]
  rfl

/-- A server is one of those of a route, if it serves the channel. -/
theorem mem_servers_iff (hr : r ∈ s.routes) : t ∈ r.servers ↔ s.graph.Serves t r.channel := by
  obtain ⟨a, channel, ha, body, route⟩ := hs.exists_channel hr
  obtain ⟨edges, he, each⟩ := route.servers
  constructor
  · intro ht
    obtain ⟨edge, hedge, leads⟩ := exists_left_of_forall₂ each ht
    exact ⟨a, channel, edges, ha, body, he, edge, hedge, leads⟩
  · rintro ⟨a', channel', edges', ha', body', he', edge, hedge, leads⟩
    obtain rfl := Option.some.inj (ha.symm.trans ha')
    obtain rfl := Body.channel.inj (body.symm.trans body')
    obtain rfl := Except.ok.inj (he.symm.trans he')
    obtain ⟨server, hserver, leads'⟩ := exists_right_of_forall₂ each hedge
    rw [Except.ok.inj (leads.symm.trans leads')]
    exact hserver

/-- The messages of a route are those that its channel carries. -/
theorem mem_messages_iff (hr : r ∈ s.routes) :
    t ∈ r.messages ↔ s.graph.Carries r.channel t := by
  obtain ⟨a, channel, ha, body, route⟩ := hs.exists_channel hr
  rw [route.messages]
  constructor
  · exact fun mentions => ⟨a, channel, ha, body, mentions⟩
  · rintro ⟨a', channel', ha', body', mentions⟩
    obtain rfl := Option.some.inj (ha.symm.trans ha')
    obtain rfl := Body.channel.inj (body.symm.trans body')
    exact mentions

/-- The servers that carry a channel are those that its edges finally lead to. -/
theorem mem_serverChannels_iff {channels : List ArtifactId}
    (h : (s.routes.filter (·.servers.contains t)).map (·.channel) = channels) :
    c ∈ channels ↔ s.graph.Serves t c := by
  subst h
  simp only [List.mem_map, List.mem_filter, List.contains_iff_mem]
  constructor
  · rintro ⟨r, ⟨hr, ht⟩, rfl⟩
    exact (hs.mem_servers_iff hr).1 ht
  · intro serves
    obtain ⟨a, channel, edges, ha, body, rest⟩ := serves
    obtain ⟨r, hr, route⟩ := hs.exists_route ha body
    have same := route.channel
    subst same
    exact ⟨r, ⟨hr, (hs.mem_servers_iff hr).2 ⟨a, channel, edges, ha, body, rest⟩⟩, rfl⟩

end Routed

/-! ## How the answers agree -/

/-- The channels that finally lead to a server, in the order of the store. -/
structure Carried (s : Selection) (server : ArtifactId) (channels : List ArtifactId) : Prop where
  nodup : channels.Nodup
  store_order : channels.Sublist (s.graph.artifacts.map (·.1))
  mem_iff : ∀ c, c ∈ channels ↔ s.graph.Serves server c

/-- The protocols of the visible servers that carry a channel, each where it comes first in the
channel's server list. -/
structure Spoken (s : Selection) (c : ArtifactId) (protocols : List String) : Prop where
  nodup : protocols.Nodup
  mem_iff : ∀ p, p ∈ protocols ↔ ∃ id a server channels, s.graph.catalog.get? id = some a ∧
    a.body = .server server ∧ a.visible = true ∧ server.protocol = p ∧
      s.serverChannels id = .ok channels ∧ c ∈ channels
  first_occurrence : ∃ a channel edges servers, s.graph.catalog.get? c = some a ∧
    a.body = .channel channel ∧ s.graph.serverEdges channel = .ok edges ∧
      List.Forall₂ (fun edge server => s.graph.follow edge = .ok server) edges servers ∧
      protocols = (servers.filterMap s.graph.visibleProtocol?).eraseDups

/-- The protocols of the channels that carry a message, each where it comes first when these are
gone through in the order of the store. -/
structure Travelled (s : Selection) (message : ArtifactId) (protocols : List String) : Prop where
  nodup : protocols.Nodup
  mem_iff : ∀ p, p ∈ protocols ↔ ∃ c a channel spoken, s.graph.catalog.get? c = some a ∧
    a.body = .channel channel ∧ s.channelProtocols c = .ok spoken ∧ p ∈ spoken ∧
      s.graph.Carries c message
  first_occurrence : ∃ channels spoken, channels.Sublist (s.graph.artifacts.map (·.1)) ∧
    (∀ c, c ∈ channels ↔ s.graph.Carries c message) ∧
      List.Forall₂ (fun c protocols => s.channelProtocols c = .ok protocols) channels spoken ∧
      protocols = spoken.flatten.eraseDups

/-- The answers of a selection agree with the edges of its graph and with one another. -/
structure Agrees (s : Selection) : Prop where
  servers : ∀ id a server, s.graph.catalog.get? id = some a → a.body = .server server →
    ∃ channels, s.serverChannels id = .ok channels ∧ s.Carried id channels
  channels : ∀ id a channel, s.graph.catalog.get? id = some a → a.body = .channel channel →
    ∃ protocols, s.channelProtocols id = .ok protocols ∧ s.Spoken id protocols
  messages : ∀ id a message, s.graph.catalog.get? id = some a → a.body = .message message →
    ∃ protocols, s.messageProtocols id = .ok protocols ∧ s.Travelled id protocols
  /-- An answer about a reference is the one about its final target. -/
  references : ∀ id a, s.graph.catalog.get? id = some a → ∃ t b, s.graph.follow id = .ok t ∧
    s.graph.catalog.get? t = some b ∧ b.body.isReference = false ∧
      s.serverChannels id = s.serverChannels t ∧
      s.channelProtocols id = s.channelProtocols t ∧
      s.messageProtocols id = s.messageProtocols t ∧ s.protocols id = s.protocols t

namespace Routed

variable (hs : s.Routed)

include hs

/-- **The channels of a server** are those that lead to it. -/
theorem carried (ha : s.graph.catalog.get? t = some a) (concrete : a.body.isReference = false) :
    ∃ channels, s.serverChannels t = .ok channels ∧ s.Carried t channels := by
  have part : ((s.routes.filter (·.servers.contains t)).map (·.channel)).Sublist
      (s.routes.map (·.channel)) := List.filter_sublist.map _
  exact ⟨_, serverChannels_eq ha concrete, hs.nodup.sublist part, part.trans hs.sublist,
    fun c => hs.mem_serverChannels_iff rfl⟩

/-- **The protocols of a channel** are those of the visible servers that carry it. -/
theorem spoken (ha : s.graph.catalog.get? c = some a) (body : a.body = .channel channel) :
    ∃ protocols, s.channelProtocols c = .ok protocols ∧ s.Spoken c protocols := by
  obtain ⟨r, hr, route⟩ := hs.exists_route ha body
  have same := route.channel
  subst same
  obtain ⟨edges, he, each⟩ := route.servers
  refine ⟨r.protocols, hs.channelProtocols_eq hr, ?_, fun p => ?_, ?_⟩
  · rw [route.protocols]
    exact nodup_eraseDups _
  · rw [route.protocols, List.mem_eraseDups, List.mem_filterMap]
    simp only [Graph.visibleProtocol?_eq_some_iff]
    constructor
    · rintro ⟨id, hid, b, server, hb, hbody, visible, rfl⟩
      have concrete : b.body.isReference = false := by rw [hbody]; rfl
      obtain ⟨channels, hc, carried⟩ := hs.carried hb concrete
      exact ⟨id, b, server, channels, hb, hbody, visible, rfl, hc,
        (carried.mem_iff _).2 ((hs.mem_servers_iff hr).1 hid)⟩
    · rintro ⟨id, b, server, channels, hb, hbody, visible, rfl, hc, hmem⟩
      have concrete : b.body.isReference = false := by rw [hbody]; rfl
      obtain ⟨channels', hc', carried⟩ := hs.carried hb concrete
      obtain rfl := Except.ok.inj (hc.symm.trans hc')
      have serves := (carried.mem_iff _).1 hmem
      exact ⟨id, (hs.mem_servers_iff hr).2 serves, b, server, hb, hbody, visible, rfl⟩
  · exact ⟨a, channel, edges, r.servers, ha, body, he, each, route.protocols⟩

/-- **The protocols of a message** are those of the channels that carry it. -/
theorem travelled (ha : s.graph.catalog.get? t = some a) (concrete : a.body.isReference = false) :
    ∃ protocols, s.messageProtocols t = .ok protocols ∧ s.Travelled t protocols := by
  have carrying : ∀ r, r ∈ s.routes.filter (·.messages.contains t) ↔
      r ∈ s.routes ∧ s.graph.Carries r.channel t := by
    intro r
    rw [List.mem_filter, List.contains_iff_mem]
    exact and_congr_right fun hr => hs.mem_messages_iff hr
  have exists_carrying : ∀ c, s.graph.Carries c t → ∃ r ∈ s.routes, r.channel = c := by
    rintro c ⟨a, channel, ha, body, -⟩
    obtain ⟨r, hr, route⟩ := hs.exists_route ha body
    exact ⟨r, hr, route.channel⟩
  refine ⟨_, messageProtocols_eq ha concrete, nodup_eraseDups _, fun p => ?_,
    (s.routes.filter (·.messages.contains t)).map (·.channel),
    (s.routes.filter (·.messages.contains t)).map (·.protocols), ?_, fun c => ?_, ?_, ?_⟩
  · rw [List.mem_eraseDups, List.mem_flatMap]
    constructor
    · rintro ⟨r, hr, hp⟩
      obtain ⟨hr, carries⟩ := (carrying r).1 hr
      obtain ⟨b, channel, hb, body, -⟩ := hs.exists_channel hr
      exact ⟨r.channel, b, channel, r.protocols, hb, body, hs.channelProtocols_eq hr, hp, carries⟩
    · rintro ⟨c, b, channel, spoken, hb, body, hc, hp, carries⟩
      obtain ⟨r, hr, rfl⟩ := exists_carrying c carries
      obtain rfl := Except.ok.inj ((hs.channelProtocols_eq hr).symm.trans hc)
      exact ⟨r, (carrying r).2 ⟨hr, carries⟩, hp⟩
  · exact (List.filter_sublist.map _).trans hs.sublist
  · rw [List.mem_map]
    constructor
    · rintro ⟨r, hr, rfl⟩
      exact ((carrying r).1 hr).2
    · intro carries
      obtain ⟨r, hr, rfl⟩ := exists_carrying c carries
      exact ⟨r, (carrying r).2 ⟨hr, carries⟩, rfl⟩
  · rw [List.forall₂_map_left_iff, List.forall₂_map_right_iff, List.forall₂_same]
    intro r hr
    exact hs.channelProtocols_eq ((carrying r).1 hr).1
  · rw [List.flatMap_def]

end Routed

/-- Answers follow references. -/
theorem answers_at_target (h : s.graph.follow id = .ok t) (h' : s.graph.follow t = .ok t) :
    s.serverChannels id = s.serverChannels t ∧ s.channelProtocols id = s.channelProtocols t ∧
      s.messageProtocols id = s.messageProtocols t ∧ s.protocols id = s.protocols t := by
  simp only [serverChannels, channelProtocols, messageProtocols, protocols, h, h', and_self]

/-- **The protocols of servers, channels and messages agree.**  A linked graph has a selection.
It says of every server which channels finally lead to it, of every channel which protocols the
visible servers speak that carry it, and of every message which protocols the channels speak that
carry it, all without repetition and in the order in which they are met.  About a reference it
says what it says about the final target. -/
theorem protocols_agree {s t : ArtifactStore} (hs : s.Assembled) (h : s.link = .linked t) :
    ∃ sel, ofGraph ⟨t⟩ = .ok sel ∧ sel.graph = ⟨t⟩ ∧ sel.Agrees := by
  have sound := Graph.sound_of_assembled hs h
  have catalog := Graph.catalog_of_linked hs.wellFormed hs.unbound h
  have numbered : (Graph.catalog ⟨t⟩).Numbered := catalog ▸ hs.numbered.catalog
  obtain ⟨sel, hsel, same⟩ := exists_ofGraph sound numbered
  obtain ⟨-, routed⟩ := routed_of_ofGraph numbered hsel
  refine ⟨sel, hsel, same, ?_, ?_, ?_, ?_⟩
  · intro id a server ha body
    exact routed.carried ha (by rw [body]; rfl)
  · intro id a channel ha body
    exact routed.spoken ha body
  · intro id a message ha body
    exact routed.travelled ha (by rw [body]; rfl)
  · intro id a ha
    obtain ⟨u, b, ends⟩ := (same.symm ▸ sound).ends id a ha
    have followed := Graph.follow_of_ends ends
    have again := Graph.follow_of_ends (ends.at_target _)
    exact ⟨u, b, followed, ends.target.1, ends.target.2, answers_at_target followed again⟩

/-- The greeting, on a server of a protocol. -/
def broadcast : Document :=
  { Project.greeting with servers := [("main", { url := "u", protocol := "kafka" })] }

/-- What the selection of a linked store says of the server, the channel and the message of this
document. -/
def answersAt? (s : ArtifactStore) : Option (List ArtifactId × List String × List String) := do
  let selection ← (ofGraph ⟨s⟩).toOption
  let channels ← (selection.serverChannels ⟨0, 1⟩).toOption
  let spoken ← (selection.channelProtocols ⟨0, 2⟩).toOption
  let travelled ← (selection.messageProtocols ⟨0, 4⟩).toOption
  return (channels, spoken, travelled)

/-- What the answers come to in `broadcast`, by computation. -/
theorem answersAt?_broadcast :
    (Project.plain.compile "a" broadcast).toOption.map
      (fun s => (s.findingsIn s.plainView).errors.isEmpty) = some true ∧
    (Project.plain.compile "a" broadcast).toOption.bind (fun s => answersAt? s.withBindings) =
      some ([⟨0, 2⟩], ["kafka"], ["kafka"]) := by
  -- following keeps the references that it has seen in a set, which does not evaluate
  simp only [ArtifactStore.withBindings, ArtifactStore.findingsIn, Linking.narrowReferences,
    Linking.narrowPromises, Linking.narrowLists, Linking.check, View.follow_eq_chase]
  refine ⟨?_, ?_⟩ <;> decide +kernel

/-- The server carries the channel, which speaks its protocol, and the message of the channel's
operation travels over it. -/
theorem protocols_agree_broadcast : ∃ s t : ArtifactStore, s.Assembled ∧ s.link = .linked t ∧
    ∃ selection, ofGraph ⟨t⟩ = .ok selection ∧ selection.graph = ⟨t⟩ ∧ selection.Agrees ∧
      selection.serverChannels ⟨0, 1⟩ = .ok [⟨0, 2⟩] ∧
      selection.channelProtocols ⟨0, 2⟩ = .ok ["kafka"] ∧
      selection.messageProtocols ⟨0, 4⟩ = .ok ["kafka"] := by
  obtain ⟨clean, found⟩ := answersAt?_broadcast
  obtain ⟨s, hc, linked⟩ := Project.exists_linked_of_clean clean
  rw [hc] at found
  simp only [answersAt?, Option.bind_eq_bind, Option.bind_eq_some_iff] at found
  obtain ⟨s', hs', selection, hsel, channels, hchannels, spoken, hspoken, travelled, htravelled,
    same⟩ := found
  obtain rfl := Option.some.inj hs'
  obtain ⟨rfl, rest⟩ := Prod.mk.inj (Option.some.inj same)
  obtain ⟨rfl, rfl⟩ := Prod.mk.inj rest
  have assembled := (Project.sources_of_compile hc).assembled
  obtain ⟨selection', hsel', graph, agrees⟩ := protocols_agree assembled linked
  obtain rfl := Except.ok.inj ((toOption_eq_some_iff.1 hsel).symm.trans hsel')
  exact ⟨s, _, assembled, linked, selection, hsel', graph, agrees,
    toOption_eq_some_iff.1 hchannels, toOption_eq_some_iff.1 hspoken,
    toOption_eq_some_iff.1 htravelled⟩

end Selection
end ApiGraph
