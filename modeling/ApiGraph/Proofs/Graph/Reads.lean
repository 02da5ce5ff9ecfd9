/-
# Reading a graph

In a sound graph every chain of references ends, and every promise that the body of an
artifact holds is bound to artifacts whose chains end at the type that is promised
(`Graph.Sound`).  All reads of such a graph succeed: following, resolving, the names that
artifacts are shown under, and with them the routes of a selection and its report.
-/

import ApiGraph.Report
import ApiGraph.Proofs.Catalog.Numbering
import ApiGraph.Proofs.Compilation.Edges
import ApiGraph.Proofs.Correspondence

namespace ApiGraph

/-- What is not made as a reference is none. -/
theorem Body.isReference_eq_false {b : Body} (other : ∀ r, b = .reference r → False) :
    b.isReference = false := by
  cases b with
  | reference r => exact (other r rfl).elim
  | _ => rfl

namespace Graph

/-- After at most so many references the chain from `id` ends at the artifact `b` with the
number `t`. -/
inductive Ends (g : Graph) : Nat → ArtifactId → ArtifactId → Artifact → Prop
  | here {n : Nat} {id : ArtifactId} {b : Artifact} :
      g.catalog.get? id = some b → b.body.isReference = false → Ends g n id id b
  | there {n : Nat} {id next t : ArtifactId} {a b : Artifact} {r : Body.Reference} :
      g.catalog.get? id = some a → a.body = .reference r →
      g.referenceBinding r.slot = .ok next → Ends g n next t b → Ends g (n + 1) id t b

/-- A bound artifact is one whose chain ends at the type. -/
def Leads (g : Graph) (raw : ArtifactId) (l : Label) : Prop :=
  ∃ t b, g.Ends g.size raw t b ∧ b.body.label? = some l

/-- What every read of a graph relies on. -/
structure Sound (g : Graph) : Prop where
  ends : ∀ id a, g.catalog.get? id = some a → ∃ t b, g.Ends g.size id t b
  references : ∀ id a r, g.catalog.get? id = some a → a.body = .reference r →
    (∃ raw, g.referenceBinding r.slot = .ok raw) ∧
      ∀ t b, g.Ends g.size id t b → b.kind = a.kind
  promises : ∀ id a, g.catalog.get? id = some a → ∀ h ∈ a.body.handles,
    ∃ raw, g.binding h.2 = .ok raw ∧ g.Leads raw h.1
  lists : ∀ id a, g.catalog.get? id = some a → ∀ h ∈ a.body.listHandles,
    ∃ raws, g.listBindings h.2 = .ok raws ∧ ∀ raw ∈ raws, g.Leads raw h.1

variable {g : Graph} {n : Nat} {id t : ArtifactId} {a b : Artifact} {l : Label}

/-- What the catalog has is read. -/
theorem artifact_of_get? (h : g.catalog.get? id = some a) : g.artifact id = .ok a := by
  rw [artifact, h]

/-- What is read, the catalog has. -/
theorem get?_of_artifact (h : g.artifact id = .ok a) : g.catalog.get? id = some a := by
  rw [artifact] at h
  split at h <;> cases h
  assumption

/-! ## Chains -/

/-- A chain ends at an artifact that is no reference. -/
theorem Ends.target (h : g.Ends n id t b) :
    g.catalog.get? t = some b ∧ b.body.isReference = false := by
  induction h with
  | here hb concrete => exact ⟨hb, concrete⟩
  | there _ _ _ _ ih => exact ih

/-- The end of a chain is the end of its own. -/
theorem Ends.at_target (h : g.Ends n id t b) (m : Nat) : g.Ends m t t b :=
  .here h.target.1 h.target.2

/-- What is read off an artifact that is no reference. -/
theorem match_of_concrete {α : Type} (concrete : b.body.isReference = false)
    {onReference : Body.Reference → α} {otherwise : α} :
    (match b.body with | .reference r => onReference r | _ => otherwise) = otherwise := by
  cases hb : b.body with
  | reference r => rw [hb] at concrete; cases concrete
  | _ => rfl

/-- A chain is followed to its end, within as many steps as it has. -/
theorem followFrom_of_ends (h : g.Ends n id t b) : g.followFrom n id = .ok t := by
  induction h with
  | @here n id b hb concrete =>
    cases n <;>
    · rw [followFrom, artifact_of_get? hb]
      exact match_of_concrete concrete
  | there ha hr bound _ ih =>
    rw [followFrom, artifact_of_get? ha]
    simp only [bind, Except.bind, hr, bound]
    exact ih

/-- The number of artifacts is steps enough. -/
theorem follow_of_ends (h : g.Ends g.size id t b) : g.follow id = .ok t :=
  followFrom_of_ends h

/-- What is followed to an end has a chain that ends there. -/
theorem ends_of_followFrom (h : g.followFrom n id = .ok t) : ∃ b, g.Ends n id t b := by
  induction n generalizing id with
  | zero =>
    rw [followFrom] at h
    obtain ⟨a, ha, h⟩ := bind_eq_ok_iff.1 h
    split at h <;> cases h
    rename_i other
    exact ⟨a, .here (get?_of_artifact ha) (Body.isReference_eq_false other)⟩
  | succ n ih =>
    rw [followFrom] at h
    obtain ⟨a, ha, h⟩ := bind_eq_ok_iff.1 h
    split at h
    · rename_i r hr
      obtain ⟨next, bound, h⟩ := bind_eq_ok_iff.1 h
      obtain ⟨b, ends⟩ := ih h
      exact ⟨b, .there (get?_of_artifact ha) hr bound ends⟩
    · rename_i other
      cases h
      exact ⟨a, .here (get?_of_artifact ha) (Body.isReference_eq_false other)⟩

/-- A chain has one end. -/
theorem Ends.unique {u : ArtifactId} {c : Artifact} (h : g.Ends n id t b) (h' : g.Ends n id u c) :
    t = u ∧ b = c := by
  have same : t = u :=
    Except.ok.inj ((followFrom_of_ends h).symm.trans (followFrom_of_ends h'))
  subst same
  exact ⟨rfl, Option.some.inj (h.target.1.symm.trans h'.target.1)⟩

/-- Along a chain that ends, a name to show is found. -/
theorem exists_displayNameFrom (h : g.Ends n id t b) :
    ∃ name, g.displayNameFrom n id = .ok name := by
  induction h with
  | @here n id b hb concrete =>
    refine ⟨b.name, ?_⟩
    cases n <;>
    · rw [displayNameFrom, artifact_of_get? hb]
      exact match_of_concrete concrete
  | @there n id next t a b r ha hr bound _ ih =>
    rw [displayNameFrom, artifact_of_get? ha]
    simp only [bind, Except.bind, hr, bound]
    cases r.nameOverride with
    | some name => exact ⟨name, rfl⟩
    | none => exact ih

/-- Data of the expected type is read. -/
theorem narrow_of_label (hb : g.catalog.get? id = some b) (hl : b.body.label? = some l) :
    ∃ data, g.narrow l id = .ok data ∧ b.body.narrow? l = some data := by
  obtain ⟨data, hd⟩ := Option.isSome_iff_exists.1 ((Body.isSome_narrow? l b.body).2 hl)
  refine ⟨data, ?_, hd⟩
  rw [narrow, artifact_of_get? hb]
  simp only [bind, Except.bind, hd]
  rfl

/-- The read of an edge found the data of an artifact that is no reference. -/
def Reads (g : Graph) (l : Label) (found : ArtifactId × Body.Of l) : Prop :=
  ∃ b, g.catalog.get? found.1 = some b ∧ b.body.isReference = false ∧
    b.body.narrow? l = some found.2

/-- What is bound to something that leads to the expected type is read. -/
theorem Leads.read {raw : ArtifactId} (h : g.Leads raw l) :
    ∃ found, (do let id ← g.follow raw; return (id, ← g.narrow l id)) =
      (.ok found : Except Defect (ArtifactId × Body.Of l)) ∧ g.Reads l found := by
  obtain ⟨t, b, ends, hl⟩ := h
  obtain ⟨data, hn, hd⟩ := narrow_of_label ends.target.1 hl
  refine ⟨(t, data), ?_, b, ends.target.1, ends.target.2, hd⟩
  rw [follow_of_ends ends]
  simp only [bind, Except.bind, hn]
  rfl

/-! ## Promises -/

/-- **Every promise of an artifact is read.** -/
theorem Sound.resolve (hg : g.Sound) (ha : g.catalog.get? id = some a) {p : Promise l}
    (hp : ⟨l, p⟩ ∈ a.body.handles) : ∃ found, g.resolve p = .ok found ∧ g.Reads l found := by
  obtain ⟨raw, bound, leads⟩ := hg.promises id a ha ⟨l, p⟩ hp
  obtain ⟨found, hf, reads⟩ := leads.read
  refine ⟨found, ?_, reads⟩
  rw [Graph.resolve, bound]
  exact hf

/-- **Every list of an artifact is read.** -/
theorem Sound.resolveList (hg : g.Sound) (ha : g.catalog.get? id = some a) {p : ListPromise l}
    (hp : ⟨l, p⟩ ∈ a.body.listHandles) :
    ∃ found, g.resolveList p = .ok found ∧ ∀ x ∈ found, g.Reads l x := by
  obtain ⟨raws, bound, leads⟩ := hg.lists id a ha ⟨l, p⟩ hp
  obtain ⟨found, hf⟩ := exists_mapM_eq_ok fun raw hr => ((leads raw hr).read).imp fun _ h => h.1
  refine ⟨found, ?_, fun x hx => ?_⟩
  · rw [Graph.resolveList, bound]
    exact hf
  · obtain ⟨raw, hr, hx⟩ := exists_left_of_forall₂ (mapM_eq_ok_iff.1 hf) hx
    obtain ⟨y, hy, reads⟩ := (leads raw hr).read
    exact Except.ok.inj (hy.symm.trans hx) ▸ reads

/-! ## Selections -/

/-- The body that holds the data of an entity. -/
def bodyOf : (l : Label) → Body.Of l → Body
  | .root, data => .root data
  | .server, data => .server data
  | .serverVariable, data => .serverVariable data
  | .channel, data => .channel data
  | .operation, data => .operation data
  | .message, data => .message data
  | .correlationId, data => .correlationId data
  | .parameter, data => .parameter data
  | .securityScheme, data => .securityScheme data
  | .schema, data => .schema data
  | .bindings, data => .bindings data

/-- The data of the entity that a body holds is all that the body holds. -/
theorem body_of_narrow? {data : Body.Of l} {body : Body} (h : body.narrow? l = some data) :
    body = bodyOf l data := by
  cases l <;> cases body <;> cases h <;> rfl

/-- The servers of a channel are read. -/
theorem Sound.servers (hg : g.Sound) (ha : g.catalog.get? id = some a) {c : Body.Channel}
    (hc : a.body = .channel c) : ∃ found, g.servers c = .ok found ∧
      ∀ x ∈ found, g.Reads .server x := by
  rw [Graph.servers]
  cases hs : c.servers with
  | named promises =>
    have each : ∀ p ∈ promises, ∃ found, g.resolve p = .ok found ∧ g.Reads .server found := by
      intro p hp
      refine hg.resolve ha ?_
      rw [hc]
      simp only [Body.handles, hs, Body.ChannelServers.handles, Body.handlesOf, List.mem_append,
        List.mem_map]
      exact .inl (.inl (.inl (.inl ⟨p, hp, rfl⟩)))
    obtain ⟨found, hf⟩ := exists_mapM_eq_ok fun p hp => (each p hp).imp fun _ h => h.1
    refine ⟨found, hf, fun x hx => ?_⟩
    obtain ⟨p, hp, hx⟩ := exists_left_of_forall₂ (mapM_eq_ok_iff.1 hf) hx
    obtain ⟨y, hy, reads⟩ := each p hp
    exact Except.ok.inj (hy.symm.trans hx) ▸ reads
  | all promise =>
    refine hg.resolveList (l := .server) (p := promise) ha ?_
    rw [hc]
    simp [Body.listHandles, hs]

/-- Every artifact is visible or not. -/
theorem Sound.isVisible (hg : g.Sound) (ha : g.catalog.get? id = some a) :
    ∃ visible, g.isVisible id = .ok visible := by
  obtain ⟨t, b, ends⟩ := hg.ends id a ha
  refine ⟨b.visible, ?_⟩
  rw [Graph.isVisible, follow_of_ends ends]
  simp only [bind, Except.bind, artifact_of_get? ends.target.1]
  rfl

/-- The protocols of servers that can be read are found. -/
theorem Sound.visibleProtocols (hg : g.Sound) {servers : List (ArtifactId × Body.Server)}
    (h : ∀ x ∈ servers, g.Reads .server x) :
    ∃ protocols, g.visibleProtocols servers = .ok protocols := by
  induction servers with
  | nil => exact ⟨[], rfl⟩
  | cons x rest ih =>
    obtain ⟨id, server⟩ := x
    obtain ⟨b, hb, -⟩ := h (id, server) (List.mem_cons_self ..)
    obtain ⟨visible, hv⟩ := hg.isVisible hb
    obtain ⟨protocols, hp⟩ := ih fun x hx => h x (List.mem_cons_of_mem _ hx)
    rw [Graph.visibleProtocols]
    simp only [bind, Except.bind, hv, hp]
    cases visible with
    | true => exact ⟨server.protocol :: protocols, rfl⟩
    | false => exact ⟨protocols, rfl⟩

/-- The messages of a channel's operations are found. -/
theorem Sound.messages (hg : g.Sound) (ha : g.catalog.get? id = some a) {c : Body.Channel}
    (hc : a.body = .channel c) : ∃ found, g.messages c.operations = .ok found := by
  have each : ∀ p ∈ c.operations, ∃ ids, (do
      let found ← g.resolve p
      found.2.messages.mapM fun m => return (← g.resolve m).1) =
        (.ok ids : Except Defect (List ArtifactId)) := by
    intro p hp
    have held : ⟨.operation, p⟩ ∈ a.body.handles := by
      rw [Body.Channel.operations, List.mem_append] at hp
      rw [hc]
      simp only [Body.handles, Body.handlesOf, List.mem_append, List.mem_map]
      rcases hp with hp | hp
      · exact .inl (.inl (.inr ⟨p, hp, rfl⟩))
      · exact .inl (.inr ⟨p, hp, rfl⟩)
    obtain ⟨⟨t, operation⟩, hr, b, hb, -, hn⟩ := hg.resolve ha held
    have body : b.body = .operation operation := body_of_narrow? hn
    have messages : ∀ m ∈ operation.messages, ∃ id,
        (do return (← g.resolve m).1) = (.ok id : Except Defect ArtifactId) := by
      intro m hm
      obtain ⟨found, hf, -⟩ := hg.resolve hb (p := m) (l := .message) (by
        rw [body]
        simp only [Body.handles, Body.handlesOf, List.mem_append, List.mem_map]
        exact .inl (.inl (.inr ⟨m, hm, rfl⟩)))
      exact ⟨found.1, by rw [hf]; rfl⟩
    obtain ⟨ids, hi⟩ := exists_mapM_eq_ok messages
    exact ⟨ids, by rw [hr]; exact hi⟩
  obtain ⟨found, hf⟩ := exists_mapM_eq_ok each
  exact ⟨found.flatten, by rw [Graph.messages, hf]; rfl⟩

/-- Every channel has a route. -/
theorem Sound.route (hg : g.Sound) (ha : g.catalog.get? id = some a) {c : Body.Channel}
    (hc : a.body = .channel c) : ∃ route, g.route id c = .ok route := by
  obtain ⟨servers, hs, reads⟩ := hg.servers ha hc
  obtain ⟨protocols, hp⟩ := hg.visibleProtocols reads
  obtain ⟨messages, hm⟩ := hg.messages ha hc
  rw [Graph.route]
  simp only [bind, Except.bind, hs, hp, hm]
  exact ⟨_, rfl⟩

end Graph

/-! ## Selections -/

namespace Selection

open ApiGraph.Graph (artifact_of_get? follow_of_ends)

variable {g : Graph} {id : ArtifactId} {a : Artifact}

/-- A sound graph has a selection. -/
theorem exists_ofGraph (hg : g.Sound) (numbered : g.catalog.Numbered) :
    ∃ s, ofGraph g = .ok s ∧ s.graph = g := by
  have each : ∀ x ∈ g.channels, ∃ route, g.route x.1 x.2 = .ok route := by
    intro x hx
    simp only [Graph.channels, List.mem_filterMap, Prod.exists, Option.map_eq_some_iff] at hx
    obtain ⟨id, a, ha, c, hc, rfl⟩ := hx
    exact hg.route ((Catalog.mem_entries_iff numbered).1 ha) (Graph.body_of_narrow? hc)
  obtain ⟨routes, hr⟩ := exists_mapM_eq_ok each
  refine ⟨⟨g, routes⟩, ?_, rfl⟩
  rw [ofGraph, Graph.routes]
  simp only [bind, Except.bind]
  rw [hr]
  rfl

variable {s : Selection}

/-- The protocols of every artifact are found. -/
theorem exists_protocols (hg : s.graph.Sound) (ha : s.graph.catalog.get? id = some a) :
    ∃ protocols, s.protocols id = .ok protocols := by
  obtain ⟨t, b, ends⟩ := hg.ends id a ha
  have again := follow_of_ends (ends.at_target _)
  rw [protocols, follow_of_ends ends]
  simp only [bind, Except.bind, artifact_of_get? ends.target.1]
  split
  · exact ⟨_, rfl⟩
  · rw [channelProtocols, again]
    exact ⟨_, rfl⟩
  · rw [messageProtocols, again]
    exact ⟨_, rfl⟩
  · exact ⟨_, rfl⟩

/-- The variants of every artifact are found. -/
theorem exists_variants (hg : s.graph.Sound) (ha : s.graph.catalog.get? id = some a) :
    ∃ variants, s.variants id = .ok variants := by
  obtain ⟨t, b, ends⟩ := hg.ends id a ha
  rw [variants, follow_of_ends ends]
  simp only [bind, Except.bind, artifact_of_get? ends.target.1]
  split <;> exact ⟨_, rfl⟩

/-- Every artifact can be reported. -/
theorem exists_unitReport (hg : s.graph.Sound) (kind : Kind)
    (ha : s.graph.catalog.get? id = some a) : ∃ unit, s.unitReport kind id = .ok unit := by
  obtain ⟨protocols, hp⟩ := exists_protocols hg ha
  obtain ⟨table, ht⟩ := exists_variants hg ha
  have each : ∀ protocol ∈ protocols, ∃ v, s.variant? id protocol = .ok v := by
    intro protocol _
    rw [variant?, ht]
    exact ⟨_, rfl⟩
  obtain ⟨found, hf⟩ := exists_mapM_eq_ok each
  obtain ⟨t, b, ends⟩ := hg.ends id a ha
  obtain ⟨name, hn⟩ := Graph.exists_displayNameFrom ends
  rw [unitReport]
  simp only [bind, Except.bind, hp, hf, Graph.displayName, hn, artifact_of_get? ha]
  exact ⟨_, rfl⟩

/-- A selection of a sound graph has a report. -/
theorem exists_report (hg : s.graph.Sound) (numbered : s.graph.catalog.Numbered) :
    ∃ report, s.report = .ok report := by
  have each : ∀ kind ∈ Report.kinds, ∃ units, (s.units kind).mapM (s.unitReport kind) =
      .ok units := by
    intro kind _
    refine exists_mapM_eq_ok fun id hid => ?_
    obtain ⟨a, ha, -⟩ := (Catalog.mem_select_iff numbered).1 hid
    exact exists_unitReport hg kind ha
  obtain ⟨units, hu⟩ := exists_mapM_eq_ok each
  rw [report]
  simp only [bind, Except.bind, hu]
  exact ⟨_, rfl⟩

end Selection
end ApiGraph
