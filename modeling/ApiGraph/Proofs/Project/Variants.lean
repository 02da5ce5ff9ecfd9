/-
# Variants and bindings

The variants of a server, a channel or a message are derived when it is compiled, from what its
bindings section holds itself; the edge to the section is bound when documents are linked.  Both
agree where the section is written inline: its variants are those that the builders derive from
the decoded bindings that the edge leads to (`Project.variants_of_section`).  A section that is
nothing but a reference holds nothing itself, and so its variants are those without bindings,
whatever the reference leads to.
-/

import ApiGraph.Proofs.Graph.Protocols
import ApiGraph.Proofs.Linking.Evaluation
import ApiGraph.Proofs.Project.Origins

namespace ApiGraph

open Document (Entity)

/-- The variants are what the builders derive from a name, the address and such bindings. -/
def Body.Varied.DerivedFrom (x : Body.Varied) (r : Registry) (name : String)
    (bindings : String → Option Json) : Prop :=
  ∀ protocol b, Table.get? r protocol = some b → ∃ v, Table.get? x.variants protocol = some v ∧
    b.variant x.role ⟨name, x.address, bindings protocol⟩ = .ok v

/-- The decoded value for a protocol. -/
def Body.Bindings.value? (b : Body.Bindings) (protocol : String) : Option Json :=
  (Table.get? b.values protocol).map (·.value)

/-- The bindings section of what has variants is its part, of the kind of its role. -/
theorem Document.Entity.bindings?_of_mem_parts {e : Entity} {b : Body} {x : Body.Varied}
    {rel : List String} {kind : Document.BindingsKind} {sec : Document.Bindings}
    (label : b.label? = some e.label) (hx : b.varied? = some x)
    (h : (rel, .bindings kind sec) ∈ e.parts) :
    e.bindings? = some sec ∧ kind = x.role.bindingsKind ∧ rel = ["bindings"] := by
  rw [Entity.parts] at h
  split at h
  · cases h
  cases b <;> cases hx <;> cases e <;> cases label <;>
    simp [Entity.ownParts, Document.Placed.ofFields, Entity.partFields, Document.Placed.under,
      Document.entryParts, Document.optionParts] at h
  all_goals
    obtain ⟨found, rfl, rfl⟩ := h
    exact ⟨found, rfl, rfl⟩

/-- What has variants holds the promise of its bindings. -/
theorem Body.mem_handles_of_varied? {b : Body} {x : Body.Varied} {promise : Promise .bindings}
    (hx : b.varied? = some x) (hp : x.bindings = some promise) :
    ⟨.bindings, promise⟩ ∈ b.handles := by
  cases b <;> cases hx
  all_goals
    dsimp only at hp
    simp [Body.handles, Body.handlesOf, hp]

namespace Body.Varied

variable {x : Body.Varied} {r : Registry} {name : String} {entries : Table Json}

/-- Variants are derived from the entries of a section. -/
theorem derivedFrom_entries (builtIn : r.BuiltIn) (h : Registry.variants x.role (fun b =>
    ⟨name, x.address, Table.get? entries b.protocol⟩) r = .ok x.variants) :
    x.DerivedFrom r name (Table.get? entries) := by
  intro protocol b hb
  obtain ⟨q, -, rfl, rfl⟩ := builtIn.of_get? hb
  obtain ⟨v, hv, found⟩ := Registry.exists_variant h hb
  exact ⟨v, found, hv⟩

/-- **The same variants are derived from what the entries decode to.** -/
theorem DerivedFrom.decoded (h : x.DerivedFrom r name (Table.get? entries))
    (builtIn : r.BuiltIn) {data : Body.Bindings}
    (decodes : r.Decodes x.role.bindingsKind entries data.values) :
    x.DerivedFrom r name data.value? := by
  intro protocol b hb
  obtain ⟨v, found, hv⟩ := h protocol b hb
  obtain ⟨q, hq, rfl, rfl⟩ := builtIn.of_get? hb
  have entry := decodes q.protocol q.builder hb (StandardProtocol.isExtension_eq_false hq)
  refine ⟨v, found, ?_⟩
  rw [Body.Bindings.value?]
  cases he : Table.get? entries q.protocol with
  | none =>
    rw [he] at entry hv
    rw [entry]
    exact hv
  | some raw =>
    rw [he] at entry hv
    obtain ⟨value, decoded, hvalue⟩ := entry
    rw [hvalue]
    exact (StandardProtocol.variant_decoded hq decoded name x.address).symm.trans hv

end Body.Varied

/-- The variants of every artifact are derived from the decoded bindings that it is linked to. -/
def Graph.ReflectsBindings (g : Graph) (r : Registry) : Prop :=
  ∀ (id : ArtifactId) (a : Artifact) (x : Body.Varied) (promise : Promise .bindings)
    (target : ArtifactId) (b : Artifact) (data : Body.Bindings), g.catalog.get? id = some a →
      a.body.varied? = some x → x.bindings = some promise → g.LeadsTo promise target →
      g.catalog.get? target = some b → b.body = .bindings data →
        x.DerivedFrom r a.name data.value?

namespace Project

variable {p : Project} {rootId : String} {root : Document} {s t : ArtifactStore}
  {place : Location} {e : Entity} {id : ArtifactId} {a : Artifact}

/-- The bindings section `sec` of what `a` represents was compiled to `b`, where `promise` leads,
and the variants are derived from its entries. -/
structure SectionOf (p : Project) (rootId : String) (root : Document) (s : ArtifactStore)
    (a : Artifact) (x : Body.Varied) (promise : Promise .bindings) (sec : Document.Bindings)
    (b : Artifact) : Prop where
  owner : ∃ e, p.Stands rootId root s a.location e ∧ e.bindings? = some sec
  location : b.location = a.location.descend ["bindings"]
  cell : s.promise? promise.cell = some (Edge.cell a.location ⟨.bindings, b.location, .part⟩)
  depicts : b.Depicts b.location (.bindings x.role.bindingsKind sec)
  derives : (Entity.bindings x.role.bindingsKind sec).Derives p.settings.registry b
  variants : Registry.variants x.role (fun builder =>
    ⟨a.name, x.address, Table.get? sec.protocols builder.protocol⟩) p.settings.registry =
      .ok x.variants

/-- What has variants and promises bindings has its own section. -/
theorem Sources.exists_sectionOf (h : p.Sources rootId root s) {x : Body.Varied}
    {promise : Promise .bindings} (ha : s.catalog.get? id = some a)
    (hx : a.body.varied? = some x) (hp : x.bindings = some promise) :
    ∃ sec number b, s.catalog.get? number = some b ∧
      p.SectionOf rootId root s a x promise sec b := by
  obtain ⟨d, v, hd, index, rep, stands, derives⟩ := h.exists_origin Compile.grants_derives ha
  have held := Body.mem_handles_of_varied? hx hp
  have body := rep.body
  rw [DocumentStore.Embodies] at body
  split at body
  · -- a reference holds no promise
    obtain ⟨r, slot, hb, -⟩ := body
    rw [hb] at hx
    cases hx
  obtain ⟨label, wired, -⟩ := body
  obtain ⟨edge, he, hl, hdoc, hcell⟩ := exists_right_of_forall₂ wired held
  rw [← rep.location] at he hcell
  rcases Entity.leads_of_mem_edges he with ⟨rel, e, hpart, rfl⟩ | ⟨_, _, _, _, rfl⟩ |
    ⟨_, _, rfl⟩ | ⟨_, _, rfl⟩
  · cases e <;> cases hl
    rename_i kind sec
    obtain ⟨found, rfl, rfl⟩ := Entity.bindings?_of_mem_parts label hx hpart
    obtain ⟨number, b, hb, depicts, derives'⟩ :=
      h.exists_granted Compile.grants_derives (stands.part hpart)
    have below := depicts.location
    rw [← below] at depicts hcell
    refine ⟨sec, number, b, hb, ⟨_, stands, found⟩, below, ?_, depicts, derives', ?_⟩
    · rw [ArtifactStore.promise?, hdoc, index, hd]
      exact hcell
    · have variants := derives.variants x hx
      rw [found] at variants
      exact variants
  -- the other edges are of other types
  · cases hl
  · cases hl
  · cases hl

/-! ## A shop -/

/-- A project with all built-in builders. -/
def market : Project where
  settings := { registry := .standard }
  library := .empty

/-- A section that names a topic. -/
def orderBindings : Document.Bindings where
  protocols := [("kafka", .object [("topic", .string "orders.v1")])]

/-- A section that refers to where the topic is named. -/
def orderReference : Document.Bindings where
  reference := some "#/components/channelBindings/orders"

/-- A channel with such bindings. -/
def channelWith (given : Document.Bindings) : Document.Channel where
  bindings := some given

/-- Two channels for one topic: one names it, and one refers to where it is named. -/
def shop : Document where
  channels := [("direct", channelWith orderBindings), ("referring", channelWith orderReference)]
  components := some { channelBindings := [("orders", orderBindings)] }

/-- The text of an attribute. -/
def attributeText? (v : Variant) (name : String) : Option String :=
  match Table.get? v.attributes name with
  | some (.string text) => some text
  | _ => none

/-- The topic of an artifact's variant, and the topic that is derived from the bindings that the
artifact is linked to. -/
def topics? (g : Graph) (id : ArtifactId) : Option (Option String × Option String) := do
  let a ← g.catalog.get? id
  let x ← a.body.varied?
  let promise ← x.bindings
  let raw ← (g.binding promise).toOption
  let target ← (g.follow raw).toOption
  let b ← g.catalog.get? target
  let data ← b.body.narrow? .bindings
  let v ← Table.get? x.variants "kafka"
  let linked ← (kafka.variant x.role ⟨a.name, x.address, data.value? "kafka"⟩).toOption
  return (attributeText? v "topic", attributeText? linked "topic")

/-- Nothing is wrong in the shop; the channel that refers to the topic is not given it. -/
theorem topics?_shop :
    (market.compile "a" shop).toOption.map (fun s => (s.findingsIn s.plainView).errors.isEmpty) =
      some true ∧
    (market.compile "a" shop).toOption.bind (fun s => topics? ⟨s.withBindings⟩ ⟨0, 1⟩) =
      some (some "orders.v1", some "orders.v1") ∧
    (market.compile "a" shop).toOption.bind (fun s => topics? ⟨s.withBindings⟩ ⟨0, 3⟩) =
      some (some "referring", some "orders.v1") := by
  -- following keeps the references that it has seen in a set, which does not evaluate
  simp only [ArtifactStore.withBindings, ArtifactStore.findingsIn, Linking.narrowReferences,
    Linking.narrowPromises, Linking.narrowLists, Linking.check, View.follow_eq_chase]
  refine ⟨?_, ?_, ?_⟩ <;> decide +kernel

/-- The shop is linked. -/
theorem exists_linked_shop : ∃ s t, market.compile "a" shop = .ok s ∧ s.link = .linked t ∧
    topics? ⟨t⟩ ⟨0, 1⟩ = some (some "orders.v1", some "orders.v1") ∧
    topics? ⟨t⟩ ⟨0, 3⟩ = some (some "referring", some "orders.v1") := by
  obtain ⟨clean, direct, referring⟩ := topics?_shop
  obtain ⟨s, hc, linked⟩ := exists_linked_of_clean clean
  rw [hc] at direct referring
  exact ⟨s, _, hc, linked, direct, referring⟩

/-- All built-in builders are in use by default. -/
theorem ofOptions_default : ofOptions {} .empty = .ok market := rfl

/-! ## Variants and sections -/

section Built

variable {o : Options} {library : Library} {x : Body.Varied} {promise : Promise .bindings}
  {sec : Document.Bindings} {b : Artifact}

/-- The builders of a project with built-in ones. -/
theorem builtIn_ofOptions (h : ofOptions o library = .ok p) : p.settings.registry.BuiltIn := by
  rw [ofOptions] at h
  split at h <;> cases h
  exact Registry.builtIn_ofOptions ‹_›

/-- The promise is bound to the artifact of the section. -/
theorem SectionOf.binding (h : p.SectionOf rootId root s a x promise sec b) (hs : s.WellFormed)
    (hu : s.Unbound) (hl : s.link = .linked t) (hb : s.catalog.get? id = some b) :
    Graph.binding ⟨t⟩ promise = .ok id := by
  obtain ⟨raw, ⟨_, ⟨c, hc, at_⟩, rfl⟩, bound⟩ :=
    ArtifactStore.exists_binding_promise hs hu hl h.cell
  have same : raw = id := hs.location_inj hc hb at_
  rw [Graph.binding, bound, same]

theorem SectionOf.derivedFrom (h : p.SectionOf rootId root s a x promise sec b)
    (builtIn : p.settings.registry.BuiltIn) :
    x.DerivedFrom p.settings.registry a.name (Table.get? sec.protocols) :=
  Body.Varied.derivedFrom_entries builtIn h.variants

/-- The artifact of a section that is no reference holds the bindings that the variants reflect. -/
theorem SectionOf.exists_data (h : p.SectionOf rootId root s a x promise sec b)
    (builtIn : p.settings.registry.BuiltIn) (inline : sec.reference = none) :
    ∃ data, b.body = .bindings data ∧ x.DerivedFrom p.settings.registry a.name data.value? := by
  have label : b.body.label? = some .bindings := by
    rw [h.depicts.label]
    simp [Entity.reference?, inline, Entity.label]
  obtain ⟨data, hd⟩ := Option.isSome_iff_exists.1 ((Body.isSome_narrow? .bindings b.body).2 label)
  have body : b.body = .bindings data := Graph.body_of_narrow? hd
  obtain ⟨-, decodes⟩ := h.derives.values _ _ data rfl body
  exact ⟨data, body, (h.derivedFrom builtIn).decoded builtIn decodes⟩

/-- **Variants reflect a section that is written inline.**  In a graph with built-in builders, the
bindings of a server, channel or message are bound to the artifact of its own section `sec`.  If the
section is written inline, that artifact holds the decoded bindings, and every variant is what its
builder derives from the name, the address and the decoded value for its protocol.  If the section
is a reference and nothing else, every variant is what its builder derives without bindings. -/
theorem variants_of_section (hp : ofOptions o library = .ok p)
    (hc : p.compile rootId root = .ok s) (hl : s.link = .linked t) {id : ArtifactId}
    {a : Artifact} {x : Body.Varied} {promise : Promise .bindings}
    (ha : t.catalog.get? id = some a) (hx : a.body.varied? = some x)
    (hb : x.bindings = some promise) :
    ∃ e sec number b, p.Stands rootId root s a.location e ∧ e.bindings? = some sec ∧
      Graph.binding ⟨t⟩ promise = .ok number ∧ t.catalog.get? number = some b ∧
      b.location = a.location.descend ["bindings"] ∧
      (sec.reference = none → Graph.LeadsTo ⟨t⟩ promise number ∧ ∃ data, b.body = .bindings data ∧
        x.DerivedFrom p.settings.registry a.name data.value?) ∧
      (sec.reference.isSome → sec.protocols = [] →
        x.DerivedFrom p.settings.registry a.name fun _ => none) := by
  have sources := sources_of_compile hc
  have hs := sources.store
  have builtIn := builtIn_ofOptions hp
  have catalog : t.catalog = s.catalog := Graph.catalog_of_linked hs.wellFormed hs.unbound hl
  rw [catalog] at ha ⊢
  obtain ⟨sec, number, b, hn, sectionOf⟩ := sources.exists_sectionOf ha hx hb
  have bound := sectionOf.binding hs.wellFormed hs.unbound hl hn
  obtain ⟨e, stands, own⟩ := sectionOf.owner
  refine ⟨e, sec, number, b, stands, own, bound, hn, sectionOf.location, fun inline => ?_,
    fun _ empty => ?_⟩
  · obtain ⟨data, body, reflects⟩ := sectionOf.exists_data builtIn inline
    have concrete : b.body.isReference = false := by
      rw [body]
      rfl
    rw [← catalog] at hn
    have followed : Graph.follow ⟨t⟩ number = .ok number :=
      Graph.follow_of_concrete (g := ⟨t⟩) hn concrete
    exact ⟨⟨number, bound, followed⟩, data, body, reflects⟩
  · intro protocol builder hbuilder
    have derived := sectionOf.derivedFrom builtIn protocol builder hbuilder
    rw [empty] at derived
    exact derived

end Built

/-- The variants of the channel that names its topic reflect its section. -/
theorem variants_of_section_shop : ∃ s t a x promise, market.compile "a" shop = .ok s ∧
    s.link = .linked t ∧ t.catalog.get? ⟨0, 1⟩ = some a ∧ a.body.varied? = some x ∧
    x.bindings = some promise ∧ ∃ e sec number b, market.Stands "a" shop s a.location e ∧
      e.bindings? = some sec ∧ Graph.binding ⟨t⟩ promise = .ok number ∧
      t.catalog.get? number = some b ∧ b.location = a.location.descend ["bindings"] ∧
      (sec.reference = none → Graph.LeadsTo ⟨t⟩ promise number ∧ ∃ data, b.body = .bindings data ∧
        x.DerivedFrom .standard a.name data.value?) ∧
      (sec.reference.isSome → sec.protocols = [] →
        x.DerivedFrom .standard a.name fun _ => none) := by
  obtain ⟨s, t, hc, hl, direct, -⟩ := exists_linked_shop
  simp only [topics?, Option.bind_eq_bind, Option.bind_eq_some_iff] at direct
  obtain ⟨a, ha, x, hx, promise, hp, -⟩ := direct
  exact ⟨s, t, a, x, promise, hc, hl, ha, hx, hp,
    variants_of_section ofOptions_default hc hl ha hx hp⟩

/-- Where variants reflect the bindings that artifacts are linked to, topics do not differ. -/
theorem topic_eq_of_reflectsBindings {g : Graph} (h : g.ReflectsBindings .standard)
    {id : ArtifactId} {given linked : Option String} (found : topics? g id = some (given, linked)) :
    given = linked := by
  simp only [topics?, Option.bind_eq_bind, Option.bind_eq_some_iff] at found
  obtain ⟨a, ha, x, hx, promise, hp, raw, hr, target, ht, b, hb, data, hd, v, hv, v', hv', same⟩ :=
    found
  have leads : g.LeadsTo promise target :=
    ⟨raw, toOption_eq_some_iff.1 hr, toOption_eq_some_iff.1 ht⟩
  have derived := h id a x promise target b data ha hx hp leads hb (Graph.body_of_narrow? hd)
  obtain ⟨w, hw, derives⟩ := derived "kafka" kafka.builder rfl
  obtain rfl := Option.some.inj (hw.symm.trans hv)
  obtain rfl := Except.ok.inj (derives.symm.trans (toOption_eq_some_iff.1 hv'))
  cases same
  rfl

/-- **Variants do not always reflect the bindings that artifacts are linked to.** -/
theorem not_forall_reflectsBindings : ¬ ∀ (o : Options) (library : Library) (p : Project)
    (rootId : String) (root : Document) (g : Graph), ofOptions o library = .ok p →
      p.build rootId root = .ok g → g.ReflectsBindings p.settings.registry := by
  intro reflects
  obtain ⟨s, t, hc, hl, -, referring⟩ := exists_linked_shop
  have built : market.build "a" shop = .ok ⟨t⟩ := build_of_linked hc hl
  have h := reflects _ _ _ _ _ _ ofOptions_default built
  have same := topic_eq_of_reflectsBindings h referring
  simp at same

end Project
end ApiGraph
