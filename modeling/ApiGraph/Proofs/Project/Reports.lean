/-
# Reports and selections

A report lists the units of a selection kind by kind.  What it says of a unit it asks the selection
for: the protocols that apply, and the variants for them.  The units of a protocol are found the
other way round, unit by unit for one protocol.  In a graph that was built with the built-in
builders both say the same (`Selection.Describes`, `Project.reports_agree`), since no protocol
applies twice and a variant is named after the protocol that it was derived for.
-/

import ApiGraph.Proofs.Project.Variants
import Mathlib.Data.List.ReduceOption

namespace ApiGraph

/-! ## Named variants -/

/-- Every variant is named after the protocol that it is for. -/
def Variant.Named (table : Table Variant) : Prop :=
  ∀ protocol v, Table.get? table protocol = some v → v.protocol = protocol

namespace StandardProtocol

/-- A built-in builder names its variants after its protocol. -/
theorem protocol_variant {q : StandardProtocol} {role : Role} {seed : Seed} {v : Variant}
    (h : q.variant role seed = .ok v) : v.protocol = q.protocol := by
  rw [variant] at h
  split at h
  · cases h
    rfl
  · cases h
    rfl
  · split at h
    all_goals
      obtain ⟨value, -, h⟩ := bind_eq_ok_iff.1 h
      cases h
      rfl

end StandardProtocol

/-- Built-in builders derive named variants. -/
theorem Registry.BuiltIn.named {r : Registry} (builtIn : r.BuiltIn) {role : Role}
    {seed : Builder → Seed} {table : Table Variant} (h : variants role seed r = .ok table) :
    Variant.Named table := by
  induction r generalizing table with
  | nil =>
    cases h
    rintro protocol v ⟨⟩
  | cons x rest ih =>
    obtain ⟨q, -, rfl⟩ := builtIn x List.mem_cons_self
    rw [variants] at h
    split at h
    · cases h
    · rename_i v hv
      obtain ⟨more, hm, h⟩ := bind_eq_ok_iff.1 h
      cases h
      have others := ih (fun x hx => builtIn x (List.mem_cons_of_mem _ hx)) hm
      intro protocol w hw
      rw [Table.get?] at hw
      split at hw
      · cases hw
        rename_i same
        exact (StandardProtocol.protocol_variant hv).trans same
      · exact others protocol w hw

/-- Every artifact of the graph has named variants. -/
def Graph.Names (g : Graph) : Prop :=
  ∀ id a x, g.catalog.get? id = some a → a.body.varied? = some x → Variant.Named x.variants

/-- What is left of a list that corresponds to another one is under keys of that, in order. -/
theorem keys_reduceOption_sublist {κ β : Type} {xs : List κ} {ys : List (Option (κ × β))}
    (h : List.Forall₂ (fun x y => ∀ z, y = some z → z.1 = x) xs ys) :
    (ys.reduceOption.map (·.1)).Sublist xs := by
  induction h with
  | nil => exact .slnil
  | @cons x y xs ys same _ ih =>
    cases y with
    | none => exact ih.cons _
    | some z =>
      rw [List.reduceOption_cons_of_some, List.map_cons, same z rfl]
      exact ih.cons_cons _

namespace Selection

variable {s : Selection} {id : ArtifactId} {a : Artifact} {kind : Kind} {p : String}
  {spoken : List String} {table : Table Variant} {u : UnitReport}

/-! ## What is read of one unit -/

/-- What a selection reads of an artifact: the protocols that it speaks, each once, and the
variants that it carries, each named after its protocol. -/
structure Reads (s : Selection) (id : ArtifactId) (spoken : List String)
    (table : Table Variant) : Prop where
  protocols : s.protocols id = .ok spoken
  variants : s.variants id = .ok table
  nodup : spoken.Nodup
  named : Variant.Named table

/-- The variants of an artifact are those that its body holds. -/
theorem variants_eq (ha : s.graph.catalog.get? id = some a)
    (concrete : a.body.isReference = false) :
    s.variants id = .ok ((a.body.varied?.map (·.variants)).getD []) := by
  rw [variants, Graph.follow_of_concrete ha concrete]
  simp only [bind, Except.bind, Graph.artifact_of_get? ha]
  cases a.body <;> rfl

namespace Routed

variable (hs : s.Routed)

include hs

/-- The protocols of an artifact are found, each once. -/
theorem exists_nodup_protocols (ha : s.graph.catalog.get? id = some a)
    (concrete : a.body.isReference = false) :
    ∃ spoken, s.protocols id = .ok spoken ∧ spoken.Nodup := by
  rw [Selection.protocols, Graph.follow_of_concrete ha concrete]
  simp only [bind, Except.bind, Graph.artifact_of_get? ha]
  cases body : a.body with
  | server server => exact ⟨_, rfl, List.nodup_singleton _⟩
  | channel channel =>
    obtain ⟨spoken, hp, agrees⟩ := hs.spoken ha body
    exact ⟨spoken, hp, agrees.nodup⟩
  | message message =>
    obtain ⟨travelled, hp, agrees⟩ := hs.travelled ha concrete
    exact ⟨travelled, hp, agrees.nodup⟩
  | _ => exact ⟨[], rfl, List.nodup_nil⟩

/-- The units of a kind are its artifacts that are no references, visible and selectable. -/
theorem mem_units_iff : id ∈ s.units kind ↔ ∃ a, s.graph.catalog.get? id = some a ∧
    a.kind = kind ∧ a.body.isReference = false ∧ a.visible = true ∧ a.selectable = true := by
  rw [units, Catalog.mem_select_iff hs.numbered]
  simp only [Bool.and_eq_true, beq_iff_eq, Bool.not_eq_true', and_assoc]

/-- No unit is listed twice, under one kind or under two. -/
theorem nodup_flatMap_units {kinds : List Kind} (h : kinds.Nodup) :
    (kinds.flatMap s.units).Nodup := by
  refine List.nodup_flatMap.2
    ⟨fun kind _ => Catalog.nodup_select hs.numbered _, h.imp fun different id first second => ?_⟩
  obtain ⟨a, ha, rfl, -⟩ := hs.mem_units_iff.1 first
  obtain ⟨b, hb, rfl, -⟩ := hs.mem_units_iff.1 second
  exact different (by rw [Option.some.inj (ha.symm.trans hb)])

/-- Every unit has its protocols and its variants. -/
theorem exists_reads (names : s.graph.Names) (h : id ∈ s.units kind) :
    ∃ spoken table, s.Reads id spoken table := by
  obtain ⟨a, ha, -, concrete, -⟩ := hs.mem_units_iff.1 h
  obtain ⟨spoken, hp, nodup⟩ := hs.exists_nodup_protocols ha concrete
  refine ⟨spoken, _, hp, variants_eq ha concrete, nodup, ?_⟩
  cases hx : a.body.varied? with
  | some x => exact names id a x ha hx
  | none => rintro protocol v ⟨⟩

end Routed

namespace Reads

variable (h : s.Reads id spoken table)

include h

/-- A variant is looked up in the table. -/
theorem variant?_eq (p : String) : s.variant? id p = .ok (Table.get? table p) := by
  rw [variant?, h.variants]
  rfl

/-- A variant applies if the unit has it and its protocol is spoken. -/
theorem applies_eq (p : String) :
    s.applies id p = .ok ((Table.get? table p).isSome && spoken.contains p) := by
  rw [Selection.applies, h.variant?_eq, h.protocols]
  rfl

/-- A protocol applies if it is spoken and has a variant. -/
theorem applies_iff : s.applies id p = .ok true ↔
    p ∈ spoken ∧ ∃ v, Table.get? table p = some v := by
  rw [h.applies_eq, Except.ok.injEq, Bool.and_eq_true, List.contains_iff_mem,
    Option.isSome_iff_exists, and_comm]

end Reads

/-! ## The units of a protocol -/

/-- The units of a kind that a protocol applies to, in order, each with its variant. -/
structure Lists (s : Selection) (kind : Kind) (p : String)
    (units : List (ArtifactId × Variant)) : Prop where
  order : (units.map (·.1)).Sublist (s.units kind)
  mem_iff : ∀ id v, (id, v) ∈ units ↔
    id ∈ s.units kind ∧ s.applies id p = .ok true ∧ s.variant? id p = .ok (some v)

/-- What a unit is listed with. -/
def listing (s : Selection) (p : String) (id : ArtifactId) :
    Except Defect (Option (ArtifactId × Variant)) := do
  if ← s.applies id p then return (← s.variant? id p).map (id, ·)
  else return none

/-- A unit is listed for a protocol that it speaks, if it has the variant. -/
theorem Reads.listing_eq (h : s.Reads id spoken table) (p : String) : s.listing p id =
    .ok (if p ∈ spoken then (Table.get? table p).map (id, ·) else none) := by
  rw [listing, h.applies_eq, h.variant?_eq]
  by_cases hp : p ∈ spoken
  · rw [if_pos hp, List.contains_iff_mem.2 hp]
    cases Table.get? table p <;> rfl
  · have unspoken : spoken.contains p = false := by simpa using hp
    rw [if_neg hp, unspoken, Bool.and_false]
    rfl

/-- There is a list of the units of a kind that a protocol applies to. -/
theorem Routed.exists_lists (hs : s.Routed) (names : s.graph.Names) (kind : Kind) (p : String) :
    ∃ units, s.protocolUnits kind p = .ok units ∧ s.Lists kind p units := by
  have reads : ∀ id ∈ s.units kind, ∃ spoken table, s.Reads id spoken table :=
    fun id hid => hs.exists_reads names hid
  obtain ⟨found, hf⟩ : ∃ found, (s.units kind).mapM (s.listing p) = .ok found :=
    exists_mapM_eq_ok fun id hid => by
      obtain ⟨spoken, table, h⟩ := reads id hid
      exact ⟨_, h.listing_eq p⟩
  have each := mapM_eq_ok_iff.1 hf
  -- an entry is that of its own unit
  have entry : ∀ id v, some (id, v) ∈ found ↔
      id ∈ s.units kind ∧ s.applies id p = .ok true ∧ s.variant? id p = .ok (some v) := by
    intro id v
    constructor
    · intro hx
      obtain ⟨id', hid, hl⟩ := exists_left_of_forall₂ each hx
      obtain ⟨spoken, table, h⟩ := reads id' hid
      rw [h.listing_eq, Except.ok.injEq] at hl
      split at hl
      · obtain ⟨w, hw, same⟩ := Option.map_eq_some_iff.1 hl
        cases same
        exact ⟨hid, h.applies_iff.2 ⟨‹_›, _, hw⟩, by rw [h.variant?_eq, hw]⟩
      · cases hl
    · rintro ⟨hid, applies, hv⟩
      obtain ⟨spoken, table, h⟩ := reads id hid
      obtain ⟨hp, -⟩ := h.applies_iff.1 applies
      rw [h.variant?_eq, Except.ok.injEq] at hv
      obtain ⟨x, hx, hl⟩ := exists_right_of_forall₂ each hid
      rw [h.listing_eq, if_pos hp, hv, Option.map_some, Except.ok.injEq] at hl
      exact hl ▸ hx
  refine ⟨found.reduceOption, ?_, ?_, fun id v => ?_⟩
  · rw [protocolUnits]
    exact bind_eq_ok_iff.2 ⟨found, hf, rfl⟩
  · refine keys_reduceOption_sublist (each.imp fun id x hl y hy => ?_)
    subst hy
    rw [listing] at hl
    obtain ⟨applies, -, hl⟩ := bind_eq_ok_iff.1 hl
    split at hl
    · obtain ⟨v, -, hl⟩ := bind_eq_ok_iff.1 hl
      obtain ⟨w, -, rfl⟩ := Option.map_eq_some_iff.1 (Except.ok.inj hl)
      rfl
    · cases hl
  · rw [← entry, List.reduceOption_mem_iff]

/-! ## Reports -/

/-- What a report says of a unit is what the selection answers about it.  Its variants are, in the
order of its protocols, one for each protocol that applies, and each is the one that the unit is
listed with among the units of the protocol. -/
structure Describes (s : Selection) (kind : Kind) (id : ArtifactId) (u : UnitReport) : Prop where
  of_kind : u.kind = kind
  location : s.graph.catalog.find? u.location = some id
  name : s.graph.displayName id = .ok u.name
  protocols : s.protocols id = .ok u.protocols
  protocols_nodup : u.protocols.Nodup
  variants_order : (u.variants.map (·.protocol)).Sublist u.protocols
  applies : ∀ p, s.applies id p = .ok ((u.variants.map (·.protocol)).contains p)
  listed : ∀ v ∈ u.variants, ∃ units, s.protocolUnits kind v.protocol = .ok units ∧
    ∀ w, (id, w) ∈ units ↔ w = v

/-- What a unit is reported with is read from the graph and the selection. -/
theorem exists_of_unitReport (h : s.unitReport kind id = .ok u) : ∃ a found,
    s.graph.catalog.get? id = some a ∧ s.graph.displayName id = .ok u.name ∧
      s.protocols id = .ok u.protocols ∧ u.protocols.mapM (s.variant? id) = .ok found ∧
        u.kind = kind ∧ u.location = a.location ∧ u.variants = found.flatMap Option.toList := by
  rw [unitReport] at h
  obtain ⟨protocols, hp, h⟩ := bind_eq_ok_iff.1 h
  obtain ⟨found, hf, h⟩ := bind_eq_ok_iff.1 h
  obtain ⟨name, hn, h⟩ := bind_eq_ok_iff.1 h
  obtain ⟨a, ha, h⟩ := bind_eq_ok_iff.1 h
  cases h
  exact ⟨a, found, Graph.get?_of_artifact ha, hn, hp, hf, rfl, rfl, rfl⟩

namespace Reads

variable (h : s.Reads id spoken table)

include h

/-- The variants of what is spoken are those that the table has. -/
theorem flatMap_variants {found : List (Option Variant)}
    (hf : spoken.mapM (s.variant? id) = .ok found) :
    found.flatMap Option.toList = spoken.filterMap (Table.get? table) := by
  have each : spoken.map (Table.get? table) = found.map fun v => v :=
    map_eq_of_forall₂ (mapM_eq_ok_iff.1 hf) fun p v hv => by
      rw [h.variant?_eq] at hv
      exact Except.ok.inj hv
  rw [List.map_id'] at each
  rw [← each, List.flatMap_map, List.filterMap_eq_flatMap_toList]

/-- The protocols of these variants are those that apply. -/
theorem mem_protocols_iff : p ∈ (spoken.filterMap (Table.get? table)).map (·.protocol) ↔
    s.applies id p = .ok true := by
  simp only [List.mem_map, List.mem_filterMap]
  rw [h.applies_iff]
  constructor
  · rintro ⟨v, ⟨q, hq, hv⟩, rfl⟩
    rw [h.named q v hv]
    exact ⟨hq, v, hv⟩
  · rintro ⟨hp, v, hv⟩
    exact ⟨v, ⟨p, hp, hv⟩, h.named p v hv⟩

end Reads

/-- **A unit is reported as the selection answers** about it. -/
theorem Routed.describes (hs : s.Routed) (located : s.graph.catalog.Located)
    (names : s.graph.Names) (hid : id ∈ s.units kind) (hu : s.unitReport kind id = .ok u) :
    s.Describes kind id u := by
  obtain ⟨spoken, table, h⟩ := hs.exists_reads names hid
  obtain ⟨a, found, ha, name, protocols, hf, of_kind, location, variants⟩ := exists_of_unitReport hu
  obtain rfl : u.protocols = spoken := Except.ok.inj (protocols.symm.trans h.protocols)
  rw [h.flatMap_variants hf] at variants
  refine ⟨of_kind, ?_, name, protocols, h.nodup, ?_, fun p => ?_, ?_⟩
  · rw [location]
    exact Catalog.find?_of_get? located hs.numbered ha
  · rw [variants]
    have part := keys_filterMap_sublist (fun p : String => p) Variant.protocol h.named u.protocols
    rwa [List.map_id'] at part
  · rw [variants, h.applies_eq, Except.ok.injEq, Bool.eq_iff_iff, List.contains_iff_mem,
      h.mem_protocols_iff, h.applies_eq, Except.ok.injEq]
  · intro v hv
    rw [variants, List.mem_filterMap] at hv
    obtain ⟨q, hq, hv⟩ := hv
    obtain ⟨units, hunits, lists⟩ := hs.exists_lists names kind q
    rw [h.named q v hv]
    refine ⟨units, hunits, fun w => ?_⟩
    rw [lists.mem_iff, h.variant?_eq, hv, Except.ok.injEq, Option.some.injEq]
    exact ⟨fun x => x.2.2.symm, fun same => ⟨hid, h.applies_iff.2 ⟨hq, v, hv⟩, same.symm⟩⟩

/-- A report agrees with the selection that it is about. -/
structure Reported (s : Selection) (r : Report) : Prop where
  /-- There is an entry for every unit of every kind, and for nothing else, in order. -/
  units : List.Forall₂ (fun x u => s.Describes x.1 x.2 u)
    (Report.kinds.flatMap fun kind => (s.units kind).map (kind, ·)) r.units
  units_order : ∀ kind, (s.units kind).Sublist (s.graph.artifacts.map (·.1))
  nodup : (Report.kinds.flatMap s.units).Nodup
  counts : r.counts = Report.kinds.map fun kind => (kind, (s.units kind).length)
  lists : ∀ kind p, ∃ units, s.protocolUnits kind p = .ok units ∧ s.Lists kind p units

/-- **A report agrees with its selection.** -/
theorem Routed.reported (hs : s.Routed) (located : s.graph.catalog.Located)
    (names : s.graph.Names) {r : Report} (h : s.report = .ok r) : s.Reported r := by
  rw [report] at h
  obtain ⟨found, hf, h⟩ := bind_eq_ok_iff.1 h
  cases h
  refine ⟨?_, fun kind => List.filter_sublist.map _, hs.nodup_flatMap_units (by decide), rfl,
    fun kind p => hs.exists_lists names kind p⟩
  rw [List.flatMap_def]
  refine List.rel_flatten (List.forall₂_map_left_iff.2 ?_)
  refine (mapM_eq_ok_iff.1 hf).imp fun kind units hu => List.forall₂_map_left_iff.2 ?_
  have each := (List.forall₂_and_left _ _).2
    ⟨fun id (hid : id ∈ s.units kind) => hid, mapM_eq_ok_iff.1 hu⟩
  exact each.imp fun id u reads => hs.describes located names reads.1 reads.2

end Selection

/-! ## Reports about projects -/

namespace Project

open Document

variable {p : Project} {o : Options} {library : Library} {rootId : String} {root : Document}
  {s : ArtifactStore} {g : Graph}

/-- Built-in builders name all variants in a project. -/
theorem Sources.names (h : p.Sources rootId root s) (builtIn : p.settings.registry.BuiltIn)
    (same : g.catalog = s.catalog) : g.Names := by
  intro id a x ha hx
  obtain ⟨d, v, -, -, -, -, derives⟩ := h.exists_origin Compile.grants_derives (same ▸ ha)
  exact builtIn.named (derives.variants x hx)

/-- **Reports and selections agree.**  A graph that was built with the built-in builders has a
selection, and that has a report, which says of every unit what the selection answers about it. -/
theorem reports_agree (hp : ofOptions o library = .ok p) (hb : p.build rootId root = .ok g) :
    ∃ sel r, Selection.ofGraph g = .ok sel ∧ sel.graph = g ∧ sel.report = .ok r ∧
      sel.Reported r := by
  obtain ⟨s, t, hc, hl, rfl⟩ := exists_store_of_build hb
  have sources := sources_of_compile hc
  have hs := sources.store
  have sound := Graph.sound_of_linked hs hl
  have catalog : Graph.catalog ⟨t⟩ = s.catalog :=
    Graph.catalog_of_linked hs.wellFormed hs.unbound hl
  have numbered : (Graph.catalog ⟨t⟩).Numbered := catalog ▸ hs.numbered.catalog
  have located : (Graph.catalog ⟨t⟩).Located := catalog ▸ hs.wellFormed.located
  have names := sources.names (builtIn_ofOptions hp) catalog
  obtain ⟨sel, hsel, same⟩ := Selection.exists_ofGraph sound numbered
  obtain ⟨-, routed⟩ := Selection.routed_of_ofGraph numbered hsel
  obtain ⟨r, hr⟩ := Selection.exists_report (same ▸ sound) (same ▸ numbered)
  exact ⟨sel, r, hsel, same, hr, routed.reported (same ▸ located) (same ▸ names) hr⟩

/-- A channel of two servers; there is a builder for the protocol of one of them. -/
def bridge : Document where
  servers := [("fast", { url := "fast:1", protocol := "kafka" }),
    ("slow", { url := "slow:2", protocol := "carrier-pigeon" })]
  channels := [("orders", { subscribe := some { message := some (.single {}) } })]

/-- The protocols of the units in a report, and those of their variants. -/
def spokenIn (r : Report) : List (List String × List String) :=
  r.units.map fun u => (u.protocols, u.variants.map (·.protocol))

/-- The report about the channel of two servers: the channel and its message have variants for one
of two protocols. -/
theorem reports_agree_bridge : ∃ g sel r, market.build "a" bridge = .ok g ∧
    Selection.ofGraph g = .ok sel ∧ sel.report = .ok r ∧ sel.Reported r ∧
      spokenIn r = [(["kafka"], ["kafka"]), (["carrier-pigeon"], []),
        (["kafka", "carrier-pigeon"], ["kafka"]), ([], []),
        (["kafka", "carrier-pigeon"], ["kafka"])] := by
  have evaluated : (market.compile "a" bridge).toOption.map (fun s =>
      ((s.findingsIn s.plainView).errors.isEmpty,
        (Selection.ofGraph ⟨s.withBindings⟩).toOption.bind fun sel =>
          sel.report.toOption.map spokenIn)) =
      some (true, some [(["kafka"], ["kafka"]), (["carrier-pigeon"], []),
        (["kafka", "carrier-pigeon"], ["kafka"]), ([], []),
        (["kafka", "carrier-pigeon"], ["kafka"])]) := by
    -- following keeps the references that it has seen in a set, which does not evaluate
    simp only [ArtifactStore.withBindings, ArtifactStore.findingsIn, Linking.narrowReferences,
      Linking.narrowPromises, Linking.narrowLists, Linking.check, View.follow_eq_chase]
    decide +kernel
  obtain ⟨s, hc, both⟩ := Option.map_eq_some_iff.1 evaluated
  obtain ⟨clean, given⟩ := Prod.mk.inj both
  rw [toOption_eq_some_iff] at hc
  have hl := linked_of_clean hc clean
  have built := build_of_linked hc hl
  obtain ⟨sel, r, hsel, -, hr, agrees⟩ := reports_agree ofOptions_default built
  rw [hsel] at given
  change sel.report.toOption.map spokenIn = _ at given
  rw [hr] at given
  exact ⟨_, sel, r, built, hsel, hr, agrees, Option.some.inj given⟩

end Project
end ApiGraph
