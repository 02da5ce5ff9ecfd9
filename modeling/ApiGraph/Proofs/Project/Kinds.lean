/-
# Kinds and what references lead to

An artifact is grouped under a kind.  It has the kind of the entity that it was compiled from:
data has the kind that belongs to its type, and a reference has the kind that its slot expects of
what it leads to (`Project.OfKind`).

Linking compares a reference with the kind of what it finally leads to, and a promise with the
type of the data that it finally leads to.  As data has the kind of its type, both say the same,
and a chain of references keeps its kind to the end.  So the artifacts of a kind are those that
stand for data of the kind (`Project.kinds_preserved`).
-/

import ApiGraph.Proofs.Linking.Evaluation
import ApiGraph.Proofs.Project.Graphs

namespace ApiGraph

/-! ## Kinds in a sound graph -/

namespace Graph

/-- What the references that begin at an artifact finally lead to holds data of the type. -/
def StandsFor (g : Graph) (id : ArtifactId) (l : Label) : Prop :=
  ∃ t b, g.follow id = .ok t ∧ g.catalog.get? t = some b ∧ b.body.label? = some l

/-- Data has the kind that belongs to its type. -/
def Sorted (g : Graph) : Prop :=
  ∀ id a l, g.catalog.get? id = some a → a.body.label? = some l → a.kind = l.kind

variable {g : Graph} {n : Nat} {id t : ArtifactId} {a b : Artifact} {l : Label} {k : Kind}

/-- A chain begins at an artifact. -/
theorem Ends.exists_start (h : g.Ends n id t b) : ∃ a, g.catalog.get? id = some a := by
  cases h with
  | here ha _ => exact ⟨_, ha⟩
  | there ha _ _ _ => exact ⟨_, ha⟩

/-- **A chain of references keeps its kind** to the end. -/
theorem Sound.kind_of_ends (hg : g.Sound) (ha : g.catalog.get? id = some a)
    (ends : g.Ends g.size id t b) : b.kind = a.kind := by
  cases body : a.body with
  | reference r => exact (hg.references id a r ha body).2 t b ends
  | _ =>
    -- what is no reference is its own end
    have here : g.Ends g.size id id a := .here ha (by rw [body]; rfl)
    rw [(ends.unique here).2]

/-- What an artifact stands for is of its kind. -/
theorem Sound.kind_of_standsFor (hg : g.Sound) (sorted : g.Sorted)
    (ha : g.catalog.get? id = some a) (h : g.StandsFor id l) : l.kind = a.kind := by
  obtain ⟨t, b, followed, hb, hl⟩ := h
  obtain ⟨c, ends⟩ := ends_of_followFrom followed
  obtain rfl := Option.some.inj (hb.symm.trans ends.target.1)
  rw [← sorted t b l hb hl, hg.kind_of_ends ha ends]

/-- Every artifact of a sound graph stands for something of one type. -/
theorem Sound.exists_standsFor (hg : g.Sound) (ha : g.catalog.get? id = some a) :
    ∃ l, g.StandsFor id l := by
  obtain ⟨t, b, ends⟩ := hg.ends id a ha
  obtain ⟨hb, concrete⟩ := ends.target
  obtain ⟨l, hl⟩ : ∃ l, b.body.label? = some l :=
    Option.isSome_iff_exists.1 (by simpa [Body.isReference] using concrete)
  exact ⟨l, t, b, follow_of_ends ends, hb, hl⟩

/-- **The artifacts of a kind** are those that stand for data of the kind. -/
theorem Sound.mem_byKind_iff (hg : g.Sound) (numbered : g.catalog.Numbered) (sorted : g.Sorted) :
    id ∈ g.byKind k ↔ ∃ l, g.StandsFor id l ∧ l.kind = k := by
  rw [byKind, Catalog.mem_select_iff numbered]
  simp only [beq_iff_eq]
  constructor
  · rintro ⟨a, ha, rfl⟩
    obtain ⟨l, stands⟩ := hg.exists_standsFor ha
    exact ⟨l, stands, hg.kind_of_standsFor sorted ha stands⟩
  · rintro ⟨l, stands, rfl⟩
    have ⟨t, b, followed, _⟩ := stands
    obtain ⟨c, ends⟩ := ends_of_followFrom followed
    obtain ⟨a, ha⟩ := ends.exists_start
    exact ⟨a, ha, (hg.kind_of_standsFor sorted ha stands).symm⟩

end Graph

/-! ## Kinds in a project -/

namespace Project

variable {p : Project} {rootId : String} {root : Document} {s : ArtifactStore}
  {id : ArtifactId} {a : Artifact}

/-- An artifact has the kind of the entity at its place: data has the kind that belongs to its
type, and a reference the kind that its own slot expects. -/
structure OfKind (p : Project) (rootId : String) (root : Document) (s : ArtifactStore)
    (a : Artifact) : Prop where
  entity : ∃ e, p.Stands rootId root s a.location e ∧ a.kind = e.label.kind
  data : ∀ l, a.body.label? = some l → a.kind = l.kind
  reference : ∀ r, a.body = .reference r → ∃ slot, s.reference? r.slot = some slot ∧
    slot.origin = a.location ∧ slot.expects = .kind a.kind

/-- Every artifact of a project has the kind of its entity. -/
theorem Sources.ofKind (h : p.Sources rootId root s) (ha : s.catalog.get? id = some a) :
    p.OfKind rootId root s a := by
  obtain ⟨e, stands, depicts⟩ := h.exists_entity ha
  refine ⟨⟨e, stands, depicts.kind⟩, fun l hl => ?_, fun r hr => h.store.slot_of_reference ha hr⟩
  have label := depicts.label
  split at label
  · rw [hl] at label
    cases label
  · rw [depicts.kind, ← Option.some.inj (hl.symm.trans label)]

/-- The artifacts of a compiled project are of the kinds of their data. -/
theorem Sources.sorted (h : p.Sources rootId root s) {g : Graph} (same : g.catalog = s.catalog) :
    g.Sorted :=
  fun _ _ l ha hl => (h.ofKind (same ▸ ha)).data l hl

/-- **References preserve kinds.**  In a project that compiles every artifact has the kind of its
entity.  When it is linked, the references that begin at an artifact finally lead to data of the
artifact's own kind, and the artifacts of a kind are, each once and in the order of the store, those
that stand for data of the kind. -/
theorem kinds_preserved (hc : p.compile rootId root = .ok s) :
    (∀ id a, s.catalog.get? id = some a → p.OfKind rootId root s a) ∧
    ∀ t, s.link = .linked t →
      (∀ id a, t.catalog.get? id = some a → ∃ u b l, Graph.follow ⟨t⟩ id = .ok u ∧
        t.catalog.get? u = some b ∧ b.body.label? = some l ∧ b.kind = a.kind ∧
        l.kind = a.kind) ∧
      ∀ k, (Graph.byKind ⟨t⟩ k).Nodup ∧
        (Graph.byKind ⟨t⟩ k).Sublist ((Graph.artifacts ⟨t⟩).map (·.1)) ∧
        ∀ id, id ∈ Graph.byKind ⟨t⟩ k ↔ ∃ l, Graph.StandsFor ⟨t⟩ id l ∧ l.kind = k := by
  have sources := sources_of_compile hc
  have hs := sources.store
  refine ⟨fun id a ha => sources.ofKind ha, fun t hl => ?_⟩
  have sound := Graph.sound_of_linked hs hl
  have catalog : Graph.catalog ⟨t⟩ = s.catalog :=
    Graph.catalog_of_linked hs.wellFormed hs.unbound hl
  have numbered : (Graph.catalog ⟨t⟩).Numbered := catalog ▸ hs.numbered.catalog
  have sorted := sources.sorted catalog
  refine ⟨fun id a ha => ?_, fun k => ⟨Catalog.nodup_select numbered _, ?_, fun id => ?_⟩⟩
  · obtain ⟨l, stands⟩ := sound.exists_standsFor ha
    have kind := sound.kind_of_standsFor sorted ha stands
    obtain ⟨u, b, followed, hb, hl⟩ := stands
    exact ⟨u, b, l, followed, hb, hl, (sorted u b l hb hl).trans kind, kind⟩
  · exact List.filter_sublist.map _
  · exact sound.mem_byKind_iff numbered sorted

/-- Where a channel refers to another one by way of a third, all three are channels. -/
theorem kinds_preserved_renamed : ∃ s t, plain.compile "a" renamed = .ok s ∧
    s.link = .linked t ∧ Graph.byKind ⟨t⟩ .channel = [⟨0, 1⟩, ⟨0, 2⟩, ⟨0, 3⟩] ∧
    ∃ l, Graph.StandsFor ⟨t⟩ ⟨0, 1⟩ l ∧ l.kind = .channel := by
  have evaluated : (plain.compile "a" renamed).toOption.map (fun s =>
      ((s.findingsIn s.plainView).errors.isEmpty, Graph.byKind ⟨s.withBindings⟩ .channel)) =
      some (true, [⟨0, 1⟩, ⟨0, 2⟩, ⟨0, 3⟩]) := by
    -- following keeps the references that it has seen in a set, which does not evaluate
    simp only [ArtifactStore.withBindings, ArtifactStore.findingsIn, Linking.narrowReferences,
      Linking.narrowPromises, Linking.narrowLists, Linking.check, View.follow_eq_chase]
    decide +kernel
  obtain ⟨s, hc, both⟩ := Option.map_eq_some_iff.1 evaluated
  obtain ⟨clean, channels⟩ := Prod.mk.inj both
  rw [toOption_eq_some_iff] at hc
  have hl := linked_of_clean hc clean
  obtain ⟨-, -, mem_iff⟩ := ((kinds_preserved hc).2 _ hl).2 .channel
  exact ⟨s, _, hc, hl, channels, (mem_iff ⟨0, 1⟩).1 (by rw [channels]; simp)⟩

end Project
end ApiGraph
