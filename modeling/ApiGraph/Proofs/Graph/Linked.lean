/-
# Linked graphs are sound

Linking a compiled store binds every cell, and binds it to artifacts whose chains of references
end at what the cell expects.  A chain that ends visits no artifact twice, so it ends within as
many references as the graph has artifacts, which is how far a read follows it.  So all reads
of a linked graph succeed (`sound_of_linked`), and all of its cells are bound
(`isFullyBound_of_linked`).
-/

import ApiGraph.Proofs.Compilation.Assembled
import ApiGraph.Proofs.Graph.Reads
import ApiGraph.Proofs.Linking.Outcome

namespace ApiGraph

open Relation (ReflTransGen TransGen)
open Linking (view)
open ArtifactStore

namespace Graph

variable {s t : ArtifactStore} {id u : ArtifactId} {a : Artifact}

section Chains

variable (hs : s.WellFormed) (hu : s.Unbound) (h : s.link = .linked t)

include hs hu h

theorem catalog_of_linked : Graph.catalog ⟨t⟩ = s.catalog :=
  ArtifactStore.catalog_of_linked hs hu h

/-- Where the references of the store lead, those of the graph are bound. -/
theorem referenceBinding_of_leads {next : ArtifactId} (leads : s.Leads id next) :
    ∃ a r, s.catalog.get? id = some a ∧ a.body = .reference r ∧
      Graph.referenceBinding ⟨t⟩ r.slot = .ok next := by
  obtain ⟨a, r, slot, b, ha, hr, hslot, hb, hl⟩ := leads
  obtain ⟨raw, ⟨b', hb', hl'⟩, bound⟩ := exists_binding_reference hs hu h hslot
  refine ⟨a, r, ha, hr, ?_⟩
  rw [Graph.referenceBinding, bound]
  simp only [hs.location_inj hb hb' (hl.trans hl'.symm)]

theorem ends_of_next {next : ArtifactId} {n : Nat} (hn : (view s).next? id = some next)
    (rest : Graph.Ends ⟨t⟩ n next u a) : Graph.Ends ⟨t⟩ (n + 1) id u a := by
  have leads : s.Leads id next := hs.step_view ▸ hn
  obtain ⟨b, r, hb, hr, bound⟩ := referenceBinding_of_leads hs hu h leads
  rw [← catalog_of_linked hs hu h] at hb
  exact .there hb hr bound rest

/-- A walk along references, as a read of the graph follows it. -/
theorem ends_of_walk {xs : List ArtifactId} (w : Walk (view s).next? id xs u)
    (ha : s.catalog.get? u = some a) (concrete : a.body.isReference = false) (more : Nat) :
    Graph.Ends ⟨t⟩ (xs.length + 1 + more) id u a := by
  induction w with
  | last hn =>
    rw [List.length_nil, Nat.zero_add, Nat.add_comm]
    exact ends_of_next hs hu h hn (.here (catalog_of_linked hs hu h ▸ ha) concrete)
  | more hn _ ih =>
    rw [List.length_cons, Nat.add_right_comm]
    exact ends_of_next hs hu h hn (ih ha)

/-- A chain that ends is followed to its end. -/
theorem ends_of_endsAt (ends : s.EndsAt id u a) :
    Graph.Ends ⟨t⟩ (Graph.size ⟨t⟩) id u a := by
  have size : Graph.size ⟨t⟩ = s.catalog.size := by
    rw [Graph.size, catalog_of_linked hs hu h]
  rcases Relation.reflTransGen_iff_eq_or_transGen.1 ends.reaches with rfl | steps
  · exact .here (catalog_of_linked hs hu h ▸ ends.artifact) ends.concrete
  · rw [← hs.step_view] at steps
    obtain ⟨xs, w⟩ := exists_walk steps
    obtain ⟨ys, w, fresh⟩ := w.exists_first
    have bounded := Catalog.length_le_size hs.numbered.catalog
      (List.nodup_cons.2 ⟨w.start_notMem fresh, w.nodup fresh⟩) fun x hx =>
        View.isSome_get?_of_isSome_next? (w.isSome_next x hx)
    rw [List.length_cons] at bounded
    obtain ⟨more, hm⟩ := Nat.exists_eq_add_of_le bounded
    rw [size, hm]
    exact ends_of_walk hs hu h w ends.artifact ends.concrete more

/-- An accepted end is one of the expected type. -/
theorem leads_of_accepted {l : Label} {expects : Expectation} (he : expects = .entity l)
    (accepted : ∃ u a, s.EndsAt id u a ∧ expects.accepts a = true) :
    Graph.Leads ⟨t⟩ id l := by
  obtain ⟨u, a, ends, hacc⟩ := accepted
  refine ⟨u, a, ends_of_endsAt hs hu h ends, ?_⟩
  rw [he] at hacc
  simpa [Expectation.accepts] using hacc

end Chains

/-- A store links to a sound graph, if what the bodies of its artifacts hold has cells. -/
theorem sound_of_holding (wf : s.WellFormed) (hu : s.Unbound)
    (holding : ∀ id a, s.catalog.get? id = some a → s.Holding a) (h : s.link = .linked t) :
    Graph.Sound ⟨t⟩ := by
  have linkable := linkable_of_linked wf hu h
  have cat := catalog_of_linked wf hu h
  refine ⟨fun id a ha => ?_, fun id a r ha hr => ?_, fun id a ha p hp => ?_,
    fun id a ha p hp => ?_⟩ <;> rw [cat] at ha
  · obtain ⟨u, b, ends⟩ := wf.exists_endsAt (wf.linkable_iff.1 linkable).2
      (Option.isSome_iff_exists.2 ⟨a, ha⟩)
    exact ⟨u, b, ends_of_endsAt wf hu h ends⟩
  · obtain ⟨slot, hslot, hexp⟩ := (holding id a ha).reference r hr
    obtain ⟨raw, hraw, bound⟩ := exists_binding_reference wf hu h hslot
    refine ⟨⟨raw, by rw [Graph.referenceBinding, bound]⟩, fun u b ends => ?_⟩
    -- the chain from the reference ends where the one from its target does
    obtain ⟨v, c, ends', hacc⟩ := linkable.references_accepted r.slot slot raw hslot hraw
    obtain ⟨c', hc', hl⟩ := hraw
    have leads : s.Leads id raw := ⟨a, r, slot, c', ha, hr, hslot, hc', hl⟩
    have whole : s.EndsAt id v c := ⟨.head leads ends'.reaches, ends'.artifact, ends'.concrete⟩
    obtain ⟨-, rfl⟩ := ends.unique (ends_of_endsAt wf hu h whole)
    rw [hexp] at hacc
    simpa [Expectation.accepts] using hacc
  · obtain ⟨cell, hcell, hexp⟩ := (holding id a ha).promises p hp
    obtain ⟨raw, hraw, bound⟩ := exists_binding_promise wf hu h hcell
    refine ⟨raw, by rw [Graph.binding, bound], ?_⟩
    exact leads_of_accepted wf hu h hexp (linkable.promises_accepted _ _ _ hcell hraw)
  · obtain ⟨cell, hcell, hexp⟩ := (holding id a ha).lists p hp
    obtain ⟨raws, mem, bound⟩ := exists_binding_list wf hu h hcell
    refine ⟨raws, by rw [Graph.listBindings, bound], fun raw hraw => ?_⟩
    obtain ⟨b, hb, hacc⟩ := (mem raw).1 hraw
    exact leads_of_accepted wf hu h hexp (linkable.hits_accepted _ _ _ _ hcell hb hacc)

/-- **A linked graph is sound.** -/
theorem sound_of_linked (hs : s.Compiled) (h : s.link = .linked t) : Graph.Sound ⟨t⟩ :=
  sound_of_holding hs.wellFormed hs.unbound (fun _ _ => hs.holding) h

/-- So is that of a store with promises of its own. -/
theorem sound_of_assembled (hs : s.Assembled) (h : s.link = .linked t) : Graph.Sound ⟨t⟩ :=
  sound_of_holding hs.wellFormed hs.unbound (fun _ _ => hs.holding) h

/-- **Every cell of a linked graph is bound.** -/
theorem isFullyBound_of_linked (hs : s.WellFormed) (hu : s.Unbound) (h : s.link = .linked t) :
    Graph.isFullyBound ⟨t⟩ = true := by
  simp only [Graph.isFullyBound, List.all_eq_true, Bool.and_eq_true, Array.all_eq_true]
  intro d hd
  obtain ⟨k, hk⟩ := List.mem_iff_getElem?.1 hd
  refine ⟨⟨fun i hi => ?_, fun i hi => ?_⟩, fun i hi => ?_⟩
  · refine isSome_binding_promise hs hu h ⟨k, i⟩ ?_
    rw [promise?, hk, Option.bind_some, Array.getElem?_eq_getElem hi]
  · refine isSome_binding_list hs hu h ⟨k, i⟩ ?_
    rw [list?, hk, Option.bind_some, Array.getElem?_eq_getElem hi]
  · refine isSome_binding_reference hs hu h ⟨k, i⟩ ?_
    rw [reference?, hk, Option.bind_some, Array.getElem?_eq_getElem hi]

end Graph
end ApiGraph
