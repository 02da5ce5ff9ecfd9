/-
# The graph of a project

What a project builds is a linked graph of a compiled store, and so every typed read of it
succeeds (`build_reads`): there is no promise in a body that was forgotten or left unbound, none
that leads to something of another type, and no chain of references without an end.

Nor do the reads along references fail, which ask every reference on the way before they come to
the end (`linked_reads_along`).
-/

import ApiGraph.Proofs.Graph.Linked
import ApiGraph.Proofs.Graph.Overrides
import ApiGraph.Proofs.Project.Structure

namespace ApiGraph
namespace Project

variable {p : Project} {rootId : String} {root : Document} {s : ArtifactStore} {g : Graph}

/-- A graph that was built is the store of the project, linked. -/
theorem exists_store_of_build (h : p.build rootId root = .ok g) :
    ∃ s t, p.compile rootId root = .ok s ∧ s.link = .linked t ∧ g = ⟨t⟩ := by
  rw [build] at h
  split at h
  · cases h
  · rename_i s hs
    split at h <;> cases h
    exact ⟨s, _, hs, ‹_›, rfl⟩

/-- **Typed reads of a linked graph never fail.**  Every promise that the body of an artifact
holds is bound, and reading it gives artifacts that are no references and hold data of the type
that is promised.  A reference is bound too, and leads to an artifact of its kind.  All cells are
bound, and the graph has a selection and a report. -/
theorem build_reads (h : p.build rootId root = .ok g) :
    (∀ id a, g.catalog.get? id = some a →
      (∀ promise ∈ a.body.handles, (∃ raw, g.binding promise.2 = .ok raw) ∧
        ∃ found, g.resolve promise.2 = .ok found ∧ g.Reads promise.1 found) ∧
      (∀ promise ∈ a.body.listHandles, (∃ raws, g.listBindings promise.2 = .ok raws) ∧
        ∃ found, g.resolveList promise.2 = .ok found ∧ ∀ x ∈ found, g.Reads promise.1 x) ∧
      ∀ r, a.body = .reference r → (∃ raw, g.referenceBinding r.slot = .ok raw) ∧
        ∃ t b, g.follow id = .ok t ∧ g.catalog.get? t = some b ∧
          b.body.isReference = false ∧ b.kind = a.kind) ∧
    g.isFullyBound = true ∧
    ∃ selection report, Selection.ofGraph g = .ok selection ∧ selection.report = .ok report := by
  obtain ⟨s, t, hc, hl, rfl⟩ := exists_store_of_build h
  have hs := (sources_of_compile hc).store
  have sound := Graph.sound_of_linked hs hl
  have cat := Graph.catalog_of_linked hs.wellFormed hs.unbound hl
  refine ⟨fun id a ha => ⟨fun promise hp => ?_, fun promise hp => ?_, fun r hr => ?_⟩,
    Graph.isFullyBound_of_linked hs.wellFormed hs.unbound hl, ?_⟩
  · obtain ⟨raw, bound, -⟩ := sound.promises id a ha promise hp
    exact ⟨⟨raw, bound⟩, sound.resolve ha hp⟩
  · obtain ⟨raws, bound, -⟩ := sound.lists id a ha promise hp
    exact ⟨⟨raws, bound⟩, sound.resolveList ha hp⟩
  · obtain ⟨bound, kind⟩ := sound.references id a r ha hr
    obtain ⟨u, b, ends⟩ := sound.ends id a ha
    exact ⟨bound, u, b, Graph.follow_of_ends ends, ends.target.1, ends.target.2, kind u b ends⟩
  · have numbered : (Graph.catalog ⟨t⟩).Numbered := cat ▸ hs.numbered.catalog
    obtain ⟨selection, hsel, same⟩ := Selection.exists_ofGraph sound numbered
    obtain ⟨report, hr⟩ := Selection.exists_report (same ▸ sound) (same ▸ numbered)
    exact ⟨selection, report, hsel, hr⟩

/-- A document with a channel that refers to another one, which lists no servers and publishes
the greeting's message. -/
def relayed : Document where
  servers := [("main", {})]
  channels := [("events", { reference := some "#/components/channels/real" })]
  components := some { channels := [("real", { publish := some greet })] }

/-- The channel of a linked graph with the number, as it is read: how many promises it holds, how
many servers each of its lists gives, and where the channel that refers to it leads. -/
def readsAt? (g : Graph) (channel reference : ArtifactId) :
    Option (Nat × List (Option Nat) × Bool × ArtifactId) := do
  let a ← g.catalog.get? channel
  let b ← g.catalog.get? reference
  let target ← (g.follow reference).toOption
  return (a.body.handles.length,
    a.body.listHandles.map (fun list => (g.resolveList list.2).toOption.map List.length),
    b.body.isReference, target)

theorem readsAt?_relayed :
    (plain.compile "a" relayed).toOption.map (fun s => (s.findingsIn s.plainView).errors.isEmpty) =
      some true ∧
    (plain.compile "a" relayed).toOption.bind (fun s => readsAt? ⟨s.withBindings⟩ ⟨0, 3⟩ ⟨0, 2⟩) =
      some (1, [some 1], true, ⟨0, 3⟩) := by
  -- following keeps the references that it has seen in a set, which does not evaluate
  simp only [ArtifactStore.withBindings, ArtifactStore.findingsIn, Linking.narrowReferences,
    Linking.narrowPromises, Linking.narrowLists, Linking.check, View.follow_eq_chase]
  refine ⟨?_, ?_⟩ <;> decide +kernel

/-- The promise and the list of the channel are read, and the reference to it is followed. -/
theorem build_reads_relayed : ∃ g a b, plain.build "a" relayed = .ok g ∧
    g.catalog.get? ⟨0, 3⟩ = some a ∧ g.catalog.get? ⟨0, 2⟩ = some b ∧
    (∃ promise ∈ a.body.handles, ∃ found, g.resolve promise.2 = .ok found ∧
      g.Reads promise.1 found) ∧
    (∃ list ∈ a.body.listHandles, ∃ x, g.resolveList list.2 = .ok [x] ∧ g.Reads list.1 x) ∧
    (∃ r, b.body = .reference r ∧ (∃ raw, g.referenceBinding r.slot = .ok raw) ∧
      g.follow ⟨0, 2⟩ = .ok ⟨0, 3⟩ ∧ a.kind = b.kind) ∧
    g.isFullyBound = true ∧
    ∃ selection report, Selection.ofGraph g = .ok selection ∧ selection.report = .ok report := by
  obtain ⟨clean, found⟩ := readsAt?_relayed
  obtain ⟨s, hc, hl⟩ := exists_linked_of_clean clean
  rw [hc] at found
  simp only [readsAt?, Option.bind_eq_bind, Option.bind_eq_some_iff] at found
  obtain ⟨s', hs', a, ha, b, hb, target, follows, same⟩ := found
  obtain rfl := Option.some.inj hs'
  obtain ⟨promises, rest⟩ := Prod.mk.inj (Option.some.inj same)
  obtain ⟨lists, rest⟩ := Prod.mk.inj rest
  obtain ⟨refers, rfl⟩ := Prod.mk.inj rest
  have hg := build_of_linked hc hl
  obtain ⟨reads, whole⟩ := build_reads hg
  refine ⟨_, a, b, hg, ha, hb, ?_, ?_, ?_, whole⟩
  · obtain ⟨promise, only⟩ := List.length_eq_one_iff.1 promises
    have mem : promise ∈ a.body.handles := by simp [only]
    exact ⟨promise, mem, ((reads _ a ha).1 promise mem).2⟩
  · obtain ⟨list, only, length⟩ := List.map_eq_singleton_iff.1 lists
    have mem : list ∈ a.body.listHandles := by simp [only]
    obtain ⟨found, hfound, each⟩ := ((reads _ a ha).2.1 list mem).2
    rw [hfound] at length
    obtain ⟨x, rfl⟩ := List.length_eq_one_iff.1 (Option.some.inj length)
    exact ⟨list, mem, x, hfound, each x (List.mem_singleton_self x)⟩
  · cases hr : b.body with
    | reference r =>
      obtain ⟨bound, t, a', follows', ha', -, kind⟩ := (reads _ b hb).2.2 r hr
      obtain rfl := Except.ok.inj ((toOption_eq_some_iff.1 follows).symm.trans follows')
      obtain rfl := Option.some.inj (ha.symm.trans ha')
      exact ⟨r, rfl, bound, follows', kind⟩
    | _ => rw [hr] at refers; cases refers

/-- **References are followed to the end, and the first one to answer is heard.**  From every
artifact of a linked graph a chain of references leads to one that is no reference, the one that
the linker had found there, and has not more of them than the graph has artifacts.  The name that
the artifact is shown under is the first that a reference of the chain gives, else the name of its
end, and so it is with its selectability. -/
theorem linked_reads_along {t : ArtifactStore} {id : ArtifactId} {a : Artifact}
    (hc : p.compile rootId root = .ok s) (hl : s.link = .linked t)
    (ha : (Graph.catalog ⟨t⟩).get? id = some a) :
    ∃ refs u b, Graph.ReadsAlong ⟨t⟩ id refs u b ∧ (Linking.view s).follow id = .ok u := by
  have hs := (sources_of_compile hc).store
  have clean := (hs.wellFormed.linkable_iff.1
    (ArtifactStore.linkable_of_linked hs.wellFormed hs.unbound hl)).2
  rw [Graph.catalog_of_linked hs.wellFormed hs.unbound hl] at ha
  obtain ⟨u, b, ends⟩ :=
    hs.wellFormed.exists_endsAt clean (Option.isSome_iff_exists.2 ⟨a, ha⟩)
  obtain ⟨refs, reads⟩ :=
    (Graph.ends_of_endsAt hs.wellFormed hs.unbound hl ends).exists_readsAlong
  exact ⟨refs, u, b, reads, hs.wellFormed.follow_eq_ok_iff.2 ⟨b, ends⟩⟩

/-- A document with a channel that refers to another one, by way of one that is shown. -/
def renamed : Document where
  channels := [("events", { reference := some "#/components/channels/shown" })]
  components := some
    { channels := [("shown", { reference := some "#/components/channels/real" }), ("real", {})] }

theorem linked_reads_along_renamed : ∃ s t refs u b, plain.compile "a" renamed = .ok s ∧
    s.link = .linked t ∧ Graph.ReadsAlong ⟨t⟩ ⟨0, 1⟩ refs u b ∧
    (Linking.view s).follow ⟨0, 1⟩ = .ok u ∧
    Graph.displayName ⟨t⟩ ⟨0, 1⟩ = .ok "shown" ∧ Graph.isSelectable ⟨t⟩ ⟨0, 1⟩ = .ok false := by
  have clean : (plain.compile "a" renamed).toOption.map
      (fun s => (s.findingsIn s.plainView).errors.isEmpty) = some true := by
    -- following keeps the references that it has seen in a set, which does not evaluate
    simp only [ArtifactStore.findingsIn, Linking.narrowReferences, Linking.narrowPromises,
      Linking.narrowLists, Linking.check, View.follow_eq_chase]
    decide +kernel
  have reads : (plain.compile "a" renamed).toOption.map (fun s =>
      (((Graph.catalog ⟨s.withBindings⟩).get? ⟨0, 1⟩).isSome,
        (Graph.displayName ⟨s.withBindings⟩ ⟨0, 1⟩).toOption,
        (Graph.isSelectable ⟨s.withBindings⟩ ⟨0, 1⟩).toOption)) =
      some (true, some "shown", some false) := by
    simp only [ArtifactStore.withBindings, ArtifactStore.findingsIn, Linking.narrowReferences,
      Linking.narrowPromises, Linking.narrowLists, Linking.check, View.follow_eq_chase]
    decide +kernel
  obtain ⟨s, hc, hl⟩ := exists_linked_of_clean clean
  rw [hc] at reads
  obtain ⟨present, rest⟩ := Prod.mk.inj (Option.some.inj reads)
  obtain ⟨shown, selectable⟩ := Prod.mk.inj rest
  obtain ⟨a, ha⟩ := Option.isSome_iff_exists.1 present
  obtain ⟨refs, u, b, along, follows⟩ := linked_reads_along hc hl ha
  exact ⟨s, _, refs, u, b, hc, hl, along, follows, toOption_eq_some_iff.1 shown,
    toOption_eq_some_iff.1 selectable⟩

end Project
end ApiGraph
