/-
# Linking is all or nothing, and happens once

A run in place comes to what linking comes to (`resolve_eq_link`): the cells that bindings are
written to are different cells of the store, and the first of them that is bound already is where
linking says that a cell is bound twice.

What a run looks at does not depend on what the cells are bound to (`findings_unbind`), so that a
run on a linked store finds what the run before found, and breaks down at the first cell that it
writes to.  On an assembled store a run breaks down only where a transform leads out of the store.
Otherwise, if it finds errors, it has written nothing, and if it finds none, it writes one binding
to every cell, and nothing else (`resolve_once`).
-/

import ApiGraph.Proofs.Linking.Writing
import ApiGraph.Proofs.Project.Structure

namespace ApiGraph

open Linking

/-- A document with its cells as they were before they were bound. -/
def DocumentStore.unbind (d : DocumentStore) : DocumentStore :=
  { d with
    promises := d.promises.map fun p => { p with binding := none }
    lists := d.lists.map fun l => { l with binding := none }
    references := d.references.map fun slot => { slot with binding := none } }

/-- There is one binding for every cell of the store, and none for any other. -/
structure Assignments.Once (w : Assignments) (s : ArtifactStore) : Prop where
  references : ∀ cell, (w.references.map (·.1)).count cell =
    if (s.reference? cell).isSome then 1 else 0
  promises : ∀ cell, (w.promises.map (·.1)).count cell =
    if (s.promise? cell).isSome then 1 else 0
  lists : ∀ cell, (w.lists.map (·.1)).count cell = if (s.list? cell).isSome then 1 else 0

namespace ArtifactStore

variable {s t : ArtifactStore} {cell : CellId}

/-! ## What is written -/

/-- The results are listed in the order of what was found. -/
theorem keys_results_sublist {α : Type} (found : List (Finding α)) :
    List.Sublist ((results found).map (·.1)) (found.map (·.1)) := by
  refine keys_filterMap_sublist _ _ ?_ found
  rintro ⟨cell, r⟩ y h
  cases r <;> cases h
  rfl

/-- References get bindings in the order of their slots, and none gets two. -/
theorem keys_references_sublist (s : ArtifactStore) :
    List.Sublist ((findings s).references.map (·.1)) (s.references.map (·.1)) := by
  refine (keys_results_sublist _).trans (keys_filterMap_sublist _ _ ?_ s.references)
  rintro ⟨cell, slot⟩ y h
  simp only [Option.bind_eq_bind, Option.bind_eq_some_iff] at h
  obtain ⟨_, -, _, -, h⟩ := h
  cases h
  rfl

/-- The results for promises are in the order of the promises. -/
theorem keys_promises_sublist (s : ArtifactStore) :
    List.Sublist ((findings s).promises.map (·.1)) (s.promises.map (·.1)) := by
  refine (keys_results_sublist _).trans (keys_filterMap_sublist _ _ ?_ s.promises)
  rintro ⟨cell, p⟩ y h
  simp only [Option.bind_eq_bind, Option.bind_eq_some_iff] at h
  obtain ⟨raw, -, h⟩ := h
  split at h
  · cases h
    rfl
  · obtain ⟨_, -, h⟩ := Option.bind_eq_some_iff.1 h
    cases h
    rfl

/-- Every list has its result, in the order of the lists. -/
theorem keys_lists (s : ArtifactStore) :
    s.assignments.lists.map (·.1) = s.lists.map (·.1) := by
  rw [assignments, List.map_map]
  rfl

/-! ## In place and at once -/

/-- What linking writes to a document is written sort by sort. -/
theorem bindAll_eq_assignDocument {d : DocumentStore} (hd : d ∈ s.documents) :
    CellSort.lists.bindAll s.assignments.lists (CellSort.promises.bindAll s.assignments.promises
        (CellSort.references.bindAll s.assignments.references d)) =
      assignDocument (findings s) d := by
  have references : d.references.mapIdx (fun i c => (lookup (findings s).references
        ⟨d.index, i⟩).elim c (fun x => { c with binding := some x })) =
      d.references.mapIdx (fun i slot =>
        { slot with binding := (lookup (findings s).references ⟨d.index, i⟩).or slot.binding }) := by
    congr 1
    funext i c
    cases lookup (findings s).references ⟨d.index, i⟩ <;> rfl
  have promises : d.promises.mapIdx (fun i c => (lookup (findings s).promises
        ⟨d.index, i⟩).elim c (fun x => { c with binding := some x })) =
      d.promises.mapIdx (fun i p =>
        { p with binding := (lookup (findings s).promises ⟨d.index, i⟩).or p.binding }) := by
    congr 1
    funext i c
    cases lookup (findings s).promises ⟨d.index, i⟩ <;> rfl
  have lists : d.lists.mapIdx (fun i c => (lookup s.assignments.lists
        ⟨d.index, i⟩).elim c (fun x => { c with binding := some x })) =
      d.lists.mapIdx (fun i l =>
        { l with binding := some (lookupAll (findings s).lists ⟨d.index, i⟩) }) := by
    refine Array.ext_getElem? fun i => ?_
    rw [Array.getElem?_mapIdx, Array.getElem?_mapIdx]
    cases hi : d.lists[i]? with
    | none => rfl
    | some c =>
      have listed : (⟨d.index, i⟩, c) ∈ s.lists := by
        refine List.mem_flatMap.2 ⟨d, hd, List.mem_map.2 ⟨(c, i), ?_, rfl⟩⟩
        rw [List.mem_zipIdx_iff_getElem?, Array.getElem?_toList]
        exact hi
      have found : lookup s.assignments.lists ⟨d.index, i⟩ =
          some (lookupAll (findings s).lists ⟨d.index, i⟩) := by
        refine lookup_eq_some (List.mem_map.2 ⟨_, listed, rfl⟩) fun y hy => ?_
        obtain ⟨⟨cell, l⟩, -, h⟩ := List.mem_map.1 hy
        cases h
        rfl
      rw [Option.map_some, Option.map_some, found]
      rfl
  rw [assignDocument, ← references, ← promises, ← lists]
  rfl

/-- Linking says that a cell is bound twice where a run in place comes to the first one. -/
theorem boundBefore?_eq (s : ArtifactStore) : boundBefore? (findings s) s =
    (CellSort.references.firstTaken? s s.assignments.references).or
      ((CellSort.promises.firstTaken? s s.assignments.promises).or
        (CellSort.lists.firstTaken? s s.assignments.lists)) := by
  rw [boundBefore?]
  congr 1
  · refine findSome?_congr fun x _ => ?_
    simp only [assignments, CellSort.taken?]
    cases x.2.binding <;> simp
  · congr 1
    · refine findSome?_congr fun x _ => ?_
      simp only [assignments, CellSort.taken?]
      cases x.2.binding <;> simp
    · refine findSome?_congr fun x hx => ?_
      have found : (lookup s.assignments.lists x.1).isSome := by
        rw [isSome_lookup_iff, keys_lists]
        exact List.mem_map_of_mem hx
      simp only [CellSort.taken?, found, if_true]

/-- **Writing the bindings** is writing them all at once, unless a cell was bound before. -/
theorem assign_assignments (hs : s.Numbered) : s.assign s.assignments =
    match boundBefore? (findings s) s with
    | some origin => .error (.assignedTwice origin)
    | none => .ok ⟨s.documents.map (assignDocument (findings s))⟩ := by
  -- the stores on the way have the same numbers, and the same cells of the sorts that follow
  let s₁ : ArtifactStore :=
    ⟨s.documents.map (CellSort.references.bindAll s.assignments.references)⟩
  let s₂ : ArtifactStore :=
    ⟨s₁.documents.map (CellSort.promises.bindAll s.assignments.promises)⟩
  have hs₁ : s₁.Numbered := CellSort.numbered_map hs fun _ => rfl
  have hs₂ : s₂.Numbered := CellSort.numbered_map hs₁ fun _ => rfl
  have all₁ : CellSort.promises.all s₁ = CellSort.promises.all s :=
    CellSort.all_map (g := CellSort.references.bindAll s.assignments.references)
      (fun _ => rfl) fun _ => rfl
  have all₂ : CellSort.lists.all s₂ = CellSort.lists.all s :=
    (CellSort.all_map (g := CellSort.promises.bindAll s.assignments.promises)
      (fun _ => rfl) fun _ => rfl).trans
      (CellSort.all_map (g := CellSort.references.bindAll s.assignments.references)
        (fun _ => rfl) fun _ => rfl)
  have first := CellSort.assignAll_eq (k := CellSort.references) hs s.assignments.references
    (keys_references_sublist s)
  have second := CellSort.assignAll_eq (k := CellSort.promises) hs₁ s.assignments.promises
    (all₁ ▸ keys_promises_sublist s)
  have third := CellSort.assignAll_eq (k := CellSort.lists) hs₂ s.assignments.lists
    (all₂ ▸ (keys_lists s).symm ▸ List.Sublist.refl _)
  have promises : CellSort.promises.firstTaken? s₁ s.assignments.promises =
      CellSort.promises.firstTaken? s s.assignments.promises := by
    rw [CellSort.firstTaken?, all₁, CellSort.firstTaken?]
  have lists : CellSort.lists.firstTaken? s₂ s.assignments.lists =
      CellSort.lists.firstTaken? s s.assignments.lists := by
    rw [CellSort.firstTaken?, all₂, CellSort.firstTaken?]
  rw [promises] at second
  rw [lists] at third
  have written : s₂.documents.map (CellSort.lists.bindAll s.assignments.lists) =
      s.documents.map (assignDocument (findings s)) := by
    rw [List.map_map, List.map_map]
    exact List.map_congr_left fun d hd => bindAll_eq_assignDocument hd
  rw [boundBefore?_eq, assign, first]
  cases CellSort.references.firstTaken? s s.assignments.references with
  | some origin => rfl
  | none =>
    change (CellSort.promises.assignAll s₁ s.assignments.promises >>= fun s =>
      CellSort.lists.assignAll s _) = _
    rw [second]
    cases CellSort.promises.firstTaken? s s.assignments.promises with
    | some origin => rfl
    | none =>
      change CellSort.lists.assignAll s₂ s.assignments.lists = _
      rw [third, written]
      rfl

/-- **A run in place comes to what linking comes to.** -/
theorem resolve_eq_link (hs : s.Numbered) : s.resolve =
    match s.link with
    | .linked t => .ok ([], t)
    | .failed errors => .ok (errors, s)
    | .boundTwice origin => .error (.assignedTwice origin)
    | .astray id => .error (.noArtifact id) := by
  rw [resolve, link, run]
  cases (findings s).astray with
  | some id => rfl
  | none =>
    cases (findings s).errors with
    | cons e rest => rfl
    | nil =>
      simp only [assign_assignments hs]
      cases boundBefore? (findings s) s <;> rfl

/-! ## What a run looks at -/

/-- A store with its cells as they were before they were bound. -/
def unbind (s : ArtifactStore) : ArtifactStore :=
  ⟨s.documents.map DocumentStore.unbind⟩

/-- Unbinding takes the bindings of references away, and nothing else. -/
theorem references_unbind (s : ArtifactStore) : s.unbind.references =
    s.references.map fun (cell, slot) => (cell, { slot with binding := none }) := by
  simp only [references, unbind, List.flatMap_map, List.map_flatMap, DocumentStore.unbind,
    Array.toList_map, List.zipIdx_map, List.map_map]
  rfl

/-- It takes the bindings of promises away. -/
theorem promises_unbind (s : ArtifactStore) : s.unbind.promises =
    s.promises.map fun (cell, p) => (cell, { p with binding := none }) := by
  simp only [promises, unbind, List.flatMap_map, List.map_flatMap, DocumentStore.unbind,
    Array.toList_map, List.zipIdx_map, List.map_map]
  rfl

/-- It takes the bindings of lists away. -/
theorem lists_unbind (s : ArtifactStore) : s.unbind.lists =
    s.lists.map fun (cell, l) => (cell, { l with binding := none }) := by
  simp only [lists, unbind, List.flatMap_map, List.map_flatMap, DocumentStore.unbind,
    Array.toList_map, List.zipIdx_map, List.map_map]
  rfl

/-- The linker sees no difference, since it reads no bindings. -/
theorem view_unbind (s : ArtifactStore) : view s.unbind = view s := by
  have catalog : s.unbind.catalog = s.catalog := by
    rw [ArtifactStore.catalog, unbind, List.map_map]
    rfl
  have raw : ∀ find, rawReferences s.unbind find = rawReferences s find := by
    intro find
    rw [rawReferences, unbind, ← List.map_toArray, Array.map_map]
    refine Array.map_congr_left fun d _ => ?_
    simp only [Function.comp_apply, DocumentStore.unbind, Array.map_map]
    rfl
  simp only [view, catalog, raw]

/-- **What a run finds** does not depend on what the cells are bound to. -/
theorem findings_unbind (s : ArtifactStore) : findings s.unbind = findings s := by
  simp only [findings, astray?, verdicts, view_unbind, missingReferences, missingPromises, cycles, narrowReferences,
    narrowPromises, narrowLists, references_unbind, promises_unbind, lists_unbind,
    List.filterMap_map, List.flatMap_map]
  rfl

/-! ## After linking -/

/-- Every cell is bound. -/
structure Bound (s : ArtifactStore) : Prop where
  references : ∀ cell slot, s.reference? cell = some slot → slot.binding.isSome
  promises : ∀ cell p, s.promise? cell = some p → p.binding.isSome
  lists : ∀ cell l, s.list? cell = some l → l.binding.isSome

/-- Changing what is not there to be changed leaves the cells as they are. -/
theorem map_eq_self {α : Type} {f : α → α} {cells : Array α}
    (same : ∀ (j : Nat) (c : α), cells[j]? = some c → f c = c) : cells.map f = cells := by
  refine Array.ext_getElem? fun j => ?_
  rw [Array.getElem?_map]
  cases hj : cells[j]? with
  | none => rfl
  | some c => rw [Option.map_some, same j c hj]

/-- A store in which nothing is bound is as it was before. -/
theorem unbind_eq_self (hu : s.Unbound) : s.unbind = s := by
  have each : ∀ d ∈ s.documents, d.unbind = d := by
    intro d hd
    obtain ⟨i, hi⟩ := List.mem_iff_getElem?.1 hd
    have references : d.references.map (fun slot => { slot with binding := none }) =
        d.references := by
      refine map_eq_self fun j slot hj => ?_
      rw [← hu.references ⟨i, j⟩ slot (Option.bind_eq_some_iff.2 ⟨d, hi, hj⟩)]
    have promises : d.promises.map (fun p => { p with binding := none }) = d.promises := by
      refine map_eq_self fun j p hj => ?_
      rw [← hu.promises ⟨i, j⟩ p (Option.bind_eq_some_iff.2 ⟨d, hi, hj⟩)]
    have lists : d.lists.map (fun l => { l with binding := none }) = d.lists := by
      refine map_eq_self fun j l hj => ?_
      rw [← hu.lists ⟨i, j⟩ l (Option.bind_eq_some_iff.2 ⟨d, hi, hj⟩)]
    rw [DocumentStore.unbind, references, promises, lists]
  rw [unbind, List.map_congr_left each, List.map_id']

/-- What is written to cells and taken off again is as if it had not been written. -/
theorem map_mapIdx_eq {α β : Type} {write : Nat → α → α} {off : α → β} (cells : Array α)
    (same : ∀ i c, off (write i c) = off c) : (cells.mapIdx write).map off = cells.map off := by
  refine Array.ext_getElem? fun j => ?_
  rw [Array.getElem?_map, Array.getElem?_map, Array.getElem?_mapIdx, Option.map_map]
  exact congrArg (Option.map · _) (funext (same j))

/-- Binding cells and taking the bindings off again leaves what there is without bindings. -/
theorem unbind_assignDocument (f : Findings) (d : DocumentStore) :
    (assignDocument f d).unbind = d.unbind := by
  have references : (assignDocument f d).references.map (fun slot => { slot with binding := none }) =
      d.references.map (fun slot => { slot with binding := none }) :=
    map_mapIdx_eq _ fun _ _ => rfl
  have promises : (assignDocument f d).promises.map (fun p => { p with binding := none }) =
      d.promises.map (fun p => { p with binding := none }) :=
    map_mapIdx_eq _ fun _ _ => rfl
  have lists : (assignDocument f d).lists.map (fun l => { l with binding := none }) =
      d.lists.map (fun l => { l with binding := none }) :=
    map_mapIdx_eq _ fun _ _ => rfl
  rw [DocumentStore.unbind, references, promises, lists]
  rfl

section Linked

variable (hs : s.WellFormed) (hu : s.Unbound) (h : s.link = .linked t)

include hs hu h

/-- **Linking changes bindings and nothing else.** -/
theorem unbind_of_linked : t.unbind = s := by
  have same : t.unbind = s.unbind := by
    rw [unbind, documents_of_linked hs hu h, List.map_map, unbind]
    exact congrArg _ (List.map_congr_left fun d _ => unbind_assignDocument _ d)
  rw [same, unbind_eq_self hu]

/-- In a linked store every cell is bound. -/
theorem bound_of_linked : t.Bound where
  references cell _ := isSome_binding_reference hs hu h cell
  promises cell _ := isSome_binding_promise hs hu h cell
  lists cell _ := isSome_binding_list hs hu h cell

/-- Linking leaves the documents under their numbers. -/
theorem numbered_of_linked : t.Numbered := by
  intro i d hd
  obtain ⟨d', hd', rfl⟩ := exists_document_of_linked hs hu h hd
  exact hs.numbered i d' hd'

/-- Every slot gets a binding. -/
theorem isSome_lookup_reference {slot : ReferenceSlot} (hslot : s.reference? cell = some slot) :
    (lookup (findings s).references cell).isSome := by
  obtain ⟨raw, -, bound⟩ := exists_binding_reference hs hu h hslot
  obtain ⟨d, hd, hi⟩ := Option.bind_eq_some_iff.1 hslot
  have number : CellId.mk d.index cell.index = cell := by rw [hs.numbered _ _ hd]
  have free := hu.references cell slot hslot
  simp only [reference?, documents_of_linked hs hu h, List.getElem?_map, hd, Option.map_some,
    Option.bind_some, assignDocument, Array.getElem?_mapIdx, hi, number, free, Option.or_none,
    Option.some.injEq, ReferenceSlot.mk.injEq] at bound
  rw [bound.2.2.2]
  rfl

/-- Every promise gets a binding. -/
theorem isSome_lookup_promise {p : PromiseCell} (hp : s.promise? cell = some p) :
    (lookup (findings s).promises cell).isSome := by
  obtain ⟨x, -, bound⟩ := exists_binding_promise hs hu h hp
  obtain ⟨d, hd, hi⟩ := Option.bind_eq_some_iff.1 hp
  have number : CellId.mk d.index cell.index = cell := by rw [hs.numbered _ _ hd]
  have free := hu.promises cell p hp
  simp only [promise?, documents_of_linked hs hu h, List.getElem?_map, hd, Option.map_some,
    Option.bind_some, assignDocument, Array.getElem?_mapIdx, hi, number, free, Option.or_none,
    Option.some.injEq, PromiseCell.mk.injEq] at bound
  rw [bound.2.2.2.2]
  rfl

end Linked

/-! ## Once -/

/-- Of different numbers, each is counted once. -/
theorem count_eq_of_mem_iff {keys : List CellId} (distinct : keys.Nodup) {p : Prop} [Decidable p]
    (mem : cell ∈ keys ↔ p) : keys.count cell = if p then 1 else 0 := by
  by_cases h : p
  · rw [if_pos h, List.count_eq_one_of_mem distinct (mem.2 h)]
  · rw [if_neg h, List.count_eq_zero.2 fun m => h (mem.1 m)]

/-- **Linking writes one binding to every cell.** -/
theorem once_assignments (hs : s.WellFormed) (hu : s.Unbound) (h : s.link = .linked t) :
    s.assignments.Once s where
  references cell := by
    have part := keys_references_sublist s
    refine count_eq_of_mem_iff (part.nodup (nodup_references hs.numbered)) ⟨fun m => ?_, ?_⟩
    · obtain ⟨⟨cell, slot⟩, listed, rfl⟩ := List.mem_map.1 (part.subset m)
      rw [(mem_references_iff hs.numbered).1 listed]
      rfl
    · intro present
      obtain ⟨slot, hslot⟩ := Option.isSome_iff_exists.1 present
      exact isSome_lookup_iff.1 (isSome_lookup_reference hs hu h hslot)
  promises cell := by
    have part := keys_promises_sublist s
    refine count_eq_of_mem_iff (part.nodup (nodup_promises hs.numbered)) ⟨fun m => ?_, ?_⟩
    · obtain ⟨⟨cell, p⟩, listed, rfl⟩ := List.mem_map.1 (part.subset m)
      rw [(mem_promises_iff hs.numbered).1 listed]
      rfl
    · intro present
      obtain ⟨p, hp⟩ := Option.isSome_iff_exists.1 present
      exact isSome_lookup_iff.1 (isSome_lookup_promise hs hu h hp)
  lists cell := by
    rw [keys_lists]
    refine count_eq_of_mem_iff (nodup_lists hs.numbered) ⟨fun m => ?_, fun present => ?_⟩
    · obtain ⟨⟨cell, l⟩, listed, rfl⟩ := List.mem_map.1 m
      rw [(mem_lists_iff hs.numbered).1 listed]
      rfl
    · obtain ⟨l, hl⟩ := Option.isSome_iff_exists.1 present
      exact List.mem_map_of_mem ((mem_lists_iff hs.numbered).2 hl)

section Again

variable (hs : s.WellFormed) (hu : s.Unbound) (h : s.link = .linked t)

include hs hu h

/-- A reference of the linked store is bound, and another run has a binding for it. -/
theorem again_reference {slot : ReferenceSlot} (listed : (cell, slot) ∈ t.references) :
    slot.binding.isSome ∧ (lookup (findings s).references cell).isSome := by
  have before : (cell, { slot with binding := none }) ∈ s.references := by
    rw [← unbind_of_linked hs hu h, references_unbind]
    exact List.mem_map.2 ⟨_, listed, rfl⟩
  have numbered := numbered_of_linked hs hu h
  exact ⟨(bound_of_linked hs hu h).references _ _ ((mem_references_iff numbered).1 listed),
    isSome_lookup_reference hs hu h ((mem_references_iff hs.numbered).1 before)⟩

/-- So is a promise. -/
theorem again_promise {p : PromiseCell} (listed : (cell, p) ∈ t.promises) :
    p.binding.isSome ∧ (lookup (findings s).promises cell).isSome := by
  have before : (cell, { p with binding := none }) ∈ s.promises := by
    rw [← unbind_of_linked hs hu h, promises_unbind]
    exact List.mem_map.2 ⟨_, listed, rfl⟩
  have numbered := numbered_of_linked hs hu h
  exact ⟨(bound_of_linked hs hu h).promises _ _ ((mem_promises_iff numbered).1 listed),
    isSome_lookup_promise hs hu h ((mem_promises_iff hs.numbered).1 before)⟩

/-- **A run on a linked store** finds no errors again, and stops at the first cell. -/
theorem link_again (some_cell : ∃ d ∈ t.documents, d.cellCount ≠ 0) :
    ∃ origin, t.link = .boundTwice origin := by
  have found : findings t = findings s := by
    rw [← findings_unbind t, unbind_of_linked hs hu h]
  obtain ⟨inside, clean, -⟩ := (link_eq_linked_iff hs.numbered hu).1 h
  cases taken : boundBefore? (findings s) t with
  | some origin =>
    refine ⟨origin, ?_⟩
    simp only [link, run, found, inside, clean, taken]
  | none =>
    -- then there is no cell of any sort
    exfalso
    rw [boundBefore?, Option.or_eq_none_iff, Option.or_eq_none_iff, List.findSome?_eq_none_iff,
      List.findSome?_eq_none_iff, List.findSome?_eq_none_iff] at taken
    obtain ⟨references, promises, lists⟩ := taken
    obtain ⟨d, hd, count⟩ := some_cell
    have sort : d.references.size ≠ 0 ∨ d.promises.size ≠ 0 ∨ d.lists.size ≠ 0 := by
      rw [DocumentStore.cellCount] at count
      omega
    rcases sort with some | some | some
    · obtain ⟨⟨cell, slot⟩, listed⟩ : ∃ x, x ∈ t.references := exists_mem_numberedRows hd some
      simpa [again_reference hs hu h listed] using references _ listed
    · obtain ⟨⟨cell, p⟩, listed⟩ : ∃ x, x ∈ t.promises := exists_mem_numberedRows hd some
      simpa [again_promise hs hu h listed] using promises _ listed
    · obtain ⟨⟨cell, l⟩, listed⟩ : ∃ x, x ∈ t.lists := exists_mem_numberedRows hd some
      have numbered := numbered_of_linked hs hu h
      have binding := (bound_of_linked hs hu h).lists _ _ ((mem_lists_iff numbered).1 listed)
      simpa [binding] using lists _ listed

/-- The run in place on it breaks down there. -/
theorem resolve_again (some_cell : ∃ d ∈ t.documents, d.cellCount ≠ 0) :
    ∃ origin, t.resolve = .error (.assignedTwice origin) := by
  obtain ⟨origin, again⟩ := link_again hs hu h some_cell
  refine ⟨origin, ?_⟩
  rw [resolve_eq_link (numbered_of_linked hs hu h), again]

end Again

/-- A run in place in which no transform leads out of the store comes to its end. -/
theorem exists_resolve_of_inside (hs : s.Assembled) (inside : ∀ id, ¬ s.Astray id) :
    ∃ errors t, s.resolve = .ok (errors, t) ∧
      (errors ≠ [] → s.link = .failed errors ∧ t = s ∧ t.resolve = .ok (errors, t)) ∧
      (errors = [] → s.link = .linked t ∧ (∃ w : Assignments, w.Once s ∧ s.assign w = .ok t) ∧
        t.Bound ∧ t.unbind = s ∧
        ((∃ d ∈ t.documents, d.cellCount ≠ 0) →
          ∃ origin, t.resolve = .error (.assignedTwice origin))) := by
  have wellFormed := hs.wellFormed
  have unbound := hs.unbound
  have inPlace := resolve_eq_link wellFormed.numbered
  have outcome := link_eq wellFormed.numbered unbound
  rw [wellFormed.astray_eq_none_iff.2 inside] at outcome
  cases clean : (findings s).errors with
  | cons e rest =>
    rw [clean] at outcome
    rw [outcome] at inPlace
    refine ⟨e :: rest, s, inPlace, fun _ => ⟨outcome, rfl, inPlace⟩, fun none => ?_⟩
    cases none
  | nil =>
    rw [clean] at outcome
    rw [outcome] at inPlace
    refine ⟨[], _, inPlace, fun none => absurd rfl none, fun _ => ⟨outcome, ?_, ?_, ?_, ?_⟩⟩
    · refine ⟨s.assignments, once_assignments wellFormed unbound outcome, ?_⟩
      rw [assign_assignments wellFormed.numbered,
        boundBefore?_eq_none wellFormed.numbered unbound]
    · exact bound_of_linked wellFormed unbound outcome
    · exact unbind_of_linked wellFormed unbound outcome
    · exact resolve_again wellFormed unbound outcome

/-- **Linking is all or nothing, and happens once.**  A run in place on an assembled store breaks
down exactly if a transform leads out of the store, and then at an artifact that is not there.
Otherwise it comes to its end.  If it finds errors, every cell and every artifact is as it was, and
another run finds the same errors.  If it finds none, it has written one binding to every cell and
none to any other, every cell is bound, and nothing else has changed; and another run on a store
with a cell breaks down, because the cell would be assigned twice. -/
theorem resolve_once (hs : s.Assembled) :
    ((∃ b, s.resolve = .error b) ↔ ∃ id, s.Astray id) ∧
      (∀ b, s.resolve = .error b → ∃ id, s.Astray id ∧ b = .noArtifact id) ∧
      ((∀ id, ¬ s.Astray id) → ∃ errors t, s.resolve = .ok (errors, t) ∧
        (errors ≠ [] → s.link = .failed errors ∧ t = s ∧ t.resolve = .ok (errors, t)) ∧
        (errors = [] → s.link = .linked t ∧ (∃ w : Assignments, w.Once s ∧ s.assign w = .ok t) ∧
          t.Bound ∧ t.unbind = s ∧
          ((∃ d ∈ t.documents, d.cellCount ≠ 0) →
            ∃ origin, t.resolve = .error (.assignedTwice origin)))) := by
  have outside := hs.wellFormed.astray_eq_none_iff
  cases ha : (findings s).astray with
  | some id =>
    have astray := hs.wellFormed.astray_of_findings ha
    have breaks : s.resolve = .error (.noArtifact id) := by rw [resolve, ha]
    refine ⟨⟨fun _ => ⟨id, astray⟩, fun _ => ⟨_, breaks⟩⟩, fun b hb => ⟨id, astray, ?_⟩,
      fun inside => absurd astray (inside id)⟩
    exact Except.error.inj (hb.symm.trans breaks)
  | none =>
    have inside := outside.1 ha
    obtain ⟨errors, t, ends, run⟩ := exists_resolve_of_inside hs inside
    exact ⟨by simp [ends, inside], by simp [ends], fun _ => ⟨errors, t, ends, run⟩⟩

/-- A compiled document alone, with one more promise, is an assembled store. -/
theorem assembled_promise {store : DocumentStore} (made : store.Made) (first : store.index = 0)
    (l : Label) (origin : Location) (query : Query) (transform : Option Transform) :
    Assembled ⟨[(store.promise l origin query transform).2]⟩ := by
  refine ⟨?_, by simp, ?_⟩
  · rintro (_ | i) d hd
    · cases hd
      exact (congrArg Shelf.index (DocumentStore.toShelf_noteQuery store query)).trans first
    · cases hd
  · rintro d (_ | ⟨_, ⟨⟩⟩)
    exact .promise l origin query transform made

/-- A promise of the server of the greeting, which is led to its channel. -/
def detour (d : DocumentStore) : DocumentStore :=
  (d.promise .channel ⟨"a", []⟩ (.path ⟨"a", ["servers", "main"]⟩)
    (some (instead ⟨"a", ["channels", "hello"]⟩))).2

/-- A promise of the greeting itself, which is led to a second document, where there is none. -/
def elope (d : DocumentStore) : DocumentStore :=
  (d.promise .root ⟨"a", []⟩ (.path ⟨"a", []⟩) (some (always ⟨1, 0⟩))).2

/-- The greeting is compiled into a store of one document. -/
theorem exists_document_greeting : ∃ store : DocumentStore, Compiled ⟨[store]⟩ ∧ store.Made ∧
    store.index = 0 ∧ Catalog.find? [store.toShelf] ⟨"a", []⟩ = some ⟨0, 0⟩ := by
  have found : (Project.plain.compile "a" Project.greeting).toOption.map
      (fun s => s.catalog.find? ⟨"a", []⟩) = some (some ⟨0, 0⟩) := by decide +kernel
  obtain ⟨s, hc⟩ := Project.exists_store_greeting
  rw [hc] at found
  have sources := Project.sources_of_compile hc
  obtain ⟨store, documents⟩ :=
    Project.documents_of_selfContained Project.selfContained_greeting hc
  obtain rfl : s = ⟨[store]⟩ := congrArg ArtifactStore.mk documents
  exact ⟨store, sources.store, sources.assembled.made store (List.mem_singleton_self _),
    sources.store.numbered 0 store rfl, Option.some.inj found⟩

/-- The greeting with a promise of another server that is led to its channel: a run in place does
not break down on it. -/
theorem resolve_once_detour : ∃ s : ArtifactStore, s.Assembled ∧ (∀ id, ¬ s.Astray id) ∧
    (∃ d ∈ s.documents, d.cellCount ≠ 0) ∧ ∃ errors t, s.resolve = .ok (errors, t) ∧
      (errors ≠ [] → s.link = .failed errors ∧ t = s ∧ t.resolve = .ok (errors, t)) ∧
      (errors = [] → s.link = .linked t ∧ (∃ w : Assignments, w.Once s ∧ s.assign w = .ok t) ∧
        t.Bound ∧ t.unbind = s ∧
        ((∃ d ∈ t.documents, d.cellCount ≠ 0) →
          ∃ origin, t.resolve = .error (.assignedTwice origin))) := by
  obtain ⟨store, compiled, made, first, -⟩ := exists_document_greeting
  have assembled : Assembled ⟨[detour store]⟩ := assembled_promise made first ..
  have inside : ∀ id, ¬ Astray ⟨[detour store]⟩ id := by
    rintro id ⟨⟨_ | m, n⟩, p, hp, ⟨raw, asked, led⟩, absent⟩
    · have at_ : (store.promises.push _)[n]? = some p := hp
      rw [Array.getElem?_push] at at_
      split at at_
      · cases at_
        simpa [absent] using isSome_get?_of_instead assembled.numbered led
      · -- the promises of the document itself are not transformed
        have before : ArtifactStore.promise? ⟨[store]⟩ ⟨0, n⟩ = some p := at_
        obtain ⟨d, -, v, vs, e, -, -, -, rfl⟩ := compiled.promise_eq_cell before
        obtain rfl : id = raw := led
        simpa [absent] using asked.isSome_get?
    · cases hp
  obtain ⟨-, -, comes⟩ := resolve_once assembled
  refine ⟨_, assembled, inside, ⟨_, List.mem_singleton_self _, ?_⟩, comes inside⟩
  simp [DocumentStore.cellCount, detour, DocumentStore.promise]

/-- **A run in place may break down** on an assembled store in which nothing is bound. -/
theorem not_forall_exists_resolve : ¬ ∀ s : ArtifactStore, s.Assembled →
    ∃ errors t, s.resolve = .ok (errors, t) ∧
      (errors ≠ [] → s.link = .failed errors ∧ t = s ∧ t.resolve = .ok (errors, t)) ∧
      (errors = [] → s.link = .linked t ∧ (∃ w : Assignments, w.Once s ∧ s.assign w = .ok t) ∧
        t.Bound ∧ t.unbind = s ∧
        ((∃ d ∈ t.documents, d.cellCount ≠ 0) →
          ∃ origin, t.resolve = .error (.assignedTwice origin))) := by
  intro claim
  obtain ⟨store, -, made, first, found⟩ := exists_document_greeting
  have assembled : Assembled ⟨[elope store]⟩ := assembled_promise made first ..
  have shelf : (elope store).toShelf = store.toShelf := DocumentStore.toShelf_noteQuery store _
  have asked : Answers ⟨[elope store]⟩ (.path ⟨"a", []⟩) ⟨0, 0⟩ := by
    refine assembled.wellFormed.find?_eq_some_iff.1 ?_
    rw [ArtifactStore.catalog, List.map_singleton, shelf, found]
  have astray : Astray ⟨[elope store]⟩ ⟨1, 0⟩ :=
    ⟨⟨0, store.promises.size⟩, _, Array.getElem?_push_size, ⟨⟨0, 0⟩, asked, rfl⟩, rfl⟩
  obtain ⟨errors, t, ends, -⟩ := claim _ assembled
  rw [resolve] at ends
  split at ends
  · cases ends
  · rename_i none
    exact assembled.wellFormed.astray_eq_none_iff.1 none _ astray

end ArtifactStore
end ApiGraph
